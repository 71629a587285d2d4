/-!
# Words

The words of a text in which white space separates them. The white space of markup consists of five
characters; it separates the classes of an element and may stand around the parts of a selector.
-/

namespace AccessForm.Text

/-- The white space of markup: tab, line feed, form feed, carriage return and space. -/
def isMarkupBlank (c : Char) : Bool :=
  c == '\t' || c == '\n' || c == '\x0c' || c == '\r' || c == ' '

/-- Puts a character in front of a text that is given by its leading word, empty when white space
stands there, and the later words. -/
def pushChar (c : Char) : List Char × List (List Char) → List Char × List (List Char)
  | (word, later) =>
    if isMarkupBlank c then ([], if word = [] then later else word :: later)
    else (c :: word, later)

/-- The words of a text, in order. -/
def words (s : String) : List String :=
  match s.toList.foldr pushChar ([], []) with
  | (word, later) => ((if word = [] then later else word :: later).map String.ofList)

end AccessForm.Text

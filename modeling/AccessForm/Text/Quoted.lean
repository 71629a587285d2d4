import AccessForm.Text.Visible

/-!
# Quoted texts

The one-line form in which a message shows a text taken from a page: between quotation marks, with
a backslash before quotation marks and backslashes, short escapes for tab, line feed, carriage
return and NUL, and the code point in braces for every other character that would not show.
-/

namespace AccessForm.Text

/-- The short escapes, each character with the letter that stands for it behind a backslash. -/
def shortEscapes : List (Char × Char) :=
  [('\x00', '0'), ('\t', 't'), ('\r', 'r'), ('\n', 'n'), ('"', '"'), ('\\', '\\')]

/-- What is written for one character of a quoted text. -/
def escape (c : Char) : List Char :=
  match shortEscapes.lookup c with
  | some letter => ['\\', letter]
  | none =>
    if isVisible c then [c]
    else ['\\', 'u', '\x7b'] ++ Nat.toDigits 16 c.toNat ++ ['\x7d']

/-- The text between quotation marks. -/
def quote (s : String) : String :=
  String.ofList ('"' :: s.toList.flatMap escape ++ ['"'])

/-- Quoted texts in brackets, separated by a comma and a space. -/
def quoteList (texts : List String) : String :=
  "[" ++ ", ".intercalate (texts.map quote) ++ "]"

end AccessForm.Text

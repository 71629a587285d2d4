/-!
# White space

The characters with the Unicode property `White_Space`, and texts freed of them at both ends.

Attributes written by hand carry stray spaces and line breaks; what a page means by such an
attribute is what is left after trimming. The set is wider than the four characters that separate
the tokens of a JSON text, and the two are never used for each other.
-/

namespace AccessForm.Text

/-- The characters with the Unicode property `White_Space`. -/
def isBlank (c : Char) : Bool :=
  let n := c.toNat
  (9 ≤ n && n ≤ 13) || n == 0x20 || n == 0x85 || n == 0xA0 || n == 0x1680 ||
    (0x2000 ≤ n && n ≤ 0x200A) || n == 0x2028 || n == 0x2029 || n == 0x202F || n == 0x205F ||
    n == 0x3000

/-- The characters that are left when white space is taken from both ends. -/
def trimChars (cs : List Char) : List Char :=
  ((cs.dropWhile isBlank).reverse.dropWhile isBlank).reverse

/-- The text without the white space at its two ends. -/
def trim (s : String) : String :=
  String.ofList (trimChars s.toList)

/-- A text is blank when it holds nothing but white space. -/
def isBlankText (s : String) : Bool :=
  s.toList.all isBlank

end AccessForm.Text

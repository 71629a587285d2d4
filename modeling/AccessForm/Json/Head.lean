import AccessForm.Decimal.Written
import AccessForm.Text.Quoted

/-!
# Heads of JSON values

What a reader knows of a value that it did not want: which kind it is, and for a scalar the value
itself. Lists and objects are recognised by their opening bracket and not read any further.
-/

namespace AccessForm.Json

/-- A number of a JSON text: a whole number of at most 64 bits, or the bits of a double. -/
inductive Number where
  | whole (n : Int)
  | real (bits : UInt64)
  deriving DecidableEq, Repr

/-- The beginning of a value, as far as a message shows it. -/
inductive Head where
  | null
  | bool (b : Bool)
  | number (n : Number)
  | text (s : String)
  | list
  | object
  deriving DecidableEq, Repr

/-- Numbers that are not whole keep a fraction; from `1e16` on and below `1e-5` they are written
with a power of ten. -/
def numberStyle : Decimal.Style where
  lowest := -5
  highest := 15
  wholeMark := ".0"
  raiseMark := "e+"
  lowerMark := "e-"

/-- How a message names the value. -/
def Head.describe : Head → String
  | .null => "null"
  | .bool b => "boolean `" ++ (if b then "true" else "false") ++ "`"
  | .number (.whole n) => "integer `" ++ toString n ++ "`"
  | .number (.real bits) => "floating point `" ++ Decimal.writeBits numberStyle bits ++ "`"
  | .text s => "string " ++ Text.quote s
  | .list => "sequence"
  | .object => "map"

/-- The kinds of value that a reader asks for. -/
inductive Shape where
  | permissions
  | arguments
  | settings
  | text
  | nothing
  deriving DecidableEq, Repr

/-- How a message names the wanted kind. -/
def Shape.describe : Shape → String
  | .permissions => "a map"
  | .arguments => "a sequence"
  | .settings => "struct FormConfig"
  | .text => "a string"
  | .nothing => "unit"

end AccessForm.Json

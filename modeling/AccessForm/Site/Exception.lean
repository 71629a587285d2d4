import AccessForm.Decimal.Written

/-!
# Exceptions

What a script may throw: an error with a message, or any other value. A report about it shows the
message, or a text as it is, and any other value in brackets.
-/

namespace AccessForm

/-- A value of a script. -/
inductive ScriptValue where
  | undefined
  | null
  | bool (b : Bool)
  /-- The bits of a finite double. -/
  | number (bits : UInt64)
  | text (s : String)
  | list (items : List ScriptValue)
  | record (members : List (String × ScriptValue))
  deriving Repr, Inhabited

namespace ScriptValue

/-- Numbers are written out in full from `1e-6` on and below `1e21`. -/
def numberStyle : Decimal.Style where
  lowest := -6
  highest := 20
  wholeMark := ""
  raiseMark := "e+"
  lowerMark := "e-"

/-- The digits of a character below the space in an escape. -/
def controlEscape (c : Char) : String :=
  String.ofList ('\\' :: 'u' :: '0' :: '0' ::
    [Nat.digitChar (c.toNat / 16), Nat.digitChar (c.toNat % 16)])

/-- A character inside the quotes of a JSON text. -/
def jsonEscape (c : Char) : String :=
  if c == '"' then "\\\""
  else if c == '\\' then "\\\\"
  else if c == '\n' then "\\n"
  else if c == '\r' then "\\r"
  else if c == '\t' then "\\t"
  else if c == '\x08' then "\\b"
  else if c == '\x0c' then "\\f"
  else if c.toNat < 0x20 then controlEscape c
  else String.singleton c

/-- A text as JSON. -/
def jsonText (s : String) : String := "\"" ++ String.join (s.toList.map jsonEscape) ++ "\""

mutual

/-- The value as JSON without white space. JSON has no undefined value and writes null for it. -/
def toJson : ScriptValue → String
  | undefined | null => "null"
  | bool b => if b then "true" else "false"
  | number bits => Decimal.writeBits numberStyle bits
  | text s => jsonText s
  | list items => "[" ++ ",".intercalate (toJsonAll items) ++ "]"
  | record members => "\x7b" ++ ",".intercalate (membersToJson members) ++ "\x7d"

/-- Several values as JSON. -/
def toJsonAll : List ScriptValue → List String
  | [] => []
  | v :: vs => toJson v :: toJsonAll vs

/-- The members of a record as JSON. -/
def membersToJson : List (String × ScriptValue) → List String
  | [] => []
  | (name, v) :: ms => (jsonText name ++ ":" ++ toJson v) :: membersToJson ms

end

mutual

/-- The value as a report shows it: lists with their items, records as JSON. -/
def display : ScriptValue → String
  | undefined => "undefined"
  | null => "null"
  | bool b => if b then "true" else "false"
  | number bits => Decimal.writeBits numberStyle bits
  | text s => "\"" ++ s ++ "\""
  | list items => "[" ++ ", ".intercalate (displayAll items) ++ "]"
  | record members => "Object(" ++ toJson (record members) ++ ")"

/-- Several values as a report shows them. -/
def displayAll : List ScriptValue → List String
  | [] => []
  | v :: vs => display v :: displayAll vs

end

end ScriptValue

/-- What a script throws. -/
inductive Exception where
  | error (message : String)
  | value (v : ScriptValue)
  deriving Repr

/-- What a report says about an exception. -/
def Exception.describe : Exception → String
  | error message => message
  | value (.text s) => s
  | value v => "JsValue(" ++ v.display ++ ")"

end AccessForm

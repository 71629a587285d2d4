import AccessForm.Json.Token

/-!
# Expected tokens

The faults of a token that stands where another one was expected, shared by all readers.
-/

namespace AccessForm.Json

/-- The fault of a token that begins no value of the wanted shape. A value of another shape is
recognised by its first token, and a broken one keeps its own fault. -/
def Token.refusal (wanted : Shape) : Token → Fault
  | null => .wrongType .null wanted
  | bool b => .wrongType (.bool b) wanted
  | number n => .wrongType (.number n) wanted
  | text s => .wrongType (.text s) wanted
  | openList => .wrongType .list wanted
  | openObject => .wrongType .object wanted
  | brokenText f => f
  | brokenScalar f => f
  | closeList | closeObject | comma | colon | stray _ => .expectedValue

/-- The fault of a token that stands where the name of a member was expected. -/
def Token.keyRefusal : Token → Fault
  | brokenText f => f
  | _ => .keyNotText

/-- The tokens behind the colon that has to follow the name of a member. -/
def afterColon : List Token → Except Fault (List Token)
  | [] => .error .endInObject
  | .colon :: rest => .ok rest
  | _ :: _ => .error .expectedColon

/-- A text ends with its value. -/
def atEnd : List Token → Except Fault Unit
  | [] => .ok ()
  | _ :: _ => .error .trailingCharacters

/-- A text, where one is wanted. -/
def readText : List Token → Except Fault (String × List Token)
  | [] => .error .endInValue
  | .text s :: rest => .ok (s, rest)
  | t :: _ => .error (t.refusal .text)

theorem length_of_afterColon {ts rest : List Token} (h : afterColon ts = .ok rest) :
    rest.length < ts.length := by
  unfold afterColon at h
  split at h
  · cases h
  · cases h
    simp
  · cases h

theorem length_of_readText {ts rest : List Token} {s : String} (h : readText ts = .ok (s, rest)) :
    rest.length < ts.length := by
  unfold readText at h
  split at h
  · cases h
  · cases h
    simp
  · cases h

end AccessForm.Json

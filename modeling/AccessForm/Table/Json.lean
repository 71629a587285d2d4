import AccessForm.Json.Expect
import AccessForm.Table

/-!
# Tables in JSON

A page writes its table as a JSON object: the permissions are the names of the members, their
arguments lists of texts. A permission may be named more than once, and the last list counts; names
and lists are looked at only after the whole text was read.
-/

namespace AccessForm.Table

open Json (Fault Token)

/-! ## Lists of arguments -/

/-- The further texts of a list, and what follows the list. -/
def readMoreTexts : List Token → Except Fault (List String × List Token)
  | [] => .error .endInList
  | .closeList :: rest => .ok ([], rest)
  | [.comma] => .error .endInValue
  | .comma :: .closeList :: _ => .error .trailingComma
  | .comma :: .text s :: rest => (readMoreTexts rest).map (Prod.map (s :: ·) id)
  | .comma :: t :: _ => .error (t.refusal .text)
  | _ :: _ => .error .expectedListEnd

/-- The texts of a list behind its opening bracket, and what follows the list. -/
def readTexts : List Token → Except Fault (List String × List Token)
  | [] => .error .endInList
  | .closeList :: rest => .ok ([], rest)
  | .text s :: rest => (readMoreTexts rest).map (Prod.map (s :: ·) id)
  | t :: _ => .error (t.refusal .text)

/-- A list of texts, where the arguments of a permission are wanted. -/
def readArguments : List Token → Except Fault (List String × List Token)
  | [] => .error .endInValue
  | .openList :: rest => readTexts rest
  | t :: _ => .error (t.refusal .arguments)

/-- The arguments of a member whose name was read. -/
def readMember (ts : List Token) : Except Fault (List String × List Token) :=
  (Json.afterColon ts).bind readArguments

theorem length_of_readMoreTexts {ts rest : List Token} {texts : List String}
    (h : readMoreTexts ts = .ok (texts, rest)) : rest.length < ts.length := by
  fun_induction readMoreTexts ts generalizing texts with
  | case2 => cases h; simp
  | case5 s rest' ih =>
    cases hr : readMoreTexts rest' with
    | error f => simp [hr, Except.map] at h
    | ok p =>
      obtain ⟨texts', rest'⟩ := p
      simp only [hr, Except.map, Except.ok.injEq, Prod.ext_iff, Prod.map, id_eq] at h
      have := ih (by rw [hr, ← h.2])
      simp only [List.length_cons]
      omega
  | _ => cases h

theorem length_of_readTexts {ts rest : List Token} {texts : List String}
    (h : readTexts ts = .ok (texts, rest)) : rest.length < ts.length := by
  unfold readTexts at h
  split at h
  · cases h
  · cases h
    simp
  · next rest' =>
    cases hr : readMoreTexts rest' with
    | error f => simp [hr, Except.map] at h
    | ok p =>
      obtain ⟨texts', rest'⟩ := p
      simp only [hr, Except.map, Except.ok.injEq, Prod.ext_iff, Prod.map, id_eq] at h
      have := length_of_readMoreTexts hr
      simp only [List.length_cons, ← h.2]
      omega
  · cases h

theorem length_of_readMember {ts rest : List Token} {texts : List String}
    (h : readMember ts = .ok (texts, rest)) : rest.length < ts.length := by
  unfold readMember at h
  cases hc : Json.afterColon ts with
  | error f => simp [hc, Except.bind] at h
  | ok ts' =>
    have hlt := Json.length_of_afterColon hc
    simp only [hc, Except.bind] at h
    unfold readArguments at h
    split at h
    · cases h
    · have := length_of_readTexts h
      simp only [List.length_cons] at hlt
      omega
    · cases h

/-! ## Objects of lists -/

/-- The further members of an object, and what follows the object. -/
def readMoreMembers : List Token → Except Fault (List (String × List String) × List Token)
  | [] => .error .endInObject
  | .closeObject :: rest => .ok ([], rest)
  | [.comma] => .error .endInValue
  | .comma :: .closeObject :: _ => .error .trailingComma
  | .comma :: .text name :: ts =>
    match _h : readMember ts with
    | .error f => .error f
    | .ok (texts, rest) => (readMoreMembers rest).map (Prod.map ((name, texts) :: ·) id)
  | .comma :: t :: _ => .error t.keyRefusal
  | _ :: _ => .error .expectedObjectEnd
termination_by ts => ts.length
decreasing_by
  have := length_of_readMember _h
  simp only [List.length_cons]
  omega

/-- The members of an object behind its opening brace, and what follows the object. -/
def readMembers : List Token → Except Fault (List (String × List String) × List Token)
  | [] => .error .endInObject
  | .closeObject :: rest => .ok ([], rest)
  | .text name :: ts =>
    match readMember ts with
    | .error f => .error f
    | .ok (texts, rest) => (readMoreMembers rest).map (Prod.map ((name, texts) :: ·) id)
  | t :: _ => .error t.keyRefusal

/-- The members of the object that makes up a whole text. -/
def readObject : List Token → Except Fault (List (String × List String))
  | [] => .error .endInValue
  | .openObject :: ts => (readMembers ts).bind fun (members, rest) ↦
      (Json.atEnd rest).map fun _ ↦ members
  | t :: _ => .error (t.refusal .permissions)

/-- The table that a JSON text holds. -/
def ofJson (text : String) : Except TableError Table :=
  match readObject (Token.scan text.toList) with
  | .error fault => .error (.malformed fault)
  | .ok members => ofArguments (Directory.ofList members)

end AccessForm.Table

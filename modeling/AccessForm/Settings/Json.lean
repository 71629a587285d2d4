import AccessForm.Json.Expect
import AccessForm.Settings

/-!
# Settings in JSON

A page writes the settings of a form either as a JSON object, whose members name the settings in
any order, or as a list of their values in a fixed order. In both forms what is not given keeps its
default. An object may not name a setting twice, nor anything that is no setting.
-/

namespace AccessForm.Settings

open Json (Fault Token)

/-! ## Single settings -/

/-- The settings that a text can give. -/
inductive Field where
  | method
  | argumentName
  | ignoredName
  | busyClass
  deriving DecidableEq, Repr

/-- The order of the values in a list. -/
def Field.all : List Field := [method, argumentName, ignoredName, busyClass]

/-- The name of a setting. -/
def Field.key : Field → String
  | method => "strategy"
  | argumentName => "argument_name"
  | ignoredName => "ignored_name"
  | busyClass => "busy_class"

/-- The setting of a name. -/
def Field.ofKey? (key : String) : Option Field := Field.all.find? (·.key = key)

/-- The method of a name that was read. -/
def knownMethod (name : String) : Except Fault Method :=
  match Method.ofName? name with
  | some m => .ok m
  | none => .error (.unknownVariant name)

/-- The rest of a method that is written as the only member of an object: a colon, `null` and the
closing brace. -/
def readTagEnd (ts : List Token) : Except Fault (List Token) :=
  (Json.afterColon ts).bind fun
    | [] => .error .endInValue
    | [.null] => .error .endInObject
    | .null :: .closeObject :: rest => .ok rest
    | .null :: _ => .error .expectedValue
    | t :: _ => .error (t.refusal .nothing)

/-- The method behind the brace of such an object. -/
def readTag : List Token → Except Fault (Method × List Token)
  | [] => .error .endInObject
  | .closeObject :: _ => .error .expectedValue
  | .text name :: ts => do
    let m ← knownMethod name
    let rest ← readTagEnd ts
    return (m, rest)
  | t :: _ => .error t.keyRefusal

/-- A method, as a text or as the only member of an object. -/
def readMethod : List Token → Except Fault (Method × List Token)
  | [] => .error .endInValue
  | .openObject :: ts => readTag ts
  | .text name :: ts => (knownMethod name).map (·, ts)
  | .brokenText f :: _ => .error f
  | _ :: _ => .error .expectedValue

/-- The settings with the value of one setting that comes next. -/
def readField (s : Settings) (ts : List Token) : Field → Except Fault (Settings × List Token)
  | .method => (readMethod ts).map (Prod.map (fun m ↦ { s with method := m }) id)
  | .argumentName => (Json.readText ts).map (Prod.map (fun v ↦ { s with argumentName := v }) id)
  | .ignoredName => (Json.readText ts).map (Prod.map (fun v ↦ { s with ignoredName := v }) id)
  | .busyClass => (Json.readText ts).map (Prod.map (fun v ↦ { s with busyClass := v }) id)

/-! ## What is left behind a setting -/

theorem length_of_readTagEnd {ts rest : List Token} (h : readTagEnd ts = .ok rest) :
    rest.length < ts.length := by
  unfold readTagEnd at h
  cases hc : Json.afterColon ts with
  | error f => simp [hc, Except.bind] at h
  | ok ts' =>
    have hlt := Json.length_of_afterColon hc
    simp only [hc, Except.bind] at h
    split at h
    · cases h
    · cases h
    · cases h
      simp only [List.length_cons] at hlt
      omega
    · cases h
    · cases h

theorem length_of_readMethod {ts rest : List Token} {m : Method}
    (h : readMethod ts = .ok (m, rest)) : rest.length < ts.length := by
  unfold readMethod at h
  split at h
  · cases h
  · unfold readTag at h
    split at h
    · cases h
    · cases h
    · next name ts' =>
      cases hm : knownMethod name with
      | error f => simp [hm, bind, Except.bind] at h
      | ok m' =>
        cases he : readTagEnd ts' with
        | error f => simp [hm, he, bind, Except.bind] at h
        | ok rest' =>
          simp only [hm, he, bind, Except.bind, pure, Except.pure, Except.ok.injEq,
            Prod.mk.injEq] at h
          have := length_of_readTagEnd he
          simp only [List.length_cons, ← h.2]
          omega
    · cases h
  · next name ts' =>
    cases hm : knownMethod name with
    | error f => simp [hm, Except.map] at h
    | ok m' =>
      simp only [hm, Except.map, Except.ok.injEq, Prod.mk.injEq] at h
      simp [← h.2]
  · cases h
  · cases h

private theorem length_of_map {α : Type} {ts rest : List Token} {s : Settings} {f : α → Settings}
    {r : Except Fault (α × List Token)} (hr : ∀ a rest, r = .ok (a, rest) → rest.length < ts.length)
    (h : r.map (Prod.map f id) = .ok (s, rest)) : rest.length < ts.length := by
  cases r with
  | error f => simp [Except.map] at h
  | ok p =>
    simp only [Except.map, Except.ok.injEq, Prod.ext_iff, Prod.map, id_eq] at h
    exact h.2 ▸ hr p.1 p.2 rfl

theorem length_of_readField {s s' : Settings} {ts rest : List Token} {field : Field}
    (h : readField s ts field = .ok (s', rest)) : rest.length < ts.length := by
  cases field with
  | method => exact length_of_map (fun _ _ ↦ length_of_readMethod) h
  | argumentName => exact length_of_map (fun _ _ ↦ Json.length_of_readText) h
  | ignoredName => exact length_of_map (fun _ _ ↦ Json.length_of_readText) h
  | busyClass => exact length_of_map (fun _ _ ↦ Json.length_of_readText) h

/-! ## Objects -/

/-- The setting that a member of an object names, when no earlier member named it. -/
def freshField (given : List Field) (key : String) : Except Fault Field :=
  match Field.ofKey? key with
  | none => .error (.unknownField key)
  | some field => if field ∈ given then .error (.repeatedField key) else .ok field

/-- One member whose name was read, after the given ones. -/
def readMember (s : Settings) (given : List Field) (key : String) (ts : List Token) :
    Except Fault (Settings × Field × List Token) :=
  (freshField given key).bind fun field ↦
    (Json.afterColon ts).bind fun ts' ↦
      (readField s ts' field).map fun (s', rest) ↦ (s', field, rest)

theorem length_of_readMember {s s' : Settings} {given : List Field} {key : String}
    {ts rest : List Token} {field : Field}
    (h : readMember s given key ts = .ok (s', field, rest)) : rest.length < ts.length := by
  unfold readMember at h
  cases hf : freshField given key with
  | error f => simp [hf, Except.bind] at h
  | ok field' =>
    cases hc : Json.afterColon ts with
    | error f => simp [hf, hc, Except.bind] at h
    | ok ts' =>
      cases hv : readField s ts' field' with
      | error f => simp [hf, hc, hv, Except.bind, Except.map] at h
      | ok p =>
        obtain ⟨s₁, rest₁⟩ := p
        simp only [hf, hc, hv, Except.bind, Except.map, Except.ok.injEq, Prod.mk.injEq] at h
        have h₁ := Json.length_of_afterColon hc
        have h₂ := length_of_readField hv
        rw [h.2.2] at h₂
        omega

/-- The settings with the further members of an object, and what follows the object. -/
def readMoreMembers (s : Settings) (given : List Field) :
    List Token → Except Fault (Settings × List Token)
  | [] => .error .endInObject
  | .closeObject :: rest => .ok (s, rest)
  | [.comma] => .error .endInValue
  | .comma :: .closeObject :: _ => .error .trailingComma
  | .comma :: .text key :: ts =>
    match _h : readMember s given key ts with
    | .error f => .error f
    | .ok (s', field, rest) => readMoreMembers s' (field :: given) rest
  | .comma :: t :: _ => .error t.keyRefusal
  | _ :: _ => .error .expectedObjectEnd
termination_by ts => ts.length
decreasing_by
  have := length_of_readMember _h
  simp only [List.length_cons]
  omega

/-- The settings that an object gives, and what follows the object. -/
def readMembers : List Token → Except Fault (Settings × List Token)
  | [] => .error .endInObject
  | .closeObject :: rest => .ok ({}, rest)
  | .text key :: ts =>
    match readMember {} [] key ts with
    | .error f => .error f
    | .ok (s, field, rest) => readMoreMembers s [field] rest
  | t :: _ => .error t.keyRefusal

/-! ## Lists -/

/-- The end of a list in which every setting was given. -/
def readListEnd : List Token → Except Fault (List Token)
  | [] => .error .endInList
  | .closeList :: rest => .ok rest
  | .comma :: .closeList :: _ => .error .trailingComma
  | _ :: _ => .error .trailingCharacters

/-- The settings with the further values of a list, and what follows the list. -/
def readMoreItems (s : Settings) : List Field → List Token → Except Fault (Settings × List Token)
  | [], ts => (readListEnd ts).map (s, ·)
  | _ :: _, [] => .error .endInList
  | _ :: _, .closeList :: rest => .ok (s, rest)
  | _ :: _, [.comma] => .error .endInValue
  | _ :: _, .comma :: .closeList :: _ => .error .trailingComma
  | field :: fields, .comma :: ts =>
    match readField s ts field with
    | .error f => .error f
    | .ok (s', rest) => readMoreItems s' fields rest
  | _ :: _, _ :: _ => .error .expectedListEnd

/-- The settings that a list gives, and what follows the list. -/
def readItems : List Token → Except Fault (Settings × List Token)
  | [] => .error .endInList
  | .closeList :: rest => .ok ({}, rest)
  | ts =>
    match readField {} ts .method with
    | .error f => .error f
    | .ok (s, rest) => readMoreItems s [.argumentName, .ignoredName, .busyClass] rest

/-! ## Whole texts -/

/-- The settings at the beginning of a text, and what follows them. -/
def readSettings : List Token → Except Fault (Settings × List Token)
  | [] => .error .endInValue
  | .openObject :: ts => readMembers ts
  | .openList :: ts => readItems ts
  | t :: _ => .error (t.refusal .settings)

/-- The settings that a JSON text holds. -/
def ofJson (text : String) : Except Fault Settings :=
  (readSettings (Token.scan text.toList)).bind fun (s, rest) ↦ (Json.atEnd rest).map fun _ ↦ s

/-- The settings of a form from the two attributes that may give them. The first one holds settings
in JSON and counts for nothing when it is blank, the second one names a method, which then takes
precedence. -/
def ofAttributes (config method : Option String) : Except SettingsError Settings := do
  let s ← match config with
    | some text => if Text.isBlankText text then .ok {} else (ofJson text).mapError .malformed
    | none => .ok {}
  match method with
  | some name => (Method.ofName (Text.trim name)).map fun m ↦ { s with method := m }
  | none => return s

end AccessForm.Settings

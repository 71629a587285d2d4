import AccessForm.Document.Selector

/-!
# Selectors in writing

The written form of selectors: alternatives separated by commas, each a tag, classes `.c` and
conditions on attributes `[a]`, `[a=v]` and `:not([a])`. White space may stand around an alternative
and around the parts inside brackets. Any other text is no selector at all.

Tags and names of attributes may be written in capital letters and mean the same in small ones;
classes and values mean what is written. A value is an identifier or a quoted text. What is written
into a selector unquoted is therefore found only when it is an identifier, and may otherwise end the
condition that it was meant for.
-/

namespace AccessForm.Selector

/-- What a reader found, and the text behind it. -/
abbrev Found (α : Type) := Option (α × List Char)

/-- The text without white space in front. -/
def skipBlanks (cs : List Char) : List Char := cs.dropWhile Text.isMarkupBlank

/-! ## Identifiers and values -/

/-- The characters that an identifier may start with. -/
def isNameStart (c : Char) : Bool := c.isAlpha || c == '_' || 0x80 ≤ c.toNat

/-- The characters of identifiers. -/
def isNamePart (c : Char) : Bool := isNameStart c || c.isDigit || c == '-'

/-- Whether characters of identifiers make up an identifier. A hyphen may stand in front of one, and
two hyphens in front of anything. -/
def isName : List Char → Bool
  | '-' :: '-' :: _ => true
  | '-' :: c :: _ => isNameStart c
  | c :: _ => isNameStart c
  | [] => false

/-- The longest identifier at the start. -/
def readName (cs : List Char) : Found (List Char) :=
  if isName (cs.takeWhile isNamePart) then some (cs.takeWhile isNamePart, cs.dropWhile isNamePart)
  else none

/-- A tag or the name of an attribute, which are the same in capital and in small letters. -/
def inSmallLetters (name : List Char) : String := String.ofList (name.map Char.toLower)

/-- The text up to a quotation mark. It may not hold a backslash or a line feed. -/
def readQuoted (mark : Char) (cs : List Char) : Found String :=
  match cs.dropWhile (· != mark) with
  | [] => none
  | _ :: rest =>
    let inside := cs.takeWhile (· != mark)
    if inside.any fun c ↦ c == '\\' || c == '\n' then none else some (String.ofList inside, rest)

/-- The value of an attribute. -/
def readValue : List Char → Found String
  | '"' :: cs => readQuoted '"' cs
  | '\'' :: cs => readQuoted '\'' cs
  | cs => (readName cs).map fun (name, rest) ↦ (String.ofList name, rest)

/-! ## Conditions -/

/-- A condition on an attribute behind its opening bracket. -/
def readBracket (cs : List Char) : Found Condition :=
  match readName (skipBlanks cs) with
  | none => none
  | some (name, rest) =>
    match skipBlanks rest with
    | ']' :: rest => some (.hasAttribute (inSmallLetters name), rest)
    | '=' :: rest =>
      match readValue (skipBlanks rest) with
      | none => none
      | some (v, rest) =>
        match skipBlanks rest with
        | ']' :: rest => some (.attributeIs (inSmallLetters name) v, rest)
        | _ => none
    | _ => none

/-- A condition on a class or an attribute. -/
def readCondition : List Char → Found Condition
  | '.' :: cs => (readName cs).map fun (token, rest) ↦ (.hasClass (String.ofList token), rest)
  | '[' :: cs => readBracket cs
  | ':' :: 'n' :: 'o' :: 't' :: '(' :: '[' :: cs =>
    match readBracket cs with
    | some (.hasAttribute name, ')' :: rest) => some (.lacksAttribute name, rest)
    | _ => none
  | _ => none

/-! ### What is left behind -/

theorem suffix_of_skipBlanks (cs : List Char) : skipBlanks cs <:+ cs := List.dropWhile_suffix _

theorem suffix_of_readName {cs rest name : List Char}
    (h : readName cs = some (name, rest)) : rest <:+ cs := by
  unfold readName at h
  split at h
  · cases h
    exact List.dropWhile_suffix _
  · cases h

theorem suffix_of_readQuoted {mark : Char} {cs rest : List Char} {s : String}
    (h : readQuoted mark cs = some (s, rest)) : rest <:+ cs := by
  unfold readQuoted at h
  split at h
  · cases h
  · next hd =>
    dsimp only at h
    split at h
    · cases h
    · cases h
      exact (List.suffix_cons _ _).trans (hd ▸ List.dropWhile_suffix _)

theorem suffix_of_readValue {cs rest : List Char} {s : String}
    (h : readValue cs = some (s, rest)) : rest <:+ cs := by
  unfold readValue at h
  split at h
  · exact (suffix_of_readQuoted h).trans (List.suffix_cons _ _)
  · exact (suffix_of_readQuoted h).trans (List.suffix_cons _ _)
  · obtain ⟨⟨name, rest'⟩, hn, heq⟩ := Option.map_eq_some_iff.mp h
    cases heq
    exact suffix_of_readName hn

theorem suffix_of_readBracket {cs rest : List Char} {c : Condition}
    (h : readBracket cs = some (c, rest)) : rest <:+ cs := by
  unfold readBracket at h
  split at h
  · cases h
  · next hn =>
    have hname := (suffix_of_readName hn).trans (suffix_of_skipBlanks cs)
    split at h
    · next hs =>
      cases h
      exact (List.suffix_cons _ _).trans ((hs ▸ suffix_of_skipBlanks _).trans hname)
    · next hs =>
      have heq := (List.suffix_cons _ _).trans ((hs ▸ suffix_of_skipBlanks _).trans hname)
      split at h
      · cases h
      · next hv =>
        have hvalue := ((suffix_of_readValue hv).trans (suffix_of_skipBlanks _)).trans heq
        split at h
        · next hs =>
          cases h
          exact (List.suffix_cons _ _).trans ((hs ▸ suffix_of_skipBlanks _).trans hvalue)
        · cases h
    · cases h

theorem length_of_readCondition {cs rest : List Char} {c : Condition}
    (h : readCondition cs = some (c, rest)) : rest.length < cs.length := by
  unfold readCondition at h
  split at h
  · obtain ⟨⟨name, rest'⟩, hn, heq⟩ := Option.map_eq_some_iff.mp h
    cases heq
    exact Nat.lt_succ_of_le (suffix_of_readName hn).length_le
  · exact Nat.lt_succ_of_le (suffix_of_readBracket h).length_le
  · split at h
    · next hb =>
      cases h
      have := (suffix_of_readBracket hb).length_le
      simp only [List.length_cons] at this ⊢
      omega
    · cases h
  · cases h

/-! ## Alternatives -/

/-- Whether a condition on a class or an attribute starts with the character. -/
def startsCondition (c : Char) : Bool := c == '.' || c == '[' || c == ':'

/-- The conditions at the start of a text, one right behind the other. -/
def readConditions (cs : List Char) : Found (List Condition) :=
  if cs.head?.any startsCondition then
    match _h : readCondition cs with
    | none => none
    | some (c, rest) => (readConditions rest).map fun (cs, rest) ↦ (c :: cs, rest)
  else some ([], cs)
termination_by cs.length
decreasing_by exact length_of_readCondition _h

/-- One alternative: a tag, conditions, or a tag with conditions. -/
def readAlternative (cs : List Char) : Found (List Condition) :=
  match readName cs with
  | some (tag, rest) =>
    (readConditions rest).map fun (cs, rest) ↦ (.hasTag (inSmallLetters tag) :: cs, rest)
  | none =>
    match readConditions cs with
    | some (c :: cs, rest) => some (c :: cs, rest)
    | _ => none

theorem suffix_of_readConditions {cs rest : List Char} {found : List Condition}
    (h : readConditions cs = some (found, rest)) : rest.length ≤ cs.length := by
  fun_induction readConditions cs generalizing found with
  | case1 => cases h
  | case2 cs _ c rest' hc ih =>
    obtain ⟨⟨found', rest''⟩, hr, heq⟩ := Option.map_eq_some_iff.mp h
    cases heq
    exact Nat.le_of_lt (Nat.lt_of_le_of_lt (ih hr) (length_of_readCondition hc))
  | case3 => cases h; exact Nat.le_refl _

theorem length_of_readAlternative {cs rest : List Char} {found : List Condition}
    (h : readAlternative cs = some (found, rest)) : rest.length ≤ cs.length := by
  unfold readAlternative at h
  split at h
  · next hn =>
    obtain ⟨⟨found', rest'⟩, hr, heq⟩ := Option.map_eq_some_iff.mp h
    cases heq
    exact Nat.le_trans (suffix_of_readConditions hr) (suffix_of_readName hn).length_le
  · split at h
    · next hr =>
      cases h
      exact suffix_of_readConditions hr
    · cases h

/-- Alternatives up to the end of the text. -/
def readAlternatives (cs : List Char) : Option Selector :=
  match _h : readAlternative (skipBlanks cs) with
  | none => none
  | some (conditions, rest) =>
    match _hr : skipBlanks rest with
    | [] => some [conditions]
    | ',' :: more => (readAlternatives more).map (conditions :: ·)
    | _ :: _ => none
termination_by cs.length
decreasing_by
  have h₁ := length_of_readAlternative _h
  have h₂ := (suffix_of_skipBlanks cs).length_le
  have h₃ := (suffix_of_skipBlanks rest).length_le
  rw [_hr, List.length_cons] at h₃
  omega

/-- The selector that a text writes. -/
def ofText? (s : String) : Option Selector := readAlternatives s.toList

end AccessForm.Selector

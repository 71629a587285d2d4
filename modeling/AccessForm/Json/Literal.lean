import AccessForm.Json.Fault

/-!
# Text literals

Reading a quoted text of a JSON text, behind its opening quotation mark. Every character stands for
itself, except the quotation mark that ends the literal, the control characters, which are refused,
and the backslash, which begins an escape. An escape is a letter from a fixed list or `u` with the
four hexadecimal digits of a UTF-16 unit; the two units of a surrogate pair are two escapes in a
row and stand for one character.
-/

namespace AccessForm.Json

/-- The escapes of one letter, each with the character it stands for. -/
def letterEscapes : List (Char × Char) :=
  [('"', '"'), ('\\', '\\'), ('/', '/'), ('b', '\x08'), ('f', '\x0c'), ('n', '\n'), ('r', '\r'),
   ('t', '\t')]

/-! ## Units -/

/-- The value of a hexadecimal digit. -/
def hexValue? (c : Char) : Option Nat :=
  if '0' ≤ c ∧ c ≤ '9' then some (c.toNat - '0'.toNat)
  else if 'a' ≤ c ∧ c ≤ 'f' then some (c.toNat - 'a'.toNat + 10)
  else if 'A' ≤ c ∧ c ≤ 'F' then some (c.toNat - 'A'.toNat + 10)
  else none

/-- The unit that four hexadecimal digits stand for. -/
def unitValue? (a b c d : Char) : Option Nat := do
  return ((← hexValue? a) * 16 + (← hexValue? b)) * 256 + (← hexValue? c) * 16 + (← hexValue? d)

/-- The number of octets of a text in UTF-8. -/
def octets (cs : List Char) : Nat := cs.foldr (fun c n ↦ c.utf8Size + n) 0

/-- The unit at the beginning of a text. Four octets have to follow at all; if they do, they have to
be hexadecimal digits. -/
def readUnit : List Char → Except Fault (Nat × List Char)
  | a :: b :: c :: d :: rest =>
    match unitValue? a b c d with
    | some n => .ok (n, rest)
    | none => .error .invalidEscape
  | cs => if octets cs < 4 then .error .endInText else .error .invalidEscape

/-- Whether a unit is the first one of a surrogate pair. -/
def isLeading (n : Nat) : Bool := 0xD800 ≤ n && n < 0xDC00

/-- Whether a unit is the second one of a surrogate pair. -/
def isTrailing (n : Nat) : Bool := 0xDC00 ≤ n && n < 0xE000

/-- The character of a surrogate pair. -/
def pairedChar (lead trail : Nat) : Char :=
  Char.ofNat ((lead - 0xD800) * 0x400 + (trail - 0xDC00) + 0x10000)

/-! ## Escapes -/

/-- The second half of a surrogate pair, an escape of its own. -/
def readTrailing (lead : Nat) : List Char → Except Fault (Char × List Char)
  | [] => .error .endInText
  | ['\\'] => .error .endInText
  | '\\' :: 'u' :: cs =>
    match readUnit cs with
    | .error f => .error f
    | .ok (trail, rest) =>
      if isTrailing trail then .ok (pairedChar lead trail, rest) else .error .loneSurrogate
  | _ => .error .unfinishedPair

/-- The character of an escape, behind its backslash. -/
def readEscape : List Char → Except Fault (Char × List Char)
  | [] => .error .endInText
  | 'u' :: cs =>
    match readUnit cs with
    | .error f => .error f
    | .ok (n, rest) =>
      if isTrailing n then .error .loneSurrogate
      else if isLeading n then readTrailing n rest
      else .ok (Char.ofNat n, rest)
  | c :: cs =>
    match letterEscapes.lookup c with
    | some d => .ok (d, cs)
    | none => .error .invalidEscape

theorem length_of_readUnit {cs rest : List Char} {n : Nat} (h : readUnit cs = .ok (n, rest)) :
    rest.length < cs.length := by
  unfold readUnit at h
  split at h
  · split at h
    · cases h
      simp only [List.length_cons]
      omega
    · cases h
  · split at h <;> cases h

theorem length_of_readTrailing {lead : Nat} {cs rest : List Char} {c : Char}
    (h : readTrailing lead cs = .ok (c, rest)) : rest.length < cs.length := by
  unfold readTrailing at h
  split at h
  · cases h
  · cases h
  · split at h
    · cases h
    · next hu =>
      split at h
      · simp only [Except.ok.injEq, Prod.mk.injEq] at h
        have := length_of_readUnit hu
        simp only [List.length_cons, ← h.2]
        omega
      · cases h
  · cases h

theorem length_of_readEscape {cs rest : List Char} {c : Char}
    (h : readEscape cs = .ok (c, rest)) : rest.length < cs.length := by
  unfold readEscape at h
  split at h
  · cases h
  · split at h
    · cases h
    · next hu =>
      have hlt := length_of_readUnit hu
      split at h
      · cases h
      · split at h
        · have := length_of_readTrailing h
          simp only [List.length_cons]
          omega
        · cases h
          simp only [List.length_cons]
          omega
  · split at h
    · cases h
      simp
    · cases h

/-! ## Literals -/

/-- The characters of a literal up to its closing quotation mark, and what follows it. -/
def readLiteral : List Char → Except Fault (List Char × List Char)
  | [] => .error .endInText
  | '"' :: rest => .ok ([], rest)
  | '\\' :: cs =>
    match _h : readEscape cs with
    | .error f => .error f
    | .ok (c, rest) => (readLiteral rest).map (Prod.map (c :: ·) id)
  | c :: cs =>
    if c.toNat < 0x20 then .error .controlCharacter
    else (readLiteral cs).map (Prod.map (c :: ·) id)
termination_by cs => cs.length
decreasing_by
  · have := length_of_readEscape _h
    simp only [List.length_cons]
    omega
  · simp

theorem length_of_readLiteral {cs text rest : List Char} (h : readLiteral cs = .ok (text, rest)) :
    rest.length < cs.length := by
  fun_induction readLiteral cs generalizing text rest with
  | case1 => cases h
  | case2 => cases h; simp
  | case3 cs f hf => cases h
  | case4 cs c rest' he ih =>
    cases hl : readLiteral rest' with
    | error f => simp [hl, Except.map] at h
    | ok p =>
      obtain ⟨text', rest'⟩ := p
      simp only [hl, Except.map, Except.ok.injEq, Prod.ext_iff, Prod.map, id_eq] at h
      have h₁ := ih hl
      have h₂ := length_of_readEscape he
      rw [h.2] at h₁
      simp only [List.length_cons]
      omega
  | case5 => cases h
  | case6 c cs _ _ _ ih =>
    cases hl : readLiteral cs with
    | error f => simp [hl, Except.map] at h
    | ok p =>
      obtain ⟨text', rest'⟩ := p
      simp only [hl, Except.map, Except.ok.injEq, Prod.ext_iff, Prod.map, id_eq] at h
      have h₁ := ih hl
      rw [h.2] at h₁
      simp only [List.length_cons]
      omega

end AccessForm.Json

import AccessForm.Json.Fault

/-!
# Numerals

The numeral at the beginning of a text, and the number it stands for. Whole numbers stay whole as
long as they fit into 64 bits. All others become doubles: the leading digits are gathered into a
significand below `2 ^ 64`, further digits only count, and the significand is then multiplied or
divided by a power of ten in floating point arithmetic.
-/

namespace AccessForm.Json

/-- A written number, part by part. -/
structure Numeral where
  /-- Whether there is a minus sign. -/
  negative : Bool
  /-- The digits in front of the point. -/
  whole : List Char
  /-- The digits behind the point, none without a point. -/
  fraction : List Char
  /-- The number behind the exponent mark, if there is a mark. -/
  exponent : Option Int
  deriving DecidableEq, Repr

/-! ## The value -/

/-- The value of a digit. -/
def digitValue (c : Char) : Nat := c.toNat - '0'.toNat

/-- Appends digits to a significand as long as it stays below `2 ^ 64`; the digits from the first
one that does not fit are left over. -/
def gather (significand : Nat) : List Char → Nat × List Char
  | [] => (significand, [])
  | d :: ds =>
    if significand * 10 + digitValue d < UInt64.size then
      gather (significand * 10 + digitValue d) ds
    else (significand, d :: ds)

/-- The power of ten as a double. -/
private def powerOfTen (k : Nat) : Float := Float.ofScientific 1 false k

/-- A number divided by a power of ten, in steps when the power itself is no double. -/
def scaleDown (x : Float) (k : Nat) : Float :=
  if k ≤ 308 then x / powerOfTen k
  else if x == 0 then x
  else scaleDown (x / powerOfTen 308) (k - 308)
termination_by k

/-- A number multiplied by a power of ten, when the product is finite. -/
def scaleUp? (x : Float) (k : Nat) : Option Float :=
  if k ≤ 308 then
    let y := x * powerOfTen k
    if y.isInf then none else some y
  else if x == 0 then some x
  else none

/-- The double for a sign, a significand and a power of ten. -/
def realOf (negative : Bool) (significand : Nat) (exponent : Int) : Except Fault Number :=
  let x := (UInt64.ofNat significand).toFloat
  match if 0 ≤ exponent then scaleUp? x exponent.toNat
    else some (scaleDown x (-exponent).toNat) with
  | some y => .ok (.real (if negative then -y else y).toBits)
  | none => .error .numberOutOfRange

/-- The number without fraction and exponent. A negative zero and a magnitude beyond `2 ^ 63` below
zero are doubles. -/
def wholeOf (negative : Bool) (significand : Nat) : Number :=
  if !negative then .whole significand
  else if significand = 0 ∨ UInt64.size < 2 * significand then
    .real (-(UInt64.ofNat significand).toFloat).toBits
  else .whole (-Int.ofNat significand)

/-- The number that a numeral stands for, unless it is too large for a double. -/
def Numeral.value (n : Numeral) : Except Fault Number :=
  let (significand, surplus) := gather 0 n.whole
  if n.fraction = [] ∧ n.exponent = none ∧ surplus = [] then .ok (wholeOf n.negative significand)
  else
    let (significand, ignored) := gather significand n.fraction
    let places := Int.ofNat surplus.length - Int.ofNat (n.fraction.length - ignored.length)
    realOf n.negative significand (places + n.exponent.getD 0)

/-! ## Reading -/

/-- The digits that have to begin a text. Without one the text ends too early or the number is
invalid. -/
def readDigits (cs : List Char) : Except Fault (List Char × List Char) :=
  match cs with
  | [] => .error .endInValue
  | c :: _ =>
    if c.isDigit then .ok (cs.takeWhile Char.isDigit, cs.dropWhile Char.isDigit)
    else .error .invalidNumber

/-- The digits in front of the point: at least one, and no other behind a leading zero. -/
def readWhole (cs : List Char) : Except Fault (List Char × List Char) :=
  match cs with
  | '0' :: c :: _ => if c.isDigit then .error .invalidNumber else readDigits cs
  | _ => readDigits cs

/-- The digits behind the point, if there is a point. -/
def readFraction : List Char → Except Fault (List Char × List Char)
  | '.' :: cs => readDigits cs
  | cs => .ok ([], cs)

/-- The value of a row of digits. -/
def digitsValue (ds : List Char) : Nat := ds.foldl (fun n d ↦ n * 10 + digitValue d) 0

/-- The exponent behind its mark, with or without a sign. -/
def readSigned : List Char → Except Fault (Int × List Char)
  | '-' :: cs => (readDigits cs).map (Prod.map (fun ds ↦ -Int.ofNat (digitsValue ds)) id)
  | '+' :: cs => (readDigits cs).map (Prod.map (fun ds ↦ Int.ofNat (digitsValue ds)) id)
  | cs => (readDigits cs).map (Prod.map (fun ds ↦ Int.ofNat (digitsValue ds)) id)

/-- The exponent, if there is a mark for it. -/
def readExponent : List Char → Except Fault (Option Int × List Char)
  | 'e' :: cs => (readSigned cs).map (Prod.map some id)
  | 'E' :: cs => (readSigned cs).map (Prod.map some id)
  | cs => .ok (none, cs)

/-- The numeral at the beginning of a text without its sign, and what follows it. -/
def readUnsigned (negative : Bool) (cs : List Char) : Except Fault (Numeral × List Char) := do
  let (whole, cs) ← readWhole cs
  let (fraction, cs) ← readFraction cs
  let (exponent, cs) ← readExponent cs
  return (⟨negative, whole, fraction, exponent⟩, cs)

/-- The numeral at the beginning of a text, and what follows it. -/
def readNumeral : List Char → Except Fault (Numeral × List Char)
  | '-' :: cs => readUnsigned true cs
  | cs => readUnsigned false cs

/-! ## What a numeral leaves -/

theorem length_of_readDigits {cs ds rest : List Char} (h : readDigits cs = .ok (ds, rest)) :
    rest.length < cs.length := by
  unfold readDigits at h
  split at h
  · cases h
  · next c cs =>
    split at h
    · next hc =>
      cases h
      have := (List.dropWhile_sublist Char.isDigit (l := cs)).length_le
      simp only [List.dropWhile_cons, hc, if_true, List.length_cons]
      omega
    · cases h

theorem length_of_readWhole {cs ds rest : List Char} (h : readWhole cs = .ok (ds, rest)) :
    rest.length < cs.length := by
  unfold readWhole at h
  split at h
  · split at h
    · cases h
    · exact length_of_readDigits h
  · exact length_of_readDigits h

theorem length_of_readFraction {cs ds rest : List Char} (h : readFraction cs = .ok (ds, rest)) :
    rest.length ≤ cs.length := by
  unfold readFraction at h
  split at h
  · have := length_of_readDigits h
    simp only [List.length_cons]
    omega
  · cases h
    exact Nat.le_refl _

private theorem length_of_map {α β : Type} {cs rest : List Char} {b : β} {f : α → β}
    {r : Except Fault (α × List Char)} (hr : ∀ a rest, r = .ok (a, rest) → rest.length < cs.length)
    (h : r.map (Prod.map f id) = .ok (b, rest)) : rest.length < cs.length := by
  cases r with
  | error f => simp [Except.map] at h
  | ok p =>
    simp only [Except.map, Except.ok.injEq, Prod.ext_iff, Prod.map, id_eq] at h
    exact h.2 ▸ hr p.1 p.2 rfl

theorem length_of_readSigned {cs rest : List Char} {e : Int} (h : readSigned cs = .ok (e, rest)) :
    rest.length < cs.length := by
  unfold readSigned at h
  split at h
  · exact Nat.lt_succ_of_lt (length_of_map (fun _ _ ↦ length_of_readDigits) h)
  · exact Nat.lt_succ_of_lt (length_of_map (fun _ _ ↦ length_of_readDigits) h)
  · exact length_of_map (fun _ _ ↦ length_of_readDigits) h

theorem length_of_readExponent {cs rest : List Char} {e : Option Int}
    (h : readExponent cs = .ok (e, rest)) : rest.length ≤ cs.length := by
  unfold readExponent at h
  split at h
  · exact Nat.le_of_lt (Nat.lt_succ_of_lt (length_of_map (fun _ _ ↦ length_of_readSigned) h))
  · exact Nat.le_of_lt (Nat.lt_succ_of_lt (length_of_map (fun _ _ ↦ length_of_readSigned) h))
  · cases h
    exact Nat.le_refl _

theorem length_of_readUnsigned {negative : Bool} {cs rest : List Char} {n : Numeral}
    (h : readUnsigned negative cs = .ok (n, rest)) : rest.length < cs.length := by
  unfold readUnsigned at h
  cases hw : readWhole cs with
  | error f => simp [hw, bind, Except.bind] at h
  | ok w =>
    obtain ⟨w, cs₁⟩ := w
    cases hf : readFraction cs₁ with
    | error f => simp [hw, hf, bind, Except.bind] at h
    | ok f =>
      obtain ⟨f, cs₂⟩ := f
      cases he : readExponent cs₂ with
      | error f => simp [hw, hf, he, bind, Except.bind] at h
      | ok e =>
        obtain ⟨e, cs₃⟩ := e
        simp only [hw, hf, he, bind, Except.bind, pure, Except.pure, Except.ok.injEq,
          Prod.mk.injEq] at h
        have h₁ := length_of_readWhole hw
        have h₂ := length_of_readFraction hf
        have h₃ := length_of_readExponent he
        rw [h.2] at h₃
        omega

theorem length_of_readNumeral {cs rest : List Char} {n : Numeral}
    (h : readNumeral cs = .ok (n, rest)) : rest.length < cs.length := by
  unfold readNumeral at h
  split at h
  · exact Nat.lt_succ_of_lt (length_of_readUnsigned h)
  · exact length_of_readUnsigned h

end AccessForm.Json

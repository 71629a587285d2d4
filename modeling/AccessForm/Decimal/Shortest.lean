/-!
# Shortest decimals

The decimal with the fewest digits that still reads back as a given binary floating point number,
and among those the nearest one.

A finite double is a whole significand times a power of two. The reals that round to it form an
interval around it, which reaches half way to each neighbour; the two ends belong to it when the
significand is even. Below a power of two the neighbours lie twice as close, so there the interval
is shorter on its lower side. A grid of decimals is coarse enough when one of its points falls into
the interval, and if any point does, one of the two next to the value itself does too. Everything
is compared in whole numbers, after both sides were scaled by powers of two and ten.
-/

namespace AccessForm.Decimal

/-- A positive number `significand * 2 ^ exponent`. -/
structure Binary where
  /-- The whole number that is scaled. -/
  significand : Nat
  /-- The power of two that scales it. -/
  exponent : Int
  /-- Whether the next smaller number is half as far away as the next larger one. -/
  closeBelow : Bool
  deriving DecidableEq, Repr

/-- A number `digits * 10 ^ exponent`. -/
structure Scaled where
  /-- The whole number that is scaled. -/
  digits : Nat
  /-- The power of ten that scales it. -/
  exponent : Int
  deriving DecidableEq, Repr

/-! ## Binary numbers from their bits -/

/-- The leading bit of most significands, which is not among the bits of the double. -/
def hiddenBit : Nat := 1 <<< 52

/-- The magnitude that the bits of a finite double stand for. -/
def Binary.ofBits (bits : UInt64) : Binary :=
  let fraction : Nat := bits.toNat % hiddenBit
  let biased : Nat := bits.toNat / hiddenBit % 2048
  -- The smallest magnitudes have no hidden bit and share the exponent of the next larger ones.
  if biased = 0 then ⟨fraction, -1074, false⟩
  else ⟨fraction + hiddenBit, Int.ofNat biased - 1075, fraction == 0 && biased != 1⟩

/-! ## Comparison -/

/-- Both sides of a comparison of `d * 10 ^ p` with `m * 2 ^ q`, as whole numbers. -/
def commonScale (d : Nat) (p : Int) (m : Nat) (q : Int) : Nat × Nat :=
  (d * Nat.pow 10 p.toNat * Nat.pow 2 (-q).toNat, m * Nat.pow 2 q.toNat * Nat.pow 10 (-p).toNat)

namespace Binary

/-- Whether a decimal rounds to the number: it lies in the interval that reaches half way to both
neighbours. -/
def attracts (b : Binary) (d : Nat) (p : Int) : Bool :=
  let belowStep := if b.closeBelow then 1 else 2
  let (x, low) := commonScale d p (4 * b.significand - belowStep) (b.exponent - 2)
  let (x', high) := commonScale d p (4 * b.significand + 2) (b.exponent - 2)
  if b.significand % 2 = 0 then low ≤ x && x' ≤ high else low < x && x' < high

/-- The exponent of the leading decimal digit. -/
def leadingExponent (b : Binary) : Int :=
  let n := b.significand * Nat.pow 2 b.exponent.toNat
  let d := Nat.pow 2 (-b.exponent).toNat
  if d ≤ n then ((Nat.toDigits 10 (n / d)).length : Int) - 1
  else
    match (List.range 400).find? fun j ↦ decide (d ≤ n * Nat.pow 10 j) with
    | some j => -(j : Int)
    | none => 0

/-- The better of the two points of the grid `10 ^ p` next to the number that round to it. -/
def onGrid (b : Binary) (p : Int) : Option Scaled :=
  let (unit, value) := commonScale 1 p b.significand b.exponent
  let below := value / unit
  let nearer := if 2 * (value % unit) < unit then below
    else if unit < 2 * (value % unit) then below + 1
    else below + below % 2
  let farther := if nearer = below then below + 1 else below
  if b.attracts nearer p then some ⟨nearer, p⟩
  else if b.attracts farther p then some ⟨farther, p⟩
  else none

end Binary

/-! ## The fewest digits -/

/-- The same number without trailing zeros among its digits. -/
def Scaled.stripped (s : Scaled) : Scaled :=
  if s.digits ≠ 0 ∧ s.digits % 10 = 0 then stripped ⟨s.digits / 10, s.exponent + 1⟩ else s
termination_by s.digits
decreasing_by omega

/-- The decimal with the fewest digits, at most seventeen, that reads back as the number. -/
def shortest (b : Binary) : Scaled :=
  let lead := b.leadingExponent
  match (List.range 17).findSome? fun n : Nat ↦ b.onGrid (lead - Int.ofNat n) with
  | some s => s.stripped
  | none => ⟨0, 0⟩

end AccessForm.Decimal

import AccessForm.Decimal.Shortest

/-!
# Written decimals

How a floating point number is laid out as text once its shortest digits are known: which
magnitudes are written out in full, and how a power of ten is marked otherwise.
-/

namespace AccessForm.Decimal

/-- The decisions of a number format. -/
structure Style where
  /-- The lowest exponent of a leading digit that is still written out in full. -/
  lowest : Int
  /-- The highest exponent of a leading digit that is still written out in full. -/
  highest : Int
  /-- What is written behind a whole number that is written out in full. -/
  wholeMark : String
  /-- What stands between the digits and the power of ten when it is not negative. -/
  raiseMark : String
  /-- What stands between the digits and the size of a negative power of ten. -/
  lowerMark : String
  deriving DecidableEq, Repr

/-- Digits written out in full around the decimal point. -/
private def inFull (style : Style) (digits : List Char) (exponent : Int) : String :=
  if 0 ≤ exponent then
    String.ofList (digits ++ List.replicate exponent.toNat '0') ++ style.wholeMark
  else
    let places := (-exponent).toNat
    let padded := List.replicate (places + 1 - digits.length) '0' ++ digits
    let whole := padded.length - places
    String.ofList (padded.take whole ++ '.' :: padded.drop whole)

/-- One digit, the others behind the point, and the power of ten. -/
private def withPower (style : Style) (digits : List Char) (lead : Int) : String :=
  let mantissa := match digits with
    | d :: e :: rest => d :: '.' :: e :: rest
    | ds => ds
  String.ofList mantissa ++
    (if 0 ≤ lead then style.raiseMark ++ toString lead.toNat
      else style.lowerMark ++ toString (-lead).toNat)

/-- The text of a positive decimal. -/
def Scaled.write (style : Style) (s : Scaled) : String :=
  let digits := Nat.toDigits 10 s.digits
  let lead := s.exponent + digits.length - 1
  if style.lowest ≤ lead ∧ lead ≤ style.highest then inFull style digits s.exponent
  else withPower style digits lead

/-- The text of the finite double with these bits, a zero with its sign. -/
def writeBits (style : Style) (bits : UInt64) : String :=
  let sign := if bits.toNat.testBit 63 then "-" else ""
  let magnitude := Binary.ofBits bits
  sign ++ (if magnitude.significand = 0 then "0" ++ style.wholeMark
    else (shortest magnitude).write style)

end AccessForm.Decimal

/-!
# Numbers in binary with 64 bits

A finite number is a sign, a significand below `2^53` and a power of two. Decimal numbers are rounded
to the nearest such number in exact arithmetic, and of two that are equally near to the one with an
even significand.
-/

namespace WorkspaceDesk.Decimal

/-- A number of the binary format with 64 bits. -/
inductive Binary64 where
  /-- The number `significand * 2 ^ exponent`, negated where `negative` says so. -/
  | finite (negative : Bool) (significand : Nat) (exponent : Int)
  | infinite (negative : Bool)
  | nan
deriving DecidableEq, Repr, Inhabited

namespace Binary64

/-- The least power of two of a significand. -/
def minExponent : Int := -1074

/-- The greatest power of two of a significand. -/
def maxExponent : Int := 971

/-- The quotient rounded to the nearest whole number, halves to the even one. -/
def roundQuotient (num den : Nat) : Nat :=
  let q := num / den
  let twice := 2 * (num % den)
  if twice < den then q
  else if den < twice then q + 1
  else if q % 2 = 0 then q else q + 1

/-- Multiplies the fraction `num / den` by two to a power. -/
def scaleByTwo (num den : Nat) (power : Int) : Nat × Nat :=
  if 0 ≤ power then (num * Nat.pow 2 power.toNat, den) else (num, den * Nat.pow 2 (-power).toNat)

/-- The exponent at which the significand of `num / den` has 53 bits, or the least one. -/
def exponentFor (num den : Nat) : Int :=
  let guess : Int := (Nat.log2 num : Int) - Nat.log2 den - 52
  let (a, b) := scaleByTwo num den (-guess)
  max minExponent (if a < b * Nat.pow 2 52 then guess - 1 else guess)

/-- The number of a rounded significand. One that has become too long by rounding is halved; beyond the
greatest exponent the number is infinite. -/
def ofRounded (negative : Bool) (m : Nat) (e : Int) : Binary64 :=
  if m = Nat.pow 2 53 then
    if maxExponent < e + 1 then .infinite negative else .finite negative (Nat.pow 2 52) (e + 1)
  else if maxExponent < e then .infinite negative
  else .finite negative m e

/-- The number nearest to `num / den`. -/
def ofFraction (negative : Bool) (num den : Nat) : Binary64 :=
  if num = 0 then .finite negative 0 minExponent
  else
    let e := exponentFor num den
    let scaled := scaleByTwo num den (-e)
    ofRounded negative (roundQuotient scaled.1 scaled.2) e

/-- The number nearest to `digits * 10 ^ power`. Where the power alone decides that the number is too
large or too small, it is not computed. -/
def ofDecimal (negative : Bool) (digits : Nat) (power : Int) : Binary64 :=
  let size : Int := (Nat.toDigits 10 digits).length
  if digits = 0 then .finite negative 0 minExponent
  else if 400 < size + power then .infinite negative
  else if size + power < -400 then .finite negative 0 minExponent
  else if 0 ≤ power then ofFraction negative (digits * Nat.pow 10 power.toNat) 1
  else ofFraction negative digits (Nat.pow 10 (-power).toNat)

/-- The number is a zero of either sign. -/
def isZero : Binary64 → Bool
  | .finite _ m _ => m = 0
  | _ => false

/-- The whole part of a finite magnitude. -/
def wholePart (significand : Nat) (exponent : Int) : Nat :=
  if 0 ≤ exponent then significand * Nat.pow 2 exponent.toNat
  else significand / Nat.pow 2 (-exponent).toNat

end Binary64

end WorkspaceDesk.Decimal

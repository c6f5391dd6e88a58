import WorkspaceDesk.Decimal.Binary64

/-!
# The fewest digits that read back

A number of the binary format stands for all reals that round to it. Among the decimals in that
interval those with the fewest digits are chosen, and of these the one nearest to the number.
-/

namespace WorkspaceDesk.Decimal

open Binary64

/-- The reals that round to a number, in units of a quarter of its last place times a power of two:
bounds, the number itself between them, and whether the bounds belong to it. -/
structure Interval where
  low : Nat
  value : Nat
  high : Nat
  closed : Bool
  /-- The power of two of the unit. -/
  power : Int
deriving Repr

/-- The interval of the number `m * 2 ^ e`. Below a power of two the neighbour is half as far. -/
def Interval.around (m : Nat) (e : Int) : Interval where
  low := if m = Nat.pow 2 52 ∧ minExponent < e then 4 * m - 1 else 4 * m - 2
  value := 4 * m
  high := 4 * m + 2
  closed := m % 2 = 0
  power := e - 2

/-- A decimal `digits * 10 ^ power`. -/
structure Digits where
  digits : Nat
  power : Int
deriving DecidableEq, Repr

/-- Numerator and denominator of the unit of an interval over the power of ten. -/
def Interval.unit (i : Interval) (tenPower : Int) : Nat × Nat :=
  let (a, b) := scaleByTwo 1 1 i.power
  if 0 ≤ tenPower then (a, b * Nat.pow 10 tenPower.toNat) else (a * Nat.pow 10 (-tenPower).toNat, b)

/-- The decimal `c * 10 ^ tenPower` lies in the interval. -/
def Interval.covers (i : Interval) (c : Nat) (tenPower : Int) : Bool :=
  let (a, b) := i.unit tenPower
  if i.closed then i.low * a ≤ c * b && c * b ≤ i.high * a
  else i.low * a < c * b && c * b < i.high * a

/-- The multiple of `10 ^ tenPower` in the interval that is nearest to the number: one of the two
around it, of two equally near ones the even one. -/
def Interval.nearest? (i : Interval) (tenPower : Int) : Option Nat :=
  let (a, b) := i.unit tenPower
  let below := i.value * a / b
  let rest := i.value * a % b
  match i.covers below tenPower, i.covers (below + 1) tenPower with
  | true, true =>
    if 2 * rest < b ∨ (2 * rest = b ∧ below % 2 = 0) then some below else some (below + 1)
  | true, false => some below
  | false, true => some (below + 1)
  | false, false => none

/-- The exponent of the greatest power of ten that is not above `num / den`, from a guess that is at
least as large. -/
def magnitude (num den : Nat) : (fuel : Nat) → (guess : Int) → Int
  | 0, guess => guess
  | fuel + 1, guess =>
    let ok := if 0 ≤ guess then den * Nat.pow 10 guess.toNat ≤ num
      else den ≤ num * Nat.pow 10 (-guess).toNat
    if ok then guess else magnitude num den fuel (guess - 1)

/-- Tries grids from the coarsest on. -/
def searchGrids (i : Interval) (top : Int) : (fuel : Nat) → (count : Nat) → Digits
  | 0, count => ⟨(i.nearest? (top + 1 - count)).getD 0, top + 1 - count⟩
  | fuel + 1, count =>
    match i.nearest? (top + 1 - count) with
    | some c => ⟨c, top + 1 - count⟩
    | none => searchGrids i top fuel (count + 1)

/-- Removes zeros at the end of the digits. -/
def Digits.strip (d : Digits) : (fuel : Nat) → Digits
  | 0 => d
  | fuel + 1 =>
    if d.digits ≠ 0 ∧ d.digits % 10 = 0 then Digits.strip ⟨d.digits / 10, d.power + 1⟩ fuel
    else d

/-- The shortest decimal that reads back to the number `m * 2 ^ e`; seventeen digits always do. -/
def shortest (m : Nat) (e : Int) : Digits :=
  if m = 0 then ⟨0, 0⟩
  else
    let i := Interval.around m e
    let (num, den) := scaleByTwo m 1 e
    let bits : Int := (Nat.log2 num : Int) - Nat.log2 den + 1
    let top := magnitude num den 800 (if 0 ≤ bits then bits * 31 / 100 + 1 else bits * 30 / 100 + 1)
    (searchGrids i top 17 1).strip 20

end WorkspaceDesk.Decimal

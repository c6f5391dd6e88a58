import WorkspaceDesk.Decimal.Shortest

/-!
# Numbers as texts

Positional notation is used from `0.0001` up to below `10^16`, with at least one digit on each side of
the point; outside that range a power of ten of at least two digits follows the letter `e`.
-/

namespace WorkspaceDesk.Decimal

/-- The least power of ten of a leading digit that is written positionally. -/
def leastPositional : Int := -4

/-- The power of ten of a leading digit from which on scientific notation is used. -/
def firstScientific : Int := 16

/-- Zeros. -/
def zeros (n : Nat) : List Char :=
  List.replicate n '0'

/-- The digits of a natural number, filled up with zeros to two places. -/
def twoPlaces (n : Nat) : List Char :=
  if n < 10 then '0' :: Nat.toDigits 10 n else Nat.toDigits 10 n

/-- Writes a decimal with a point. -/
def positional (digits : List Char) (power : Int) : List Char :=
  if 0 ≤ power then digits ++ zeros power.toNat ++ ['.', '0']
  else
    let places := (-power).toNat
    if places < digits.length then
      digits.take (digits.length - places) ++ '.' :: digits.drop (digits.length - places)
    else '0' :: '.' :: zeros (places - digits.length) ++ digits

/-- Writes a decimal with one digit before the point and a power of ten. -/
def scientific (digits : List Char) (leading : Int) : List Char :=
  let mantissa := match digits with
    | [] => []
    | [d] => [d]
    | d :: rest => d :: '.' :: rest
  let sign := if leading < 0 then '-' else '+'
  mantissa ++ 'e' :: sign :: twoPlaces leading.natAbs

/-- The magnitude of a finite number. -/
def magnitudeText (m : Nat) (e : Int) : List Char :=
  if m = 0 then ['0', '.', '0']
  else
    let d := shortest m e
    let digits := Nat.toDigits 10 d.digits
    let leading : Int := d.power + digits.length - 1
    if leastPositional ≤ leading ∧ leading < firstScientific then positional digits d.power
    else scientific digits leading

/-- The text of a number. -/
def Binary64.text : Binary64 → String
  | .finite negative m e =>
    let magnitude := magnitudeText m e
    String.ofList (if negative then '-' :: magnitude else magnitude)
  | .infinite negative => if negative then "-inf" else "inf"
  | .nan => "nan"

end WorkspaceDesk.Decimal

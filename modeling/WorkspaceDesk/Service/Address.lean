import WorkspaceDesk.Text.Hex

/-!
# Internet addresses

The written forms of internet addresses: four decimal numbers between points, or up to eight hexadecimal
numbers between colons, of which a run of zeros may be left out and the last two may be written as four
decimal numbers.
-/

namespace WorkspaceDesk.Service.Address

open Text

/-- A number of an address of four: at most 255, without leading zeros. -/
def isOctet (digits : List Char) : Bool :=
  !digits.isEmpty && digits.all Char.isDigit && digits.length ≤ 3
    && (digits = ['0'] || digits.head? ≠ some '0')
    && digits.foldl (fun n c => 10 * n + (c.toNat - 0x30)) 0 ≤ 255

/-- An address of four decimal numbers. -/
def isFour (s : List Char) : Bool :=
  let octets := s.splitOn '.'
  octets.length = 4 && octets.all isOctet

/-- A hexadecimal number of up to four digits. -/
def isGroup (digits : List Char) : Bool :=
  !digits.isEmpty && digits.length ≤ 4 && digits.all fun c => (hexValue? c).isSome

/-- The groups of an address of eight, in which four decimal numbers at the end stand for two groups;
none if they are no such numbers. -/
def groupsOf? (s : List Char) : Option (List (List Char)) :=
  let parts := s.splitOn ':'
  let last := parts.getLast?.getD []
  if parts.length < 3 then none
  else if last.contains '.' then
    if isFour last then some (parts.dropLast ++ [['0'], ['0']]) else none
  else some parts

/-- The places of empty groups other than the first and the last one. -/
def gaps (groups : List (List Char)) : List Nat :=
  (List.range groups.length).filter fun i =>
    0 < i && i + 1 < groups.length && groups[i]? = some []

/-- The groups on one side of a gap; the outermost one is empty if the gap reaches up to the end. -/
def sideOf? (groups : List (List Char)) (outermost : Option (List Char)) : Option Nat :=
  if outermost = some [] then if groups.length = 1 then some 0 else none
  else if groups.all isGroup then some groups.length
  else none

/-- The groups around a gap, or all of them where there is no gap, make up an address. -/
def areGroups (groups : List (List Char)) : Bool :=
  if 9 < groups.length then false
  else
    match gaps groups with
    | [] => groups.length = 8 && groups.all isGroup
    | [i] =>
      match sideOf? (groups.take i) groups.head?, sideOf? (groups.drop (i + 1)) groups.getLast? with
      | some before, some after => before + after < 8
      | _, _ => false
    | _ => false

/-- An address of eight hexadecimal numbers, which may be followed by a percent sign and the name of a
zone. -/
def isEight (s : List Char) : Bool :=
  let inZone := match s.span (· ≠ '%') with
    | (_, []) => true
    | (_, _ :: zone) => !zone.isEmpty && !zone.contains '%'
  let groups := groupsOf? (s.takeWhile (· ≠ '%'))
  inZone && (groups.map areGroups).getD false

/-- An address of a version to come: the letter `v`, a hexadecimal number, a point and any text. -/
def isOfVersion (s : List Char) : Bool :=
  match s with
  | 'v' :: rest =>
    match rest.span fun c => (hexValue? c).isSome with
    | (_ :: _, '.' :: _ :: _) => true
    | _ => false
  | _ => false

end WorkspaceDesk.Service.Address

import WorkspaceDesk.Action.Token
import WorkspaceDesk.Text.Hex

/-!
# Escapes in quoted texts

A backslash in a quoted text may name a character by its code point or by its name. The escapes of
a text are checked from left to right; the place of a bad one is counted in a form of the text that
has ASCII characters only, in which every other character is an escape of ten.
-/

namespace WorkspaceDesk.Action

open Text

/-- The room of a character in the form with ASCII characters only. -/
def asciiWidth (c : Char) : Nat :=
  if c.toNat < 0x80 then 1 else 10

/-- The number of digits that the letter of an escape asks for. -/
def escapeDigits? : Char → Option Nat
  | 'x' => some 2
  | 'u' => some 4
  | 'U' => some 8
  | _ => none

/-- The fault of an escape by code point, of which the backslash stands at `position` and the digits
at the head of a text. -/
def codePointFault? (position : Nat) (letter : Char) (count : Nat) (s : List Char) : Option Fault :=
  let digits := (s.take count).filterMap hexValue?
  let read := ((s.take count).takeWhile fun c => (hexValue? c).isSome).length
  if read < count then
    some (.escape (.truncated letter count) position (position + 1 + read))
  else if digits.foldl (fun n d => 16 * n + d) 0 > 0x10ffff then
    some (.escape .notACharacter position (position + 1 + count))
  else none

/-- The character may stand in the name of a character. -/
def isCharacterNameChar (c : Char) : Bool :=
  c.isAlphanum || c = ' ' || c = '-'

/-- The fault of an escape by name, of which the backslash stands at `position` and the braces at
the head of a text. A name of the right characters is taken for that of a character. -/
def nameFault? (position : Nat) (s : List Char) : Option Fault :=
  match s with
  | '{' :: rest =>
    let name := rest.takeWhile (· ≠ '}')
    let last := position + 2 + name.foldl (fun n c => n + asciiWidth c) 0
    if !rest.contains '}' then some (.escape .malformedName position last)
    else if name.isEmpty then some (.escape .malformedName position last)
    else if name.all isCharacterNameChar then none
    else some (.escape .unknownName position (last + 1))
  | _ => some (.escape .malformedName position (position + 1))

/-- The fault of the first bad escape in a text from a position on. -/
def escapeFault? : (position : Nat) → List Char → Option Fault
  | _, [] => none
  | position, '\\' :: c :: rest =>
    let here :=
      match escapeDigits? c with
      | some count => codePointFault? position c count rest
      | none => if c = 'N' then nameFault? position rest else none
    here.or (escapeFault? (position + if c.toNat < 0x80 then 2 else 16) rest)
  | position, c :: rest => escapeFault? (position + asciiWidth c) rest

/-- The fault of the first bad escape in a text of bytes from a position on. -/
def byteFault? : (position : Nat) → List Char → Option Fault
  | _, [] => none
  | position, '\\' :: 'x' :: rest =>
    if ((rest.take 2).filterMap hexValue?).length < 2 then some (.byteEscape position)
    else byteFault? (position + 2) rest
  | position, '\\' :: _ :: rest => byteFault? (position + 2) rest
  | position, _ :: rest => byteFault? (position + 1) rest

/-- What is wrong with a quoted text that is not formatted. -/
def QuotedText.fault? (t : QuotedText) : Option Fault :=
  if t.bytes && t.body.any (0x80 ≤ ·.toNat) then some .wideBytes
  else if t.raw then none
  else if t.bytes then byteFault? 0 t.body
  else escapeFault? 0 t.body

end WorkspaceDesk.Action

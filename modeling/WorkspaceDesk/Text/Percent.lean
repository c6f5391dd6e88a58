import WorkspaceDesk.Text.Utf8

/-!
# Percent-encoding

A text as a segment of a URL: letters, digits and `_.-~` of ASCII stand for themselves, every other
byte of its UTF-8 form is written as `%` and two upper-case digits.
-/

namespace WorkspaceDesk.Text.Percent

/-- The characters that need no escape. -/
def isUnreserved (c : Char) : Bool :=
  c.isAlphanum || c = '_' || c = '.' || c = '-' || c = '~'

/-- The written form of one byte. -/
def encodeByte (b : UInt8) : List Char :=
  let c := Char.ofNat b.toNat
  if isUnreserved c then [c]
  else ['%', hexDigitUpper (b.toNat / 16), hexDigitUpper (b.toNat % 16)]

/-- The text as a URL segment. -/
def encode (s : List Char) : List Char :=
  (Utf8.encode s).flatMap encodeByte

/-- The byte named by the two digits at the head of a text. -/
def hexPair? : List Char → Option UInt8
  | h :: l :: _ => do
    let high ← hexValue? h
    let low ← hexValue? l
    some (UInt8.ofNat (16 * high + low))
  | _ => none

/-- The bytes that a URL segment stands for, after `skip` characters that belong to an escape; a `%`
without two digits stands for itself. -/
def bytesFrom : (skip : Nat) → List Char → Bytes
  | _, [] => []
  | skip + 1, _ :: rest => bytesFrom skip rest
  | 0, c :: rest =>
    if c = '%' then
      match hexPair? rest with
      | some b => b :: bytesFrom 2 rest
      | none => 0x25 :: bytesFrom 0 rest
    else String.utf8EncodeChar c ++ bytesFrom 0 rest

/-- The bytes that a URL segment stands for. -/
def decodeBytes (s : List Char) : Bytes :=
  bytesFrom 0 s

/-- The text that a URL segment stands for, when its bytes are UTF-8. -/
def decode (s : List Char) : Except Utf8.Fault (List Char) :=
  Utf8.decode (decodeBytes s)

end WorkspaceDesk.Text.Percent

import WorkspaceDesk.Text.Hex

/-!
# UTF-8

Bytes are read as a list of pieces: a character, or a fault that spans the longest ill-formed run
that could have begun a character. The strict reading stops at the first fault; the lenient reading
puts the replacement character in place of each.
-/

namespace WorkspaceDesk

/-- A sequence of bytes, such as the contents of a file. -/
abbrev Bytes := List UInt8

namespace Text.Utf8

/-- Why bytes do not form a character. -/
inductive Reason where
  /-- No character begins with this byte. -/
  | startByte
  /-- A byte that cannot continue the character follows. -/
  | continuationByte
  /-- The bytes end within a character. -/
  | endOfData
deriving DecidableEq, Repr

/-- A run of bytes that forms no character. -/
structure Fault where
  /-- Position of the first byte of the run. -/
  start : Nat
  /-- Number of bytes in the run. -/
  size : Nat
  /-- The first byte of the run. -/
  first : UInt8
  reason : Reason
deriving DecidableEq, Repr

/-- The wording of a reason. -/
def Reason.message : Reason → String
  | .startByte => "invalid start byte"
  | .continuationByte => "invalid continuation byte"
  | .endOfData => "unexpected end of data"

/-- The wording of a fault; a single byte is named by its value. -/
def Fault.message (f : Fault) : String :=
  let place :=
    if f.size = 1 then
      "byte 0x" ++ String.ofList (hexDigits 2 f.first.toNat) ++ " in position " ++ toString f.start
    else
      "bytes in position " ++ toString f.start ++ "-" ++ toString (f.start + f.size - 1)
  "'utf-8' codec can't decode " ++ place ++ ": " ++ f.reason.message

/-- A character of which the first bytes have been read. -/
structure Pending where
  start : Nat
  first : UInt8
  /-- Number of bytes still to come, less one. -/
  more : Nat
  /-- Bounds of the next byte. -/
  low : Nat
  high : Nat
  /-- The bits read so far. -/
  bits : Nat
deriving DecidableEq, Repr

/-- The fault of a pending character that ends before position `pos`. -/
def Pending.fault (p : Pending) (pos : Nat) (reason : Reason) : Fault :=
  ⟨p.start, pos - p.start, p.first, reason⟩

/-- What the first byte of a character says: the whole character, the bounds of the byte to come,
or that no character begins so. The bounds rule out overlong forms, surrogates and code points
beyond the last. -/
def start (pos : Nat) (b : UInt8) : Except Fault Char ⊕ Pending :=
  let n := b.toNat
  if n < 0x80 then .inl (.ok (Char.ofNat n))
  else if n < 0xc2 then .inl (.error ⟨pos, 1, b, .startByte⟩)
  else if n < 0xe0 then .inr ⟨pos, b, 0, 0x80, 0xbf, n - 0xc0⟩
  else if n < 0xf0 then
    .inr ⟨pos, b, 1, if n = 0xe0 then 0xa0 else 0x80, if n = 0xed then 0x9f else 0xbf, n - 0xe0⟩
  else if n < 0xf5 then
    .inr ⟨pos, b, 2, if n = 0xf0 then 0x90 else 0x80, if n = 0xf4 then 0x8f else 0xbf, n - 0xf0⟩
  else .inl (.error ⟨pos, 1, b, .startByte⟩)

/-- The bits of a pending character with those of one more byte. -/
def Pending.push (p : Pending) (b : UInt8) : Nat :=
  p.bits * 64 + (b.toNat - 0x80)

/-- Reads bytes from position `pos` on, possibly within a character. -/
def piecesFrom : Option Pending → (pos : Nat) → Bytes → List (Except Fault Char)
  | none, _, [] => []
  | some p, pos, [] => [.error (p.fault pos .endOfData)]
  | none, pos, b :: rest =>
    match start pos b with
    | .inl piece => piece :: piecesFrom none (pos + 1) rest
    | .inr p => piecesFrom (some p) (pos + 1) rest
  | some p, pos, b :: rest =>
    if p.low ≤ b.toNat ∧ b.toNat ≤ p.high then
      match p.more with
      | 0 => .ok (Char.ofNat (p.push b)) :: piecesFrom none (pos + 1) rest
      | more + 1 =>
        piecesFrom (some { p with more, low := 0x80, high := 0xbf, bits := p.push b }) (pos + 1) rest
    else
      .error (p.fault pos .continuationByte) ::
        match start pos b with
        | .inl piece => piece :: piecesFrom none (pos + 1) rest
        | .inr q => piecesFrom (some q) (pos + 1) rest

/-- The characters and faults of a byte sequence, in order. -/
def pieces (bytes : Bytes) : List (Except Fault Char) :=
  piecesFrom none 0 bytes

/-- The characters of well-formed bytes, or the first fault. -/
def decode (bytes : Bytes) : Except Fault (List Char) :=
  (pieces bytes).mapM id

/-- The replacement character. -/
def replacement : Char := '\ufffd'

/-- The characters of any bytes, with the replacement character for each fault. -/
def decodeLenient (bytes : Bytes) : List Char :=
  (pieces bytes).map fun
    | .ok c => c
    | .error _ => replacement

/-- The bytes of a text. -/
def encode (s : List Char) : Bytes :=
  s.flatMap String.utf8EncodeChar

end Text.Utf8

end WorkspaceDesk

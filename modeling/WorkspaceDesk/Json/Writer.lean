import WorkspaceDesk.Decimal.Notation
import WorkspaceDesk.Json.Value
import WorkspaceDesk.Text.Hex
import WorkspaceDesk.Text.Numeral

/-!
# Writing JSON

Values are written over several lines, each level indented by two spaces, in ASCII alone: other
characters are written as escapes, those beyond the basic plane as a pair of them. Whole numbers with too
many digits are not written.
-/

namespace WorkspaceDesk.Json

open Text

/-- An escape of a code unit. -/
def unitEscape (n : Nat) : List Char :=
  '\\' :: 'u' :: hexDigits 4 n

/-- The written form of a character within a string. -/
def writeChar (c : Char) : List Char :=
  if c = '"' then ['\\', '"']
  else if c = '\\' then ['\\', '\\']
  else if c = '\n' then ['\\', 'n']
  else if c = '\r' then ['\\', 'r']
  else if c = '\t' then ['\\', 't']
  else if c = '\x08' then ['\\', 'b']
  else if c = '\x0c' then ['\\', 'f']
  else if 0x20 ≤ c.toNat ∧ c.toNat ≤ 0x7e then [c]
  else if c.toNat < 0x10000 then unitEscape c.toNat
  else
    let n := c.toNat - 0x10000
    unitEscape (0xd800 + n / 0x400) ++ unitEscape (0xdc00 + n % 0x400)

/-- A string with its quotes. -/
def writeString (s : String) : List Char :=
  '"' :: s.toList.flatMap writeChar ++ ['"']

/-- A new line at a level of nesting. -/
def newline (level : Nat) : List Char :=
  '\n' :: List.replicate (2 * level) ' '

/-- The text of a number of the binary format. -/
def writeFloat (x : Decimal.Binary64) : List Char :=
  match x with
  | .finite .. => x.text.toList
  | .infinite negative => if negative then "-Infinity".toList else "Infinity".toList
  | .nan => "NaN".toList

mutual

/-- A value at a level of nesting. -/
def write (level : Nat) : Value → List Char
  | .null => "null".toList
  | .bool b => if b then "true".toList else "false".toList
  | .int n => (toString n).toList
  | .float x => writeFloat x
  | .str s => writeString s
  | .arr [] => ['[', ']']
  | .arr (v :: rest) =>
    '[' :: newline (level + 1) ++ write (level + 1) v ++ writeItems (level + 1) rest
      ++ newline level ++ [']']
  | .obj [] => ['\x7b', '\x7d']
  | .obj ((name, v) :: rest) =>
    '\x7b' :: newline (level + 1) ++ writeString name ++ ':' :: ' ' :: write (level + 1) v
      ++ writeFields (level + 1) rest ++ newline level ++ ['\x7d']

/-- The items after the first one. -/
def writeItems (level : Nat) : List Value → List Char
  | [] => []
  | v :: rest => ',' :: newline level ++ write level v ++ writeItems level rest

/-- The fields after the first one. -/
def writeFields (level : Nat) : List (String × Value) → List Char
  | [] => []
  | (name, v) :: rest =>
    ',' :: newline level ++ writeString name ++ ':' :: ' ' :: write level v ++ writeFields level rest

end

theorem write_str (level : Nat) (s : String) : write level (.str s) = writeString s := by
  rw [write]

/-- The text of a value. -/
def Value.write (v : Value) : List Char :=
  Json.write 0 v

mutual

/-- Every whole number in the value has few enough digits to be written. -/
def Value.isWritable : Value → Bool
  | .int n => (Nat.toDigits 10 n.natAbs).length ≤ maxDigits
  | .arr items => areItemsWritable items
  | .obj fields => areFieldsWritable fields
  | .null | .bool _ | .float _ | .str _ => true

/-- Every whole number in the items has few enough digits to be written. -/
def areItemsWritable : List Value → Bool
  | [] => true
  | v :: rest => v.isWritable && areItemsWritable rest

/-- Every whole number in the fields has few enough digits to be written. -/
def areFieldsWritable : List (String × Value) → Bool
  | [] => true
  | (_, v) :: rest => v.isWritable && areFieldsWritable rest

end

/-- The wording for a number that has too many digits to be written. -/
def unwritableMessage : String :=
  "Exceeds the limit (" ++ toString maxDigits ++ " digits) for integer string conversion; "
    ++ "use sys.set_int_max_str_digits() to increase the limit"

end WorkspaceDesk.Json

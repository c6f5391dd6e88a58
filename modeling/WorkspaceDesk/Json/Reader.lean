import WorkspaceDesk.Json.Value
import WorkspaceDesk.Text.Hex
import WorkspaceDesk.Text.Numeral

/-!
# Reading JSON

The reader follows the grammar of JSON and also accepts `NaN`, `Infinity` and `-Infinity`. It works
on what remains of the text; a fault is placed by the number of characters that remain where it was
found, from which line and column follow. Lists and objects may be nested up to a limit.

An escape of half a surrogate pair names no character and is read as the replacement character.
-/

namespace WorkspaceDesk.Json

open Text Decimal

/-- A value that holds values. -/
inductive Container where
  | list
  | object
deriving DecidableEq, Repr

/-- What a container is called in messages. -/
def Container.name : Container → String
  | .list => "array"
  | .object => "object"

/-- What is wrong with a JSON text. -/
inductive Problem where
  | expectingValue
  | expectingName
  | expectingColon
  | expectingComma
  | extraData
  | unterminatedString
  | controlCharacter
  | invalidEscape
  | invalidUnicodeEscape
  | byteOrderMark
  /-- A whole number with too many digits. -/
  | numberTooLong (digits : Nat)
  /-- A container that stands in as many others as may be nested. -/
  | tooDeep (c : Container)
deriving DecidableEq, Repr

/-- A problem and the number of characters that remain from its place on. -/
structure Fault where
  problem : Problem
  remaining : Nat
deriving DecidableEq, Repr

/-- A problem and its place in the text. -/
structure ReadError where
  problem : Problem
  /-- Lines before the place, plus one. -/
  line : Nat
  /-- Characters before the place in its line, plus one. -/
  column : Nat
  /-- Characters before the place. -/
  offset : Nat
deriving DecidableEq, Repr

/-- The wording of a problem. -/
def Problem.message : Problem → String
  | .expectingValue => "Expecting value"
  | .expectingName => "Expecting property name enclosed in double quotes"
  | .expectingColon => "Expecting ':' delimiter"
  | .expectingComma => "Expecting ',' delimiter"
  | .extraData => "Extra data"
  | .unterminatedString => "Unterminated string starting at"
  | .controlCharacter => "Invalid control character at"
  | .invalidEscape => "Invalid \\escape"
  | .invalidUnicodeEscape => "Invalid \\uXXXX escape"
  | .byteOrderMark => "Unexpected UTF-8 BOM (decode using utf-8-sig)"
  | .numberTooLong digits => tooLongMessage digits
  | .tooDeep c =>
    "maximum recursion depth exceeded while decoding a JSON " ++ c.name ++ " from a unicode string"

/-- The message names the place of the problem. -/
def Problem.isPlaced : Problem → Bool
  | .numberTooLong _ | .tooDeep _ => false
  | _ => true

/-- The wording of an error. -/
def ReadError.message (e : ReadError) : String :=
  if !e.problem.isPlaced then e.problem.message
  else
    e.problem.message ++ ": line " ++ toString e.line ++ " column " ++ toString e.column
      ++ " (char " ++ toString e.offset ++ ")"

/-- The place of a fault in its text. -/
def Fault.locate (f : Fault) (text : List Char) : ReadError :=
  let before := text.take (text.length - f.remaining)
  { problem := f.problem
    line := before.count '\n' + 1
    column := (before.reverse.takeWhile (· ≠ '\n')).length + 1
    offset := before.length }

/-- The blanks of JSON. -/
def isSpace (c : Char) : Bool :=
  c = ' ' || c = '\t' || c = '\n' || c = '\r'

/-- The text without the blanks at its head. -/
def skipSpace (s : List Char) : List Char :=
  s.dropWhile isSpace

/-! ## Strings -/

/-- The code unit of four hexadecimal digits, after which the text must go on. -/
def codeUnit? : List Char → Option Nat
  | a :: b :: c :: d :: _ :: _ => do
    let a ← hexValue? a
    let b ← hexValue? b
    let c ← hexValue? c
    let d ← hexValue? d
    some (((a * 16 + b) * 16 + c) * 16 + d)
  | _ => none

/-- The first half of a surrogate pair. -/
def isHighSurrogate (n : Nat) : Bool :=
  0xd800 ≤ n && n < 0xdc00

/-- The second half of a surrogate pair. -/
def isLowSurrogate (n : Nat) : Bool :=
  0xdc00 ≤ n && n < 0xe000

/-- The character of a code unit, if it has one. -/
def unitChar (n : Nat) : Char :=
  if isHighSurrogate n || isLowSurrogate n then '\ufffd' else Char.ofNat n

/-- The second escape of a pair: its digits, if the text after the first unit has room for it. -/
def secondEscape? : List Char → Option (List Char)
  | '\\' :: 'u' :: rest => if 5 ≤ rest.length then some rest else none
  | _ => none

/-- The character that an escape names, and the number of characters that it takes after the
backslash. `opening` is the number of characters that remain from the opening quote on. -/
def escape (opening : Nat) : List Char → Except Fault (Char × Nat)
  | [] => .error ⟨.unterminatedString, opening⟩
  | c :: rest =>
    if c = '"' ∨ c = '\\' ∨ c = '/' then .ok (c, 1)
    else if c = 'b' then .ok ('\x08', 1)
    else if c = 'f' then .ok ('\x0c', 1)
    else if c = 'n' then .ok ('\n', 1)
    else if c = 'r' then .ok ('\r', 1)
    else if c = 't' then .ok ('\t', 1)
    else if c = 'u' then
      match codeUnit? rest with
      | none => .error ⟨.invalidUnicodeEscape, (c :: rest).length⟩
      | some high =>
        -- only the first half of a pair can be followed by the second
        match if isHighSurrogate high then secondEscape? (rest.drop 4) else none with
        | none => .ok (unitChar high, 5)
        | some digits =>
          match codeUnit? digits with
          | none => .error ⟨.invalidUnicodeEscape, digits.length + 1⟩
          | some low =>
            if isLowSurrogate low then
              .ok (Char.ofNat (0x10000 + (high - 0xd800) * 0x400 + (low - 0xdc00)), 11)
            else .ok (unitChar high, 5)
    else .error ⟨.invalidEscape, (c :: rest).length + 1⟩

/-- The characters of a string up to its closing quote, and what follows it; `skip` characters
belong to an escape that has been read. -/
def stringBody (opening : Nat) : (skip : Nat) → List Char → Except Fault (List Char × List Char)
  | _, [] => .error ⟨.unterminatedString, opening⟩
  | skip + 1, _ :: rest => stringBody opening skip rest
  | 0, c :: rest =>
    if c = '"' then .ok ([], rest)
    else if c = '\\' then
      match escape opening rest with
      | .error e => .error e
      | .ok (d, used) =>
        match stringBody opening used rest with
        | .error e => .error e
        | .ok (body, after) => .ok (d :: body, after)
    else if c.toNat < 0x20 then .error ⟨.controlCharacter, (c :: rest).length⟩
    else
      match stringBody opening 0 rest with
      | .error e => .error e
      | .ok (body, after) => .ok (c :: body, after)

/-- A string, after its opening quote. -/
def string (rest : List Char) : Except Fault (String × List Char) :=
  match stringBody (rest.length + 1) 0 rest with
  | .error e => .error e
  | .ok (body, after) => .ok (String.ofList body, after)

/-! ## Numbers -/

/-- The value of a run of decimal digits. -/
def digitsValue (digits : List Char) : Nat :=
  ofDigits (digits.map fun c => c.toNat - 0x30)

/-- Digits of the whole part: a zero alone, or digits that begin with another one. -/
def wholeDigits : List Char → List Char × List Char
  | [] => ([], [])
  | c :: rest =>
    if c = '0' then (['0'], rest)
    else if c.isDigit then (c :: rest).span Char.isDigit
    else ([], c :: rest)

/-- Digits after a point, which counts only if a digit follows it. -/
def fractionDigits : List Char → Option (List Char) × List Char
  | '.' :: d :: rest =>
    if d.isDigit then
      let (digits, after) := (d :: rest).span Char.isDigit
      (some digits, after)
    else (none, '.' :: d :: rest)
  | s => (none, s)

/-- A power of ten, which counts only if digits follow its letter and sign. -/
def powerOfTen (s : List Char) : Option Int × List Char :=
  match s with
  | [] => (none, [])
  | c :: rest =>
    if c = 'e' ∨ c = 'E' then
      let (negative, body) := splitSign rest
      let (digits, after) := body.span Char.isDigit
      if digits.isEmpty then (none, s) else (some (signed negative (digitsValue digits)), after)
    else (none, s)

/-- A number. It is a whole number unless it has digits after a point or a power of ten. -/
def number (s : List Char) : Except Fault (Value × List Char) :=
  let (negative, body) := match s with
    | '-' :: rest => (true, rest)
    | _ => (false, s)
  let (whole, rest) := wholeDigits body
  if whole.isEmpty then .error ⟨.expectingValue, s.length⟩
  else
    let (fraction, rest) := fractionDigits rest
    let (power, rest) := powerOfTen rest
    match fraction, power with
    | none, none =>
      if maxDigits < whole.length then .error ⟨.numberTooLong whole.length, s.length⟩
      else .ok (.int (signed negative (digitsValue whole)), rest)
    | fraction, power =>
      -- digits after the point count as whole ones, with so much less power of ten
      let places := fraction.getD []
      .ok (.float (.ofDecimal negative (digitsValue (whole ++ places))
        (power.getD 0 - places.length)), rest)

/-! ## Values -/

/-- The words that stand for values. -/
def words : List (List Char × Value) :=
  [("null".toList, .null), ("true".toList, .bool true), ("false".toList, .bool false),
    ("NaN".toList, .float .nan), ("Infinity".toList, .float (.infinite false)),
    ("-Infinity".toList, .float (.infinite true))]

/-- A word or number. -/
def atom (s : List Char) : Except Fault (Value × List Char) :=
  match words.findSome? fun w => (w.1.isPrefixOf? s).map fun rest => (w.2, rest) with
  | some r => .ok r
  | none => number s

mutual

/-- A value at the head of a text, and what follows it. `room` is the number of containers that may be
nested; the fuel bounds nesting and length. -/
def value : (fuel room : Nat) → List Char → Except Fault (Value × List Char)
  | 0, _, s => .error ⟨.expectingValue, s.length⟩
  | _ + 1, _, [] => .error ⟨.expectingValue, 0⟩
  | fuel + 1, room, c :: rest =>
    if c = '"' then
      match string rest with
      | .error e => .error e
      | .ok (s, after) => .ok (.str s, after)
    else if c = '\x7b' then
      match room with
      | 0 => .error ⟨.tooDeep .object, (c :: rest).length⟩
      | room + 1 =>
        match skipSpace rest with
        | '\x7d' :: after => .ok (.obj [], after)
        | body =>
          match members fuel room body with
          | .error e => .error e
          | .ok (pairs, after) => .ok (.obj (Fields.ofPairs pairs), after)
    else if c = '[' then
      match room with
      | 0 => .error ⟨.tooDeep .list, (c :: rest).length⟩
      | room + 1 =>
        match skipSpace rest with
        | ']' :: after => .ok (.arr [], after)
        | body =>
          match items fuel room body with
          | .error e => .error e
          | .ok (vs, after) => .ok (.arr vs, after)
    else atom (c :: rest)

/-- The items of a list and its closing bracket. -/
def items : (fuel room : Nat) → List Char → Except Fault (List Value × List Char)
  | 0, _, s => .error ⟨.expectingValue, s.length⟩
  | fuel + 1, room, s =>
    match value fuel room s with
    | .error e => .error e
    | .ok (v, rest) =>
      match skipSpace rest with
      | ']' :: after => .ok ([v], after)
      | ',' :: after =>
        match items fuel room (skipSpace after) with
        | .error e => .error e
        | .ok (vs, after) => .ok (v :: vs, after)
      | other => .error ⟨.expectingComma, other.length⟩

/-- The fields of an object and its closing brace. -/
def members : (fuel room : Nat) → List Char → Except Fault (List (String × Value) × List Char)
  | 0, _, s => .error ⟨.expectingName, s.length⟩
  | fuel + 1, room, s =>
    match s with
    | '"' :: rest =>
      match string rest with
      | .error e => .error e
      | .ok (name, rest) =>
        match skipSpace rest with
        | ':' :: rest =>
          match value fuel room (skipSpace rest) with
          | .error e => .error e
          | .ok (v, rest) =>
            match skipSpace rest with
            | '\x7d' :: after => .ok ([(name, v)], after)
            | ',' :: after =>
              match members fuel room (skipSpace after) with
              | .error e => .error e
              | .ok (pairs, after) => .ok ((name, v) :: pairs, after)
            | other => .error ⟨.expectingComma, other.length⟩
        | other => .error ⟨.expectingColon, other.length⟩
    | other => .error ⟨.expectingName, other.length⟩

end

/-- A whole text as one value, with faults placed by what remains. -/
def document (levels : Nat) (text : List Char) : Except Fault Value :=
  match text with
  | '\ufeff' :: _ => .error ⟨.byteOrderMark, text.length⟩
  | _ =>
    match value (2 * text.length + 2) levels (skipSpace text) with
    | .error e => .error e
    | .ok (v, rest) =>
      match skipSpace rest with
      | [] => .ok v
      | extra => .error ⟨.extraData, extra.length⟩

/-- How many containers may be nested in a text. Reading one within another takes up room on the stack of the
process, of which it depends on the caller how much is left; there is room for four at any time. -/
structure Room where
  levels : Nat
  four_le : 4 ≤ levels

/-- The value of a JSON text in which at most `levels` containers are nested. -/
def readWithin (levels : Nat) (text : List Char) : Except ReadError Value :=
  (document levels text).mapError (·.locate text)

/-- The value of a JSON text for which there is some room. -/
def read (room : Room) (text : List Char) : Except ReadError Value :=
  readWithin room.levels text

end WorkspaceDesk.Json

import WorkspaceDesk.Table.Key
import WorkspaceDesk.Text.Numeral

/-!
# Key codes

A terminal sends plain characters for most keys, and a sequence that begins with the escape character
for the others. Text read from it is split into keys. Sequences that name no known key are dropped as a
whole, so that their characters are not taken for keys; an escape character that begins no sequence is
the escape key.
-/

namespace WorkspaceDesk.Terminal

open Table Text

/-- The escape character. -/
def escapeChar : Char := '\x1b'

/-- The key of a plain character. -/
def plainKey (c : Char) : Key :=
  if c = '\r' ∨ c = '\n' then .enter
  else if c = '\t' then .tab
  else if c = ' ' then .space
  else if c = '\x7f' ∨ c = '\x08' then .backspace
  else if c = '\x03' then .controlC
  else if c = '\x04' then .controlD
  else if c = '\x15' then .controlU
  else .char c

/-- The key named by the last character of a sequence. -/
def finalKey? (c : Char) : Option Key :=
  if c = 'A' then some .up
  else if c = 'B' then some .down
  else if c = 'C' then some .right
  else if c = 'D' then some .left
  else if c = 'H' then some .home
  else if c = 'F' then some .endKey
  else none

/-- The key named by a number, in sequences that end with a tilde. -/
def numberedKey? (n : Int) : Option Key :=
  if n = 1 ∨ n = 7 then some .home
  else if n = 2 then some .insert
  else if n = 3 then some .delete
  else if n = 4 ∨ n = 8 then some .endKey
  else if n = 5 then some .pageUp
  else if n = 6 then some .pageDown
  else none

/-- The characters of the parameters of a sequence. -/
def isParameter (c : Char) : Bool :=
  isDigit c || c = ';'

/-- The key of a control sequence. Modifiers follow a semicolon and do not matter. -/
def controlSequenceKey (parameters : List Char) (final : Char) : Except NumeralError (Option Key) :=
  match finalKey? final with
  | some k => .ok (some k)
  | none =>
    let head := parameters.takeWhile (· ≠ ';')
    if final ≠ '~' ∨ head.isEmpty then .ok none else (parseInt head).map numberedKey?

/-- The key of the sequence that an escape character begins, and the number of characters that the
sequence takes after it. -/
def escapeSequence : List Char → Except NumeralError (Option Key × Nat)
  | '[' :: rest =>
    let parameters := rest.takeWhile isParameter
    match rest.drop parameters.length with
    -- the text ends before the sequence does, so that none has begun
    | [] => .ok (some .escape, 0)
    | final :: _ => (controlSequenceKey parameters final).map (·, parameters.length + 2)
  | 'O' :: final :: _ => .ok (finalKey? final, 2)
  | _ => .ok (some .escape, 0)

/-- The keys of a text, after `skip` characters that belong to a sequence. -/
def keysFrom : (skip : Nat) → List Char → Except NumeralError (List Key)
  | _, [] => .ok []
  | skip + 1, _ :: rest => keysFrom skip rest
  | 0, c :: rest =>
    if c = escapeChar then
      match escapeSequence rest with
      | .error e => .error e
      | .ok (key, used) => (keysFrom used rest).map (key.toList ++ ·)
    else (keysFrom 0 rest).map (plainKey c :: ·)

/-- The keys of a text read from the terminal. -/
def decodeKeys (text : List Char) : Except NumeralError (List Key) :=
  keysFrom 0 text

end WorkspaceDesk.Terminal

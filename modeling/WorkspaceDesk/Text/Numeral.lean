import WorkspaceDesk.Text.Blank
import WorkspaceDesk.Text.Digit
import WorkspaceDesk.Text.Quoted

/-!
# Whole numbers in texts

A numeral is an optional sign and decimal digits of any script, with single underscores between
digits allowed and blanks around it ignored.
-/

namespace WorkspaceDesk.Text

/-- Numerals with more digits than this are refused. -/
def maxDigits : Nat := 4300

/-- Why a text is no whole number. -/
inductive NumeralError where
  /-- The text does not have the form of a numeral. -/
  | malformed (text : List Char)
  /-- The numeral has more than `maxDigits` digits. -/
  | tooLong (digits : Nat)
deriving DecidableEq, Repr

/-- The wording of the refusal of a long numeral. -/
def tooLongMessage (digits : Nat) : String :=
  "Exceeds the limit (" ++ toString maxDigits ++ " digits) for integer string conversion: value has "
    ++ toString digits ++ " digits; use sys.set_int_max_str_digits() to increase the limit"

/-- The wording of an error; of a malformed text the first two hundred quoted characters are
shown. -/
def NumeralError.message : NumeralError → String
  | .malformed text =>
    "invalid literal for int() with base 10: " ++ String.ofList ((quotedChars text).take 200)
  | .tooLong digits => tooLongMessage digits

/-- A blank that may stand around a numeral: white space other than the four separators of
information. -/
def isNumeralBlank (c : Char) : Bool :=
  isBlank c && !(0x1c ≤ c.toNat && c.toNat ≤ 0x1f)

/-- The number with the given decimal digits, the highest first. -/
def ofDigits (digits : List Nat) : Nat :=
  digits.foldl (fun n d => 10 * n + d) 0

/-- A digit run: the values of the digits in order, and what follows them. There is none when an
underscore does not stand between two digits; `afterDigit` says whether a digit came just before. -/
def digitRun? : (afterDigit : Bool) → List Char → Option (List Nat × List Char)
  | _, [] => some ([], [])
  | afterDigit, c :: rest =>
    match decimalValue? c with
    | some d => (digitRun? true rest).map fun r => (d :: r.1, r.2)
    | none =>
      if c = '_' then
        if afterDigit && (rest.head?.bind decimalValue?).isSome then digitRun? false rest else none
      else some ([], c :: rest)

/-- The sign of a numeral, true for minus, and the rest. -/
def splitSign : List Char → Bool × List Char
  | '+' :: rest => (false, rest)
  | '-' :: rest => (true, rest)
  | s => (false, s)

/-- Applies a sign to a magnitude. -/
def signed (negative : Bool) (n : Nat) : Int :=
  if negative then -(n : Int) else n

/-- The whole number that a text stands for. A digit run that is too long is refused before what
follows it is looked at. -/
def parseInt (text : List Char) : Except NumeralError Int :=
  let (negative, body) := splitSign (text.dropWhile isNumeralBlank)
  match digitRun? false body with
  | none => .error (.malformed text)
  | some (digits, rest) =>
    if digits.isEmpty then .error (.malformed text)
    else if maxDigits < digits.length then .error (.tooLong digits.length)
    else if rest.all isNumeralBlank then .ok (signed negative (ofDigits digits))
    else .error (.malformed text)

end WorkspaceDesk.Text

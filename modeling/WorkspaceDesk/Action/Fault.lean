import WorkspaceDesk.Text.Numeral
import WorkspaceDesk.Text.Printable

/-!
# Faults in the arguments of actions

What can be wrong with the way in which the arguments of an action are written, in words. A fault
concerns the tokens, the quoted texts or the order in which tokens stand.
-/

namespace WorkspaceDesk.Action

open Text

/-- How a number is written. -/
inductive Radix where
  | binary
  | octal
  | decimal
  | hexadecimal
  /-- The number ends in the letter of the imaginary unit. -/
  | imaginary
deriving DecidableEq, Repr

/-- What numbers of a kind are called. -/
def Radix.name : Radix → String
  | .binary => "binary"
  | .octal => "octal"
  | .decimal => "decimal"
  | .hexadecimal => "hexadecimal"
  | .imaginary => "imaginary"

/-- What is wrong with an escape in a quoted text. -/
inductive EscapeProblem where
  /-- Fewer digits than the letter after the backslash asks for. -/
  | truncated (letter : Char) (digits : Nat)
  /-- A number beyond the last code point. -/
  | notACharacter
  /-- A character name without its braces. -/
  | malformedName
  /-- A name that no character has. -/
  | unknownName
deriving DecidableEq, Repr

/-- The wording of an escape's problem. -/
def EscapeProblem.message : EscapeProblem → String
  | .truncated letter digits =>
    String.ofList ("truncated \\".toList ++ letter :: List.replicate digits 'X' ++ " escape".toList)
  | .notACharacter => "illegal Unicode character"
  | .malformedName => "malformed \\N character escape"
  | .unknownName => "unknown Unicode character name"

/-- What is wrong with a formatted text. -/
inductive FormatProblem where
  /-- A closing brace outside the fields. -/
  | singleBrace
  /-- A field without its closing brace. -/
  | unclosed
  | backslash
  | comment
  /-- A quoted text in a field without its closing quote. -/
  | unterminated
  /-- A bracket without the other one of its pair. -/
  | unmatched (bracket : Char)
  | mismatched (close : Char) (opening : Char)
  | tooManyBrackets
  /-- A field without an expression. -/
  | empty
  /-- A field without an expression before a sign. -/
  | required (sign : Char)
  | conversion
  /-- A field in a field of a field. -/
  | tooDeep
deriving DecidableEq, Repr

/-- The wording of a problem of a formatted text. -/
def FormatProblem.message : FormatProblem → String
  | .singleBrace => "f-string: single '\x7d' is not allowed"
  | .unclosed => "f-string: expecting '\x7d'"
  | .backslash => "f-string expression part cannot include a backslash"
  | .comment => "f-string expression part cannot include '#'"
  | .unterminated => "f-string: unterminated string"
  | .unmatched bracket => "f-string: unmatched '" ++ bracket.toString ++ "'"
  | .mismatched close opening =>
    "f-string: closing parenthesis '" ++ close.toString ++ "' does not match opening parenthesis '"
      ++ opening.toString ++ "'"
  | .tooManyBrackets => "f-string: too many nested parenthesis"
  | .empty => "f-string: empty expression not allowed"
  | .required sign => "f-string: expression required before '" ++ sign.toString ++ "'"
  | .conversion => "f-string: invalid conversion character: expected 's', 'r', or 'a'"
  | .tooDeep => "f-string: expressions nested too deeply"

/-- What is wrong with the way in which arguments are written. -/
inductive Fault where
  /-- A quoted text without its closing quote or quotes, noticed in a line. -/
  | unterminated (triple : Bool) (line : Nat)
  /-- A number with a character that does not belong to it. -/
  | invalidNumber (radix : Radix)
  /-- A number with a decimal digit that its radix does not have. -/
  | invalidDigit (digit : Char) (radix : Radix)
  | leadingZeros
  | invalidCharacter (c : Char)
  /-- A closing bracket where none is open. -/
  | unmatched (close : Char)
  /-- A closing bracket of another kind than the open one, whose line is given if it is another. -/
  | mismatched (close : Char) (opening : Char) (line : Option Nat)
  | tooManyBrackets
  /-- A backslash that is not the last character of its line. -/
  | strayBackslash
  | neverClosed (bracket : Char)
  /-- A bad escape and the place that it takes in its text, both ends included. -/
  | escape (problem : EscapeProblem) (first : Nat) (last : Nat)
  /-- A bad escape in a text of bytes and its place. -/
  | byteEscape (position : Nat)
  /-- A text of bytes with a character that is no byte. -/
  | wideBytes
  /-- Texts of bytes and of characters side by side. -/
  | mixedTexts
  /-- A token at a place where it cannot stand. -/
  | unexpected
  | unexpectedIndent
  | forgottenComma
  | missingElse
  /-- A statement that is written like a call without its brackets. -/
  | missingBrackets (command : String)
  /-- A single equals sign between two values, the first of which is a name. -/
  | singleEquals
  /-- A single equals sign behind something that cannot be assigned to. -/
  | cannotAssignHere (target : String)
  | cannotAssign (target : String)
  | cannotName (target : String)
  | starredGroup
  | doubleStarredGroup
  | starredComprehension
  | doubleStarredComprehension
  | bareComprehensionTarget
  | missingValue
  | starredValue
  | missingColon
  | equalsInArgument
  | bareGenerator
  | positionalAfterKeyword (unpacking : Bool)
  | iterableAfterMapping
  | bracketedParameters
  | format (problem : FormatProblem)
  /-- A fault in an expression of a formatted text. -/
  | inField (f : Fault)
  /-- A whole number with too many digits. -/
  | numberTooLong (digits : Nat)
deriving DecidableEq, Repr

/-- The code point of a character in at least four digits. -/
def codePointText (c : Char) : String :=
  let digits := (Nat.toDigits 16 c.toNat).map Char.toUpper
  "U+" ++ String.ofList (List.replicate (4 - digits.length) '0' ++ digits)

/-- The wording of a fault. -/
def Fault.message : Fault → String
  | .unterminated false line =>
    "unterminated string literal (detected at line " ++ toString line ++ ")"
  | .unterminated true line =>
    "unterminated triple-quoted string literal (detected at line " ++ toString line ++ ")"
  | .invalidNumber radix => "invalid " ++ radix.name ++ " literal"
  | .invalidDigit digit radix =>
    "invalid digit '" ++ digit.toString ++ "' in " ++ radix.name ++ " literal"
  | .leadingZeros =>
    "leading zeros in decimal integer literals are not permitted; "
      ++ "use an 0o prefix for octal integers"
  | .invalidCharacter c =>
    if isPrintable c then
      "invalid character '" ++ c.toString ++ "' (" ++ codePointText c ++ ")"
    else "invalid non-printable character " ++ codePointText c
  | .unmatched close => "unmatched '" ++ close.toString ++ "'"
  | .mismatched close opening line =>
    "closing parenthesis '" ++ close.toString ++ "' does not match opening parenthesis '"
      ++ opening.toString ++ "'"
      ++ match line with
        | some n => " on line " ++ toString n
        | none => ""
  | .tooManyBrackets => "too many nested parentheses"
  | .strayBackslash => "unexpected character after line continuation character"
  | .neverClosed bracket => "'" ++ bracket.toString ++ "' was never closed"
  | .escape problem first last =>
    "(unicode error) 'unicodeescape' codec can't decode bytes in position " ++ toString first ++ "-"
      ++ toString last ++ ": " ++ problem.message
  | .byteEscape position => "(value error) invalid \\x escape at position " ++ toString position
  | .wideBytes => "bytes can only contain ASCII literal characters"
  | .mixedTexts => "cannot mix bytes and nonbytes literals"
  | .unexpected => "invalid syntax"
  | .unexpectedIndent => "unexpected indent"
  | .forgottenComma => "invalid syntax. Perhaps you forgot a comma?"
  | .missingElse => "expected 'else' after 'if' expression"
  | .missingBrackets command =>
    "Missing parentheses in call to '" ++ command ++ "'. Did you mean " ++ command ++ "(...)?"
  | .singleEquals => "invalid syntax. Maybe you meant '==' or ':=' instead of '='?"
  | .cannotAssignHere target =>
    "cannot assign to " ++ target ++ " here. Maybe you meant '==' instead of '='?"
  | .cannotAssign target => "cannot assign to " ++ target
  | .cannotName target => "cannot use assignment expressions with " ++ target
  | .starredGroup => "cannot use starred expression here"
  | .doubleStarredGroup => "cannot use double starred expression here"
  | .starredComprehension => "iterable unpacking cannot be used in comprehension"
  | .doubleStarredComprehension => "dict unpacking cannot be used in dict comprehension"
  | .bareComprehensionTarget => "did you forget parentheses around the comprehension target?"
  | .missingValue => "expression expected after dictionary key and ':'"
  | .starredValue => "cannot use a starred expression in a dictionary value"
  | .missingColon => "':' expected after dictionary key"
  | .equalsInArgument => "expression cannot contain assignment, perhaps you meant \"==\"?"
  | .bareGenerator => "Generator expression must be parenthesized"
  | .positionalAfterKeyword false => "positional argument follows keyword argument"
  | .positionalAfterKeyword true => "positional argument follows keyword argument unpacking"
  | .iterableAfterMapping =>
    "iterable argument unpacking follows keyword argument unpacking"
  | .bracketedParameters => "Lambda expression parameters cannot be parenthesized"
  | .format problem => problem.message
  | .inField f => "f-string: " ++ f.message
  | .numberTooLong digits =>
    tooLongMessage digits
      ++ " - Consider hexadecimal for huge integer literals to avoid decimal conversion limits."

end WorkspaceDesk.Action

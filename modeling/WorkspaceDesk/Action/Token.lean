import WorkspaceDesk.Action.Fault
import WorkspaceDesk.Text.NameChar

/-!
# Tokens of arguments

The arguments of an action are written with names, numbers, quoted texts, brackets and signs.
`tokens` splits a text into them. Within brackets line ends are blanks; outside a line end is a
token of its own. The last token says how the text ends.
-/

namespace WorkspaceDesk.Action

open Text

/-- A bracket that is open, and its line. -/
structure Opened where
  bracket : Char
  line : Nat
deriving DecidableEq, Repr

/-- A quoted text as it is written: what its letters before the quote ask for, and what stands
between the quotes. -/
structure QuotedText where
  /-- A text of bytes. -/
  bytes : Bool
  /-- Backslashes stand for themselves. -/
  raw : Bool
  /-- Expressions stand in braces within the text. -/
  formatted : Bool
  body : List Char
deriving DecidableEq, Repr

/-- A place behind which no token can be read. -/
structure Stop where
  fault : Fault
  /-- The innermost bracket that is open there. -/
  opened : Option Opened
  /-- The place is reported even if the tokens before it do not fit together. -/
  decisive : Bool
deriving DecidableEq, Repr

/-- What a token is. -/
inductive Kind where
  | name (text : List Char)
  /-- A number. Of a decimal whole number other than zero the digits are counted. -/
  | number (imaginary : Bool) (digits : Nat)
  | text (t : QuotedText)
  /-- A sign, a bracket or a reserved word. -/
  | mark (text : String)
  | lineEnd
  /-- Blanks at the head of a line. -/
  | indent
  | finish
  /-- A place behind which nothing can be read. -/
  | stop (s : Stop)
deriving DecidableEq, Repr

/-- A token and its line. -/
structure Token where
  kind : Kind
  line : Nat
deriving DecidableEq, Repr

/-- The words that are no names. -/
def reservedWords : List String :=
  ["False", "None", "True", "and", "as", "assert", "async", "await", "break", "class", "continue",
    "def", "del", "elif", "else", "except", "finally", "for", "from", "global", "if", "import", "in",
    "is", "lambda", "nonlocal", "not", "or", "pass", "raise", "return", "try", "while", "with",
    "yield"]

/-- The signs of more than one character, the longest first. -/
def longSigns : List String :=
  ["**=", "//=", ">>=", "<<=", "...", "!=", "%=", "&=", "**", "*=", "+=", "-=", "->", "//", "/=",
    ":=", "<<", "<=", "<>", "==", ">=", ">>", "@=", "^=", "|="]

/-- How many brackets may be open. -/
def maxBrackets : Nat := 200

/-- The character looks like one of a name: a letter, a digit or an underscore of ASCII, or any
character beyond ASCII. -/
def looksNamed (c : Char) : Bool :=
  c.isAlphanum || c = '_' || 0x80 ≤ c.toNat

/-! ## Names -/

/-- The first character of a text that no name has at its place. -/
def badNameChar? : List Char → Option Char
  | [] => none
  | c :: rest => if beginsName c then rest.find? (!continuesName ·) else some c

/-- The name at the head of a text and its length. -/
def nameAt (s : List Char) : Except Fault (Kind × Nat) :=
  let word := s.takeWhile looksNamed
  match badNameChar? word with
  | some c => .error (.invalidCharacter c)
  | none =>
    if reservedWords.contains (String.ofList word) then
      .ok (.mark (String.ofList word), word.length)
    else .ok (.name word, word.length)

/-! ## Numbers -/

/-- The decimal digits. -/
def isPlainDigit (c : Char) : Bool :=
  '0' ≤ c && c ≤ '9'

/-- The fault of a character where a digit should stand. -/
def digitFault (radix : Radix) (c : Char) : Fault :=
  if radix ≠ .hexadecimal && isPlainDigit c then .invalidDigit c radix else .invalidNumber radix

/-- The text behind the digits at its head; a single underscore may stand before each digit. -/
def afterDigits (radix : Radix) (isDigit : Char → Bool) : List Char → Except Fault (List Char)
  | [] => .ok []
  | '_' :: [] => .error (.invalidNumber radix)
  | '_' :: c :: rest =>
    if isDigit c then afterDigits radix isDigit rest else .error (digitFault radix c)
  | c :: rest => if isDigit c then afterDigits radix isDigit rest else .ok (c :: rest)

/-- The words that may follow a number without a blank: what is left of them behind the first
letter. -/
def wordsBehindNumber : List (Char × String) :=
  [('a', "nd"), ('e', "lse"), ('f', "or"), ('o', "r"), ('n', "ot")]

/-- One of the words that may follow a number stands at the head of a text. -/
def wordBehindNumber (s : List Char) : Bool :=
  match s with
  | 'i' :: c :: _ => c = 'f' || c = 'n' || c = 's'
  | c :: rest => wordsBehindNumber.any fun w =>
      c = w.1 && w.2.toList.isPrefixOf rest && !(rest.drop w.2.length).head?.any looksNamed
  | [] => false

/-- A number ends before a text: the text does not begin like a name of ASCII characters, save with
a reserved word. -/
def endNumber (radix : Radix) (s : List Char) : Except Fault Unit :=
  if s.head?.any (fun c => looksNamed c && c.toNat < 0x80) && !wordBehindNumber s then
    .error (.invalidNumber radix)
  else .ok ()

/-- Where a number ends: whether it is imaginary, and the text behind it. -/
abbrev NumberEnd := Except Fault (Bool × List Char)

/-- The number with the given radix ends before a text. -/
def endBefore (radix : Radix) (s : List Char) : NumberEnd :=
  (endNumber radix s).map fun _ => (decide (radix = .imaginary), s)

/-- What may follow the digits of a number: the imaginary unit. -/
def afterReal (s : List Char) : NumberEnd :=
  match s with
  | c :: rest => if c = 'j' || c = 'J' then endBefore .imaginary rest else endBefore .decimal s
  | [] => endBefore .decimal []

/-- What may follow the digits before an exponent. An exponent without digits and sign is none. -/
def afterFraction (s : List Char) : NumberEnd :=
  match s with
  | e :: rest =>
    if e = 'e' || e = 'E' then
      match rest with
      | sign :: more =>
        if sign = '+' || sign = '-' then
          if more.head?.any isPlainDigit then (afterDigits .decimal isPlainDigit more).bind afterReal
          else .error (.invalidNumber .decimal)
        else if isPlainDigit sign then (afterDigits .decimal isPlainDigit rest).bind afterReal
        else endBefore .decimal s
      | [] => endBefore .decimal s
    else afterReal s
  | [] => endBefore .decimal []

/-- What may follow the whole part of a number: a point and further digits. -/
def afterWhole (s : List Char) : NumberEnd :=
  match s with
  | '.' :: rest =>
    if rest.head?.any isPlainDigit then (afterDigits .decimal isPlainDigit rest).bind afterFraction
    else afterFraction rest
  | _ => afterFraction s

/-- The digits of a number with a radix mark, which is already read. -/
def afterRadix (radix : Radix) (isDigit : Char → Bool) (s : List Char) : NumberEnd :=
  let behind :=
    match s with
    | '_' :: _ => afterDigits radix isDigit s
    | c :: _ => if isDigit c then afterDigits radix isDigit s else .error (digitFault radix c)
    | [] => .error (.invalidNumber radix)
  behind.bind fun rest =>
    match rest with
    | c :: _ => if isPlainDigit c then .error (digitFault radix c) else endBefore radix rest
    | [] => endBefore radix []

/-- The digits of a number that starts with a zero. Other digits than zeros may not follow, unless a
point, an exponent or the imaginary unit comes behind them. -/
def afterZero (s : List Char) : NumberEnd :=
  (afterDigits .decimal isPlainDigit s).bind fun rest =>
    if (s.take (s.length - rest.length)).any (fun c => isPlainDigit c && c ≠ '0')
        && !rest.head?.any (['.', 'e', 'E', 'j', 'J'].contains ·) then
      .error .leadingZeros
    else afterWhole rest

/-- The text behind the number at the head of a text. -/
def afterNumber (s : List Char) : NumberEnd :=
  match s with
  | '0' :: c :: rest =>
    if c = 'x' || c = 'X' then afterRadix .hexadecimal (fun c => (hexValue? c).isSome) rest
    else if c = 'o' || c = 'O' then afterRadix .octal (fun c => '0' ≤ c && c ≤ '7') rest
    else if c = 'b' || c = 'B' then afterRadix .binary (fun c => c = '0' || c = '1') rest
    else afterZero (c :: rest)
  | '.' :: rest => (afterDigits .decimal isPlainDigit rest).bind afterFraction
  | _ => (afterDigits .decimal isPlainDigit s).bind afterWhole

/-- The number of digits of a decimal whole number; other numbers and zero have none. -/
def wholeDigits (written : List Char) : Nat :=
  if written.head? ≠ some '0' && written.all (fun c => isPlainDigit c || c = '_') then
    written.countP isPlainDigit
  else 0

/-- The number at the head of a text and its length. -/
def numberAt (s : List Char) : Except Fault (Kind × Nat) :=
  (afterNumber s).map fun r =>
    let length := s.length - r.2.length
    (.number r.1 (wholeDigits (s.take length)), length)

/-! ## Quoted texts -/

/-- What stands before the closing quote, or the line in which it is missed. -/
def singleBody (quote : Char) : (line : Nat) → List Char → Except Nat (List Char)
  | line, [] => .error line
  | line, '\\' :: c :: rest =>
    (singleBody quote (if c = '\n' then line + 1 else line) rest).map ('\\' :: c :: ·)
  | line, c :: rest =>
    if c = quote then .ok []
    else if c = '\n' then .error line
    else (singleBody quote line rest).map (c :: ·)

/-- What stands before three closing quotes, or the line in which they are missed. -/
def tripleBody (quote : Char) : (line : Nat) → List Char → Except Nat (List Char)
  | line, [] => .error line
  | line, '\\' :: c :: rest =>
    (tripleBody quote (if c = '\n' then line + 1 else line) rest).map ('\\' :: c :: ·)
  | line, c :: rest =>
    if c = quote && rest.take 2 = [quote, quote] then .ok []
    else (tripleBody quote (if c = '\n' then line + 1 else line) rest).map (c :: ·)

/-- The body of the quoted text whose opening quote is read, and the number of its quotes. -/
def quotedBody (quote : Char) (line : Nat) (s : List Char) : Except Fault (List Char × Nat) :=
  if s.take 2 = [quote, quote] then
    match tripleBody quote line (s.drop 2) with
    | .ok body => .ok (body, 6)
    | .error l => .error (.unterminated true l)
  else
    match singleBody quote line s with
    | .ok body => .ok (body, 2)
    | .error l => .error (.unterminated false l)

/-- The letters before the quote of a text of a kind, in small letters. -/
def quoteLetters : List String :=
  ["b", "r", "u", "f", "br", "rb", "fr", "rf"]

/-- The letters before the quote at the head of a text, if it begins a quoted text. -/
def lettersBeforeQuote? (s : List Char) : Option (List Char) :=
  let letters := s.takeWhile Char.isAlpha
  let small := letters.map Char.toLower
  if (s.drop letters.length).head?.any (fun c => c = '\'' || c = '"')
      && (small.isEmpty || quoteLetters.contains (String.ofList small)) then some small
  else none

/-- The quoted text at the head of a text, which has the given letters before its quote, and its
length. -/
def quotedAt (letters : List Char) (line : Nat) (s : List Char) : Except Fault (Kind × Nat) :=
  match s.drop letters.length with
  | quote :: rest =>
    (quotedBody quote line rest).map fun (body, quotes) =>
      (.text ⟨letters.contains 'b', letters.contains 'r', letters.contains 'f', body⟩,
        letters.length + body.length + quotes)
  | [] => .error (.unterminated false line)

/-! ## Signs and whole texts -/

/-- The sign at the head of a text and its length. -/
def signAt (s : List Char) : Except Fault (Kind × Nat) :=
  match longSigns.find? (·.toList.isPrefixOf s), s with
  | some sign, _ => .ok (.mark sign, sign.length)
  | none, c :: _ =>
    if isPrintable c then .ok (.mark c.toString, 1) else .error (.invalidCharacter c)
  | none, [] => .ok (.finish, 0)

/-- The token at the head of a text and its length. -/
def tokenAt (line : Nat) (s : List Char) : Except Fault (Kind × Nat) :=
  match lettersBeforeQuote? s, s with
  | some letters, _ => quotedAt letters line s
  | none, c :: rest =>
    if isPlainDigit c || (c = '.' && rest.head?.any isPlainDigit) then numberAt s
    else if looksNamed c then nameAt s
    else signAt s
  | none, [] => .ok (.finish, 0)

/-- The bracket that closes an opening one. -/
def closing? : Char → Option Char
  | '(' => some ')'
  | '{' => some '}'
  | '[' => some ']'
  | _ => none

/-- The brackets that are open behind a character. -/
def bracketsBehind (line : Nat) (opened : List Opened) (c : Char) : Except Fault (List Opened) :=
  if (closing? c).isSome then
    if opened.length < maxBrackets then .ok (⟨c, line⟩ :: opened) else .error .tooManyBrackets
  else if c = ')' || c = '}' || c = ']' then
    match opened with
    | [] => .error (.unmatched c)
    | o :: others =>
      if closing? o.bracket = some c then .ok others
      else .error (.mismatched c o.bracket (if o.line = line then none else some o.line))
  else .ok opened

/-- Where in its line a character stands: at its head, behind blanks at its head, or further on. -/
inductive LinePart where
  | head
  | indented
  | inner
deriving DecidableEq, Repr

/-- How a text ends with the given brackets open. -/
def endTokens (line : Nat) : List Opened → List Token
  | [] => [⟨.lineEnd, line⟩, ⟨.finish, line⟩]
  | o :: _ => [⟨.stop ⟨.neverClosed o.bracket, some o, false⟩, line⟩]

/-- The tokens of a text from a place on. Characters that belong to a token are skipped. -/
def tokensFrom : (skip : Nat) → (line : Nat) → (opened : List Opened) → LinePart → List Char →
    List Token
  | _, line, opened, _, [] => endTokens line opened
  | skip + 1, line, opened, part, c :: rest =>
    tokensFrom skip (if c = '\n' then line + 1 else line) opened part rest
  | 0, line, opened, part, c :: rest =>
    if c = '\n' then
      let more := tokensFrom 0 (line + 1) opened .head rest
      -- a line without tokens, or within brackets, does not end a line of the language
      if opened.isEmpty && part = .inner then ⟨.lineEnd, line⟩ :: more else more
    else if c = ' ' || c = '\t' then
      tokensFrom 0 line opened (if part = .inner then .inner else .indented) rest
    else if c = '\x0c' then tokensFrom 0 line opened (if part = .inner then .inner else .head) rest
    else if c = '#' then
      tokensFrom (rest.takeWhile (· ≠ '\n')).length line opened part rest
    else if c = '\\' then
      if rest.head? = some '\n' then tokensFrom 1 line opened part rest
      else [⟨.stop ⟨.strayBackslash, opened.head?, false⟩, line⟩]
    else
      -- the first token of a line that is indented
      let indent := if opened.isEmpty && part = .indented then [⟨.indent, line⟩] else []
      match tokenAt line (c :: rest), bracketsBehind line opened c with
      | .ok (kind, length), .ok opened' =>
        indent ++ ⟨kind, line⟩ :: tokensFrom (length - 1) line opened' .inner rest
      | .error f, _ | _, .error f => indent ++ [⟨.stop ⟨f, opened.head?, true⟩, line⟩]

/-- Every line end as a single line feed. -/
def plainLineEnds : List Char → List Char
  | [] => []
  | '\r' :: '\n' :: rest => '\n' :: plainLineEnds rest
  | '\r' :: rest => '\n' :: plainLineEnds rest
  | c :: rest => c :: plainLineEnds rest

/-- The tokens of a text. The last one is `finish` or `stop`. -/
def tokens (s : List Char) : List Token :=
  tokensFrom 0 1 [] .head (plainLineEnds s)

end WorkspaceDesk.Action

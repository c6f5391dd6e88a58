import WorkspaceDesk.Action.Escape

/-!
# Formatted texts

A formatted text holds replacement fields in braces: an expression, perhaps a conversion behind an
exclamation mark, and perhaps a format behind a colon, which may hold fields of its own. A doubled
brace is a brace of the text. Here such a text is taken apart; its expressions are read elsewhere.
-/

namespace WorkspaceDesk.Action

/-- Where in an escape a character of a text stands. -/
inductive EscapeState where
  | outside
  /-- Behind the backslash. -/
  | letter
  /-- Behind the letter of an escape by name. -/
  | brace
  /-- Within the braces of an escape by name. -/
  | name
deriving DecidableEq, Repr

/-- Where the next character stands. -/
def EscapeState.next (raw : Bool) (e : EscapeState) (c : Char) : EscapeState :=
  match e with
  | .outside => if c = '\\' && !raw then .letter else .outside
  | .letter => if c = 'N' then .brace else .outside
  | .brace => if c = '{' then .name else .outside
  | .name => if c = '}' then .outside else .name

/-- What stands before the first field of a text, and the rest. The text up to a doubled brace ends
with one of the two; the flag says so. Braces are doubled in the outermost text only. -/
def literalPart (raw outermost : Bool) :
    EscapeState → List Char → Except FormatProblem (List Char × Bool × List Char)
  | _, [] => .ok ([], false, [])
  | e, c :: rest =>
    if (e = .outside || e = .letter) && (c = '{' || c = '}') then
      if outermost && rest.head? = some c then .ok ([c], true, rest.drop 1)
      else if outermost && c = '}' then .error .singleBrace
      else .ok ([], false, c :: rest)
    else (literalPart raw outermost (e.next raw c) rest).map fun r => (c :: r.1, r.2)

/-- A quoted text within an expression: its quote, and whether it is written three times. -/
structure InnerQuote where
  quote : Char
  triple : Bool
deriving DecidableEq, Repr

/-- The signs of two characters, the first of which alone could end an expression. -/
def doubleSigns : List (Char × Char) :=
  [('!', '='), ('=', '='), ('<', '='), ('>', '=')]

/-- The expression at the head of a field, and the rest from the sign that ends it. Characters that
belong to a sign or quote are skipped. -/
def fieldExpression : (skip : Nat) → Option InnerQuote → (opened : List Char) → List Char →
    Except FormatProblem (List Char × List Char)
  | _, some _, _, [] => .error .unterminated
  | _, none, o :: _, [] => .error (.unmatched o)
  | _, none, [], [] => .error .unclosed
  | skip + 1, inner, opened, c :: rest =>
    (fieldExpression skip inner opened rest).map fun r => (c :: r.1, r.2)
  | 0, inner, opened, c :: rest =>
    let goOn (skip : Nat) (inner : Option InnerQuote) (opened : List Char) :=
      (fieldExpression skip inner opened rest).map fun r => (c :: r.1, r.2)
    if c = '\\' then .error .backslash
    else
      match inner with
      | some q =>
        if c ≠ q.quote then goOn 0 inner opened
        else if !q.triple then goOn 0 none opened
        else if rest.take 2 = [c, c] then goOn 2 none opened
        else goOn 0 inner opened
      | none =>
        if c = '\'' || c = '"' then
          if rest.take 2 = [c, c] then goOn 2 (some ⟨c, true⟩) opened
          else goOn 0 (some ⟨c, false⟩) opened
        else if (closing? c).isSome then
          if opened.length < maxBrackets then goOn 0 none (c :: opened) else .error .tooManyBrackets
        else if c = '#' then .error .comment
        else if opened.isEmpty && ['!', ':', '}', '=', '<', '>'].contains c then
          if doubleSigns.any fun s => s.1 = c && rest.head? = some s.2 then goOn 1 none opened
          else if c = '<' || c = '>' then goOn 0 none opened
          else .ok ([], c :: rest)
        else if c = ')' || c = '}' || c = ']' then
          match opened with
          | [] => .error (.unmatched c)
          | o :: others =>
            if closing? o = some c then goOn 0 none others else .error (.mismatched c o)
        else goOn 0 none opened

/-- The fault of an expression that is nothing but blanks and ends with a sign. -/
def blankField? (expression : List Char) (sign : Option Char) : Option FormatProblem :=
  if expression.all fun c => c = ' ' || c = '\t' || c = '\n' || c = '\x0c' then
    match sign with
    | some c => some (if c = '}' then .empty else .required c)
    | none => some .empty
  else none

/-- The blanks that may follow an equals sign in a field. -/
def isFieldBlank (c : Char) : Bool :=
  c = ' ' || (0x09 ≤ c.toNat && c.toNat ≤ 0x0d)

/-- What stands behind the equals sign and the conversion at the head of a text. -/
def afterConversion (s : List Char) : Except FormatProblem (List Char) :=
  let behindSign := if s.head? = some '=' then (s.drop 1).dropWhile isFieldBlank else s
  match behindSign with
  | [] | ['!'] => .error .unclosed
  | '!' :: c :: rest =>
    if !(['s', 'r', 'a'].contains c) then .error .conversion
    else if rest.isEmpty then .error .unclosed
    else .ok rest
  | _ => .ok behindSign

end WorkspaceDesk.Action

import WorkspaceDesk.Action.Expression

/-!
# The meaning of arguments

A text is read as one expression or several with commas between them.
-/

namespace WorkspaceDesk.Action

/-- The further expressions of a text behind a comma, if there is one. -/
def furtherExpressions : (budget : Nat) → Reader (Option (List Meaning))
  | 0 => fail .unexpected
  | budget + 1 => do
    if ← accept "," then
      if (← peek).beginsExpression then
        let p ← expression false (budget + 1)
        return some (p.meaning :: ((← furtherExpressions budget).getD []))
      return some []
    return none

/-- The end of a text: nothing but line ends. -/
def ending : (budget : Nat) → Reader Unit
  | 0 => fail .unexpected
  | budget + 1 => do
    match ← peek with
    | .lineEnd =>
      advance
      ending budget
    | .finish => return
    | .indent => fail .unexpectedIndent
    | _ => fail .unexpected

/-- A text that is one expression, or several with commas between them. -/
def wholeText (budget : Nat) : Reader Meaning := do
  let first ← expression false budget
  let others ← furtherExpressions budget
  ending budget
  return match others with
    | none => first.meaning
    | some rest => Meaning.tuple (first.meaning :: rest)

/-- The budget that is enough for a number of characters. -/
def budgetFor (count : Nat) : Nat :=
  16 * count + 64

/-- The meaning of a text. -/
def meaning (s : List Char) : Except Fault Meaning :=
  readTokens (tokens s) (wholeText (budgetFor s.length))

end WorkspaceDesk.Action

import WorkspaceDesk.Action.Literal
import WorkspaceDesk.Action.Token

/-!
# Parts of expressions

What is known of an expression once it has been read: its form, its meaning as a literal and how
tightly it holds together; and which tokens may begin an expression or join two of them.
-/

namespace WorkspaceDesk.Action

/-- What an expression is, in the words of the faults. -/
inductive Form where
  | name
  | attribute
  | call
  | operation
  | comparison
  | conditional
  | lambda
  | named
  | yielded
  | awaited
  | generator
  | tuple
  | set
  | setComprehension
  | dictionary
  | dictionaryComprehension
  | formattedText
  | ellipsis
  | constant (word : String)
  | literal
  | starred
deriving DecidableEq, Repr

/-- What a form is called. -/
def Form.description : Form → String
  | .name => "name"
  | .attribute => "attribute"
  | .call => "function call"
  | .operation => "expression"
  | .comparison => "comparison"
  | .conditional => "conditional expression"
  | .lambda => "lambda"
  | .named => "named expression"
  | .yielded => "yield expression"
  | .awaited => "await expression"
  | .generator => "generator expression"
  | .tuple => "tuple"
  | .set => "set display"
  | .setComprehension => "set comprehension"
  | .dictionary => "dict literal"
  | .dictionaryComprehension => "dict comprehension"
  | .formattedText => "f-string expression"
  | .ellipsis => "ellipsis"
  | .constant word => word
  | .literal => "literal"
  | .starred => "starred"

/-- How tightly the parts of an expression hold together. -/
inductive Binding where
  /-- A single value, or an expression in brackets. -/
  | single
  | arithmetic
  | comparison
  | logic
  /-- A conditional expression or a function. -/
  | loosest
deriving DecidableEq, Repr

/-- The strength as a number, the tightest first. -/
def Binding.rank : Binding → Nat
  | .single => 0
  | .arithmetic => 1
  | .comparison => 2
  | .logic => 3
  | .loosest => 4

/-- An expression that has been read. -/
structure Part where
  form : Form
  meaning : Meaning
  binding : Binding
  /-- The name, if the expression is nothing but a name. -/
  bareName : Option (List Char)
  /-- The expression starts with a tuple, a generator or a constant, which nothing can be assigned
  to. -/
  startsFixed : Bool

/-- An expression without a literal value. -/
def Part.plain (form : Form) (binding : Binding) : Part :=
  ⟨form, .error .notLiteral, binding, none, false⟩

/-- An expression with a literal value. -/
def Part.literal (form : Form) (meaning : Meaning) (startsFixed : Bool) : Part :=
  ⟨form, meaning, .single, none, startsFixed⟩

/-- The expression in brackets. -/
def Part.bracketed (p : Part) : Part :=
  { p with binding := .single, bareName := none, startsFixed := false }

/-- A sign or word between two operands. -/
structure Operator where
  binding : Binding
  /-- A plus or minus. -/
  sums : Bool

/-- Two operands and the operator between them. -/
def Part.joined (p : Part) (o : Operator) (q : Part) : Part :=
  let binding := if p.binding.rank < o.binding.rank then o.binding else p.binding
  { form := if binding = .comparison then .comparison else .operation
    meaning := if o.sums then Meaning.sum p.meaning q.meaning else .error .notLiteral
    binding := binding
    bareName := none
    startsFixed := p.startsFixed }

/-- The signs of arithmetic. -/
def arithmeticSigns : List String :=
  ["|", "^", "&", "<<", ">>", "+", "-", "*", "/", "//", "%", "@", "**"]

/-- The signs and words of comparisons. -/
def comparisonSigns : List String :=
  ["==", "!=", "<", "<=", ">", ">=", "in", "is"]

/-- The marks with which an expression may begin. -/
def openingMarks : List String :=
  ["(", "\x7b", "-", "+", "~", "not", "lambda", "await", "True", "False", "None", "..."]

/-- An expression may begin with the token. -/
def Kind.beginsExpression : Kind → Bool
  | .name _ | .number _ _ | .text _ => true
  | .mark m => openingMarks.contains m
  | _ => false

/-- The words that are names and begin a statement. -/
def statementNames : List String := ["_", "case", "match"]

/-- The names behind which a comma is not missed: those that begin a statement, and those that look
like letters before a quoted text. -/
def startsOtherwise : List Token → Bool
  | ⟨.name n, _⟩ :: rest =>
    statementNames.contains (String.ofList n)
      || match rest with
        | ⟨.text _, _⟩ :: _ => true
        | _ => false
  | _ => false

/-- The command at the head of the tokens, if it was once written without brackets. -/
def oldCommand? : List Token → Option String
  | ⟨.name n, _⟩ :: _ => (some (String.ofList n)).filter fun n => n = "print" || n = "exec"
  | _ => none

end WorkspaceDesk.Action

import WorkspaceDesk.Action.Arguments
import WorkspaceDesk.Text.Blank
import WorkspaceDesk.Text.Quoted

/-!
# Parameters of actions

The parameters of an action are the name of a handler with arguments in round brackets, or the
arguments alone. The arguments have to be literal values; a handler without brackets has none.
-/

namespace WorkspaceDesk.Action

open Text

/-- What is wrong with the parameters of an action. -/
inductive Problem where
  /-- The arguments cannot be read. -/
  | misread (arguments : List Char) (f : Fault)
  /-- The arguments have no value. -/
  | worthless (d : Defect)
  | nullCharacter
deriving DecidableEq, Repr

/-- The wording of a problem with given parameters. -/
def Problem.message (parameters : List Char) (p : Problem) : String :=
  let shown := String.ofList (quotedChars parameters)
  match p with
  | .misread arguments f =>
    "error parsing " ++ String.ofList (quotedChars arguments) ++ " in " ++ shown ++ "; " ++ f.message
  | .worthless d => "error parsing " ++ shown ++ "; " ++ d.message
  | .nullCharacter =>
    "error parsing " ++ shown ++ "; source code string cannot contain null bytes"

/-- The character may stand in the name of a handler: points join names. -/
def isHandlerChar (c : Char) : Bool :=
  isWordChar c || c = '.'

/-- The arguments in the parameters of an action. What stands in the brackets behind a handler's
name has to be on one line; otherwise all of the parameters are the arguments. -/
def argumentsOf (parameters : List Char) : List Char :=
  let trimmed := trimBlank parameters
  let behind := trimmed.dropWhile isHandlerChar
  if behind.isEmpty then ['(', ')']
  else if behind.head? = some '(' && behind.getLast? = some ')' && !behind.contains '\n' then behind
  else trimmed

/-- What is wrong with parameters, if anything is. -/
def problem? (parameters : List Char) : Option Problem :=
  let arguments := argumentsOf parameters
  if arguments.contains '\x00' then some .nullCharacter
  else
    match meaning arguments with
    | .error f => some (.misread arguments f)
    | .ok (.error d) => some (.worthless d)
    | .ok (.ok _) => none

end WorkspaceDesk.Action

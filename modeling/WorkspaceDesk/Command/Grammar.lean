/-!
# Grammars of command lines

A grammar lists the options of a command and says what may stand beside them: nothing, a text, or a
further command with a grammar of its own.
-/

namespace WorkspaceDesk.Command

/-- What giving an option means. -/
inductive Effect where
  /-- The help is shown. -/
  | help
  /-- The version is shown. -/
  | version
  | flag
  /-- A text follows. -/
  | text
  /-- A whole number follows. -/
  | number
deriving DecidableEq, Repr

/-- The option comes with a value. -/
def Effect.takesValue : Effect → Bool
  | .text | .number => true
  | _ => false

/-- An option. -/
structure OptionRule where
  /-- The ways to write it. -/
  names : List String
  effect : Effect
  /-- What its value is called in help texts. -/
  valueName : String
  required : Bool
  about : String
deriving DecidableEq, Repr

namespace OptionRule

/-- All ways to write the option, as messages show it. -/
def title (r : OptionRule) : String :=
  String.intercalate "/" r.names

/-- A name of the option with the name of its value. -/
def form (r : OptionRule) (name : String) : String :=
  if r.effect.takesValue then name ++ " " ++ r.valueName else name

end OptionRule

/-- A command that can be chosen. -/
structure Choice where
  name : String
  aliases : List String
  about : String
deriving DecidableEq, Repr

/-- The names by which a command can be chosen. -/
def Choice.names (c : Choice) : List String :=
  c.name :: c.aliases

/-- What stands beside the options. -/
inductive Operand where
  | none
  /-- A text that may be left out. -/
  | text (name : String)
  /-- A command, which may be left out, and all that belongs to it. -/
  | command (name : String) (choices : List Choice)
deriving DecidableEq, Repr

/-- The names of the commands that can be chosen. -/
def choiceNames (choices : List Choice) : List String :=
  choices.flatMap Choice.names

/-- The command line of a command. -/
structure Grammar where
  /-- The words that lead to the command. -/
  program : String
  about : String
  options : List OptionRule
  /-- Options of which exactly one is to be given. They follow the others. -/
  oneOf : List OptionRule
  operand : Operand
deriving DecidableEq, Repr

namespace Grammar

/-- All options. -/
def rules (g : Grammar) : List OptionRule :=
  g.options ++ g.oneOf

/-- The names of all options, each with its option. -/
def namedRules (g : Grammar) : List (String × OptionRule) :=
  g.rules.flatMap fun r => r.names.map (·, r)

/-- The option of a name. -/
def rule? (g : Grammar) (name : String) : Option OptionRule :=
  g.namedRules.lookup name

end Grammar

end WorkspaceDesk.Command

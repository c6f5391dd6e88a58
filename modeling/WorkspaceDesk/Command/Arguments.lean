import WorkspaceDesk.Command.Grammar
import WorkspaceDesk.Text.Numeral

/-!
# Reading arguments

Arguments are first told apart one by one: options, operands, and the two dashes behind which all are
operands. An option may be written by the beginning of its long name where this names one option only,
its value may follow an equals sign, and short options may be joined. Then the arguments are read in
order, options together with their values. Arguments that nothing asks for are kept apart.
-/

namespace WorkspaceDesk.Command

open Text

/-- Why arguments are refused. -/
inductive UsageError where
  /-- The beginning of a name fits more than one option. -/
  | ambiguous (argument : String) (names : List String)
  | noValue (option : String)
  /-- A value for an option that takes none. -/
  | strayValue (option value : String)
  | notANumber (option value : String)
  | unknownCommand (operand value : String) (names : List String)
  | conflict (option other : String)
  | missing (options : List String)
  | missingOneOf (options : List String)
  | unrecognized (arguments : List String)
deriving DecidableEq, Repr

/-- The wording of an error. -/
def UsageError.message : UsageError → String
  | .ambiguous argument names =>
    "ambiguous option: " ++ argument ++ " could match " ++ String.intercalate ", " names
  | .noValue option => "argument " ++ option ++ ": expected one argument"
  | .strayValue option value =>
    "argument " ++ option ++ ": ignored explicit argument " ++ quoted value
  | .notANumber option value => "argument " ++ option ++ ": invalid int value: " ++ quoted value
  | .unknownCommand operand value names =>
    "argument " ++ operand ++ ": invalid choice: " ++ quoted value ++ " (choose from "
      ++ String.intercalate ", " (names.map quoted) ++ ")"
  | .conflict option other => "argument " ++ option ++ ": not allowed with argument " ++ other
  | .missing options =>
    "the following arguments are required: " ++ String.intercalate ", " options
  | .missingOneOf options =>
    "one of the arguments " ++ String.intercalate " " options ++ " is required"
  | .unrecognized arguments => "unrecognized arguments: " ++ String.intercalate " " arguments

/-! ## Telling arguments apart -/

/-- What an argument holds besides the name of its option. -/
inductive Attached where
  | nothing
  /-- A text directly behind a short name. -/
  | joined (text : List Char)
  /-- A text behind an equals sign. -/
  | assigned (text : List Char)
deriving DecidableEq, Repr

/-- What an argument is. -/
inductive Shape where
  | operand
  /-- Two dashes. -/
  | separator
  | option (rule : OptionRule) (attached : Attached)
  /-- It looks like an option and is none. -/
  | unknown
deriving DecidableEq, Repr

/-- The argument up to its first equals sign, and what follows this. -/
def splitAssigned (argument : List Char) : List Char × Attached :=
  match argument.span (· ≠ '=') with
  | (name, _ :: text) => (name, .assigned text)
  | (name, []) => (name, .nothing)

/-- The options that an argument may mean, though it is not the name of one: those whose name it begins,
and a short one that other text is joined to. -/
def candidates (g : Grammar) (argument : List Char) : List (String × OptionRule × Attached) :=
  match argument with
  | '-' :: '-' :: _ =>
    let (stem, attached) := splitAssigned argument
    (g.namedRules.filter fun n => stem.isPrefixOf n.1.toList).map fun n => (n.1, n.2, attached)
  | '-' :: c :: text =>
    -- one dash: a short name with text behind it, or the beginning of a long name
    g.namedRules.filterMap fun n =>
      if n.1.toList = ['-', c] then some (n.1, n.2, .joined text)
      else if argument.isPrefixOf n.1.toList then some (n.1, n.2, .nothing)
      else none
  | _ => []

/-- A decimal digit of any script. -/
def isDecimal (c : Char) : Bool :=
  (decimalValue? c).isSome

/-- The text without a line feed at its end. -/
def withoutLineFeed (s : List Char) : List Char :=
  if s.getLast? = some '\n' then s.dropLast else s

/-- The argument is a negative number, possibly with a fraction. -/
def isNegativeNumber : List Char → Bool
  | '-' :: text =>
    match (withoutLineFeed text).span isDecimal with
    | (whole, []) => !whole.isEmpty
    | (_, '.' :: fraction) => !fraction.isEmpty && fraction.all isDecimal
    | _ => false
  | _ => false

/-- What a text behind the equals sign after a name is: behind a short name it counts as joined to it,
unless it is empty. -/
def attach (name text : List Char) : Attached :=
  if "--".toList.isPrefixOf name ∨ text = [] then .assigned text else .joined text

/-- What an argument that begins with a dash and is no name of an option is. -/
def shapeOfDashed (g : Grammar) (argument : List Char) : Except UsageError Shape :=
  match splitAssigned argument with
  | (name, .assigned text) =>
    match g.rule? (String.ofList name) with
    | some r => .ok (.option r (attach name text))
    | none => byCandidates
  | _ => byCandidates
where
  /-- What the argument is if no name stands before an equals sign. -/
  byCandidates : Except UsageError Shape :=
    match candidates g argument with
    | [(_, r, attached)] => .ok (.option r attached)
    | [] => .ok (if isNegativeNumber argument ∨ argument.contains ' ' then .operand else .unknown)
    | several => .error (.ambiguous (String.ofList argument) (several.map (·.1)))

/-- What an argument is, if no two dashes stand before it. -/
def shapeOf (g : Grammar) (argument : String) : Except UsageError Shape :=
  match argument.toList with
  | '-' :: c :: text =>
    match g.rule? argument with
    | some r => .ok (.option r .nothing)
    | none => shapeOfDashed g ('-' :: c :: text)
  | _ => .ok .operand

/-- Each argument with what it is. -/
def shapes (g : Grammar) : List String → Except UsageError (List (String × Shape))
  | [] => .ok []
  | argument :: rest =>
    if argument = "--" then .ok ((argument, .separator) :: rest.map (·, .operand))
    else
      match shapeOf g argument with
      | .error e => .error e
      | .ok shape => (shapes g rest).map ((argument, shape) :: ·)

/-! ## Options in an argument -/

/-- An option as it is used. -/
structure Use where
  rule : OptionRule
  value : Option String
deriving DecidableEq, Repr

/-- How the options in an argument end. -/
inductive UseEnd where
  | complete
  /-- The value of the last option is the next argument. -/
  | awaiting (rule : OptionRule)
deriving DecidableEq, Repr

/-- An option with nothing attached. -/
def bareUse (r : OptionRule) : List Use × UseEnd :=
  if r.effect.takesValue then ([], .awaiting r) else ([⟨r, none⟩], .complete)

/-- An option with a value behind an equals sign. -/
def assignedUse (r : OptionRule) (text : List Char) : Except UsageError (List Use × UseEnd) :=
  if r.effect.takesValue then .ok ([⟨r, some (String.ofList text)⟩], .complete)
  else .error (.strayValue r.title (String.ofList text))

/-- A short option with text joined to it: its value, or further short options. -/
def joinedUses (g : Grammar) (r : OptionRule) : List Char → Except UsageError (List Use × UseEnd)
  | [] => .ok (bareUse r)
  | c :: rest =>
    if r.effect.takesValue then .ok ([⟨r, some (String.ofList (c :: rest))⟩], .complete)
    else
      match g.rule? (String.ofList ['-', c]) with
      | none => .error (.strayValue r.title (String.ofList (c :: rest)))
      | some next => (joinedUses g next rest).map fun f => (⟨r, none⟩ :: f.1, f.2)

/-- The options in an argument. -/
def usesIn (g : Grammar) (r : OptionRule) : Attached → Except UsageError (List Use × UseEnd)
  | .nothing => .ok (bareUse r)
  | .joined text => joinedUses g r text
  | .assigned text => assignedUse r text

/-! ## Reading in order -/

/-- What an option has been given. -/
inductive Setting where
  | on
  | text (s : String)
  | number (n : Int)
deriving DecidableEq, Repr

/-- Arguments that have been read. -/
structure Arguments where
  options : List (OptionRule × Setting)
  /-- The operand; for a command, what belongs to it follows. -/
  operands : List String
  /-- Arguments that nothing asks for. -/
  unknown : List String
deriving DecidableEq, Repr

/-- Why reading stops before the end. -/
inductive Stop where
  | help
  | version
  | refused (e : UsageError)
deriving DecidableEq, Repr

namespace Arguments

/-- Nothing has been read. -/
def empty : Arguments := ⟨[], [], []⟩

/-- The option has been given. -/
def has (a : Arguments) (r : OptionRule) : Bool :=
  a.options.any (·.1 = r)

/-- What an option of some name has been given last. -/
def setting? (a : Arguments) (name : String) : Option Setting :=
  (a.options.reverse.find? (·.1.names.contains name)).map (·.2)

/-- The text that an option has been given last. -/
def text? (a : Arguments) (name : String) : Option String :=
  match a.setting? name with
  | some (.text s) => some s
  | _ => none

/-- The number that an option has been given last. -/
def number? (a : Arguments) (name : String) : Option Int :=
  match a.setting? name with
  | some (.number n) => some n
  | _ => none

/-- An option of some name has been given. -/
def isSet (a : Arguments) (name : String) : Bool :=
  (a.setting? name).isSome

/-- Adds what an option has been given, unless one that excludes it has been given before. -/
def set (g : Grammar) (a : Arguments) (r : OptionRule) (s : Setting) : Except Stop Arguments :=
  -- of options that exclude each other the first one stands
  let others := if g.oneOf.contains r then g.oneOf.filter (· ≠ r) else []
  match others.find? a.has with
  | some other => .error (.refused (.conflict r.title other.title))
  | none => .ok { a with options := a.options ++ [(r, s)] }

/-- Follows an option. -/
def use (g : Grammar) (a : Arguments) (u : Use) : Except Stop Arguments :=
  match u.rule.effect with
  | .help => .error .help
  | .version => .error .version
  | .flag => a.set g u.rule .on
  | .text => a.set g u.rule (.text (u.value.getD ""))
  | .number =>
    let text := u.value.getD ""
    match parseInt text.toList with
    | .ok n => a.set g u.rule (.number n)
    | .error _ => .error (.refused (.notANumber u.rule.title text))

/-- Adds an argument that nothing asks for. -/
def leave (a : Arguments) (argument : String) : Arguments :=
  { a with unknown := a.unknown ++ [argument] }

/-- Reads a command and all that belongs to it. -/
def enter (a : Arguments) (operand : String) (choices : List Choice) (arguments : List String) :
    Except Stop Arguments :=
  match arguments with
  | [] => .ok a
  | name :: _ =>
    if (choiceNames choices).contains name then .ok { a with operands := arguments }
    else .error (.refused (.unknownCommand operand name (choiceNames choices)))

/-- Reads arguments in order; `isOpen` says that the operand has not been read yet. -/
def readFrom (g : Grammar) (isOpen : Bool) (a : Arguments) :
    List (String × Shape) → Except Stop Arguments
  | [] => .ok a
  | (argument, .unknown) :: rest => readFrom g isOpen (a.leave argument) rest
  | (_, .option r attached) :: rest =>
    match usesIn g r attached with
    | .error e => .error (.refused e)
    | .ok (uses, .complete) =>
      match uses.foldlM (use g) a with
      | .error s => .error s
      | .ok a => readFrom g isOpen a rest
    | .ok (uses, .awaiting last) =>
      match rest with
      | (value, .operand) :: rest =>
        match (uses ++ [Use.mk last (some value)]).foldlM (use g) a with
        | .error s => .error s
        | .ok a => readFrom g isOpen a rest
      | _ => .error (.refused (.noValue last.title))
  | (argument, shape) :: rest =>
    match isOpen, g.operand with
    | true, .text _ =>
      match shape, rest with
      | .operand, (_, .separator) :: rest => readFrom g false { a with operands := [argument] } rest
      | .operand, rest => readFrom g false { a with operands := [argument] } rest
      | _, (value, .operand) :: rest => readFrom g false { a with operands := [value] } rest
      | _, rest => readFrom g false a rest
    | true, .command name choices =>
      -- a command takes all arguments from its name on, options as well
      if shape = .separator ∧ rest = [] then .ok (a.leave argument)
      else a.enter name choices (argument :: rest.map (·.1))
    | _, _ => readFrom g isOpen (a.leave argument) rest

/-- All that is required has been given. -/
def complete (g : Grammar) (a : Arguments) : Except Stop Arguments :=
  let missing := g.rules.filter fun r => r.required && !a.has r
  if !missing.isEmpty then .error (.refused (.missing (missing.map OptionRule.title)))
  else if !g.oneOf.isEmpty && !g.oneOf.any a.has then
    .error (.refused (.missingOneOf (g.oneOf.map OptionRule.title)))
  else .ok a

end Arguments

/-- Reads the arguments of a command. -/
def Grammar.read (g : Grammar) (arguments : List String) : Except Stop Arguments :=
  match shapes g arguments with
  | .error e => .error (.refused e)
  | .ok shaped =>
    match Arguments.readFrom g true .empty shaped with
    | .error s => .error s
    | .ok a => a.complete g

end WorkspaceDesk.Command

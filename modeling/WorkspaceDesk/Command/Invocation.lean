import WorkspaceDesk.Command.Arguments
import WorkspaceDesk.Command.Manual
import WorkspaceDesk.Profile.Basic

/-!
# Invocations

What the arguments of the program ask for. Arguments that no command asks for are refused in the name of
the program, after all commands have been read.
-/

namespace WorkspaceDesk.Command

/-- What the program is to do. -/
inductive Job where
  | listProfiles
  | useProfile (id : Option String)
  | addProfile (p : Profile)
  | removeProfile (id : Option String)
  | deleteWorkspace (name : Option String) (force : Bool)
deriving DecidableEq, Repr

/-- A run of the program. -/
structure Invocation where
  configDir : Option String
  /-- Notes are written. -/
  debug : Bool
  /-- None if the arguments ask for nothing. -/
  job : Option Job
deriving DecidableEq, Repr

/-- The command whose arguments end the program, and how. -/
structure Refusal where
  grammar : Grammar
  stop : Stop
deriving DecidableEq, Repr

/-- What the arguments of a command ask for, and those that it does not ask for. -/
abbrev Asked := Option Job × List String

/-- Reads the arguments of a command. -/
def readOf (g : Grammar) (arguments : List String) : Except Refusal Arguments :=
  (g.read arguments).mapError fun stop => ⟨g, stop⟩

/-- Reads the arguments of a command that is the last one. -/
def askOf (g : Grammar) (arguments : List String) (job : Arguments → Job) :
    Except Refusal Asked :=
  (readOf g arguments).map fun a => (some (job a), a.unknown)

/-- The profile that arguments describe. It is named after its id unless it has a name. -/
def profileOf (a : Arguments) : Profile :=
  let id := (a.text? "--id").getD ""
  { id
    name := ((a.text? "--name").filter (· ≠ "")).getD id
    hostname := (a.text? "--hostname").getD ""
    port := (a.number? "--port").getD 22
    auth := ⟨(a.text? "--user").getD "", a.text? "--password", a.text? "--private-key-path"⟩
    apiUrl := (a.text? "--api-url").getD "" }

/-- What a command about profiles asks for. -/
def askProfile (name : String) (arguments : List String) : Except Refusal Asked :=
  match name with
  | "use" => askOf Manual.profileUse arguments fun a => .useProfile a.operands.head?
  | "add" => askOf Manual.profileAdd arguments fun a => .addProfile (profileOf a)
  | "remove" | "rm" => askOf Manual.profileRemove arguments fun a => .removeProfile a.operands.head?
  | _ => askOf Manual.profileList arguments fun _ => .listProfiles

/-- What a command about workspaces asks for; there is only one. -/
def askWorkspace (arguments : List String) : Except Refusal Asked :=
  askOf Manual.workspaceDelete arguments fun a =>
    .deleteWorkspace a.operands.head? (a.isSet "--force")

/-- Reads the arguments of a command that is followed by another one; without one, there is a command
that is meant. -/
def askWithin (g : Grammar) (arguments : List String) (meant : Option Job)
    (inner : String → List String → Except Refusal Asked) : Except Refusal Asked :=
  match readOf g arguments with
  | .error r => .error r
  | .ok a =>
    match a.operands with
    | [] => .ok (meant, a.unknown)
    | name :: rest => (inner name rest).map fun asked => (asked.1, a.unknown ++ asked.2)

/-- What a command of the program asks for. -/
def askProgram : List String → Except Refusal Asked
  | [] => .ok (none, [])
  | "profile" :: rest => askWithin Manual.profile rest (some .listProfiles) askProfile
  | _ :: rest => askWithin Manual.workspace rest none fun _ => askWorkspace

/-- What the arguments of the program ask for. -/
def Invocation.ofArguments (arguments : List String) : Except Refusal Invocation :=
  match readOf Manual.program arguments with
  | .error r => .error r
  | .ok a =>
    match askProgram a.operands with
    | .error r => .error r
    | .ok (job, unknown) =>
      let unknown := a.unknown ++ unknown
      if unknown.isEmpty then .ok ⟨a.text? "--config-dir", a.isSet "--debug", job⟩
      else .error ⟨Manual.program, .refused (.unrecognized unknown)⟩

end WorkspaceDesk.Command

import WorkspaceDesk.Command.Invocation
import WorkspaceDesk.Command.Profiles
import WorkspaceDesk.Command.Usage
import WorkspaceDesk.Command.Workspaces
import WorkspaceDesk.Profile.Directory

/-!
# Running the program

Arguments are read, and the job that they ask for is done. Help, version and refusals stop the program;
without a job the help is shown as well. Arguments and variables are texts of Unicode characters, as those
are in UTF-8 that are given in it.
-/

namespace WorkspaceDesk.Command

/-- Does a job. -/
def runJob (s : Surroundings) (dir : Path) (d : Desk) : Job → Desk × Ending
  | .listProfiles => listProfiles s dir d
  | .useProfile id => useProfile s dir id d
  | .addProfile p => addProfile s dir p d
  | .removeProfile id => removeProfile s dir id d
  | .deleteWorkspace name force => deleteWorkspace s dir name force d

/-- Reports a failure of the kind that is reported; the status is then 1. -/
def settle (d : Desk) (ending : Ending) : Desk × Ending :=
  match ending with
  | .failed f =>
    if f.isReported then (d.report (.error ("Error: " ++ f.message ++ "\n")), .status 1)
    else (d, .failed f)
  | ending => (d, ending)

/-- The width of help texts. -/
def helpWidth (s : Surroundings) : Int :=
  s.helpColumns - 2

/-- Runs what the arguments ask for. -/
def Invocation.run (s : Surroundings) (d : Desk) (i : Invocation) : Desk × Ending :=
  match Store.directory s.homes i.configDir (s.environment.lookup Store.directoryVariable) with
  | .error e => (d, .failed (.home e))
  | .ok dir =>
    match i.job with
    | none => (d.report (.output (Manual.program.help (helpWidth s))), .status 2)
    | some job =>
      let (d, ending) := runJob s dir d job
      settle d ending

/-- Shows what ends the program before any job is done. -/
def Refusal.report (s : Surroundings) (d : Desk) (r : Refusal) : Desk × Ending :=
  match r.stop with
  | .help => (d.report (.output (r.grammar.help (helpWidth s))), .stopped 0)
  | .version => (d.print (r.grammar.program ++ " " ++ Manual.version), .stopped 0)
  | .refused e =>
    let line := r.grammar.program ++ ": error: " ++ e.message ++ "\n"
    (d.report (.error (r.grammar.usage (helpWidth s) ++ line)), .stopped 2)

/-- A run of the program. -/
structure Finished where
  desk : Desk
  ending : Ending
  output : String
  errors : String

/-- Runs the program; notes bear a time. -/
def run (s : Surroundings) (time : String) (arguments : List String) (d : Desk) : Finished :=
  let d := { d with reports := [] }
  match Invocation.ofArguments arguments with
  | .error r =>
    let (d, ending) := r.report s d
    ⟨d, ending, outputText d.reports, errorText false time d.reports⟩
  | .ok i =>
    let (d, ending) := i.run s d
    ⟨d, ending, outputText d.reports, errorText i.debug time d.reports⟩

end WorkspaceDesk.Command

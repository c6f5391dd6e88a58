import WorkspaceDesk.Disk.Home
import WorkspaceDesk.Profile.Store
import WorkspaceDesk.Prompt.Run
import WorkspaceDesk.Service.Client
import WorkspaceDesk.Ssh.Entries

/-!
# The desk

Commands work at a desk: the disk, the link to the terminal, and the line to the service. What they print
and note is kept in order.
-/

namespace WorkspaceDesk.Command

open Service Terminal

/-- What a command prints or notes. -/
inductive Report where
  | output (text : String)
  | error (text : String)
  | note (entry : LogEntry)
deriving DecidableEq, Repr

/-- What commands change. -/
structure Desk where
  disk : Disk
  link : Link
  exchange : Exchange
  /-- What has been printed and noted, in order. -/
  reports : List Report

/-- What commands find and do not change. -/
structure Surroundings where
  homes : Homes
  /-- The environment variables. -/
  environment : List (String × String)
  /-- The output is a terminal. -/
  live : Bool
  /-- How the texts of tables are read. -/
  reader : Table.Markup.Reader
  /-- Where tables get their events from. -/
  source : Prompt.Source
  /-- What keeps a temporary file apart from others. -/
  token : String
  weather : Store.Weather
  /-- The room there is to read JSON texts. -/
  room : Json.Room

/-- The environment variable that tells how many columns the screen has. -/
def columnsVariable : String := "COLUMNS"

/-- The columns of a screen of which nothing is known. -/
def conventionalColumns : Nat := 80

namespace Surroundings

/-- The columns for help texts: a positive number that the environment tells, else the conventional
one. -/
def helpColumns (s : Surroundings) : Int :=
  match (s.environment.lookup columnsVariable).map fun v => Text.parseInt v.toList with
  | some (.ok n) => if 0 < n then n else conventionalColumns
  | _ => conventionalColumns

/-- The columns for tables: a number without sign that the environment tells, else the conventional
one. -/
def columns (s : Surroundings) : Nat :=
  match s.environment.lookup columnsVariable with
  | none => conventionalColumns
  | some v =>
    match v.toList.all Text.isDigit, Text.parseInt v.toList with
    | true, .ok n => n.toNat
    | _, _ => conventionalColumns

/-- Where tables are drawn. -/
def console (s : Surroundings) : Table.Console :=
  ⟨s.columns, s.live, s.reader⟩

end Surroundings

/-- Why a command fails. -/
inductive Failure where
  | home (e : HomeError)
  | load (e : Store.LoadError)
  | config (e : ConfigError)
  | save (e : Store.SaveError)
  | client (e : ClientError)
  | ssh (e : Ssh.Error)
  | table (e : Table.StartError)
deriving DecidableEq, Repr

/-- The wording of a failure. -/
def Failure.message : Failure → String
  | .home e => e.message
  | .load e => e.message
  | .config e => e.message
  | .save e => e.message
  | .client e => e.message
  | .ssh e => e.message
  | .table e => e.message

/-- The program reports the failure in a line of its own and goes on to its end. -/
def Failure.isReported : Failure → Bool
  | .load e => e.isReported
  | .config _ => true
  | .client e => e.isReported
  | _ => false

/-- How a command ends. -/
inductive Ending where
  /-- It comes to its end with a status. -/
  | status (code : Nat)
  /-- It stops the program with a status. -/
  | stopped (code : Nat)
  | failed (f : Failure)
deriving DecidableEq, Repr

/-- How a command ends whose table yields nothing. -/
def Ending.ofTable : Prompt.Failure → Ending
  | .start e => .failed (.table e)
  | .fatal _ => .stopped 1

namespace Desk

/-- Prints or notes. -/
def report (d : Desk) (r : Report) : Desk :=
  { d with reports := d.reports ++ [r] }

/-- Prints a line. Texts are of Unicode characters, and the output takes them all, as it does in UTF-8. -/
def print (d : Desk) (line : String) : Desk :=
  d.report (.output (line ++ "\n"))

/-- Makes a note. -/
def note (d : Desk) (area : LogArea) (message : String) : Desk :=
  d.report (.note ⟨area, message⟩)

/-- The desk after a table has been run at it. -/
def afterTable (d : Desk) (ran : Prompt.Ran) : Desk :=
  { d with
    link := ran.link
    reports := d.reports ++ .output ran.output :: ran.log.map .note ++ [.error ran.errors] }

/-- A text that is given and not empty, else the one that the user chooses; none but the empty text if
the user quits. -/
def choose (d : Desk) (given : Option String) (prompt : Link → Prompt.Ran) :
    Desk × Except Ending String :=
  match given.filter (· ≠ "") with
  | some text => (d, .ok text)
  | none =>
    let ran := prompt d.link
    (d.afterTable ran, ran.result.mapError .ofTable)

end Desk

/-- What the reports show as output. -/
def outputText (reports : List Report) : String :=
  String.join <| reports.filterMap fun
    | .output text => some text
    | _ => none

/-- What the reports show as errors, with notes if they are wanted; all notes bear the same time. -/
def errorText (debug : Bool) (time : String) (reports : List Report) : String :=
  String.join <| reports.filterMap fun
    | .output _ => none
    | .error text => some text
    | .note entry => if debug then some (entry.line time) else none

end WorkspaceDesk.Command

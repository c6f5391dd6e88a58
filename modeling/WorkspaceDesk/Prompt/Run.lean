import WorkspaceDesk.Log
import WorkspaceDesk.Prompt.Browse

/-!
# Running a table

A table is shown and, if it is selectable, browsed. Whatever it takes over from the process it gives
back, in the opposite order, also when it fails: the wake pipe is opened first and closed last, and the
terminal is taken over only while the table is browsed. The lines of a table that has been browsed are
erased in the end. Of the frames, only the one that remains is told here; how a terminal draws one over
the other is left out.
-/

namespace WorkspaceDesk.Prompt

open Table Terminal

/-- Where a table that is browsed gets its events from. -/
inductive Source where
  /-- From the caller. -/
  | scripted (arrivals : List Arrival)
  /-- From the standard input. -/
  | stdin (stream : Stream) (arrivals : List Arrival)

/-- A table to be shown. -/
structure Listing where
  columns : List Column
  rows : List Row
  /-- Index of the row that the cursor starts on. -/
  activeIndex : Int
  /-- What the table yields without a choice; the first cell of the active row if not given. -/
  activeId : Option String
  selectable : Bool

/-- How a table ends. -/
structure Outcome where
  selection : String
  /-- Lines that the last frame takes. -/
  frameHeight : Int
  state : State

/-- A table that has been shown: what it has printed and how it has ended. -/
structure Served where
  link : Link
  output : String
  reads : List (List Event)
  outcome : Except RunError Outcome

/-- The outcome of a session. -/
def Outcome.ofSession (s : Session) : Outcome :=
  ⟨s.selection, s.frameHeight, s.state⟩

/-- Texts of lines, each ended by a line feed. -/
def endLines (lines : List (List Char)) : String :=
  String.ofList (lines.flatMap (· ++ ['\n']))

/-- Texts of lines with line feeds between them. -/
def joinLines (lines : List (List Char)) : String :=
  String.ofList (List.intercalate ['\n'] lines)

/-- Prints a table that takes no input. -/
def serveStatic (link : Link) (console : Console) (s : Session) : Served :=
  match s.view.printed console with
  | .error text => ⟨link, "", [], .error (.drawing text)⟩
  | .ok lines => ⟨link, endLines lines, [], .ok (.ofSession s)⟩

/-- The frame that remains. -/
def lastFrame (console : Console) (s : Session) : Except String String :=
  (s.view.lines console).map fun lines => joinLines (lines.map Line.text)

/-- Browses a table with the input open, if its first frame can be drawn where it is drawn at once. The frame
that remains is drawn in any case; if it cannot be drawn, this is the error. -/
def serveOpen (link : Link) (console : Console) (s : Session) (arrivals : List Arrival) : Served :=
  match refresh console s with
  | .error text => ⟨link, "", [], .error (.drawing text)⟩
  | .ok () =>
    let (p, result) := browse console arrivals ⟨link, [], s, s, []⟩
    match lastFrame console p.shown with
    | .error text => ⟨p.link, "", p.reads, .error (.drawing text)⟩
    | .ok frame => ⟨p.link, frame, p.reads, result.map fun _ => .ofSession p.session⟩

/-- Opens the input, browses, and closes the input. -/
def serveBrowsing (link : Link) (console : Console) (s : Session) (source : Source) : Served :=
  match source with
  | .scripted arrivals => serveOpen link console s arrivals
  | .stdin stream arrivals =>
    match link.openInput stream with
    | .error e => ⟨link, "", [], .error (.read (.terminal e))⟩
    | .ok (opened, saved) =>
      let served := serveOpen opened console s arrivals
      -- a terminal that cannot be given back hides how the table ended
      match served.link.closeInput saved with
      | .error e => { served with outcome := .error (.read (.terminal e)) }
      | .ok closed => { served with link := closed }

/-- Shows a table. -/
def serve (link : Link) (console : Console) (s : Session) (source : Source) : Served :=
  if s.done then serveStatic link console s else serveBrowsing link console s source

/-- Why a table yields nothing. -/
inductive Failure where
  /-- The table could not be set up. -/
  | start (e : StartError)
  /-- The table failed; the program ends with status 1. -/
  | fatal (e : RunError)

/-- A table that has been run. -/
structure Ran where
  link : Link
  /-- What has been printed on the screen. -/
  output : String
  /-- What has been printed as an error. -/
  errors : String
  /-- The events of each read. -/
  reads : List (List Event)
  log : List LogEntry
  result : Except Failure String

/-- The note about how a table ended. -/
def Outcome.note (o : Outcome) : LogEntry :=
  ⟨.tables, "table session finished in state " ++ o.state.name⟩

/-- The note about a table that failed. -/
def failureNote : LogEntry :=
  ⟨.tables, "table session failed"⟩

/-- Runs a table on a console. The window is as large as the terminal tells; a table that is not selectable
is printed whole. -/
def runTable (link : Link) (console : Console) (source : Source) (listing : Listing) : Ran :=
  let size := link.size
  -- without a height all rows are in view
  let height := if listing.selectable then size.lines else 0
  match Session.start listing.columns listing.rows size.columns height listing.activeIndex
      listing.activeId listing.selectable with
  | .error e => ⟨link, "", "", [], [], .error (.start e)⟩
  | .ok session =>
    let (opened, previous) := link.openWake listing.selectable true
    let served := serve opened console session source
    let closed := served.link.closeWake previous
    match served.outcome with
    | .error e =>
      ⟨closed, served.output, "Error running program: " ++ e.message ++ "\n", served.reads,
        [failureNote], .error (.fatal e)⟩
    | .ok o =>
      let erased := if listing.selectable then eraseLines o.frameHeight else ""
      ⟨closed, served.output ++ erased, "", served.reads, [o.note], .ok o.selection⟩

/-- A heading on a screen of some columns: an empty line and the title; nothing without any column. -/
def heading (screen : Nat) (title : String) : String :=
  if screen = 0 then ""
  else "\n" ++ endLines (Text.wrap screen (Markup.dropControls title.toList))

end WorkspaceDesk.Prompt

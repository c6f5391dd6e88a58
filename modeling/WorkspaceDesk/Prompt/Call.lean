import WorkspaceDesk.Prompt.Run

/-!
# Calls in two threads

A table is served by a worker, a thread of its own, while the caller waits for the outcome that the worker hands
over. `Call` takes `runTable` apart into the steps of the two threads. Between any two steps the window may
change its size and its signal may arrive, and an exception may strike the worker wherever it opens the input,
browses or draws.
-/

namespace WorkspaceDesk.Prompt

open Table Terminal

/-- The events that a table has to come. -/
def Source.arrivals : Source → List Arrival
  | .scripted arrivals => arrivals
  | .stdin _ arrivals => arrivals

/-- Takes over what the events come from. Yields the modes to set again afterwards, if there are any. -/
def Source.openInput (link : Link) : Source → Except TerminalError (Link × Option Modes)
  | .scripted _ => .ok (link, none)
  | .stdin stream _ => (link.openInput stream).map fun (opened, saved) => (opened, some saved)

/-- Gives back what the events come from. -/
def closeSource (link : Link) : Option Modes → Except TerminalError Link
  | none => .ok link
  | some saved => link.closeInput saved

/-- What a worker hands over: how the table has ended, or the text of the exception that has ended it. -/
abbrev Handed := Except String Outcome

/-- What a call is about. -/
structure Job where
  console : Console
  source : Source
  session : Session
  /-- The caller is the main thread of the process. -/
  mainThread : Bool

/-- Where the worker stands. -/
inductive Worker where
  | unstarted
  /-- About to open the input, or to print a table that takes none. -/
  | opening
  /-- Within the loop of reads, with the modes to set again and the arrivals and bytes still to be read. -/
  | browsing (saved : Option Modes) (arrivals : List Arrival) (unread : Bytes) (session shown : Session)
  /-- About to draw the frame that remains. -/
  | leaving (saved : Option Modes) (shown : Session) (result : Handed)
  /-- About to close the input. -/
  | closing (saved : Option Modes) (result : Handed)
  | handing (result : Handed)
  /-- The outcome is handed over. -/
  | exiting
  | ended

/-- How a call ends. -/
inductive Ending where
  | returns (selection : String)
  /-- The program ends with a status. -/
  | exits (status : Nat)
deriving DecidableEq, Repr

/-- Where the caller stands, with the handler to install again and the outcome that it has taken. -/
inductive Caller where
  | entering
  | starting (previous : Option Handler)
  | waiting (previous : Option Handler)
  | joining (previous : Option Handler) (outcome : Handed)
  | releasing (previous : Option Handler) (outcome : Handed)
  | reporting (outcome : Handed)
  | finished (outcome : Handed) (ending : Ending)

/-- A call under way. -/
structure Call where
  link : Link
  caller : Caller
  worker : Worker
  /-- The outcome that has been handed over and not yet been taken. -/
  slot : Option Handed
  /-- Every outcome that has been handed over. -/
  delivered : List Handed
  /-- What the worker has printed. -/
  drawn : String
  /-- What the caller has printed on the screen, and as an error. -/
  erased : String
  errors : String
  /-- The events of each read. -/
  reads : List (List Event)

/-- What can happen next. -/
inductive Move where
  | caller
  | worker
  /-- A read returns since the wake pipe has been written to, without new input. -/
  | wake
  /-- An exception strikes the worker. -/
  | raise (text : String)
  | resize (report : Option Size)
  | deliver

/-- Where an exception leaves the worker; it cannot strike while the terminal is given back or the outcome is
handed over. -/
def Worker.raised? (text : String) : Worker → Option Worker
  | .opening => some (.handing (.error text))
  | .browsing saved _ _ _ shown => some (.leaving saved shown (.error text))
  | .leaving saved _ _ => some (.closing saved (.error text))
  | _ => none

namespace Call

/-- A call that is about to take over the link. -/
def begin (link : Link) : Call :=
  ⟨link, .entering, .unstarted, none, [], "", "", "", []⟩

/-- The step of the caller. -/
def stepCaller (job : Job) (c : Call) : Option Call :=
  match c.caller with
  | .entering =>
    let (opened, previous) := c.link.openWake job.session.selectable job.mainThread
    some { c with link := opened, caller := .starting previous }
  | .starting previous => some { c with caller := .waiting previous, worker := .opening }
  | .waiting previous => c.slot.map fun outcome => { c with caller := .joining previous outcome, slot := none }
  | .joining previous outcome =>
    match c.worker with
    | .ended => some { c with caller := .releasing previous outcome }
    | _ => none
  | .releasing previous outcome =>
    some { c with link := c.link.closeWake previous, caller := .reporting outcome }
  | .reporting (.error text) =>
    some { c with
      caller := .finished (.error text) (.exits 1)
      errors := "Error running program: " ++ text ++ "\n" }
  | .reporting (.ok o) =>
    some { c with
      caller := .finished (.ok o) (.returns o.selection)
      erased := if job.session.selectable then eraseLines o.frameHeight else "" }
  | .finished _ _ => none

/-- The worker handles the events of a read and draws the frame, if it is drawn as it comes; where this fails,
it is about to leave. -/
def round (console : Console) (c : Call) (saved : Option Modes) (arrivals : List Arrival)
    (session shown : Session) (r : Read) : Call :=
  let worker : Worker :=
    match r.events with
    | .error e => .leaving saved shown (.error e.message)
    | .ok events =>
      match handleBatch session events with
      | (_, .error e) => .leaving saved shown (.error e.message)
      | (session, .ok ()) =>
        match refresh console session with
        | .error text => .leaving saved shown (.error text)
        | .ok () => .browsing saved arrivals r.unread session session
  { c with link := r.link, worker, reads := c.reads ++ r.events.toOption.toList }

/-- The step of the worker. -/
def stepWorker (job : Job) (c : Call) : Option Call :=
  match c.worker with
  | .opening =>
    if job.session.done then
      match job.session.view.printed job.console with
      | .error text => some { c with worker := .handing (.error text) }
      | .ok lines => some { c with worker := .handing (.ok (.ofSession job.session)), drawn := endLines lines }
    else
      match job.source.openInput c.link with
      | .error e => some { c with worker := .handing (.error e.message) }
      | .ok (opened, saved) =>
        let c := { c with link := opened }
        match refresh job.console job.session with
        | .error text => some { c with worker := .closing saved (.error text) }
        | .ok () =>
          some { c with worker := .browsing saved job.source.arrivals [] job.session job.session }
  | .browsing saved arrivals unread session shown =>
    if session.done then some { c with worker := .leaving saved shown (.ok (.ofSession session)) }
    else
      match arrivals with
      | [] => some { c with worker := .leaving saved shown (.error TerminalError.closed.message) }
      | arrival :: rest => some (c.round job.console saved rest session shown (arrival.read c.link unread))
  | .leaving saved shown result =>
    match lastFrame job.console shown with
    | .error text => some { c with worker := .closing saved (.error text) }
    | .ok frame => some { c with worker := .closing saved result, drawn := frame }
  | .closing saved result =>
    match closeSource c.link saved with
    | .error e => some { c with worker := .handing (.error e.message) }
    | .ok closed => some { c with link := closed, worker := .handing result }
  | .handing result =>
    -- there is room for one outcome
    if c.slot.isSome then none
    else some { c with worker := .exiting, slot := some result, delivered := c.delivered ++ [result] }
  | .exiting => some { c with worker := .ended }
  | .unstarted | .ended => none

/-- One move, if it can happen. -/
def step (job : Job) (c : Call) : Move → Option Call
  | .caller => c.stepCaller job
  | .worker => c.stepWorker job
  | .wake =>
    match c.worker with
    | .browsing saved arrivals unread session shown =>
      if !session.done && c.link.woken then
        some (c.round job.console saved arrivals session shown
          (readBytes c.link (if unread.isEmpty then none else some unread)))
      else none
    | _ => none
  | .raise text => (c.worker.raised? text).map fun worker => { c with worker }
  | .resize report => some { c with link := c.link.resize (.ofReport report) }
  | .deliver => if c.link.signalPending then some { c with link := c.link.deliver } else none

/-- Moves in a row, if all of them can happen. -/
def run (job : Job) (c : Call) (moves : List Move) : Option Call :=
  moves.foldlM (step job) c

end Call

end WorkspaceDesk.Prompt

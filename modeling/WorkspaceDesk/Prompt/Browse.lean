import WorkspaceDesk.Table.Drawing
import WorkspaceDesk.Terminal.Link

/-!
# Browsing

A table that is browsed reads events in batches until its session is done. Within a batch, events
after the one that ends the session are not looked at. After each batch that could be handled there is a
new frame. On a terminal it is drawn at once, and if that fails, browsing ends and the frame before remains;
elsewhere only the frame is drawn that remains in the end.
-/

namespace WorkspaceDesk.Prompt

open Table Terminal

/-- What a read finds. -/
inductive Arrival where
  /-- Events as they are. -/
  | events (es : List Event)
  /-- Bytes from the terminal. -/
  | bytes (b : Bytes)
  /-- The window has taken a new size. -/
  | resized (size : Size)

/-- What a read leaves behind, and its events. -/
structure Read where
  link : Link
  /-- Bytes that have arrived and were not read. -/
  unread : Bytes
  events : Except ReadError (List Event)

/-- A read of the bytes at hand, if there are any. -/
def readBytes (l : Link) (bytes : Option Bytes) : Read :=
  let (link, events) := l.readEvents (bytes.map fun b => b.take readSize)
  ⟨link, (bytes.getD []).drop readSize, events⟩

/-- A read, with bytes that earlier ones left. -/
def Arrival.read (l : Link) (unread : Bytes) : Arrival → Read
  | .events es => ⟨l, unread, .ok es⟩
  | .bytes b => readBytes l (some (unread ++ b))
  | .resized size => readBytes (l.resize size).deliver (if unread.isEmpty then none else some unread)

/-- Why a table fails. -/
inductive RunError where
  | read (e : ReadError)
  | event (e : EventError)
  /-- A frame cannot be drawn. -/
  | drawing (text : String)

/-- The wording of an error. -/
def RunError.message : RunError → String
  | .read e => e.message
  | .event e => e.message
  | .drawing text => text

/-- Draws the frame of a session as it comes, which only a terminal does. -/
def refresh (console : Console) (s : Session) : Except String Unit :=
  if console.live then (s.view.lines console).map fun _ => () else .ok ()

/-- Handles events up to the first one that ends the session or cannot be handled. -/
def handleBatch (s : Session) : List Event → Session × Except EventError Unit
  | [] => (s, .ok ())
  | e :: rest =>
    match s.handle e with
    | (t, .error err) => (t, .error err)
    | (t, .ok true) => (t, .ok ())
    | (t, .ok false) => handleBatch t rest

/-- How far a table has been browsed. -/
structure Progress where
  link : Link
  unread : Bytes
  session : Session
  /-- The session as the frame shows it that would remain. -/
  shown : Session
  /-- The events of each read. -/
  reads : List (List Event)

/-- Browses until the session is done, or until something fails; no input left is a failure. -/
def browse (console : Console) : List Arrival → Progress → Progress × Except RunError Unit
  | [], p => (p, if p.session.done then .ok () else .error (.read (.terminal .closed)))
  | arrival :: rest, p =>
    if p.session.done then (p, .ok ())
    else
      let r := arrival.read p.link p.unread
      let p := { p with link := r.link, unread := r.unread }
      match r.events with
      | .error e => (p, .error (.read e))
      | .ok events =>
        let p := { p with reads := p.reads ++ [events] }
        -- where an event fails, the frame still shows the session before the batch
        match handleBatch p.session events with
        | (session, .error e) => ({ p with session }, .error (.event e))
        | (session, .ok ()) =>
          match refresh console session with
          | .error text => ({ p with session }, .error (.drawing text))
          | .ok () => browse console rest { p with session, shown := session }

end WorkspaceDesk.Prompt

import WorkspaceDesk.Table.Session
import WorkspaceDesk.Terminal.KeyCode
import WorkspaceDesk.Terminal.Screen
import WorkspaceDesk.Text.Utf8

/-!
# The link to the terminal

While a table is open, the process has changed the modes of its terminal, taken over the signal that
tells of a new window size, and opened a pipe that the handler of this signal writes to. A read waits
for input or for the pipe; a byte in the pipe makes it drain the pipe and then ask for the size.

All that a table takes over is part of `Link`, so that it can be compared before and after.
-/

namespace WorkspaceDesk.Terminal

open Table Text

/-- Modes of the terminal. -/
structure Modes where
  /-- Typed characters are shown. -/
  echo : Bool
  /-- Input arrives line by line. -/
  lineInput : Bool
  /-- Keys can stop and resume the output. -/
  flowControl : Bool
  /-- Keys can interrupt the process. -/
  signals : Bool
deriving DecidableEq, Repr, Inhabited

/-- The modes in which every key arrives at once and as a key. -/
def Modes.keyInput (_ : Modes) : Modes :=
  ⟨false, false, false, false⟩

/-- What the process does when it is told of a new window size. -/
inductive Handler where
  /-- What it did before, told apart by a number. -/
  | outer (number : Nat)
  /-- It writes to the wake pipe. -/
  | wake
deriving DecidableEq, Repr, Inhabited

/-- What a stream is connected to. -/
inductive Stream where
  /-- It has no descriptor. -/
  | noDescriptor
  /-- A file or a pipe. -/
  | file
  | terminal
deriving DecidableEq, Repr, Inhabited

/-- What ties the process to its terminal, and tables take over. -/
structure Link where
  /-- The size of the window, as it follows from what the terminal tells (`Size.ofReport`). -/
  size : Size
  /-- The process is still to be told of a new size. -/
  signalPending : Bool
  handler : Handler
  /-- The number of unread bytes in the wake pipe, if it is open. -/
  wakePipe : Option Nat
  modes : Modes
  /-- The other end of the terminal is gone. -/
  hungUp : Bool
deriving DecidableEq, Repr, Inhabited

/-- Why a terminal cannot be used. -/
inductive TerminalError where
  | noDescriptor
  | notTerminal
  | notOpen
  /-- The input has ended. -/
  | closed
  /-- The modes of the terminal could not be set back. -/
  | notRestored
deriving DecidableEq, Repr

/-- The wording of an error. -/
def TerminalError.message : TerminalError → String
  | .noDescriptor => "stdin has no file descriptor"
  | .notTerminal => "stdin is not a terminal"
  | .notOpen => "terminal input is not open"
  | .closed => "terminal input closed"
  | .notRestored => "(5, 'Input/output error')"

/-- Why a read fails. -/
inductive ReadError where
  | terminal (e : TerminalError)
  /-- A key sequence with a malformed number. -/
  | decoding (e : NumeralError)
deriving DecidableEq, Repr

/-- The wording of an error. -/
def ReadError.message : ReadError → String
  | .terminal e => e.message
  | .decoding e => e.message

namespace Link

/-! ## The wake pipe -/

/-- Opens the wake pipe and installs its handler; only the main thread can do so. Yields the handler
to install again afterwards. -/
def openWake (p : Link) (enabled mainThread : Bool) : Link × Option Handler :=
  if enabled && mainThread then ({ p with wakePipe := some 0, handler := .wake }, some p.handler)
  else (p, none)

/-- Installs the previous handler again and closes the wake pipe. -/
def closeWake (p : Link) (previous : Option Handler) : Link :=
  match previous with
  | some h => { p with wakePipe := none, handler := h }
  | none => p

/-- The window takes a new size, of which the process is still to be told. -/
def resize (p : Link) (size : Size) : Link :=
  { p with size, signalPending := true }

/-- The process is told of the new size. -/
def deliver (p : Link) : Link :=
  if p.signalPending then
    { p with
      signalPending := false
      -- another handler leaves the pipe alone
      wakePipe := if p.handler = .wake then p.wakePipe.map (· + 1) else p.wakePipe }
  else p

/-- The wake pipe holds a byte. -/
def woken (p : Link) : Bool :=
  match p.wakePipe with
  | some (_ + 1) => true
  | _ => false

/-- Reads all bytes of the wake pipe. -/
def drain (p : Link) : Link :=
  { p with wakePipe := p.wakePipe.map fun _ => 0 }

/-! ## Input -/

/-- Takes over the terminal as a source of keys. Yields the modes to set again afterwards. -/
def openInput (p : Link) (stream : Stream) : Except TerminalError (Link × Modes) :=
  match stream with
  | .noDescriptor => .error .noDescriptor
  | .file => .error .notTerminal
  | .terminal => .ok ({ p with modes := p.modes.keyInput }, p.modes)

/-- Sets the modes of the terminal again. -/
def closeInput (p : Link) (saved : Modes) : Except TerminalError Link :=
  if p.hungUp then .error .notRestored else .ok { p with modes := saved }

end Link

/-- The events of a read: a new size first, then the keys of the bytes that have arrived. No bytes at
all mean that the input has ended. -/
def eventsOf (size : Option Size) (typed : Option Bytes) : Except ReadError (List Event) :=
  let resized := size.toList.map fun s => Event.resize s.columns s.lines
  match typed with
  | none => .ok resized
  | some [] => .error (.terminal .closed)
  | some bytes =>
    match decodeKeys (Utf8.decodeLenient bytes) with
    | .ok keys => .ok (resized ++ keys.map .key)
    | .error e => .error (.decoding e)

/-- The number of bytes that one read takes at most. -/
def readSize : Nat := 1024

/-- One read, with the bytes that it takes. -/
def Link.readEvents (p : Link) (typed : Option Bytes) :
    Link × Except ReadError (List Event) :=
  if p.woken then (p.drain, eventsOf (some p.drain.size) typed) else (p, eventsOf none typed)

/-! ## Reads step by step

A window may change its size at any time, also in the middle of a read. `Reader` takes a read apart
into the steps between which this can happen. -/

/-- Where a read stands. -/
inductive Phase where
  /-- No read is under way. -/
  | outside
  /-- The pipe has been found to hold a byte. -/
  | waking (typed : Option Bytes)
  /-- The pipe has been drained. -/
  | drained (typed : Option Bytes)
  /-- The size is known, if it was asked for. -/
  | measured (size : Option Size) (typed : Option Bytes)
  /-- The read has failed. -/
  | failed (e : ReadError)
deriving DecidableEq, Repr

/-- A link that is read from, and what its reads have yielded, the last one at the end. -/
structure Reader where
  link : Link
  phase : Phase
  returned : List (List Event)

/-- What can happen next. -/
inductive Step where
  /-- The window changes; from then on this is what the terminal tells of its size. -/
  | resize (report : Option Size)
  | deliver
  /-- A read begins, as there is input or a byte in the pipe. -/
  | select (typed : Option Bytes)
  | drain
  | measure
  | finish

/-- One step, if it can happen. -/
def Reader.step (r : Reader) : Step → Option Reader
  | .resize report => some { r with link := r.link.resize (.ofReport report) }
  | .deliver => if r.link.signalPending then some { r with link := r.link.deliver } else none
  | .select typed =>
    match r.phase with
    | .outside =>
      if r.link.woken then some { r with phase := .waking typed }
      else if typed.isSome then some { r with phase := .measured none typed }
      else none
    | _ => none
  | .drain =>
    match r.phase with
    | .waking typed => some { r with link := r.link.drain, phase := .drained typed }
    | _ => none
  | .measure =>
    match r.phase with
    | .drained typed => some { r with phase := .measured (some r.link.size) typed }
    | _ => none
  | .finish =>
    match r.phase with
    | .measured size typed =>
      match eventsOf size typed with
      | .ok events => some { r with phase := .outside, returned := r.returned ++ [events] }
      | .error e => some { r with phase := .failed e }
    | _ => none

/-- Steps in a row, if all of them can happen. -/
def Reader.run (r : Reader) (steps : List Step) : Option Reader :=
  steps.foldlM Reader.step r

end WorkspaceDesk.Terminal

import WorkspaceDesk.Action.Token

/-!
# Reading tokens

A reader takes tokens from the head of a list and may fail. Reading can be tried and taken back;
only a token that does not fit is forgiven then, not a fault that has been recognised.
-/

namespace WorkspaceDesk.Action

/-- What is still to be read. -/
structure Rest where
  tokens : List Token
  /-- Faults that tell more than an unexpected token are looked for. -/
  telling : Bool
  /-- How many tokens there were from the furthest one on that has been looked at. -/
  unseen : Nat

/-- A fault that ends the reading. -/
structure Failure where
  fault : Fault
  /-- How many tokens there were from the furthest one on that had been looked at. -/
  unseen : Nat
  /-- The fault is reported whatever else there is to say. -/
  final : Bool
deriving DecidableEq, Repr

/-- A reader of tokens. -/
abbrev Reader (α : Type) := StateT Rest (Except Failure) α

/-- The reading ends with a fault. -/
def fail {α : Type} (f : Fault) : Reader α := do
  throw ⟨f, (← get).unseen, false⟩

/-- The reading ends with a fault that is reported whatever else there is to say. -/
def failAlways {α : Type} (f : Fault) : Reader α := do
  throw ⟨f, (← get).unseen, true⟩

/-- The reading ends with a telling fault, if such faults are looked for. -/
def failTelling {α : Type} (f : Fault) : Reader α := do
  fail (if (← get).telling then f else .unexpected)

/-- The next token. Nothing is read at a place that stops the reading. -/
def peek : Reader Kind := do
  match (← get).tokens with
  | [] => return .finish
  | t :: _ =>
    modify fun r => { r with unseen := min r.unseen r.tokens.length }
    match t.kind with
    | .stop s => failAlways s.fault
    | kind => return kind

/-- The reader goes behind the next token. -/
def advance : Reader Unit :=
  modify fun r => { r with tokens := r.tokens.drop 1 }

/-- The reader goes back to an earlier state; that it has looked further is kept. -/
def goBack (earlier : Rest) : Reader Unit :=
  modify fun r => { earlier with unseen := min earlier.unseen r.unseen }

/-- What a reader finds, without going behind it. -/
def lookAhead {α : Type} (reader : Reader α) : Reader α := do
  let here ← get
  let a ← reader
  goBack here
  return a

/-- The token behind the next one. -/
def peekSecond : Reader Kind :=
  lookAhead do
    advance
    peek

/-- The next token is a mark. -/
def sees (m : String) : Reader Bool := do
  return (← peek) = .mark m

/-- The next token is one of some marks. -/
def seesAny (ms : List String) : Reader Bool := do
  match ← peek with
  | .mark m => return ms.contains m
  | _ => return false

/-- The reader goes behind a mark if it comes next. -/
def accept (m : String) : Reader Bool := do
  if ← sees m then
    advance
    return true
  return false

/-- A mark has to come next. -/
def expect (m : String) : Reader Unit := do
  unless ← accept m do
    fail .unexpected

/-- Tries a reader. If a token does not fit, nothing is read. -/
def tryRead {α : Type} (reader : Reader α) : Reader (Option α) := fun r =>
  match reader r with
  | .ok (a, r') => .ok (some a, r')
  | .error e =>
    if e.final || e.fault ≠ .unexpected then .error e
    else .ok (none, { r with unseen := min r.unseen e.unseen })

/-- Tries a reader without looking for telling faults. -/
def trySilently {α : Type} (reader : Reader α) : Reader (Option α) := do
  let telling := (← get).telling
  modify fun r => { r with telling := false }
  let a ← tryRead reader
  modify fun r => { r with telling }
  return a

/-! ## Whole texts -/

/-- The place that stops the reading of tokens, if there is one. -/
def stop? (ts : List Token) : Option Stop :=
  ts.getLast?.bind fun t =>
    match t.kind with
    | .stop s => some s
    | _ => none

/-- A bracket is left open in a line before the furthest one that a reader has looked at. -/
def Failure.isBehind (e : Failure) (ts : List Token) (o : Opened) : Bool :=
  (ts.drop (ts.length - e.unseen)).head?.any fun t => o.line < t.line

/-- The fault that is reported for a failure. A decisive place that stops the reading comes first,
and so does a bracket that is left open in an earlier line, unless a telling fault was found with
the last token in view. -/
def Failure.reported (e : Failure) (ts : List Token) : Fault :=
  if e.fault = .unexpectedIndent then e.fault
  else
    match stop? ts with
    | none => e.fault
    | some s =>
      if s.decisive || e.fault = s.fault then s.fault
      else
        match s.opened with
        | some o =>
          if e.isBehind ts o && (e.fault = .unexpected || e.unseen > 2) then .neverClosed o.bracket
          else e.fault
        | none => e.fault

/-- Reads all tokens of a text; if that fails, once more for a telling fault. -/
def readTokens {α : Type} (ts : List Token) (reader : Reader α) : Except Fault α :=
  let read (telling : Bool) := reader ⟨ts, telling, ts.length⟩
  match read false with
  | .ok (a, _) => .ok a
  | .error e =>
    if e.final then .error (e.reported ts)
    else
      match read true with
      | .ok (a, _) => .ok a
      | .error e => .error (e.reported ts)

end WorkspaceDesk.Action

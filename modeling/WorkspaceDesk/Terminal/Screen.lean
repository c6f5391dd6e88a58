/-!
# The screen

Its size, and erasing lines on it.
-/

namespace WorkspaceDesk.Terminal

/-- The size of a window, in character cells. -/
structure Size where
  columns : Int
  lines : Int
deriving DecidableEq, Repr, Inhabited

/-- The size that is assumed where the terminal tells none. -/
def Size.conventional : Size := ⟨80, 24⟩

/-- The size to work with, given what the terminal tells, if anything. -/
def Size.ofReport (report : Option Size) : Size :=
  match report with
  | some s => if s.columns ≤ 0 then .conventional else s
  | none => .conventional

/-- The codes that move up one line and erase it. -/
def eraseLine : String := "\x1b[1A\x1b[2K"

/-- The codes that erase the `n` lines above the cursor. -/
def eraseLines (n : Int) : String :=
  String.join (List.replicate n.toNat eraseLine)

end WorkspaceDesk.Terminal

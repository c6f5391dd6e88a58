import WorkspaceDesk.Proofs.Table.Literal

/-!
# Consoles

Where tables are drawn. On a terminal every frame is drawn as it comes, elsewhere only the last one.
-/

namespace WorkspaceDesk.Table

/-- The reader that knows of tags alone: all styles are taken as they are named, and no name stands for a
pictograph. -/
def Markup.tagReader : Markup.Reader where
  isPictograph _ := false
  read _ s := (render s).mapError Error.message
  untagged _ _ h := ⟨_, congrArg (Except.mapError Error.message) (render_of_untagged h)⟩
  verbatim _ _ h := congrArg (Except.mapError Error.message) (render_of_literal h.literal h.printable)
  feedFree _ _ _ h hs := feed_not_mem_render (eq_ok_of_mapError_eq_ok h) hs

/-- A console of some columns. -/
structure Console where
  columns : Nat
  /-- The console is a terminal. -/
  live : Bool
  reader : Markup.Reader

/-- A console that is no terminal and knows of tags alone. -/
def Console.plain (columns : Nat) : Console :=
  ⟨columns, false, Markup.tagReader⟩

end WorkspaceDesk.Table

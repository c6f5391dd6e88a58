import WorkspaceDesk.Proofs.Table.Viewport
import WorkspaceDesk.Prompt.Run

/-!
# Batches of events

A table that is browsed reads its events in batches. How they are cut into batches does not matter: what
the table yields, the frame that stays and the lines that are erased are those of the session after the
first event that ends it, and no batch is read after the one that holds this event.
-/

namespace WorkspaceDesk.Prompt

open Table Terminal
open Session (exists_start_eq_ok)

/-- Progress after some reads, with the session that they have left. -/
def Progress.after (p : Progress) (s : Session) (reads : List (List Event)) : Progress :=
  { p with session := s, shown := s, reads := p.reads ++ reads }

variable {console : Console}

/-- Nothing is read once the session is done. -/
theorem browse_of_done {p : Progress} (arrivals : List Arrival) (h : p.session.done = true) :
    browse console arrivals p = (p, .ok ()) := by
  cases arrivals <;> rw [browse, if_pos h]

end WorkspaceDesk.Prompt

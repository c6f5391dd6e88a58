/-!
# Clamping

A whole number moved into a range, by as little as possible.
-/

namespace WorkspaceDesk.Table

/-- The number in `lo … hi` that is nearest to `v`; `lo` when the range is empty. -/
def clamp (v lo hi : Int) : Int :=
  if hi < lo then lo else max lo (min hi v)

end WorkspaceDesk.Table

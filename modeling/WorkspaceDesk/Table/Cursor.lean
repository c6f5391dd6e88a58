import WorkspaceDesk.Table.Clamp

/-!
# The cursor of a list

A cursor is the index of the selected item and the index of the first item in view. Movements change
the selection; `ensureVisible` then moves the view, by as little as possible.
-/

namespace WorkspaceDesk.Table

/-- Selected item and first item in view. -/
structure Cursor where
  selected : Int
  scroll : Int
deriving DecidableEq, Repr, Inhabited

namespace Cursor

/-- A cursor on an item, with the view at the head of the list. -/
def onItem (selected : Int) : Cursor :=
  ⟨selected, 0⟩

/-- Moves both indices into a list of `n` items. -/
def clampTo (c : Cursor) (n : Int) : Cursor :=
  if n ≤ 0 then ⟨0, 0⟩ else ⟨clamp c.selected 0 (n - 1), clamp c.scroll 0 (n - 1)⟩

/-- Moves the selection by `delta` items, stopping at both ends. -/
def move (c : Cursor) (delta n : Int) : Cursor :=
  if n ≤ 0 then ⟨0, 0⟩ else { c with selected := clamp (c.selected + delta) 0 (n - 1) }

/-- Moves the selection by pages of at least one item. -/
def page (c : Cursor) (pages size n : Int) : Cursor :=
  c.move (pages * max 1 size) n

/-- Moves a view of `height` items so that it shows the selected item and no room past the last. -/
def ensureVisible (c : Cursor) (height n : Int) : Cursor :=
  if n ≤ 0 ∨ height ≤ 0 then { c with scroll := 0 }
  else
    let scroll :=
      if c.selected < c.scroll then c.selected
      else if c.scroll + height ≤ c.selected then c.selected - height + 1
      else c.scroll
    { c with scroll := clamp scroll 0 (max 0 (n - height)) }

end Cursor

end WorkspaceDesk.Table

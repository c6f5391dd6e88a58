import WorkspaceDesk.Text.Layout

/-!
# Paragraphs

Words are filled into lines of a width, as many as fit. A word that is wider than a line begins where the
words before it end and goes on for as many lines as it needs.
-/

namespace WorkspaceDesk.Text

/-- Lines of a paragraph under construction. -/
structure Filling where
  complete : List (List Char)
  current : List Char

/-- The line with a space behind it; where there is no room for one, a new line is begun. -/
def Filling.space (width : Nat) (f : Filling) : Filling :=
  if f.current.isEmpty then f
  else if cells f.current < width then { f with current := f.current ++ [' '] }
  else ⟨f.complete ++ [f.current], []⟩

/-- The line without a space at its end. -/
def withoutSpace (line : List Char) : List Char :=
  if line.getLast? = some ' ' then line.dropLast else line

/-- Adds a word. -/
def Filling.add (width : Nat) (f : Filling) (word : List Char) : Filling :=
  let f := f.space width
  if cells f.current + cells word ≤ width then { f with current := f.current ++ word }
  -- a word that fits a line of its own is not broken
  else if cells word ≤ width then ⟨f.complete ++ [withoutSpace f.current], word⟩
  else
    match foldWord width (cells f.current) word with
    | [] => f
    | first :: others =>
      ⟨f.complete ++ [f.current ++ first] ++ others.dropLast, others.getLast?.getD []⟩

/-- The lines of a text whose words stand between single spaces. -/
def fill (width : Nat) (s : List Char) : List (List Char) :=
  let f := (s.splitOn ' ').foldl (Filling.add width) ⟨[], []⟩
  f.complete ++ [f.current]

end WorkspaceDesk.Text

import WorkspaceDesk.Text.Quoted

/-!
# Columns

A schema is an ordered list of columns of fixed width. Columns are shown strictly from the left: the
first one that would overflow the available width ends the visible ones, even if a later column is
narrow enough. Rows are kept whole and only cut down for display.
-/

namespace WorkspaceDesk.Table

open Text

/-- A column of a table. -/
structure Column where
  title : String
  /-- Width in terminal cells. -/
  width : Nat
  width_pos : 0 < width
deriving DecidableEq

/-- The cells of a row, as texts. -/
abbrev Row := List String

/-- What can be wrong with a schema or its rows. -/
inductive SchemaError where
  /-- A column without a positive width. -/
  | notPositive (title : String) (width : Int)
  /-- A row whose length is not that of the schema. -/
  | misfit (index cells columns : Nat)
deriving DecidableEq, Repr

/-- The wording of an error. -/
def SchemaError.message : SchemaError → String
  | .notPositive title width =>
    "column " ++ quoted title ++ " must have a positive width, got " ++ toString width
  | .misfit index cells columns =>
    "row " ++ toString index ++ " has " ++ toString cells ++ " cells, schema has "
      ++ toString columns ++ " columns"

/-- The column of a title and width, if the width is positive. -/
def Column.ofWidth (title : String) (width : Int) : Except SchemaError Column :=
  if h : 0 < width then .ok ⟨title, width.toNat, by omega⟩ else .error (.notPositive title width)

/-- The columns that are visible in the available width, from the left. -/
def fit : List Column → (available : Int) → List Column
  | [], _ => []
  | c :: rest, available =>
    if c.width ≤ available then c :: fit rest (available - c.width) else []

/-- The first `count` cells of a row; a negative count leaves off that many cells at the end. -/
def project (count : Int) (row : Row) : Row :=
  match count with
  | .ofNat n => row.take n
  | .negSucc n => row.take (row.length - (n + 1))

/-- The first row, counted from `index` on, whose length differs from that of the schema. -/
def misfit? (columns : Nat) : (index : Nat) → List Row → Option SchemaError
  | _, [] => none
  | index, row :: rest =>
    if row.length = columns then misfit? columns (index + 1) rest
    else some (.misfit index row.length columns)

/-- All rows cut down to `count` cells, if each of them has the length of the schema. -/
def projectAll (rows : List Row) (columns : List Column) (count : Int) :
    Except SchemaError (List Row) :=
  match misfit? columns.length 0 rows with
  | some e => .error e
  | none => .ok (rows.map (project count))

/-- Lines of a frame besides its rows: the upper border, the heading, its rule and the lower
border. -/
def frameOverhead : Int := 4

/-- Lines that a table takes; without a visible column it shrinks to one line. -/
def frameHeight (rows visible : Int) : Int :=
  if visible ≤ 0 then 1 else rows + frameOverhead

/-- No row is out of line exactly if each has the length of the schema. -/
theorem misfit?_eq_none_iff (columns index : Nat) (rows : List Row) :
    misfit? columns index rows = none ↔ ∀ row ∈ rows, row.length = columns := by
  induction rows generalizing index with
  | nil => simp [misfit?]
  | cons row rest ih => by_cases h : row.length = columns <;> simp [misfit?, h, ih]

end WorkspaceDesk.Table

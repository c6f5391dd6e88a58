import Mathlib.Algebra.BigOperators.Group.List.Basic
import WorkspaceDesk.Proofs.Table.Drawing
import WorkspaceDesk.Proofs.Table.Widths
import WorkspaceDesk.Proofs.Text.Cells

/-!
# Where cells are drawn

On a console that shrinks no column, each cell that the reader has to show as it is and that fits its column
stands in the first of the lines of its row, behind the cells of the columns before it
(`showsRows_gridLines`). What a session shows can be drawn unless a text has a tag
(`Session.view_shows_cells`).
-/

namespace WorkspaceDesk.Table

open Text

/-! ## The text of a line -/

namespace Line

variable {line : Line} {width : Nat}

theorem text_cons (s : Span) (line : Line) : text (s :: line) = s.text ++ line.text :=
  List.flatMap_cons

theorem text_append (line other : Line) : text (line ++ other) = line.text ++ other.text :=
  List.flatMap_append

/-- Joining spans of one style leaves the text as it is. -/
theorem text_merge (line : Line) : line.merge.text = line.text := by
  induction line with
  | nil => rfl
  | cons s rest ih =>
    rw [merge, text_cons, ← ih]
    split
    · rename_i hempty
      rw [List.isEmpty_iff.mp hempty, List.nil_append]
    · split
      · rename_i hmerge
        rw [hmerge]
        exact text_cons s []
      · rename_i t others hmerge
        rw [hmerge]
        split
        · rw [text_cons, text_cons, List.append_assoc]
        · rw [text_cons]

/-- A line that fits is not cut. -/
theorem take_of_cells_le (h : cells line.text ≤ width) : line.take width = line := by
  induction line generalizing width with
  | nil => rfl
  | cons s rest ih =>
    rw [text_cons, cells_append] at h
    rw [take, if_pos (by omega), ih (by omega)]

theorem text_boxed (line : Line) : (boxed line).text = ['│', ' '] ++ line.text ++ [' ', '│'] := by
  rw [boxed, text_merge, List.cons_append, text_cons, text_append]
  rfl

/-- The text of spans side by side, around one of them. -/
theorem text_joinCells (gap : Span) (before : List Span) (s : Span) (after : List Span) :
    text (joinCells gap (before ++ s :: after)) =
      before.flatMap (fun t => t.text ++ gap.text) ++ s.text ++
        after.flatMap (fun t => gap.text ++ t.text) := by
  induction before with
  | nil =>
    rw [List.nil_append, List.flatMap_nil, List.nil_append]
    induction after generalizing s with
    | nil => rw [joinCells, text_cons, List.flatMap_nil]; rfl
    | cons t after ih =>
      rw [joinCells, text_cons, text_cons, ih, List.flatMap_cons]
      · simp only [List.append_assoc]
      · simp
  | cons t before ih =>
    have hjoin : joinCells gap (t :: before ++ s :: after) =
        t :: gap :: joinCells gap (before ++ s :: after) := by
      cases before <;> rfl
    rw [hjoin, text_cons, text_cons, ih, List.flatMap_cons]
    simp only [List.append_assoc]

end Line

/-- A list around one of its members. -/
theorem eq_take_append_drop {α : Type} {xs : List α} {j : Nat} {x : α} (h : xs[j]? = some x) :
    xs = xs.take j ++ x :: xs.drop (j + 1) := by
  obtain ⟨hj, rfl⟩ := List.getElem?_eq_some_iff.mp h
  rw [List.getElem_cons_drop, List.take_append_drop]

theorem charCells_side : charCells '│' = 1 := by
  decide +kernel

theorem cells_flatMap {α : Type} (f : α → List Char) (xs : List α) :
    cells (xs.flatMap f) = (xs.map fun x => cells (f x)).sum := by
  induction xs with
  | nil => rfl
  | cons x xs ih => rw [List.flatMap_cons, cells_append, ih, List.map_cons, List.sum_cons]

/-! ## Cells in a row -/

variable {reader : Markup.Reader} {widths : List Nat} {row : Row} {drawn : List DrawnCell} {c : DrawnCell} {p : Place}
  {outer : Nat} {cell : String}

/-- The first line of a cell in its row. -/
def DrawnCell.first (c : DrawnCell) : List Char :=
  c.lines.headD (spaces c.outer)

/-- Every line of a cell takes the cells of its column. -/
theorem cells_of_mem_drawCell {lines : List (List Char)} (h : drawCell reader p outer cell = .ok lines) :
    ∀ line ∈ lines, cells line = outer := by
  rw [drawCell] at h
  split at h
  · cases h
    exact List.forall_mem_nil _
  · rename_i hinner
    obtain ⟨text, -, rfl⟩ := exists_of_map_eq_ok h
    intro line hline
    obtain ⟨part, -, rfl⟩ := List.mem_map.mp hline
    have hfield := cells_field (Nat.pos_of_ne_zero hinner) part
    rw [cells_append, cells_append, cells_spaces, cells_spaces, hfield]
    unfold Place.inner at hinner ⊢
    omega

/-- The `j`-th cell that is drawn is the `j`-th cell of the row in the `j`-th column. -/
theorem drawCell_of_getElem? (h : drawCells reader widths row = .ok drawn) {j : Nat}
    (hc : drawn[j]? = some c) :
    ∃ cell, row[j]? = some cell ∧ widths[j]? = some c.outer ∧
      drawCell reader ⟨j = 0, j + 1 = widths.length⟩ c.outer cell = .ok c.lines := by
  obtain ⟨⟨p, outer, cell⟩, hzip, hdraw⟩ := getElem?_of_mapM_eq_ok h hc
  obtain ⟨lines, hlines, rfl⟩ := exists_of_map_eq_ok hdraw
  obtain ⟨hplace, hzip⟩ := List.getElem?_zip_eq_some.mp hzip
  obtain ⟨hwidth, hcell⟩ := List.getElem?_zip_eq_some.mp hzip
  refine ⟨cell, hcell, hwidth, ?_⟩
  have hp : p = ⟨j = 0, j + 1 = widths.length⟩ := by
    have hj := (List.getElem?_eq_some_iff.mp hwidth).1
    rw [places, List.getElem?_map, List.getElem?_range hj] at hplace
    exact (Option.some.inj hplace).symm
  rwa [hp] at hlines

theorem length_drawCells (h : drawCells reader widths row = .ok drawn) (hrow : row.length = widths.length) :
    drawn.length = widths.length := by
  rw [(mapM_eq_ok h).1]
  simp [places, hrow]

/-- The columns of the drawn cells are those of the row. -/
theorem outer_drawCells (h : drawCells reader widths row = .ok drawn) (hrow : row.length = widths.length) :
    drawn.map (·.outer) = widths := by
  have hlength := length_drawCells h hrow
  apply List.ext_getElem?
  intro j
  rw [List.getElem?_map]
  cases hc : drawn[j]? with
  | none =>
    rw [List.getElem?_eq_none_iff, hlength] at hc
    exact (List.getElem?_eq_none_iff.mpr hc).symm
  | some c =>
    obtain ⟨cell, -, hwidth, -⟩ := drawCell_of_getElem? h hc
    exact hwidth.symm

theorem cells_first (h : drawCells reader widths row = .ok drawn) (hc : c ∈ drawn) :
    cells c.first = c.outer := by
  obtain ⟨p, cell, -, hdraw⟩ := exists_of_mem_drawCells h hc
  have hlines := cells_of_mem_drawCell hdraw
  unfold DrawnCell.first
  cases hcells : c.lines with
  | nil => exact cells_spaces c.outer
  | cons line below => exact hlines line (by rw [hcells]; exact List.mem_cons_self)

/-- The first line of a row has the first lines of its cells side by side. -/
theorem rowLines_top (style gap : Style) (drawn : List DrawnCell) :
    ∃ style' below, rowLines .top style gap drawn =
      joinCells ⟨[' '], gap⟩ (drawn.map fun c => ⟨c.first, style'⟩) :: below := by
  have hheight := le_foldl_max (drawn.map fun c => c.lines.length) 1
  obtain ⟨height, hheight'⟩ := Nat.exists_eq_add_one_of_ne_zero (Nat.ne_zero_of_lt hheight)
  have hfirst : ∀ style' : Style,
      (drawn.map fun c => fillCell .top c.outer (height + 1) c.lines).map
        (fun lines => (⟨lines[0]?.getD [], style'⟩ : Span)) = drawn.map fun c => ⟨c.first, style'⟩ := by
    intro style'
    rw [List.map_map]
    apply List.map_congr_left
    intro c _
    simp only [Function.comp, DrawnCell.first, fillCell]
    cases c.lines with
    | nil => simp
    | cons line rest => rfl
  unfold rowLines
  dsimp only
  rw [hheight', List.range_succ_eq_map, List.map_cons, hfirst]
  exact ⟨_, _, rfl⟩

/-- The cells before the `j`-th one in a row, each with the gap behind it. -/
def before (drawn : List DrawnCell) (j : Nat) : List Char :=
  (drawn.take j).flatMap fun c => c.first ++ [' ']

/-- The cells behind the `j`-th one in a row, each with the gap before it. -/
def behind (drawn : List DrawnCell) (j : Nat) : List Char :=
  (drawn.drop (j + 1)).flatMap fun c => ' ' :: c.first

/-- The text of the first line of a row, around one of its cells. -/
theorem text_first_line {j : Nat} (hc : drawn[j]? = some c) (gap style : Style) :
    Line.text (joinCells ⟨[' '], gap⟩ (drawn.map fun c => ⟨c.first, style⟩)) =
      before drawn j ++ c.first ++ behind drawn j := by
  have hspans : drawn.map (fun c => (⟨c.first, style⟩ : Span)) =
      (drawn.take j).map (fun c => ⟨c.first, style⟩) ++
        ⟨c.first, style⟩ :: (drawn.drop (j + 1)).map fun c => ⟨c.first, style⟩ := by
    conv_lhs => rw [eq_take_append_drop hc]
    rw [List.map_append, List.map_cons]
  rw [hspans, Line.text_joinCells, before, behind, List.flatMap_map, List.flatMap_map]
  rfl

theorem cells_before (h : drawCells reader widths row = .ok drawn) (hrow : row.length = widths.length)
    (j : Nat) : cells (before drawn j) = ((widths.take j).map (· + 1)).sum := by
  rw [before, cells_flatMap, ← outer_drawCells h hrow, ← List.map_take, List.map_map]
  congr 1
  apply List.map_congr_left
  intro c hc
  rw [cells_append, cells_first h (List.mem_of_mem_take hc), cells_cons, cells_nil, charCells_space]
  rfl

theorem cells_behind (h : drawCells reader widths row = .ok drawn) (hrow : row.length = widths.length)
    (j : Nat) : cells (behind drawn j) = ((widths.drop (j + 1)).map (· + 1)).sum := by
  rw [behind, cells_flatMap, ← outer_drawCells h hrow, ← List.map_drop, List.map_map]
  congr 1
  apply List.map_congr_left
  intro c hc
  rw [cells_cons, cells_first h (List.mem_of_mem_drop hc), charCells_space, Nat.add_comm]
  rfl

/-- The first line of a row takes the cells of its columns and of the gaps between them. -/
theorem cells_first_line (h : drawCells reader widths row = .ok drawn) (hrow : row.length = widths.length)
    {j : Nat} (hc : drawn[j]? = some c) :
    cells (before drawn j ++ c.first ++ behind drawn j) + 1 = widths.sum + widths.length := by
  obtain ⟨cell, -, hwidth, -⟩ := drawCell_of_getElem? h hc
  have hsum : (widths.map (· + 1)).sum = widths.sum + widths.length := by
    rw [List.sum_map_add]
    simp
  rw [cells_append, cells_append, cells_before h hrow, cells_behind h hrow,
    cells_first h (List.mem_of_getElem? hc), ← hsum]
  conv_rhs => rw [eq_take_append_drop hwidth]
  rw [List.map_append, List.map_cons, List.sum_append, List.sum_cons]
  omega

/-! ## Plain cells -/

/-- A cell on one line of printable characters, without markup and pictographs, that is no wider than its
column. -/
structure Plain (reader : Markup.Reader) (column : Column) (cell : String) : Prop where
  verbatim : Markup.Verbatim reader.isPictograph cell.toList
  fits : cells cell.toList ≤ column.width

/-- The cells that stand before the text of the `j`-th cell: the side of the box, the columns before
with their paddings and gaps, and the padding of the cell, which the first one does not have. -/
def cellOffset (columns : List Column) (j : Nat) : Nat :=
  2 + ((columns.take j).map (·.width + 3)).sum + if j = 0 then 0 else 1

/-- A block of lines shows the `j`-th cell as it is, at its place in the first line. -/
def ShowsCell (columns : List Column) (block : List (List Char)) (j : Nat) (cell : String) : Prop :=
  ∃ left right below, block = (left ++ cell.toList ++ right) :: below ∧
    cells left = cellOffset columns j

/-- A plain cell stands behind its padding as it is. -/
theorem first_of_plain {column : Column} (hplain : Plain reader column cell) {lines : List (List Char)}
    (h : drawCell reader p (column.width + 2) cell = .ok lines) :
    ∃ right, (DrawnCell.mk (column.width + 2) lines).first =
      spaces p.padding.1 ++ cell.toList ++ right := by
  have hfeed : '\n' ∉ cell.toList := fun hmem => by cases hplain.verbatim.printable '\n' hmem
  have hwidth := column.width_pos
  have hinner : column.width ≤ p.inner (column.width + 2) := by
    unfold Place.inner Place.padding
    dsimp only
    split <;> split <;> omega
  have hfield := field_of_printable hplain.verbatim.printable (Nat.le_trans hplain.fits hinner)
  rw [drawCell, if_neg (by omega), reader.verbatim _ _ hplain.verbatim,
    Except.map, cellLines, splitLines_of_not_mem hfeed] at h
  cases h
  refine ⟨spaces (p.inner (column.width + 2) - cells cell.toList) ++ spaces p.padding.2, ?_⟩
  rw [DrawnCell.first, List.map_singleton, List.headD_cons, hfield]
  simp only [List.append_assoc]

/-! ## The block of a row -/

variable {columns : List Column} {screen : Nat}

/-- A line between the sides of the box as it comes on the screen. -/
def onScreen (screen : Nat) (columns : List Column) (line : Line) : List Char :=
  ((boxed (line.take (innerCells screen columns))).take screen).text

/-- A line that fits between the sides comes on the screen whole. -/
theorem onScreen_of_cells_le {line : Line} (h : cells line.text ≤ innerCells screen columns)
    (hscreen : innerCells screen columns + sideCells ≤ screen) :
    onScreen screen columns line = ['│', ' '] ++ line.text ++ [' ', '│'] := by
  have hsides : sideCells = 4 := rfl
  rw [onScreen, Line.take_of_cells_le h, Line.take_of_cells_le, Line.text_boxed]
  rw [Line.text_boxed]
  simp only [cells_append, cells_cons, cells_nil, charCells_side, charCells_space]
  omega

/-- A block of lines shows the plain cells of its row. -/
theorem showsCell_rowLines (hcolumns : columns ≠ []) (hunshrunk : Unshrunk screen columns)
    (hrow : row.length = columns.length)
    (h : drawCells reader (columns.map (·.width + 2)) row = .ok drawn) (style gap : Style) {j : Nat}
    {column : Column} (hcolumn : columns[j]? = some column) (hcell : row[j]? = some cell)
    (hplain : Plain reader column cell) :
    ShowsCell columns ((rowLines .top style gap drawn).map (onScreen screen columns)) j cell := by
  have hroom := (unshrunk_iff hcolumns).mp hunshrunk
  have hinner := innerCells_of_le hroom
  have hrow' : row.length = (columns.map (·.width + 2)).length := by rw [List.length_map, hrow]
  -- the cell as it was drawn
  have hj : j < drawn.length := by
    rw [length_drawCells h hrow', ← hrow']
    exact (List.getElem?_eq_some_iff.mp hcell).1
  have hc : drawn[j]? = some drawn[j] := List.getElem?_eq_getElem hj
  obtain ⟨other, hother, hwidth, hdraw⟩ := drawCell_of_getElem? h hc
  obtain rfl : cell = other := Option.some.inj (hcell.symm.trans hother)
  rw [List.getElem?_map, hcolumn] at hwidth
  have houter : column.width + 2 = drawn[j].outer := Option.some.inj hwidth
  rw [← houter] at hdraw
  obtain ⟨right, hfirst⟩ := first_of_plain hplain hdraw
  rw [houter] at hfirst
  -- the line that it stands in
  obtain ⟨style', below, hlines⟩ := rowLines_top style gap drawn
  have htext := text_first_line hc gap style'
  have hcells := cells_first_line h hrow' hc
  have hfits : cells (Line.text (joinCells ⟨[' '], gap⟩ (drawn.map fun c => ⟨c.first, style'⟩))) ≤
      innerCells screen columns := by
    rw [htext, hinner]
    rw [List.length_map, ← outerSum] at hcells
    unfold gapCount
    omega
  rw [hlines, List.map_cons, onScreen_of_cells_le hfits (by rw [hinner]; exact hroom), htext]
  refine ⟨['│', ' '] ++ before drawn j ++ spaces (if j = 0 then 0 else 1),
    right ++ behind drawn j ++ [' ', '│'], below.map (onScreen screen columns), ?_, ?_⟩
  · have hpadding : (Place.mk (j = 0) (j + 1 = (columns.map (·.width + 2)).length)).padding.1 =
        if j = 0 then 0 else 1 := by simp [Place.padding]
    rw [hpadding] at hfirst
    rw [show drawn[j].first = _ from hfirst]
    simp only [List.append_assoc]
  · have hwidths : ((columns.map (·.width + 2)).take j).map (· + 1) =
        (columns.take j).map (·.width + 3) := by
      rw [← List.map_take, List.map_map]
      rfl
    simp only [cells_append, cells_cons, cells_nil, charCells_side, charCells_space, cells_spaces,
      cells_before h hrow', hwidths, cellOffset]

/-! ## Grids -/

variable {console : Console} {rows : List (Emphasis × Row)} {lines : List Line}

/-- The texts of lines hold a block for each row, in order, and each block shows the plain cells of
its row. -/
def ShowsRows (reader : Markup.Reader) (columns : List Column) (rows : List Row) (texts : List (List Char)) : Prop :=
  ∃ (head : List (List Char)) (blocks : List (List (List Char))) (foot : List (List Char)),
    texts = head ++ blocks.flatten ++ foot ∧ blocks.length = rows.length ∧
    ∀ (i : Nat) (row : Row) (block : List (List Char)), rows[i]? = some row → blocks[i]? = some block →
      ∀ (j : Nat) (column : Column) (cell : String), columns[j]? = some column → row[j]? = some cell →
        Plain reader column cell → ShowsCell columns block j cell

/-- Where no column is shrunk, the lines of a grid show its rows. -/
theorem showsRows_gridLines (hcolumns : columns ≠ []) (hunshrunk : Unshrunk console.columns columns)
    (hrows : ∀ row ∈ rows.map (·.2), row.length = columns.length)
    (h : gridLines console columns rows = .ok lines) :
    ShowsRows console.reader columns (rows.map (·.2))
      ((lines.map (Line.take console.columns)).map Line.text) := by
  have hroom := (unshrunk_iff hcolumns).mp hunshrunk
  have hsum : 0 < outerSum columns := by
    obtain ⟨c, rest, rfl⟩ := List.exists_cons_of_ne_nil hcolumns
    have : c.width + 2 ≤ outerSum (c :: rest) := width_le_outerSum List.mem_cons_self
    omega
  rw [gridLines, if_neg (by omega)] at h
  obtain ⟨content, hcontent, rfl⟩ := exists_of_map_eq_ok h
  unfold contentLines at hcontent
  rw [hunshrunk] at hcontent
  obtain ⟨titles, -, hcontent⟩ := exists_of_bind_eq_ok hcontent
  obtain ⟨body, hbody, hcontent⟩ := exists_of_bind_eq_ok hcontent
  cases hcontent
  let inner := innerCells console.columns columns
  let heading := rowLines .bottom .bold .none titles
  let rule : Line := [⟨List.replicate (total (columns.map (·.width + 2)) + gapCount columns) '─', .none⟩]
  refine ⟨((border '╭' '╮' (inner + 2)).take console.columns).text ::
      (heading ++ [rule]).map (onScreen console.columns columns),
    body.map (·.map (onScreen console.columns columns)), [((border '╰' '╯' (inner + 2)).take console.columns).text],
    ?_, ?_, ?_⟩
  · have honScreen : ∀ part : List Line,
        (((part.map (Line.take inner)).map boxed).map (Line.take console.columns)).map Line.text =
          part.map (onScreen console.columns columns) := by
      intro part
      rw [List.map_map, List.map_map, List.map_map]
      rfl
    rw [List.map_append, List.map_append, List.map_cons, List.map_cons, honScreen, ← List.map_flatten,
      List.append_cons heading, List.map_append (f := onScreen console.columns columns)]
    rfl
  · rw [List.length_map, List.length_map, (mapM_eq_ok hbody).1]
  · intro i row block hrow hblock j column cell hcolumn hcell hplain
    rw [List.getElem?_map] at hblock
    obtain ⟨part, hpart, rfl⟩ := Option.map_eq_some_iff.mp hblock
    obtain ⟨⟨e, row'⟩, hrow', hdraw⟩ := getElem?_of_mapM_eq_ok hbody hpart
    rw [List.getElem?_map, hrow'] at hrow
    obtain rfl : row' = row := Option.some.inj hrow
    obtain ⟨drawn, hdrawn, hdraw⟩ := exists_of_bind_eq_ok hdraw
    cases hdraw
    have hlength := hrows row' (List.mem_map_of_mem (List.mem_of_getElem? hrow'))
    exact showsCell_rowLines hcolumns hunshrunk hlength hdrawn _ _ hcolumn hcell hplain

/-! ## What can be drawn -/

theorem exists_drawCells (h : ∀ cell ∈ row, Markup.Untagged cell.toList) (widths : List Nat) :
    ∃ drawn, drawCells reader widths row = .ok drawn := by
  apply exists_mapM_eq_ok
  rintro ⟨p, outer, cell⟩ hmem
  have hcell := (List.of_mem_zip (List.of_mem_zip hmem).2).2
  obtain ⟨shown, hshown⟩ := reader.untagged (p.inner outer) cell.toList (h cell hcell)
  dsimp only
  rw [drawCell]
  split
  · exact ⟨_, rfl⟩
  · rw [hshown]
    exact ⟨_, rfl⟩

/-- A grid of which no title and no cell has a tag can be drawn. -/
theorem exists_gridLines (hcolumns : ∀ c ∈ columns, Markup.Untagged c.title.toList)
    (hrows : ∀ row ∈ rows.map (·.2), ∀ cell ∈ row, Markup.Untagged cell.toList) (console : Console) :
    ∃ lines, gridLines console columns rows = .ok lines := by
  have hcontent : ∀ inner, ∃ content, contentLines console.reader inner columns rows = .ok content := by
    intro inner
    obtain ⟨titles, htitles⟩ := exists_drawCells (List.forall_mem_map.mpr hcolumns)
      (outerWidths (inner - gapCount columns) columns)
    have hrow : ∀ r ∈ rows, ∃ part, (do
        let cells ← drawCells console.reader (outerWidths (inner - gapCount columns) columns) r.2
        return rowLines .top r.1.styles.1 r.1.styles.2 cells : Except String (List Line)) =
          .ok part := by
      intro r hr
      obtain ⟨drawn, hdrawn⟩ := exists_drawCells (hrows r.2 (List.mem_map_of_mem hr))
        (outerWidths (inner - gapCount columns) columns)
      rw [hdrawn]
      exact ⟨_, rfl⟩
    obtain ⟨body, hbody⟩ := exists_mapM_eq_ok hrow
    unfold contentLines
    dsimp only
    rw [htitles, hbody]
    exact ⟨_, rfl⟩
  rw [gridLines]
  split
  · exact ⟨_, rfl⟩
  · obtain ⟨content, h⟩ := hcontent (innerCells console.columns columns)
    dsimp only
    rw [h]
    exact ⟨_, rfl⟩

/-! ## Sessions -/

namespace Session

/-- Each row in view has a cell for each visible column. -/
theorem length_of_mem_window {s : Session} {row : Row} (h : row ∈ s.window) :
    row.length = s.visibleColumns.length := by
  obtain ⟨whole, hwhole, rfl⟩ := List.mem_map.mp (List.mem_of_mem_drop (List.mem_of_mem_take h))
  have hlength := s.content.rows_fit whole hwhole
  have hvisible : s.visibleColumns.length ≤ s.columns.length := (fit_prefix_columns s.columns s.width).length_le
  change (whole.take s.visibleColumns.length).length = s.visibleColumns.length
  rw [List.length_take, hlength, ← columns]
  omega

/-- No title and no cell that a session shows has a tag. -/
def Untagged (s : Session) : Prop :=
  (∀ c ∈ s.visibleColumns, Markup.Untagged c.title.toList) ∧
    ∀ row ∈ s.window, ∀ cell ∈ row, Markup.Untagged cell.toList

/-- A session without tags is drawn on every console. -/
theorem exists_lines {s : Session} (h : s.Untagged) (console : Console) :
    ∃ lines, s.view.lines console = .ok lines := by
  obtain ⟨hcolumns, hrows⟩ := h
  rw [View.lines]
  split
  · exact ⟨[], rfl⟩
  rw [view]
  split
  · exact ⟨_, rfl⟩
  · have hrows' : ∀ row ∈ (s.emphasize s.top s.window).map (·.2), ∀ cell ∈ row,
        Markup.Untagged cell.toList := by rwa [map_emphasize]
    obtain ⟨lines, hlines⟩ := exists_gridLines hcolumns hrows' console
    rw [View.allLines, hlines]
    exact ⟨_, rfl⟩

/-- What is drawn is printed as well. -/
theorem exists_printed {v : View} {console : Console} {lines : List Line}
    (h : v.lines console = .ok lines) : ∃ texts, v.printed console = .ok texts := by
  cases v with
  | notice => exact ⟨_, rfl⟩
  | grid columns rows => exact ⟨lines.map Line.text, by rw [View.printed, h]; rfl⟩

/-- Where the console shrinks no column, the lines of a session show its rows, and they are printed as
they are drawn. -/
theorem showsRows_view {s : Session} {console : Console} (hcolumns : s.visibleColumns ≠ [])
    (hunshrunk : Unshrunk console.columns s.visibleColumns) {lines : List Line}
    (h : s.view.lines console = .ok lines) :
    s.view.printed console = .ok (lines.map Line.text) ∧
      ShowsRows console.reader s.visibleColumns s.window (lines.map Line.text) := by
  have hview : s.view = .grid s.visibleColumns (s.emphasize s.top s.window) := by
    rw [view, if_neg (by simpa using hcolumns)]
  have hscreen : console.columns ≠ 0 := by
    have hroom := (unshrunk_iff hcolumns).mp hunshrunk
    have hsides : sideCells = 4 := rfl
    omega
  rw [hview] at h ⊢
  refine ⟨by rw [View.printed, h]; rfl, ?_⟩
  rw [View.lines, if_neg hscreen, View.allLines] at h
  obtain ⟨grid, hgrid, rfl⟩ := exists_of_map_eq_ok h
  have hlengths : ∀ row ∈ (s.emphasize s.top s.window).map (·.2),
      row.length = s.visibleColumns.length := by
    rw [map_emphasize]
    exact fun row => length_of_mem_window
  have hshows := showsRows_gridLines hcolumns hunshrunk hlengths hgrid
  rwa [map_emphasize] at hshows

/-- Whatever the reader of the console makes of markup: a session without tags is drawn and printed, and where
the console shrinks no column each plain cell stands at its place in the lines of its row. -/
theorem view_shows_cells (s : Session) (console : Console) :
    (s.Untagged → (∃ lines, s.view.lines console = .ok lines) ∧
      ∃ texts, s.view.printed console = .ok texts) ∧
    (s.visibleColumns ≠ [] → Unshrunk console.columns s.visibleColumns →
      ∀ lines, s.view.lines console = .ok lines →
        s.view.printed console = .ok (lines.map Line.text) ∧
          ShowsRows console.reader s.visibleColumns s.window (lines.map Line.text)) := by
  constructor
  · intro huntagged
    obtain ⟨lines, hlines⟩ := exists_lines huntagged console
    exact ⟨⟨lines, hlines⟩, exists_printed hlines⟩
  · intro hcolumns hunshrunk lines hlines
    exact showsRows_view hcolumns hunshrunk hlines

/-- A table of one column of ten cells with a single row. -/
def ofCell (cell : String) : Session where
  content := ⟨[⟨"Name", 10, Nat.zero_lt_succ 9⟩], [[cell]], List.forall_mem_singleton.mpr rfl⟩
  selectable := true
  cursor := .onItem 0
  selection := cell
  width := 80
  height := 0
  state := .browsing

/-- Brackets that are no tag are shown as they are. -/
theorem view_shows_cells_of_index :
    Plain Markup.tagReader ⟨"Name", 10, Nat.zero_lt_succ 9⟩ "web[0]" ∧
      ∃ lines, (ofCell "web[0]").view.lines (.plain 80) = .ok lines ∧
        ShowsRows Markup.tagReader [⟨"Name", 10, Nat.zero_lt_succ 9⟩] [["web[0]"]]
          (lines.map Line.text) := by
  have hcell : Markup.Literal "web[0]".toList := Markup.literal_of_render (by decide +kernel)
  have htitle : Markup.Literal "Name".toList := Markup.literal_of_render (by decide +kernel)
  obtain ⟨hdrawn, hshows⟩ := view_shows_cells (ofCell "web[0]") (.plain 80)
  have huntagged : (ofCell "web[0]").Untagged := by
    refine ⟨fun c hc => ?_, fun row hrow cell hc => ?_⟩
    · cases List.mem_singleton.mp hc
      exact htitle.untagged
    · cases List.mem_singleton.mp hrow
      cases List.mem_singleton.mp hc
      exact hcell.untagged
  obtain ⟨⟨lines, hlines⟩, -⟩ := hdrawn huntagged
  have hunshrunk : Unshrunk 80 (ofCell "web[0]").visibleColumns :=
    (unshrunk_iff (List.cons_ne_nil _ _)).mpr (by decide +kernel)
  have hprintable : "web[0]".toList.all isPrintable = true := by decide +kernel
  have hverbatim : Markup.Verbatim Markup.tagReader.isPictograph "web[0]".toList :=
    ⟨hcell, nofun, List.all_eq_true.mp hprintable⟩
  exact ⟨⟨hverbatim, by decide +kernel⟩, lines, hlines,
    (hshows (List.cons_ne_nil _ _) hunshrunk lines hlines).2⟩

/-- A cell that closes a tag keeps the table from being drawn. -/
theorem view_not_drawn_of_closing_tag :
    (ofCell "[/]").view.lines (.plain 80) =
      .error "closing tag '[/]' at position 0 has nothing to close" := by
  decide +kernel

end Session

end WorkspaceDesk.Table

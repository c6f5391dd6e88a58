import WorkspaceDesk.Proofs.Except
import WorkspaceDesk.Proofs.Table.Fitting
import WorkspaceDesk.Proofs.Table.Viewport
import WorkspaceDesk.Proofs.Text.Layout
import WorkspaceDesk.Table.Drawing

/-!
# The lines of a drawing

A drawing is made of lines that hold no line feed. A grid has a line for each row at least, and four more
for the box, the titles and the rule: exactly these where no title and no cell has a line feed
(`Frames`), since a row is as high as its highest cell.
-/

namespace WorkspaceDesk.Table

open Text

/-! ## Lines without a line feed -/

namespace Line

/-- No span of the line has a line feed. -/
def FeedFree (line : Line) : Prop :=
  ∀ span ∈ line, '\n' ∉ span.text

variable {line : Line} {span : Span}

theorem FeedFree.nil : FeedFree [] := fun _ h => by cases h

theorem FeedFree.cons (hspan : '\n' ∉ span.text) (h : line.FeedFree) : FeedFree (span :: line) := by
  intro t ht
  rcases List.mem_cons.mp ht with rfl | ht
  · exact hspan
  · exact h t ht

theorem FeedFree.head (h : FeedFree (span :: line)) : '\n' ∉ span.text :=
  h span List.mem_cons_self

theorem FeedFree.tail (h : FeedFree (span :: line)) : line.FeedFree :=
  fun t ht => h t (List.mem_cons_of_mem span ht)

theorem FeedFree.append {other : Line} (h : line.FeedFree) (hother : other.FeedFree) :
    FeedFree (line ++ other) := by
  intro t ht
  rcases List.mem_append.mp ht with ht | ht
  · exact h t ht
  · exact hother t ht

theorem FeedFree.text (h : line.FeedFree) : '\n' ∉ line.text := by
  intro hmem
  obtain ⟨t, ht, hfeed⟩ := List.mem_flatMap.mp hmem
  exact h t ht hfeed

theorem FeedFree.merge (h : line.FeedFree) : line.merge.FeedFree := by
  induction line with
  | nil => exact .nil
  | cons s rest ih =>
    have hrest := ih h.tail
    rw [Line.merge]
    split
    · exact hrest
    split
    · exact .cons h.head .nil
    · rename_i t others hmerge
      rw [hmerge] at hrest
      split
      · refine .cons ?_ hrest.tail
        rw [List.mem_append, not_or]
        exact ⟨h.head, hrest.head⟩
      · exact .cons h.head hrest

theorem FeedFree.take (h : line.FeedFree) (width : Nat) : (line.take width).FeedFree := by
  induction line generalizing width with
  | nil => exact .nil
  | cons s rest ih =>
    rw [Line.take]
    split
    · exact .cons h.head (ih h.tail _)
    · exact .cons (feed_not_mem_cutTo h.head width) .nil

theorem feedFree_border (left right : Char) (hleft : left ≠ '\n') (hright : right ≠ '\n')
    (width : Nat) : FeedFree (border left right width) := by
  refine .cons ?_ .nil
  simp only [List.mem_append, List.mem_cons, List.mem_replicate, List.not_mem_nil, or_false, not_or]
  exact ⟨⟨hleft.symm, fun h => absurd h.2 (by decide)⟩, hright.symm⟩

theorem FeedFree.boxed (h : line.FeedFree) : FeedFree (boxed line) := by
  refine FeedFree.merge (.append (.cons ?_ h) (.cons ?_ .nil)) <;> decide

theorem feedFree_joinCells {gap : Span} (hgap : '\n' ∉ gap.text) (h : line.FeedFree) :
    FeedFree (joinCells gap line) := by
  induction line with
  | nil => exact .nil
  | cons s rest ih =>
    cases rest with
    | nil => exact h
    | cons t others => exact .cons h.head (.cons hgap (ih h.tail))

end Line

/-! ## Cells -/

variable {reader : Markup.Reader} {cell : String} {outer : Nat}

/-- A cell that is drawn has no lines, for lack of room, or those of the text that it shows. -/
theorem drawCell_eq_ok {p : Place} {lines : List (List Char)}
    (h : drawCell reader p outer cell = .ok lines) :
    lines = [] ∨
      ∃ text, reader.read (p.inner outer) cell.toList = .ok text ∧ lines = cellLines p outer text := by
  rw [drawCell] at h
  split at h
  · cases h
    exact .inl rfl
  · obtain ⟨text, hread, hlines⟩ := exists_of_map_eq_ok h
    exact .inr ⟨text, hread, hlines.symm⟩

/-- The lines of a cell have no line feed. -/
theorem feed_not_mem_drawCell {p : Place} {lines : List (List Char)}
    (h : drawCell reader p outer cell = .ok lines) : ∀ line ∈ lines, '\n' ∉ line := by
  rcases drawCell_eq_ok h with rfl | ⟨text, -, rfl⟩
  · exact List.forall_mem_nil _
  · intro line hline
    obtain ⟨part, hpart, rfl⟩ := List.mem_map.mp hline
    have hfit := feed_not_mem_padTo (feed_not_mem_fitLine (feed_not_mem_splitLines hpart)
      (p.inner outer)) (p.inner outer)
    simp only [List.mem_append, not_or]
    exact ⟨⟨feed_not_mem_spaces _, hfit⟩, feed_not_mem_spaces _⟩

/-- A cell without a line feed has at most one line. -/
theorem length_drawCell_le {p : Place} {lines : List (List Char)}
    (h : drawCell reader p outer cell = .ok lines) (hcell : '\n' ∉ cell.toList) : lines.length ≤ 1 := by
  rcases drawCell_eq_ok h with rfl | ⟨text, hread, rfl⟩
  · exact Nat.zero_le 1
  · have htext := reader.feedFree _ _ _ hread hcell
    rw [cellLines, splitLines_of_not_mem htext]
    exact Nat.le_refl 1

/-- Each drawn cell of a row is a cell of the row. -/
theorem exists_of_mem_drawCells {widths : List Nat} {row : Row} {cells : List DrawnCell}
    (h : drawCells reader widths row = .ok cells) {c : DrawnCell} (hc : c ∈ cells) :
    ∃ p, ∃ cell ∈ row, drawCell reader p c.outer cell = .ok c.lines := by
  obtain ⟨⟨p, outer, cell⟩, hmem, hdraw⟩ := (mapM_eq_ok h).2 c hc
  have hcell : cell ∈ row := (List.of_mem_zip (List.of_mem_zip hmem).2).2
  obtain ⟨lines, hlines, rfl⟩ := exists_of_map_eq_ok hdraw
  exact ⟨p, cell, hcell, hlines⟩

/-! ## Rows -/

/-- No cell of the row has a line feed. -/
def Row.FeedFree (row : Row) : Prop :=
  ∀ cell ∈ row, '\n' ∉ cell.toList

instance (row : Row) : Decidable row.FeedFree :=
  inferInstanceAs (Decidable (∀ cell ∈ row, '\n' ∉ cell.toList))

theorem le_foldl_max (ns : List Nat) (m : Nat) : m ≤ ns.foldl max m := by
  induction ns generalizing m with
  | nil => exact Nat.le_refl m
  | cons n ns ih => exact Nat.le_trans (Nat.le_max_left m n) (ih _)

theorem foldl_max_le {ns : List Nat} {m bound : Nat} (hm : m ≤ bound) (hns : ∀ n ∈ ns, n ≤ bound) :
    ns.foldl max m ≤ bound := by
  induction ns generalizing m with
  | nil => exact hm
  | cons n ns ih =>
    have hmax : max m n ≤ bound := Nat.max_le.mpr ⟨hm, hns n List.mem_cons_self⟩
    exact ih hmax fun k hk => hns k (List.mem_cons_of_mem n hk)

/-- Lines without line feeds that stand for rows: one line for each row at least, and just one if the rows
are `level`. -/
structure Frames (level : Prop) (rows : Nat) (lines : List Line) : Prop where
  le_length : rows ≤ lines.length
  length_eq : level → lines.length = rows
  feedFree : ∀ line ∈ lines, line.FeedFree

namespace Frames

variable {level : Prop} {m n : Nat} {lines : List Line}

theorem single (level : Prop) {line : Line} (h : line.FeedFree) : Frames level 1 [line] :=
  ⟨Nat.le_refl 1, fun _ => rfl, List.forall_mem_singleton.mpr h⟩

theorem weaken {stronger : Prop} (hlevel : stronger → level) (h : Frames level n lines) :
    Frames stronger n lines :=
  ⟨h.le_length, fun hs => h.length_eq (hlevel hs), h.feedFree⟩

theorem append {first second : List Line} (hfirst : Frames level m first)
    (hsecond : Frames level n second) : Frames level (m + n) (first ++ second) where
  le_length := by
    rw [List.length_append]
    exact Nat.add_le_add hfirst.le_length hsecond.le_length
  length_eq h := by rw [List.length_append, hfirst.length_eq h, hsecond.length_eq h]
  feedFree := List.forall_mem_append.mpr ⟨hfirst.feedFree, hsecond.feedFree⟩

theorem flatten {parts : List (List Line)} (h : ∀ part ∈ parts, Frames level 1 part) :
    Frames level parts.length parts.flatten := by
  induction parts with
  | nil => exact ⟨Nat.le_refl 0, fun _ => rfl, List.forall_mem_nil _⟩
  | cons part rest ih =>
    have hrest := ih fun p hp => h p (List.mem_cons_of_mem part hp)
    rw [List.flatten_cons, List.length_cons, Nat.add_comm]
    exact (h part List.mem_cons_self).append hrest

theorem map (h : Frames level n lines) {f : Line → Line}
    (hf : ∀ line : Line, line.FeedFree → (f line).FeedFree) : Frames level n (lines.map f) where
  le_length := by
    rw [List.length_map]
    exact h.le_length
  length_eq hlevel := by rw [List.length_map, h.length_eq hlevel]
  feedFree := by
    intro line hline
    obtain ⟨source, hsource, rfl⟩ := List.mem_map.mp hline
    exact hf source (h.feedFree source hsource)

end Frames

variable {cells : List DrawnCell}

theorem feed_not_mem_fillCell {a : Alignment} {height : Nat} {lines : List (List Char)}
    (h : ∀ line ∈ lines, '\n' ∉ line) :
    ∀ line ∈ fillCell a outer height lines, '\n' ∉ line := by
  have hblank : ∀ line ∈ List.replicate (height - lines.length) (spaces outer), '\n' ∉ line := by
    intro line hline
    rw [List.eq_of_mem_replicate hline]
    exact feed_not_mem_spaces outer
  cases a with
  | top => exact List.forall_mem_append.mpr ⟨h, hblank⟩
  | bottom => exact List.forall_mem_append.mpr ⟨hblank, h⟩

/-- A row is as high as its highest cell. -/
theorem length_rowLines (a : Alignment) (style gap : Style) (cells : List DrawnCell) :
    (rowLines a style gap cells).length = (cells.map (·.lines.length)).foldl max 1 := by
  rw [rowLines, List.length_map, List.length_range]

/-- A row that is drawn takes one line at least, and just one if no cell has a line feed. -/
theorem frames_rowLines {level : Prop} {widths : List Nat} {row : Row}
    (h : drawCells reader widths row = .ok cells) (hlevel : level → row.FeedFree) (a : Alignment)
    (style gap : Style) : Frames level 1 (rowLines a style gap cells) where
  le_length := by
    rw [length_rowLines]
    exact le_foldl_max _ 1
  length_eq hrow := by
    rw [length_rowLines]
    refine Nat.le_antisymm (foldl_max_le (Nat.le_refl 1) ?_) (le_foldl_max _ 1)
    intro n hn
    obtain ⟨c, hc, rfl⟩ := List.mem_map.mp hn
    obtain ⟨p, cell, hcell, hdraw⟩ := exists_of_mem_drawCells h hc
    exact length_drawCell_le hdraw (hlevel hrow cell hcell)
  feedFree := by
    intro line hline
    obtain ⟨i, -, rfl⟩ := List.mem_map.mp hline
    refine Line.feedFree_joinCells (by simp) fun span hspan => ?_
    obtain ⟨filled, hfilled, rfl⟩ := List.mem_map.mp hspan
    obtain ⟨c, hc, rfl⟩ := List.mem_map.mp hfilled
    obtain ⟨p, cell, -, hdraw⟩ := exists_of_mem_drawCells h hc
    have hcell := feed_not_mem_drawCell hdraw
    -- below the last line of a cell there is nothing
    cases hline : (fillCell a c.outer _ c.lines)[i]? with
    | none => simp
    | some text => exact feed_not_mem_fillCell hcell text (List.mem_of_getElem? hline)

/-! ## Grids -/

/-- No title and no cell of the rows has a line feed. -/
def LevelGrid (columns : List Column) (rows : List Row) : Prop :=
  Row.FeedFree (columns.map (·.title)) ∧ ∀ row ∈ rows, row.FeedFree

instance (columns : List Column) (rows : List Row) : Decidable (LevelGrid columns rows) :=
  inferInstanceAs (Decidable (_ ∧ _))

variable {columns : List Column} {rows : List (Emphasis × Row)}

/-- Between the sides of the box a grid has the titles, the rule and the rows. -/
theorem frames_contentLines {inner : Nat} {lines : List Line}
    (h : contentLines reader inner columns rows = .ok lines) :
    Frames (LevelGrid columns (rows.map (·.2))) (rows.length + 2) lines := by
  unfold contentLines at h
  obtain ⟨titles, htitles, h⟩ := exists_of_bind_eq_ok h
  obtain ⟨body, hbody, h⟩ := exists_of_bind_eq_ok h
  cases h
  obtain ⟨hlength, hrows⟩ := mapM_eq_ok hbody
  have hheading : Frames (LevelGrid columns (rows.map (·.2))) 1
      (rowLines .bottom .bold .none titles) :=
    frames_rowLines htitles (fun h => h.1) _ _ _
  have hrule : Line.FeedFree [⟨List.replicate (total (outerWidths (inner - gapCount columns) columns)
      + gapCount columns) '─', .none⟩] :=
    .cons (fun hmem => absurd (List.eq_of_mem_replicate hmem) (by decide)) .nil
  have hbody : Frames (LevelGrid columns (rows.map (·.2))) rows.length body.flatten := by
    rw [← hlength]
    refine .flatten fun part hpart => ?_
    obtain ⟨⟨e, row⟩, hrow, hpart⟩ := hrows part hpart
    obtain ⟨cells, hcells, hpart⟩ := exists_of_bind_eq_ok hpart
    cases hpart
    exact frames_rowLines hcells (fun h => h.2 row (List.mem_map_of_mem hrow)) _ _ _
  have hall := (hheading.append ((Frames.single _ hrule).append hbody)).map
    fun _ hline => hline.take inner
  rw [show rows.length + 2 = 1 + (1 + rows.length) by omega]
  exact hall

/-- Around it the box has a line above and a line below. -/
theorem frames_gridLines {console : Console} (hscreen : sideCells < console.columns) {lines : List Line}
    (h : gridLines console columns rows = .ok lines) :
    Frames (LevelGrid columns (rows.map (·.2))) (rows.length + 4) lines := by
  rw [gridLines, if_neg (by omega)] at h
  obtain ⟨content, hcontent, rfl⟩ := exists_of_map_eq_ok h
  have hinside := (frames_contentLines hcontent).map fun _ hline => hline.boxed
  have htop := Frames.single (LevelGrid columns (rows.map (·.2)))
    (Line.feedFree_border '╭' '╮' (by decide) (by decide) (innerCells console.columns columns + 2))
  have hbottom := Frames.single (LevelGrid columns (rows.map (·.2)))
    (Line.feedFree_border '╰' '╯' (by decide) (by decide) (innerCells console.columns columns + 2))
  have hall := (htop.append hinside).append hbottom
  rw [show rows.length + 4 = 1 + (rows.length + 2) + 1 by omega]
  exact hall

/-- The notice is a single line. -/
theorem frames_notice {level : Prop} (screen : Nat) :
    Frames level 1 [[⟨fitLine screen noticeText, .dim⟩]] :=
  .single level (.cons (feed_not_mem_fitLine (by decide) screen) .nil)

/-! ## The frame of a session -/

theorem LevelGrid.mono {fewer : List Column} {all part : List Row}
    (hcolumns : ∀ c ∈ fewer, c ∈ columns)
    (hrows : ∀ row ∈ part, ∃ whole ∈ all, ∀ cell ∈ row, cell ∈ whole)
    (h : LevelGrid columns all) : LevelGrid fewer part := by
  constructor
  · intro title htitle
    obtain ⟨c, hc, rfl⟩ := List.mem_map.mp htitle
    exact h.1 c.title (List.mem_map_of_mem (hcolumns c hc))
  · intro row hrow cell hcell
    obtain ⟨whole, hwhole, hcells⟩ := hrows row hrow
    exact h.2 whole hwhole cell (hcells cell hcell)

namespace Session

theorem map_emphasize (s : Session) (index : Int) (rows : List Row) :
    (s.emphasize index rows).map (·.2) = rows := by
  induction rows generalizing index with
  | nil => rfl
  | cons row rest ih => rw [emphasize, List.map_cons, ih]

/-- The columns and rows in view are parts of those of the table. -/
theorem levelGrid_window {s : Session} (h : LevelGrid s.columns s.rows) :
    LevelGrid s.visibleColumns s.window := by
  refine h.mono (fun c hc => (fit_prefix_columns _ _).subset hc) fun row hrow => ?_
  obtain ⟨whole, hwhole, rfl⟩ := List.mem_map.mp (List.mem_of_mem_drop (List.mem_of_mem_take hrow))
  exact ⟨whole, hwhole, fun cell hcell => List.mem_of_mem_take hcell⟩

/-- The frame of a session takes the lines that the session counts on, or more where a title or a cell has a
line feed. -/
theorem frames_view {s : Session} (hview : s.InView) {console : Console}
    (hscreen : sideCells < console.columns) {lines : List Line} (h : s.view.lines console = .ok lines) :
    Frames (LevelGrid s.columns s.rows) s.frameHeight.toNat lines ∧ 0 ≤ s.frameHeight := by
  rw [View.lines, if_neg (by omega)] at h
  rw [frameHeight, Table.frameHeight]
  cases hempty : s.visibleColumns.isEmpty with
  | true =>
    simp only [view, hempty, ↓reduceIte, View.allLines] at h
    cases h
    rw [if_pos (by simp [List.isEmpty_iff.mp hempty])]
    exact ⟨frames_notice console.columns, by decide⟩
  | false =>
    simp only [view, hempty, Bool.false_eq_true, ↓reduceIte, View.allLines] at h
    obtain ⟨grid, hgrid, rfl⟩ := exists_of_map_eq_ok h
    have hframes := frames_gridLines hscreen hgrid
    have hcount : (s.emphasize s.top s.window).length = s.window.length := by
      rw [← List.length_map (·.2), map_emphasize]
    rw [map_emphasize, hcount] at hframes
    have hlines := hframes.map fun line hline => Line.FeedFree.take hline console.columns
    have hwindow := length_window hview
    have hpos : 0 < s.visibleColumns.length := List.length_pos_iff.mpr fun hnil => by
      simp [hnil] at hempty
    have hnat : ((s.window.length : Int) + 4).toNat = s.window.length + 4 := by omega
    rw [if_neg (by omega), frameOverhead, ← hwindow, hnat]
    exact ⟨hlines.weaken levelGrid_window, by omega⟩

end Session

end WorkspaceDesk.Table

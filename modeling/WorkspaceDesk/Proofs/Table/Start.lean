import WorkspaceDesk.Table.Session

/-!
# How a session starts

A session starts with the cursor on the active row, unless there is no cell to name this row by or a row does not
fit the columns (`Session.Starts`). The active row is looked at first; of the rows that do not fit, the first one
is named (`namesFirst_iff`).
-/

namespace WorkspaceDesk.Table

/-! ## Rows that do not fit -/

/-- The error names the first row whose length is not that of the schema. -/
def SchemaError.NamesFirst (e : SchemaError) (columns : List Column) (rows : List Row) : Prop :=
  ∃ before row after, rows = before ++ row :: after ∧
    (∀ r ∈ before, r.length = columns.length) ∧ row.length ≠ columns.length ∧
      e = .misfit before.length row.length columns.length

theorem misfit?_append_cons {columns : Nat} {before : List Row} {row : Row}
    (hbefore : ∀ r ∈ before, r.length = columns) (hrow : row.length ≠ columns) (index : Nat)
    (after : List Row) :
    misfit? columns index (before ++ row :: after) =
      some (.misfit (index + before.length) row.length columns) := by
  induction before generalizing index with
  | nil => exact if_neg hrow
  | cons first before ih =>
    obtain ⟨hfirst, hrest⟩ := List.forall_mem_cons.mp hbefore
    rw [List.cons_append, misfit?, if_pos hfirst, ih hrest, List.length_cons, Nat.add_assoc,
      Nat.add_comm 1]

/-- The check of the rows finds the first one that does not fit. -/
theorem namesFirst_iff {e : SchemaError} {columns : List Column} {rows : List Row} :
    e.NamesFirst columns rows ↔ misfit? columns.length 0 rows = some e := by
  constructor
  · rintro ⟨before, row, after, rfl, hbefore, hrow, rfl⟩
    rw [misfit?_append_cons hbefore hrow, Nat.zero_add]
  · intro h
    cases hfind : rows.find? (·.length ≠ columns.length) with
    | none =>
      have hfit : ∀ row ∈ rows, row.length = columns.length := by
        simpa using List.find?_eq_none.mp hfind
      rw [(misfit?_eq_none_iff _ 0 _).mpr hfit] at h
      cases h
    | some row =>
      obtain ⟨hrow, before, after, rfl, hfit⟩ := List.find?_eq_some_iff_append.mp hfind
      have hbefore : ∀ r ∈ before, r.length = columns.length := by simpa using hfit
      have hmisfit : row.length ≠ columns.length := of_decide_eq_true hrow
      rw [misfit?_append_cons hbefore hmisfit, Nat.zero_add] at h
      exact ⟨before, row, after, rfl, hbefore, hmisfit, (Option.some.inj h).symm⟩

theorem SchemaError.NamesFirst.not_fit {e : SchemaError} {columns : List Column} {rows : List Row}
    (h : e.NamesFirst columns rows) : ¬ ∀ row ∈ rows, row.length = columns.length := by
  obtain ⟨before, row, after, rfl, -, hrow, -⟩ := h
  exact fun hfit => hrow (hfit row (by simp))

namespace Session

variable {columns : List Column} {rows : List Row} {width height activeIndex : Int}
  {activeId : Option String} {selectable : Bool}

/-! ## The outcomes -/

/-- No id is given, and the active row has no cell that could stand for it. -/
def Nameless (rows : List Row) (activeIndex : Int) (activeId : Option String) : Prop :=
  activeId = none ∧ rows[(clamp activeIndex 0 (rows.length - 1)).toNat]? = some []

/-- How a session over columns and rows starts. -/
inductive Starts (columns : List Column) (rows : List Row) (activeIndex : Int)
    (activeId : Option String) : Except StartError Session → Prop
  | nameless (h : Nameless rows activeIndex activeId) :
    Starts columns rows activeIndex activeId (.error .noCell)
  | misfit {e : SchemaError} (hnamed : ¬ Nameless rows activeIndex activeId)
      (he : e.NamesFirst columns rows) :
    Starts columns rows activeIndex activeId (.error (.schema e))
  | started {s : Session} (hnamed : ¬ Nameless rows activeIndex activeId)
      (hfit : ∀ row ∈ rows, row.length = columns.length) :
    Starts columns rows activeIndex activeId (.ok s)

/-- The cursor of a new session is on the row whose index is nearest to the active one. -/
theorem activeRow?_eq (rows : List Row) (activeIndex : Int) :
    rows[((Cursor.onItem activeIndex).clampTo rows.length).selected.toNat]? =
      rows[(clamp activeIndex 0 (rows.length - 1)).toNat]? := by
  rw [Cursor.clampTo]
  split
  · rename_i hempty
    obtain rfl : rows = [] := List.length_eq_zero_iff.mp (by omega)
    rfl
  · rfl

/-- A session has nothing to yield just where it is nameless. -/
theorem name_eq_error_iff {e : StartError} :
    activeId.elim (activeName rows ((Cursor.onItem activeIndex).clampTo rows.length)) .ok = .error e ↔
      e = .noCell ∧ Nameless rows activeIndex activeId := by
  cases activeId with
  | some id => simp [Nameless]
  | none =>
    rw [Option.elim_none, activeName, activeRow?_eq, Nameless]
    split
    · rename_i hrow
      simp [hrow]
    · rename_i hrow
      simp [hrow, eq_comm]
    · rename_i hrow
      simp [hrow]

/-- The active row is looked at before the rows are compared with the columns. -/
theorem starts_start (columns : List Column) (rows : List Row) (width height activeIndex : Int)
    (activeId : Option String) (selectable : Bool) :
    Starts columns rows activeIndex activeId
      (start columns rows width height activeIndex activeId selectable) := by
  unfold start
  dsimp only
  split
  · rename_i e he
    obtain ⟨rfl, hnameless⟩ := name_eq_error_iff.mp he
    exact .nameless hnameless
  · rename_i selection hselection
    have hnamed : ¬ Nameless rows activeIndex activeId := by
      intro hnameless
      rw [name_eq_error_iff.mpr ⟨rfl, hnameless⟩] at hselection
      cases hselection
    split
    · rename_i e he
      exact .misfit hnamed (namesFirst_iff.mpr he)
    · rename_i hnone
      exact .started hnamed ((misfit?_eq_none_iff _ _ _).mp hnone)

/-! ## Which of them it is -/

variable {started : Except StartError Session}

theorem Starts.exists_ok_iff (h : Starts columns rows activeIndex activeId started) :
    (∃ s, started = .ok s) ↔
      ¬ Nameless rows activeIndex activeId ∧ ∀ row ∈ rows, row.length = columns.length := by
  constructor
  · rintro ⟨s, rfl⟩
    cases h with
    | started hnamed hfit => exact ⟨hnamed, hfit⟩
  · rintro ⟨hnamed, hfit⟩
    cases h with
    | nameless hnameless => exact absurd hnameless hnamed
    | misfit _ he => exact absurd hfit he.not_fit
    | started => exact ⟨_, rfl⟩

/-! ## Sessions that start -/

/-- A session that could be started is the one that was asked for. -/
theorem start_eq_ok {columns : List Column} {rows : List Row} {width height activeIndex : Int}
    {activeId : Option String} {selectable : Bool} {s : Session}
    (h : start columns rows width height activeIndex activeId selectable = .ok s) :
    ∃ (hfit : ∀ row ∈ rows, row.length = columns.length) (selection : String),
      activeId.elim (activeName rows ((Cursor.onItem activeIndex).clampTo rows.length)) .ok
        = .ok selection ∧
      s = follow
        { content := ⟨columns, rows, hfit⟩
          selectable
          cursor := (Cursor.onItem activeIndex).clampTo rows.length
          selection, width, height
          state := if selectable then .browsing else .idle } := by
  simp only [start] at h
  split at h
  · cases h
  · rename_i selection hselection
    split at h
    · cases h
    · rename_i hnone
      exact ⟨(misfit?_eq_none_iff _ _ _).1 hnone, selection, hselection, (Except.ok.inj h).symm⟩

/-- Over columns and rows that fit them a session can be started, and is live if it is selectable. -/
theorem exists_start_eq_ok (hcolumns : columns ≠ []) (hrows : ∀ row ∈ rows, row.length = columns.length)
    (width height activeIndex : Int) (activeId : Option String) :
    ∃ s, start columns rows width height activeIndex activeId true = .ok s ∧
      s.columns = columns ∧ s.done = false := by
  have hstarts := starts_start columns rows width height activeIndex activeId true
  have hnamed : ¬ Nameless rows activeIndex activeId := by
    rintro ⟨-, hrow⟩
    have hlength := hrows [] (List.mem_of_getElem? hrow)
    exact hcolumns (List.length_eq_zero_iff.mp hlength.symm)
  obtain ⟨s, hs⟩ := hstarts.exists_ok_iff.mpr ⟨hnamed, hrows⟩
  obtain ⟨_, _, -, rfl⟩ := start_eq_ok hs
  exact ⟨_, hs, rfl, rfl⟩

end Session

end WorkspaceDesk.Table

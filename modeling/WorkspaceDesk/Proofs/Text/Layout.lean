import WorkspaceDesk.Text.Layout

/-!
# Laid out lines

Laying out a line adds no line feed to it, and the lines of a text have none. A text without a line feed is
one line.
-/

namespace WorkspaceDesk.Text

variable {s : List Char} {width : Nat}

/-! ## The lines of a text -/

theorem splitLines_of_not_mem (h : '\n' ∉ s) : splitLines s = [s] :=
  List.splitOn_eq_singleton h

theorem feed_not_mem_splitLines {line : List Char} (h : line ∈ splitLines s) : '\n' ∉ line := by
  unfold splitLines at h
  induction s generalizing line with
  | nil =>
    rw [List.splitOn_nil, List.mem_singleton] at h
    simp [h]
  | cons c s ih =>
    rw [List.splitOn_cons_eq_if_modifyHead] at h
    split at h
    · rcases List.mem_cons.mp h with rfl | h
      · simp
      · exact ih h
    · rename_i hc
      -- the character goes to the first of the lines
      obtain ⟨first, others, hlines⟩ := List.exists_cons_of_ne_nil (List.splitOn_ne_nil '\n' s)
      rw [hlines, List.modifyHead_cons] at h
      rcases List.mem_cons.mp h with rfl | h
      · have hfirst : '\n' ∉ first := ih (by rw [hlines]; exact List.mem_cons_self)
        rw [List.mem_cons, not_or]
        exact ⟨fun heq => hc (beq_iff_eq.mpr heq.symm), hfirst⟩
      · exact ih (by rw [hlines]; exact List.mem_cons_of_mem _ h)

/-! ## A line in a field -/

theorem feed_not_mem_spaces (n : Nat) : '\n' ∉ spaces n := by
  intro h
  have hspace := List.eq_of_mem_replicate h
  cases hspace

theorem feed_not_mem_expandTabsFrom (h : '\n' ∉ s) (column : Nat) :
    '\n' ∉ expandTabsFrom column s := by
  induction s generalizing column with
  | nil => exact h
  | cons c s ih =>
    rw [List.mem_cons, not_or] at h
    rw [expandTabsFrom]
    split
    · rw [List.mem_append, not_or]
      exact ⟨feed_not_mem_spaces _, ih h.2 _⟩
    · rw [List.mem_cons, not_or]
      exact ⟨h.1, ih h.2 _⟩

theorem feed_not_mem_dropOverhang (h : '\n' ∉ s) (width : Nat) : '\n' ∉ dropOverhang width s :=
  fun hmem => h (List.mem_of_mem_take hmem)

theorem feed_not_mem_cutSearch (h : '\n' ∉ s) (width fuel low high : Nat) :
    '\n' ∉ cutSearch width s fuel low high := by
  induction fuel generalizing low high with
  | zero => exact fun hmem => h (List.mem_of_mem_take hmem)
  | succ fuel ih =>
    have hbefore : '\n' ∉ s.take ((low + high) / 2 + 1) := fun hmem => h (List.mem_of_mem_take hmem)
    rw [cutSearch]
    split
    · rw [List.mem_append, not_or]
      exact ⟨fun hmem => hbefore ((List.dropLast_sublist _).subset hmem), by decide⟩
    split
    · exact hbefore
    split
    · exact ih _ _
    · exact ih _ _

theorem feed_not_mem_cutTo (h : '\n' ∉ s) (width : Nat) : '\n' ∉ cutTo width s := by
  rw [cutTo]
  split
  · simp
  · exact feed_not_mem_cutSearch h _ _ _ _

theorem feed_not_mem_fitLine (h : '\n' ∉ s) (width : Nat) : '\n' ∉ fitLine width s := by
  have hline := feed_not_mem_dropOverhang (feed_not_mem_expandTabsFrom h 0) width
  rw [fitLine, expandTabs, truncate]
  split
  · exact hline
  · rw [List.mem_append, not_or]
    exact ⟨feed_not_mem_cutTo hline _, by decide⟩

theorem feed_not_mem_padTo (h : '\n' ∉ s) (width : Nat) : '\n' ∉ padTo width s := by
  rw [padTo, List.mem_append, not_or]
  exact ⟨h, feed_not_mem_spaces _⟩

end WorkspaceDesk.Text

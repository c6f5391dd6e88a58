import WorkspaceDesk.Proofs.Text.Lines

/-!
# Lines with their own ends

A text may use any mix of line ends. Its lines, each with its own end, are those of the text with unified line
ends, one for one (`lines_unifyLineEnds`).
-/

namespace WorkspaceDesk.Text

/-- The lines of a text, each with its own end: a line feed, a carriage return or both in a row. -/
def rawLines : List Char → List (List Char)
  | [] => []
  | '\r' :: '\n' :: rest => ['\r', '\n'] :: rawLines rest
  | c :: rest =>
    if c = '\r' ∨ c = '\n' then [c] :: rawLines rest
    else
      match rawLines rest with
      | [] => [[c]]
      | line :: others => (c :: line) :: others

/-- The text of lines, with a line feed for each line end. -/
def unified (ls : List (List Char)) : List Char :=
  (ls.map unifyLineEnds).flatten

theorem unifyLineEnds_cons {c : Char} (hc : c ≠ '\r') (rest : List Char) :
    unifyLineEnds (c :: rest) = c :: unifyLineEnds rest := by
  rw [unifyLineEnds]
  · rintro _ rfl _
    exact hc rfl
  · exact hc

theorem flatten_rawLines (s : List Char) : (rawLines s).flatten = s := by
  fun_induction rawLines s with
  | case1 => rfl
  | case2 rest ih => simp [ih]
  | case3 c rest _ hc ih => simp [ih]
  | case4 c rest _ hc hnil ih => simpa [hnil] using ih
  | case5 c rest _ hc line others hcons ih => simpa [hcons] using ih

/-- Line for line, a text and the text with unified line ends correspond. -/
theorem lines_unifyLineEnds (s : List Char) :
    lines (unifyLineEnds s) = (rawLines s).map unifyLineEnds := by
  fun_induction rawLines s with
  | case1 => rfl
  | case2 rest ih => simp [unifyLineEnds, lines, ih]
  | case3 c rest hnot hc ih =>
    have hunified : unifyLineEnds (c :: rest) = '\n' :: unifyLineEnds rest := by
      rcases hc with rfl | rfl
      · rw [unifyLineEnds]
        rintro others rfl
        exact hnot others rfl rfl
      · exact unifyLineEnds_cons (by decide) rest
    have hline : unifyLineEnds [c] = ['\n'] := by rcases hc with rfl | rfl <;> rfl
    rw [hunified, lines, if_pos rfl, ih, List.map_cons, hline]
  | case4 c rest _ hc hnil ih =>
    rw [not_or] at hc
    rw [hnil] at ih
    rw [unifyLineEnds_cons hc.1, lines, if_neg hc.2, ih]
    simp [unifyLineEnds_cons hc.1, unifyLineEnds]
  | case5 c rest _ hc line others hcons ih =>
    rw [not_or] at hc
    rw [hcons] at ih
    rw [unifyLineEnds_cons hc.1, lines, if_neg hc.2, ih, List.map_cons, List.map_cons,
      unifyLineEnds_cons hc.1]

/-- The lines of a text with unified line ends make up this text. -/
theorem unified_rawLines (s : List Char) : unified (rawLines s) = unifyLineEnds s := by
  rw [unified, ← lines_unifyLineEnds, flatten_lines]

/-- Lines keep their text where they have no carriage return, and only there. -/
theorem unified_eq_flatten_iff (ls : List (List Char)) :
    unified ls = ls.flatten ↔ '\r' ∉ ls.flatten := by
  constructor
  · intro h
    rw [← h, unified, List.mem_flatten]
    rintro ⟨_, hline, hmem⟩
    obtain ⟨line, -, rfl⟩ := List.mem_map.mp hline
    exact not_mem_unifyLineEnds line hmem
  · intro h
    have hlines : ∀ line ∈ ls, unifyLineEnds line = id line := fun line hline =>
      unifyLineEnds_eq_self fun hc => h (List.mem_flatten.mpr ⟨line, hline, hc⟩)
    rw [unified, List.map_congr_left hlines, List.map_id]

end WorkspaceDesk.Text

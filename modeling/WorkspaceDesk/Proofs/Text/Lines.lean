import WorkspaceDesk.Text.Line

/-!
# The lines of a text

A text is the concatenation of its lines, each with its line feed; only the last line may have none.
Some of the lines of a text, put together, are a text with just these lines (`lines_flatten`).
-/

namespace WorkspaceDesk.Text

/-- The text up to its first line feed, which is included. -/
def takeLine : List Char → List Char
  | [] => []
  | c :: rest => if c = '\n' then [c] else c :: takeLine rest

/-- The rest of the text after its first line feed. -/
def dropLine : List Char → List Char
  | [] => []
  | c :: rest => if c = '\n' then rest else dropLine rest

/-- The lines of a text, each with its line feed. -/
def lines : List Char → List (List Char)
  | [] => []
  | c :: rest =>
    if c = '\n' then [c] :: lines rest
    else
      match lines rest with
      | [] => [[c]]
      | line :: others => (c :: line) :: others

/-! ## First line and rest -/

/-- A text that goes on loses at least one character with its first line. -/
theorem length_dropLine_lt (c : Char) (s : List Char) :
    (dropLine (c :: s)).length < (c :: s).length := by
  induction s generalizing c with
  | nil => by_cases h : c = '\n' <;> simp [dropLine, h]
  | cons d rest ih =>
    by_cases h : c = '\n'
    · simp [dropLine, h]
    · have := ih d
      simp only [dropLine, h, ↓reduceIte, List.length_cons] at this ⊢
      omega

theorem takeLine_append {t : List Char} (h : '\n' ∉ t) (rest : List Char) :
    takeLine (t ++ rest) = t ++ takeLine rest := by
  induction t with
  | nil => rfl
  | cons c t ih =>
    rw [List.mem_cons, not_or] at h
    rw [List.cons_append, takeLine, if_neg (Ne.symm h.1), ih h.2, List.cons_append]

theorem dropLine_append {t : List Char} (h : '\n' ∉ t) (rest : List Char) :
    dropLine (t ++ rest) = dropLine rest := by
  induction t with
  | nil => rfl
  | cons c t ih =>
    rw [List.mem_cons, not_or] at h
    rw [List.cons_append, dropLine, if_neg (Ne.symm h.1), ih h.2]

/-- The rest after the first line is what is left of the text from its line feed on. -/
theorem dropLine_eq_dropWhile (s : List Char) :
    dropLine s = (s.dropWhile (· ≠ '\n')).drop 1 := by
  induction s with
  | nil => rfl
  | cons c rest ih => by_cases h : c = '\n' <;> simp [dropLine, h, ih]

/-- The first line ends with its line feed where the text goes on after it. -/
theorem takeLine_getLast? {s : List Char} (h : dropLine s ≠ []) :
    (takeLine s).getLast? = some '\n' := by
  induction s with
  | nil => exact absurd rfl h
  | cons c rest ih =>
    by_cases hc : c = '\n'
    · simp [takeLine, hc]
    · rw [dropLine, if_neg hc] at h
      rw [takeLine, if_neg hc, List.getLast?_cons, ih h]
      rfl

theorem takeLine_ne_nil (c : Char) (rest : List Char) : takeLine (c :: rest) ≠ [] := by
  rw [takeLine]
  split <;> simp

/-- The only line feed of the first line is at its end. -/
theorem not_mem_dropLast_takeLine (s : List Char) : '\n' ∉ (takeLine s).dropLast := by
  induction s with
  | nil => simp [takeLine]
  | cons c rest ih =>
    by_cases hc : c = '\n'
    · simp [takeLine, hc]
    · rw [takeLine, if_neg hc]
      cases hline : takeLine rest with
      | nil => simp
      | cons d t =>
        rw [hline] at ih
        rw [List.dropLast_cons_of_ne_nil (by simp), List.mem_cons, not_or]
        exact ⟨Ne.symm hc, ih⟩

theorem takeWhile_takeLine (s : List Char) :
    (takeLine s).takeWhile (· ≠ '\n') = s.takeWhile (· ≠ '\n') := by
  induction s with
  | nil => rfl
  | cons c rest ih =>
    by_cases hc : c = '\n'
    · simp [takeLine, hc]
    · simpa [takeLine, hc] using ih

theorem takeWhile_dropWhile_feed (s : List Char) :
    (s.dropWhile (· ≠ '\n')).takeWhile (· ≠ '\n') = [] := by
  induction s with
  | nil => rfl
  | cons c rest ih =>
    by_cases hc : c = '\n'
    · simp [hc]
    · simpa [hc] using ih

/-! ## All lines -/

theorem lines_cons (c : Char) (rest : List Char) :
    lines (c :: rest) = takeLine (c :: rest) :: lines (dropLine (c :: rest)) := by
  induction rest generalizing c with
  | nil => by_cases h : c = '\n' <;> simp [lines, takeLine, dropLine, h]
  | cons d rest ih =>
    rw [lines]
    by_cases h : c = '\n'
    · simp [takeLine, dropLine, h]
    · rw [if_neg h, ih d]
      rw [show takeLine (c :: d :: rest) = c :: takeLine (d :: rest) from if_neg h,
        show dropLine (c :: d :: rest) = dropLine (d :: rest) from if_neg h]

theorem lines_dropLine_suffix (s : List Char) : lines (dropLine s) <:+ lines s := by
  cases s with
  | nil => exact List.suffix_refl _
  | cons c rest =>
    rw [lines_cons]
    exact List.suffix_cons _ _

/-- Behind a text and the line it ends on, as many lines are left out as the text has line feeds, and one
more. -/
theorem lines_dropLine_append (t rest : List Char) :
    lines (dropLine rest) = (lines (t ++ rest)).drop (t.count '\n' + 1) := by
  induction t with
  | nil =>
    cases rest with
    | nil => rfl
    | cons c rest => rw [List.nil_append, lines_cons]; rfl
  | cons c t ih =>
    rw [List.cons_append, lines, ih]
    by_cases hc : c = '\n'
    · subst hc
      rw [if_pos rfl, List.count_cons_self, List.drop_succ_cons]
    · -- the character is on the same line as the one behind it
      rw [if_neg hc, List.count_cons_of_ne hc]
      cases lines (t ++ rest) <;> simp

/-- The lines that follow somewhere in a text are some of those that follow its first line. -/
theorem lines_dropLine_append_suffix (t rest : List Char) :
    lines (dropLine rest) <:+ lines (dropLine (t ++ rest)) := by
  rw [lines_dropLine_append t rest, lines_dropLine_append [] (t ++ rest), List.nil_append, Nat.add_comm,
    ← List.drop_drop]
  exact List.drop_suffix _ _

theorem flatten_lines (s : List Char) : (lines s).flatten = s := by
  induction s with
  | nil => rfl
  | cons c rest ih =>
    rw [lines]
    split
    · rw [List.flatten_cons, ih]
      rfl
    · split
      · rename_i hnil
        rw [hnil] at ih
        rw [← ih]
        rfl
      · rename_i line others hcons
        rw [hcons] at ih
        rw [List.flatten_cons, List.cons_append, ← List.flatten_cons, ih]

/-- The first line of a text and the others. -/
theorem takeLine_dropLine_of_lines {s line : List Char} {others : List (List Char)}
    (h : lines s = line :: others) : takeLine s = line ∧ dropLine s = others.flatten := by
  cases s with
  | nil => cases h
  | cons c t =>
    rw [lines_cons] at h
    injection h with hline hothers
    exact ⟨hline, by rw [← hothers, flatten_lines]⟩

/-- The parts are lines: none is empty, a line feed stands at the end only, and at the end of every one
that is not the last. -/
structure AreLines (ls : List (List Char)) : Prop where
  ne_nil : ∀ line ∈ ls, line ≠ []
  not_mem : ∀ line ∈ ls, '\n' ∉ line.dropLast
  ended : ls.Pairwise fun line _ => line.getLast? = some '\n'

theorem AreLines.sublist {ls kept : List (List Char)} (h : AreLines ls) (hkept : kept.Sublist ls) :
    AreLines kept :=
  ⟨fun line hline => h.ne_nil line (hkept.subset hline),
    fun line hline => h.not_mem line (hkept.subset hline), h.ended.sublist hkept⟩

theorem areLines_lines (s : List Char) : AreLines (lines s) := by
  -- on the length, line after line
  induction hlength : s.length using Nat.strongRecOn generalizing s with
  | ind n ih =>
    cases s with
    | nil => exact ⟨by simp [lines], by simp [lines], by simp [lines]⟩
    | cons c rest =>
      have hlt := length_dropLine_lt c rest
      obtain ⟨hne, hnot, hended⟩ := ih _ (by omega) (dropLine (c :: rest)) rfl
      rw [lines_cons]
      refine ⟨?_, ?_, ?_⟩
      · simpa using ⟨takeLine_ne_nil c rest, hne⟩
      · simpa using ⟨not_mem_dropLast_takeLine _, hnot⟩
      · refine List.pairwise_cons.mpr ⟨fun line hline => ?_, hended⟩
        refine takeLine_getLast? fun hnil => ?_
        rw [hnil] at hline
        simp [lines] at hline

/-- Lines before other lines end with a line feed. -/
theorem AreLines.flatten_end {first second : List (List Char)} (h : AreLines (first ++ second))
    (hfirst : first ≠ []) : second.flatten = [] ∨ first.flatten.getLast? = some '\n' := by
  cases second with
  | nil => exact .inl rfl
  | cons line others =>
    refine .inr ?_
    obtain ⟨init, last, rfl⟩ : ∃ init last, first = init ++ [last] :=
      ⟨_, _, (List.dropLast_concat_getLast hfirst).symm⟩
    have hlast := (List.pairwise_append.mp h.ended).2.2 last (by simp) line List.mem_cons_self
    rw [List.flatten_append, List.flatten_singleton, List.getLast?_append, hlast]
    rfl

/-- A text that is put together from lines has these lines. -/
theorem lines_flatten {ls : List (List Char)} (h : AreLines ls) : lines ls.flatten = ls := by
  induction ls with
  | nil => rfl
  | cons line rest ih =>
    have hrest := ih (h.sublist (List.sublist_cons_self line rest))
    have hne := h.ne_nil line List.mem_cons_self
    have hnot := h.not_mem line List.mem_cons_self
    obtain ⟨t, d, rfl⟩ : ∃ t d, line = t ++ [d] := ⟨_, _, (List.dropLast_concat_getLast hne).symm⟩
    rw [List.dropLast_concat] at hnot
    -- a text that begins with the line is not empty
    have hcons : ∀ s : List Char, lines (t ++ [d] ++ s) =
        takeLine (t ++ [d] ++ s) :: lines (dropLine (t ++ [d] ++ s)) := by
      intro s
      cases t with
      | nil => exact lines_cons d s
      | cons c t => exact lines_cons c _
    rw [List.flatten_cons, hcons, List.append_assoc, takeLine_append hnot, dropLine_append hnot]
    by_cases hd : d = '\n'
    · simp [takeLine, dropLine, hd, hrest]
    · -- the line has no line feed, so it is the last one
      cases rest with
      | nil => simp [takeLine, dropLine, hd, lines]
      | cons next others =>
        have hend := (List.pairwise_cons.mp h.ended).1 next List.mem_cons_self
        simp [hd] at hend

/-! ## Line ends -/

/-- A text with unified line ends has no carriage return. -/
theorem not_mem_unifyLineEnds (s : List Char) : '\r' ∉ unifyLineEnds s := by
  fun_induction unifyLineEnds s with
  | case1 => simp
  | case2 rest ih => simpa using ih
  | case3 rest _ ih => simpa using ih
  | case4 c rest _ hc ih =>
    rw [List.mem_cons, not_or]
    exact ⟨fun h => hc h.symm, ih⟩

/-- Unified line ends stay as they are. -/
theorem unifyLineEnds_eq_self {s : List Char} (h : '\r' ∉ s) : unifyLineEnds s = s := by
  fun_induction unifyLineEnds s with
  | case1 => rfl
  | case2 rest ih => simp at h
  | case3 rest _ ih => simp at h
  | case4 c rest _ hc ih => rw [ih fun hmem => h (List.mem_cons_of_mem c hmem)]

end WorkspaceDesk.Text

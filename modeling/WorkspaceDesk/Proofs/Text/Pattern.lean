import WorkspaceDesk.Proofs.Text.Lines
import WorkspaceDesk.Text.Pattern

/-!
# Matching and removing

A matcher *reaches* a rest of a text if it ends there wherever the text stands, and *fails* on a text if
it matches nowhere. These two are all that the patterns of this library need: each construct of patterns
reaches a rest or fails according to its parts, and no possibility that is tried later is ever asked for.
-/

namespace WorkspaceDesk.Text

/-- The matcher ends with `rest` to follow, whether or not a line begins with the text. -/
def Reaches (m : Matcher) (text rest : List Char) : Prop :=
  ∀ b, ∃ b', m ⟨b, text⟩ = some ⟨b', rest⟩

/-- The matcher does not match, whether or not a line begins with the text. -/
def Fails (m : Matcher) (text : List Char) : Prop :=
  ∀ b, m ⟨b, text⟩ = none

theorem reaches_some (text : List Char) : Reaches some text text :=
  fun b => ⟨b, rfl⟩

theorem Reaches.not_fails {m : Matcher} {text rest : List Char} (h : Reaches m text rest) :
    ¬ Fails m text := by
  intro hfails
  obtain ⟨b, hb⟩ := h true
  rw [hfails true] at hb
  cases hb

namespace Pattern

variable {accepts : Char → Bool} {p q body : Pattern} {next : Matcher}
variable {c : Char} {text mid rest r : List Char}

/-! ## Single characters and alternatives -/

theorem reaches_one (hc : accepts c = true) (h : Reaches next rest r) :
    Reaches ((one accepts).run next) (c :: rest) r := by
  intro b
  simp only [run, hc, ↓reduceIte]
  exact h _

theorem fails_one (h : accepts c = true → Fails next rest) :
    Fails ((one accepts).run next) (c :: rest) := by
  intro b
  simp only [run]
  split
  · rename_i hc
    exact h hc _
  · rfl

theorem fails_one_nil : Fails ((one accepts).run next) [] :=
  fun _ => rfl

theorem reaches_alt_first (h : Reaches (p.run next) text r) :
    Reaches ((alt p q).run next) text r := by
  intro b
  obtain ⟨b', hb⟩ := h b
  exact ⟨b', by simp only [run, hb]⟩

theorem reaches_alt_second (hp : Fails (p.run next) text) (h : Reaches (q.run next) text r) :
    Reaches ((alt p q).run next) text r := by
  intro b
  obtain ⟨b', hb⟩ := h b
  exact ⟨b', by simp only [run, hp b, hb]⟩

theorem fails_alt (hp : Fails (p.run next) text) (hq : Fails (q.run next) text) :
    Fails ((alt p q).run next) text := by
  intro b
  simp only [run, hp b, hq b]

/-! ## Repetition -/

theorem run_star_eq (b : Bool) :
    (star body).run next ⟨b, text⟩ =
      match body.run (fun t => if t.rest.length < text.length then (star body).run next t else none)
        ⟨b, text⟩ with
      | some t => some t
      | none => next ⟨b, text⟩ :=
  (greedy.eq_def body.run next ⟨b, text⟩).trans rfl

/-- One more repetition, where the body leaves less of the text. -/
theorem reaches_star_again (hlt : mid.length < text.length)
    (hbody : ∀ m, Reaches m mid r → Reaches (body.run m) text r)
    (h : Reaches ((star body).run next) mid r) : Reaches ((star body).run next) text r := by
  intro b
  -- the guard against repetitions that take nothing lets this one pass
  have hagain : Reaches (fun t : Spot =>
      if t.rest.length < text.length then (star body).run next t else none) mid r := by
    intro b
    simp only [hlt, ↓reduceIte]
    exact h b
  obtain ⟨b', hb⟩ := hbody _ hagain b
  exact ⟨b', by rw [run_star_eq, hb]⟩

/-- No more repetition, where the body fails. -/
theorem reaches_star_end (hbody : ∀ m, Fails (body.run m) text) (h : Reaches next text r) :
    Reaches ((star body).run next) text r := by
  intro b
  obtain ⟨b', hb⟩ := h b
  exact ⟨b', by rw [run_star_eq, hbody _ b]; exact hb⟩

/-- What is to follow fails after any number of repetitions. -/
theorem fails_star (hbody : ∀ m, Fails m mid → Fails (body.run m) text)
    (h : Fails ((star body).run next) mid) (hnext : Fails next text) :
    Fails ((star body).run next) text := by
  intro b
  have hagain : Fails (fun t : Spot =>
      if t.rest.length < text.length then (star body).run next t else none) mid := by
    intro b
    dsimp only
    split
    · exact h b
    · rfl
  rw [run_star_eq, hbody _ hagain b]
  exact hnext b

/-- Characters of a set are repeated up to the first one outside. -/
theorem reaches_star_one (h : Reaches next (text.dropWhile accepts) r) :
    Reaches ((star (one accepts)).run next) text r := by
  induction text with
  | nil => exact reaches_star_end (fun _ => fails_one_nil) h
  | cons c rest ih =>
    by_cases hc : accepts c = true
    · rw [List.dropWhile_cons_of_pos hc] at h
      exact reaches_star_again (by simp) (fun _ hm => reaches_one hc hm) (ih h)
    · rw [List.dropWhile_cons_of_neg hc] at h
      exact reaches_star_end (fun _ => fails_one fun hc' => absurd hc' hc) h

/-- Giving characters of the set back does not help what fails before them. -/
theorem fails_star_one (hback : ∀ c rest, accepts c = true → Fails next (c :: rest))
    (h : Fails next (text.dropWhile accepts)) : Fails ((star (one accepts)).run next) text := by
  induction text with
  | nil =>
    intro b
    rw [run_star_eq]
    exact h b
  | cons c rest ih =>
    by_cases hc : accepts c = true
    · rw [List.dropWhile_cons_of_pos hc] at h
      exact fails_star (fun _ hm => fails_one fun _ => hm) (ih h) (hback c rest hc)
    · rw [List.dropWhile_cons_of_neg hc] at h
      intro b
      rw [run_star_eq, fails_one (fun hc' => absurd hc' hc) b]
      exact h b

/-! ## Texts -/

theorem reaches_literal (t : List Char) (h : Reaches next rest r) :
    Reaches ((literal t).run next) (t ++ rest) r := by
  induction t with
  | nil => exact h
  | cons c t ih => exact reaches_one (by simp) ih

theorem fails_literal (t : List Char) (h : ∀ rest, text = t ++ rest → Fails next rest) :
    Fails ((literal t).run next) text := by
  induction t generalizing text with
  | nil => exact h text rfl
  | cons c t ih =>
    cases text with
    | nil => exact fails_one_nil
    | cons d text =>
      refine fails_one fun hd => ih fun rest hrest => h rest ?_
      rw [hrest, List.cons_append, of_decide_eq_true hd]

theorem fails_anyOf {texts : List (List Char)}
    (h : ∀ t ∈ texts, ∀ rest, text = t ++ rest → Fails next rest) :
    Fails ((anyOf texts).run next) text := by
  induction texts with
  | nil => cases text <;> exact fun _ => rfl
  | cons u texts ih =>
    exact fails_alt (fails_literal u (h u List.mem_cons_self))
      (ih fun t ht => h t (List.mem_cons_of_mem u ht))

/-- Of texts that each lead to a place of some kind or fail, one leads to such a place, or all fail. -/
theorem anyOf_cases {texts : List (List Char)} {place : List Char → Prop}
    (heach : ∀ t ∈ texts, ∀ rest, text = t ++ rest →
      (∃ r, place r ∧ Reaches next rest r) ∨ Fails next rest) :
    (∃ r, place r ∧ Reaches ((anyOf texts).run next) text r) ∨
      Fails ((anyOf texts).run next) text ∧
        ∀ t ∈ texts, ∀ rest, text = t ++ rest → Fails next rest := by
  induction texts with
  | nil => exact .inr ⟨fails_anyOf (by simp), by simp⟩
  | cons u texts ih =>
    -- where the first text does not lead on, the others are tried
    by_cases hfails : ∀ rest, text = u ++ rest → Fails next rest
    · rcases ih fun t ht => heach t (List.mem_cons_of_mem u ht) with ⟨r, hr, hreach⟩ | ⟨hfail, hall⟩
      · exact .inl ⟨r, hr, reaches_alt_second (fails_literal u hfails) hreach⟩
      · refine .inr ⟨fails_alt (fails_literal u hfails) hfail, fun t ht => ?_⟩
        rcases List.mem_cons.mp ht with rfl | ht
        · exact hfails
        · exact hall t ht
    · simp only [Classical.not_forall] at hfails
      obtain ⟨rest, rfl, hnot⟩ := hfails
      rcases heach u List.mem_cons_self rest rfl with ⟨r, hr, hreach⟩ | hfail
      · exact .inl ⟨r, hr, reaches_alt_first (reaches_literal u hreach)⟩
      · exact absurd hfail hnot

/-- Of texts that each have a value and lead to its place, or have none and fail, the first one with a value
decides. -/
theorem anyOf_findSome? {α : Type} {value : List Char → Option α} {place : α → List Char}
    (texts : List (List Char))
    (heach : ∀ t, (∃ a rest, value t = some a ∧ text = t ++ rest ∧ Reaches next rest (place a)) ∨
      value t = none ∧ ∀ rest, text = t ++ rest → Fails next rest) :
    (∃ a, texts.findSome? value = some a ∧ Reaches ((anyOf texts).run next) text (place a)) ∨
      texts.findSome? value = none ∧ Fails ((anyOf texts).run next) text := by
  induction texts with
  | nil => exact .inr ⟨rfl, fails_anyOf (by simp)⟩
  | cons u texts ih =>
    rw [List.findSome?_cons]
    rcases heach u with ⟨a, rest, hvalue, rfl, hreach⟩ | ⟨hvalue, hfails⟩
    · rw [hvalue]
      exact .inl ⟨a, rfl, reaches_alt_first (reaches_literal u hreach)⟩
    · -- where the first text does not lead on, the others are tried
      rw [hvalue]
      have hfirst := fails_literal u hfails
      exact ih.imp (fun ⟨a, hfind, hreach⟩ => ⟨a, hfind, reaches_alt_second hfirst hreach⟩)
        fun ⟨hfind, hfail⟩ => ⟨hfind, fails_alt hfirst hfail⟩

/-- Of texts that all lead to the same place or fail, some leads there. -/
theorem reaches_anyOf {texts : List (List Char)}
    (heach : ∀ t ∈ texts, ∀ rest, text = t ++ rest → Reaches next rest r ∨ Fails next rest)
    (hsome : ∃ t ∈ texts, ∃ rest, text = t ++ rest ∧ Reaches next rest r) :
    Reaches ((anyOf texts).run next) text r := by
  have hplaces : ∀ t ∈ texts, ∀ rest, text = t ++ rest →
      (∃ r', r' = r ∧ Reaches next rest r') ∨ Fails next rest := fun t ht rest htext =>
    (heach t ht rest htext).imp_left fun h => ⟨r, rfl, h⟩
  rcases anyOf_cases hplaces with ⟨_, rfl, hreach⟩ | ⟨-, hall⟩
  · exact hreach
  · obtain ⟨t, ht, rest, htext, hreach⟩ := hsome
    exact absurd (hall t ht rest htext) hreach.not_fails

/-! ## Removal -/

/-- The rest of a match is skipped. -/
theorem removeFrom_skip {b : Bool} {l : List Char} (hl : l ≠ [])
    (hend : rest = [] ∨ l.getLast? = some '\n') :
    p.removeFrom b l.length (l ++ rest) = p.remove rest := by
  induction l generalizing b with
  | nil => exact absurd rfl hl
  | cons c l ih =>
    rw [List.length_cons, List.cons_append, removeFrom]
    -- the search goes on behind the last character of the match, at the beginning of a line
    by_cases hnil : l = []
    · subst hnil
      rcases hend with rfl | hend
      · rfl
      · have hc : c = '\n' := by simpa using hend
        simp [hc, remove]
    · refine ih hnil (hend.imp_right fun hend => ?_)
      obtain ⟨d, t, rfl⟩ := List.exists_cons_of_ne_nil hnil
      rwa [List.getLast?_cons_cons] at hend

/-- A match up to the end of a line is left out and counted, and the search goes on after it. -/
theorem remove_of_match {l : List Char} (hl : l ≠ [])
    (hend : rest = [] ∨ l.getLast? = some '\n')
    (hmatch : ∃ b, p.run some ⟨true, l ++ rest⟩ = some ⟨b, rest⟩) :
    p.remove (l ++ rest) = ((p.remove rest).1, (p.remove rest).2 + 1) := by
  obtain ⟨b, hb⟩ := hmatch
  obtain ⟨c, t, rfl⟩ := List.exists_cons_of_ne_nil hl
  have hlength : p.matchLength? ⟨true, c :: (t ++ rest)⟩ = some (t.length + 1) := by
    rw [← List.cons_append, matchLength?, hb, Option.map_some, List.length_append,
      Nat.add_sub_cancel, List.length_cons]
  have hskip : p.removeFrom (c = '\n') t.length (t ++ rest) = p.remove rest := by
    rw [← removeFrom_skip (b := true) hl hend]
    rfl
  rw [remove, List.cons_append, removeFrom, hlength]
  simp only [hskip]

/-- A pattern that matches at the beginning of lines only leaves the rest of a line as it is. -/
theorem removeFrom_line (hinside : ∀ t, p.run some ⟨false, t⟩ = none) (s : List Char) :
    p.removeFrom false 0 s =
      (takeLine s ++ (p.remove (dropLine s)).1, (p.remove (dropLine s)).2) := by
  induction s with
  | nil => rfl
  | cons c s ih =>
    have hnone : p.matchLength? ⟨false, c :: s⟩ = none := by rw [matchLength?, hinside]; rfl
    rw [removeFrom, hnone]
    by_cases hc : c = '\n'
    · simp [hc, takeLine, dropLine, remove]
    · simp [hc, takeLine, dropLine, ih]

/-- A line where no match begins is kept. -/
theorem remove_of_no_match (hinside : ∀ t, p.run some ⟨false, t⟩ = none) {s : List Char}
    (hs : p.run some ⟨true, s⟩ = none) :
    p.remove s = (takeLine s ++ (p.remove (dropLine s)).1, (p.remove (dropLine s)).2) := by
  cases s with
  | nil => rfl
  | cons c s =>
    have hnone : p.matchLength? ⟨true, c :: s⟩ = none := by rw [matchLength?, hs]; rfl
    rw [remove, removeFrom, hnone]
    by_cases hc : c = '\n'
    · simp [hc, takeLine, dropLine, remove]
    · simp [hc, takeLine, dropLine, removeFrom_line hinside]

end Pattern

end WorkspaceDesk.Text

import WorkspaceDesk.Proofs.Except
import WorkspaceDesk.Table.Markup

/-!
# Markup adds no line

What a text with markup shows is made of characters of the text, brackets and backslashes. So a text
without a line feed shows none (`feed_not_mem_render`).
-/

namespace WorkspaceDesk.Table.Markup

open Text

variable {s inside : List Char}

/-! ## Pieces -/

theorem mem_of_untilBracket? (h : untilBracket? s = some inside) {c : Char} (hc : c ∈ inside) :
    c ∈ s := by
  induction s generalizing inside with
  | nil => cases h
  | cons d s ih =>
    rw [untilBracket?] at h
    split at h
    · cases h
      cases hc
    split at h
    · cases h
    · obtain ⟨rest, hrest, rfl⟩ := Option.map_eq_some_iff.mp h
      rcases List.mem_cons.mp hc with rfl | hc
      · exact List.mem_cons_self
      · exact List.mem_cons_of_mem d (ih hrest hc)

theorem mem_of_tagInside? (h : tagInside? s = some inside) {c : Char} (hc : c ∈ inside) : c ∈ s := by
  unfold tagInside? at h
  split at h
  · split at h
    · obtain ⟨rest, hrest, rfl⟩ := Option.map_eq_some_iff.mp h
      refine List.mem_cons_of_mem '[' ?_
      rcases List.mem_cons.mp hc with rfl | hc
      · exact List.mem_cons_self
      · exact List.mem_cons_of_mem _ (mem_of_untilBracket? hrest hc)
    · cases h
  · cases h

theorem mem_of_tagAhead? {slashes : Nat} (h : tagAhead? s = some (slashes, inside)) {c : Char}
    (hc : c ∈ inside) : c ∈ s := by
  obtain ⟨rest, hrest, heq⟩ := Option.map_eq_some_iff.mp h
  cases heq
  exact List.mem_of_mem_drop (mem_of_tagInside? hrest hc)

/-- The plain texts among pieces have no line feed. -/
def FeedFree (pieces : List Piece) : Prop :=
  ∀ text, Piece.plain text ∈ pieces → '\n' ∉ text

theorem FeedFree.append {first second : List Piece} (hfirst : FeedFree first)
    (hsecond : FeedFree second) : FeedFree (first ++ second) := by
  intro text htext
  rcases List.mem_append.mp htext with h | h
  · exact hfirst text h
  · exact hsecond text h

theorem feedFree_plainPiece (h : '\n' ∉ s) : FeedFree (plainPiece s) := by
  unfold plainPiece
  intro text htext
  split at htext
  · cases htext
  · cases List.mem_singleton.mp htext
    exact h

theorem feedFree_piecesFrom {plain : List Char} (hplain : '\n' ∉ plain) (h : '\n' ∉ s)
    (position skip : Nat) : FeedFree (piecesFrom position skip plain s) := by
  induction s generalizing position skip plain with
  | nil =>
    rw [piecesFrom]
    exact feedFree_plainPiece (by simpa using hplain)
  | cons c s ih =>
    have hs : '\n' ∉ s := fun hmem => h (List.mem_cons_of_mem c hmem)
    cases skip with
    | succ skip =>
      rw [piecesFrom]
      exact ih hplain hs _ _
    | zero =>
      rw [piecesFrom]
      split
      · refine ih ?_ hs _ _
        rw [List.mem_cons, not_or] at h ⊢
        exact ⟨h.1, hplain⟩
      · rename_i slashes inside hahead
        have hinside : '\n' ∉ inside := fun hmem => h (mem_of_tagAhead? hahead hmem)
        have hslashes : '\n' ∉ List.replicate (slashes / 2) '\\' := fun hmem =>
          absurd (List.eq_of_mem_replicate hmem) (by decide)
        have hrest := ih List.not_mem_nil hs (position + 1) (slashes + inside.length + 1)
        refine ((feedFree_plainPiece (by simpa using hplain)).append
          (feedFree_plainPiece hslashes)).append ?_
        intro text htext
        rcases List.mem_cons.mp htext with heq | htext
        · -- behind an odd number of backslashes the tag is plain text
          split at heq
          · cases heq
            simp [hinside]
          · cases heq
        · exact hrest text htext

/-! ## The text that is shown -/

theorem feed_not_mem_unescape (h : '\n' ∉ s) : '\n' ∉ unescape s := by
  fun_induction unescape s with
  | case1 => exact h
  | case2 rest ih =>
    simp only [List.mem_cons, not_or] at h ⊢
    exact ⟨h.2.1, ih h.2.2⟩
  | case3 c rest _ ih =>
    simp only [List.mem_cons, not_or] at h ⊢
    exact ⟨h.1, ih h.2⟩

theorem feed_not_mem_resolve {opened : List Tag} {pieces : List Piece} {shown : List Char}
    (h : resolve opened pieces = .ok shown) (hpieces : FeedFree pieces) : '\n' ∉ shown := by
  induction pieces generalizing opened shown with
  | nil =>
    cases h
    simp
  | cons piece rest ih =>
    have hrest : FeedFree rest := fun text htext => hpieces text (List.mem_cons_of_mem _ htext)
    cases piece with
    | plain text =>
      rw [resolve] at h
      obtain ⟨others, hresolve, rfl⟩ := exists_of_map_eq_ok h
      rw [List.mem_append, not_or]
      exact ⟨feed_not_mem_unescape (hpieces text List.mem_cons_self), ih hresolve hrest⟩
    | tag t position =>
      rw [resolve] at h
      split at h
      · split at h
        · cases h
        split at h
        · cases h
        · exact ih h hrest
      · exact ih h hrest

/-- A text without a line feed shows none. -/
theorem feed_not_mem_render {shown : List Char} (h : render s = .ok shown) (hs : '\n' ∉ s) :
    '\n' ∉ shown := by
  unfold render at h
  obtain ⟨text, hresolve, rfl⟩ := exists_of_map_eq_ok h
  have htext := feed_not_mem_resolve hresolve (feedFree_piecesFrom (by simp) hs 0 0)
  exact fun hmem => htext (List.mem_filter.mp hmem).1

end WorkspaceDesk.Table.Markup

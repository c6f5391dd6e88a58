import WorkspaceDesk.Proofs.Table.Markup
import WorkspaceDesk.Text.Printable

/-!
# Texts without markup

Only a tag can keep a text from being shown (`render_of_untagged`). The printable texts that are shown as
they are, are those with no tag and no escaped bracket (`render_eq_self_iff`): each tag takes characters off
a text.
-/

namespace WorkspaceDesk.Table.Markup

open Text

variable {s inside : List Char}

/-! ## Tags -/

theorem untilBracket?_eq_some (h : untilBracket? s = some inside) :
    '[' ∉ inside ∧ ']' ∉ inside ∧ ∃ rest, s = inside ++ ']' :: rest := by
  induction s generalizing inside with
  | nil => cases h
  | cons c s ih =>
    rw [untilBracket?] at h
    split at h
    · rename_i hclose
      cases h
      exact ⟨List.not_mem_nil, List.not_mem_nil, s, by rw [hclose]; rfl⟩
    split at h
    · cases h
    · rename_i hclose hopen
      obtain ⟨body, hbody, rfl⟩ := Option.map_eq_some_iff.mp h
      obtain ⟨hno, hno', rest, rfl⟩ := ih hbody
      simp only [List.mem_cons, not_or]
      exact ⟨⟨Ne.symm hopen, hno⟩, ⟨Ne.symm hclose, hno'⟩, rest, rfl⟩

/-- A tag that is found stands at the head of the text. -/
theorem tagInside?_eq_some (h : tagInside? s = some inside) :
    ∃ c body, inside = c :: body ∧ beginsTag c = true ∧ HasTag s inside := by
  unfold tagInside? at h
  split at h
  · rename_i c rest
    split at h
    · rename_i hbegins
      obtain ⟨body, hbody, rfl⟩ := Option.map_eq_some_iff.mp h
      obtain ⟨hno, hno', after, rfl⟩ := untilBracket?_eq_some hbody
      have hc : '[' ≠ c ∧ ']' ≠ c := by
        constructor <;>
        · rintro rfl
          cases hbegins
      refine ⟨c, body, rfl, hbegins, ?_, ?_, [], after, ?_⟩
      · rw [List.mem_cons, not_or]
        exact ⟨hc.1, hno⟩
      · rw [List.mem_cons, not_or]
        exact ⟨hc.2, hno'⟩
      · simp
    · cases h
  · cases h

theorem HasTag.of_suffix {t : List Char} (h : HasTag s inside) (hs : s <:+ t) : HasTag t inside :=
  ⟨h.1, h.2.1, h.2.2.trans hs.isInfix⟩

theorem hasTag_of_tagAhead? {slashes : Nat} (h : tagAhead? s = some (slashes, inside)) :
    ∃ c body, inside = c :: body ∧ beginsTag c = true ∧ HasTag s inside := by
  obtain ⟨rest, hrest, heq⟩ := Option.map_eq_some_iff.mp h
  cases heq
  obtain ⟨c, body, hbody, hbegins, htag⟩ := tagInside?_eq_some hrest
  exact ⟨c, body, hbody, hbegins, htag.of_suffix (List.drop_suffix _ _)⟩

/-! ## Texts as they are -/

/-- A text without tags is a single piece. -/
theorem piecesFrom_of_untagged (h : Untagged s) (position : Nat) (plain : List Char) :
    piecesFrom position 0 plain s = plainPiece (plain.reverse ++ s) := by
  induction s generalizing position plain with
  | nil => rw [piecesFrom, List.append_nil]
  | cons c s ih =>
    have hs : Untagged s :=
      fun d rest hd htag => h d rest hd (htag.of_suffix (List.suffix_cons c s))
    rw [piecesFrom]
    split
    · rw [ih hs, List.reverse_cons, List.append_assoc, List.singleton_append]
    · rename_i slashes inside hahead
      obtain ⟨d, body, rfl, hbegins, htag⟩ := hasTag_of_tagAhead? hahead
      exact absurd htag (h d body hbegins)

theorem unescape_of_no_escape (h : ¬ ['\\', '['] <:+: s) : unescape s = s := by
  fun_induction unescape s with
  | case1 => rfl
  | case2 rest _ => exact absurd ⟨[], rest, rfl⟩ h
  | case3 c rest _ ih =>
    rw [ih fun hpart => h (hpart.trans (List.suffix_cons c rest).isInfix)]

theorem dropControls_of_printable (h : ∀ c ∈ s, isPrintable c = true) : dropControls s = s := by
  apply List.filter_eq_self.mpr
  intro c hc
  rw [Bool.not_eq_true', Bool.eq_false_iff]
  intro hdropped
  simp only [isDropped, Bool.or_eq_true, decide_eq_true_eq] at hdropped
  rcases hdropped with (((rfl | rfl) | rfl) | rfl) | rfl <;> cases h _ hc

/-- A text without tags can be shown, and loses only its escapes and some control characters. -/
theorem render_of_untagged (h : Untagged s) : render s = .ok (dropControls (unescape s)) := by
  have hpieces : pieces s = plainPiece s := piecesFrom_of_untagged h 0 []
  have hresolve : resolve [] (plainPiece s) = .ok (unescape s) := by
    unfold plainPiece
    split
    · rename_i hempty
      rw [List.isEmpty_iff.mp hempty]
      rfl
    · rw [resolve, resolve, Except.map, List.append_nil]
  rw [render, hpieces, hresolve, Except.map]

/-- A printable text without markup is shown as it is. -/
theorem render_of_literal (h : Literal s) (hprintable : ∀ c ∈ s, isPrintable c = true) :
    render s = .ok s := by
  rw [render_of_untagged h.untagged, unescape_of_no_escape h.no_escape, dropControls_of_printable hprintable]

/-! ## Only texts without markup are shown as they are -/

/-- The number of characters of the plain texts among pieces. -/
def plainLength : List Piece → Nat
  | [] => 0
  | .plain text :: rest => text.length + plainLength rest
  | .tag _ _ :: rest => plainLength rest

theorem plainLength_append (first second : List Piece) :
    plainLength (first ++ second) = plainLength first + plainLength second := by
  induction first with
  | nil => rw [List.nil_append, plainLength, Nat.zero_add]
  | cons piece rest ih => cases piece <;> simp only [List.cons_append, plainLength, ih, Nat.add_assoc]

theorem plainLength_plainPiece (text : List Char) : plainLength (plainPiece text) = text.length := by
  unfold plainPiece
  split
  · rename_i hempty
    rw [List.isEmpty_iff.mp hempty]
    rfl
  · rw [plainLength, plainLength, Nat.add_zero]

theorem length_unescape_le (s : List Char) : (unescape s).length ≤ s.length := by
  fun_induction unescape s with
  | case1 => exact Nat.le_refl 0
  | case2 rest ih =>
    simp only [List.length_cons]
    omega
  | case3 c rest _ ih => exact Nat.succ_le_succ ih

/-- A backslash before an opening bracket is lost. -/
theorem length_unescape_lt (h : ['\\', '['] <:+: s) : (unescape s).length < s.length := by
  fun_induction unescape s with
  | case1 => cases List.eq_nil_of_infix_nil h
  | case2 rest _ =>
    have := length_unescape_le rest
    simp only [List.length_cons]
    omega
  | case3 c rest hescape ih =>
    rcases List.infix_cons_iff.mp h with ⟨after, hafter⟩ | h
    · obtain ⟨rfl, rfl⟩ := List.cons.inj hafter
      exact absurd rfl (hescape after rfl)
    · exact Nat.succ_lt_succ (ih h)

/-- What is shown is no longer than the plain texts. -/
theorem length_le_of_resolve {opened : List Tag} {pieces : List Piece} {shown : List Char}
    (h : resolve opened pieces = .ok shown) : shown.length ≤ plainLength pieces := by
  induction pieces generalizing opened shown with
  | nil =>
    cases h
    exact Nat.le_refl 0
  | cons piece rest ih =>
    cases piece with
    | plain text =>
      rw [resolve] at h
      obtain ⟨others, hothers, rfl⟩ := exists_of_map_eq_ok h
      have hothers := ih hothers
      have htext := length_unescape_le text
      rw [plainLength, List.length_append]
      omega
    | tag t position =>
      rw [resolve] at h
      rw [plainLength]
      split at h
      · split at h
        · cases h
        split at h
        · cases h
        · exact ih h
      · exact ih h

theorem untilBracket?_append (h : '[' ∉ inside) (h' : ']' ∉ inside) (rest : List Char) :
    untilBracket? (inside ++ ']' :: rest) = some inside := by
  induction inside with
  | nil => rfl
  | cons c inside ih =>
    simp only [List.mem_cons, not_or] at h h'
    rw [List.cons_append, untilBracket?, if_neg (Ne.symm h'.1), if_neg (Ne.symm h.1), ih h.2 h'.2,
      Option.map_some]

/-- A tag that stands at the head of a text is found. -/
theorem tagAhead?_of_head {c : Char} (hbegins : beginsTag c = true) (h : '[' ∉ c :: inside)
    (h' : ']' ∉ c :: inside) (hhead : '[' :: c :: inside ++ [']'] <+: s) :
    tagAhead? s = some (0, c :: inside) := by
  obtain ⟨rest, rfl⟩ := hhead
  have hfound := untilBracket?_append (List.not_mem_of_not_mem_cons h)
    (List.not_mem_of_not_mem_cons h') rest
  simp [tagAhead?, tagInside?, hbegins, hfound]

theorem length_of_tagAhead? {slashes : Nat} (h : tagAhead? s = some (slashes, inside)) :
    slashes + inside.length + 2 ≤ s.length := by
  obtain ⟨found, hfound, heq⟩ := Option.map_eq_some_iff.mp h
  cases heq
  obtain ⟨c, body, -, -, htag⟩ := tagInside?_eq_some hfound
  have hlength := htag.2.2.length_le
  simp only [List.length_drop, List.length_append, List.length_cons, List.length_nil] at hlength ⊢
  omega

/-- A tag takes characters off the plain texts, whatever pieces follow it. -/
theorem plainLength_of_tagAhead? {position slashes : Nat} {plain : List Char} {c : Char}
    (h : tagAhead? (c :: s) = some (slashes, inside))
    (hrest : plainLength (piecesFrom (position + 1) (slashes + inside.length + 1) [] s) ≤
      s.length - (slashes + inside.length + 1)) :
    plainLength (piecesFrom position 0 plain (c :: s)) < plain.length + (s.length + 1) := by
  have hlength := length_of_tagAhead? h
  rw [List.length_cons] at hlength
  rw [piecesFrom, h]
  dsimp only
  rw [plainLength_append, plainLength_append, plainLength_plainPiece, plainLength_plainPiece,
    List.length_reverse, List.length_replicate]
  split
  · simp only [plainLength, List.length_append, List.length_cons, List.length_nil]
    omega
  · simp only [plainLength]
    omega

theorem plainLength_piecesFrom_le (position skip : Nat) (plain s : List Char) :
    plainLength (piecesFrom position skip plain s) ≤ plain.length + (s.length - skip) := by
  induction s generalizing position skip plain with
  | nil =>
    rw [piecesFrom, plainLength_plainPiece, List.length_reverse]
    omega
  | cons c s ih =>
    cases skip with
    | succ skip =>
      rw [piecesFrom, List.length_cons, Nat.add_sub_add_right]
      exact ih (position + 1) skip plain
    | zero =>
      cases hahead : tagAhead? (c :: s) with
      | none =>
        have hs := ih (position + 1) 0 (c :: plain)
        rw [piecesFrom, hahead]
        simp only [List.length_cons] at hs ⊢
        omega
      | some found =>
        have hs := ih (position + 1) (found.1 + found.2.length + 1) []
        rw [List.length_nil, Nat.zero_add] at hs
        exact Nat.le_of_lt (plainLength_of_tagAhead? hahead hs)

theorem plainLength_piecesFrom_lt {c : Char} (hbegins : beginsTag c = true)
    (h : HasTag s (c :: inside)) (position : Nat) (plain : List Char) :
    plainLength (piecesFrom position 0 plain s) < plain.length + s.length := by
  obtain ⟨hopen, hclose, hpart⟩ := h
  induction s generalizing position plain with
  | nil => cases List.eq_nil_of_infix_nil hpart
  | cons d s ih =>
    cases hahead : tagAhead? (d :: s) with
    | none =>
      rcases List.infix_cons_iff.mp hpart with hhead | hpart
      · cases hahead.symm.trans (tagAhead?_of_head hbegins hopen hclose hhead)
      · have hs := ih (position + 1) (d :: plain) hpart
        rw [piecesFrom, hahead]
        simp only [List.length_cons] at hs ⊢
        omega
    | some found =>
      have hs := plainLength_piecesFrom_le (position + 1) (found.1 + found.2.length + 1) [] s
      rw [List.length_nil, Nat.zero_add] at hs
      exact plainLength_of_tagAhead? hahead hs

/-- A text with markup is not shown as it is. -/
theorem literal_of_render (h : render s = .ok s) : Literal s := by
  obtain ⟨text, htext, hshown⟩ := exists_of_map_eq_ok h
  -- what is shown is no longer than the texts between the tags
  have hlength : s.length ≤ text.length := by
    rw [← hshown]
    exact List.length_filter_le _ text
  have hno : Untagged s := by
    intro c rest hbegins htag
    have hresolve := length_le_of_resolve htext
    have hpieces := plainLength_piecesFrom_lt hbegins htag 0 []
    rw [List.length_nil, Nat.zero_add] at hpieces
    rw [pieces] at hresolve
    omega
  refine ⟨hno, fun hescape => ?_⟩
  have hunescape := length_unescape_lt hescape
  have hkept := List.length_filter_le (fun c => !isDropped c) (unescape s)
  rw [render_of_untagged hno] at h
  rw [← dropControls, Except.ok.inj h] at hkept
  omega

/-- The printable texts that are shown as they are, are those without markup. -/
theorem render_eq_self_iff (hprintable : ∀ c ∈ s, isPrintable c = true) :
    render s = .ok s ↔ Literal s :=
  ⟨literal_of_render, fun h => render_of_literal h hprintable⟩

end WorkspaceDesk.Table.Markup

import WorkspaceDesk.Proofs.Text.Lines
import WorkspaceDesk.Ssh.Entries

/-!
# Lines of entries

Which lines of a text belong to entries, and the filter that goes through the lines from the first to the
last and leaves these out.
-/

namespace WorkspaceDesk.Ssh

open Text

/-! ## Which lines belong to entries -/

/-- The line is `Host ` with the name of one of the hosts and then spaces and tabs only, up to its line
feed if it has one. -/
def isHeader (hosts : List (List Char)) (line : List Char) : Bool :=
  let content := line.takeWhile (· ≠ '\n')
  hosts.any fun host =>
    (headerWord ++ host).isPrefixOf content && (content.drop (headerWord ++ host).length).all isIndent

/-- The line begins with a space or tab. -/
def isIndented (line : List Char) : Bool :=
  line.head?.any isIndent

/-- Line `i` belongs to an entry: it is a header line or there is one before it, and all lines in between
and itself are indented. -/
def InEntry (hosts : List (List Char)) (ls : List (List Char)) (i : Nat) : Prop :=
  ∃ j, j ≤ i ∧ ls[j]?.any (isHeader hosts) ∧ ∀ k, k ≤ i → j < k → ls[k]?.any isIndented

instance (hosts ls : List (List Char)) (i : Nat) : Decidable (InEntry hosts ls i) :=
  inferInstanceAs (Decidable (∃ j, j ≤ i ∧
    ls[j]?.any (isHeader hosts) ∧ ∀ k, k ≤ i → j < k → ls[k]?.any isIndented))

/-- The lines that belong to no entry, in order. -/
def outsideEntries (hosts : List (List Char)) (ls : List (List Char)) : List (List Char) :=
  (ls.zipIdx.filter fun (_, i) => ¬ InEntry hosts ls i).map Prod.fst

/-! ## The filter of lines -/

variable {hosts : List (List Char)}

theorem ne_feed_of_isIndent {c : Char} (h : isIndent c = true) : c ≠ '\n' := by
  rintro rfl
  exact absurd h (by decide)

/-- The lines that belong to no entry, of which the first one may go on with an entry. -/
def keepLines (hosts : List (List Char)) : (inside : Bool) → List (List Char) → List (List Char)
  | _, [] => []
  | inside, line :: rest =>
    if isHeader hosts line || (inside && isIndented line) then keepLines hosts true rest
    else line :: keepLines hosts false rest

/-- An indented line is no header line. -/
theorem not_isHeader_of_isIndented {line : List Char} (h : isIndented line = true) :
    isHeader hosts line = false := by
  cases line with
  | nil => exact absurd h (by decide)
  | cons c t =>
    have hc : isIndent c = true := h
    -- a header line begins with a letter
    have hH : c ≠ 'H' := by
      rintro rfl
      exact absurd hc (by decide)
    have hpre : ∀ host : List Char,
        (headerWord ++ host).isPrefixOf ((c :: t).takeWhile (· ≠ '\n')) = false := by
      intro host
      rw [List.takeWhile_cons_of_pos (by simpa using ne_feed_of_isIndent hc)]
      simp [headerWord, List.isPrefixOf, Ne.symm hH]
    refine List.any_eq_false.mpr fun host _ => ?_
    rw [hpre host]
    exact Bool.false_ne_true

theorem keepLines_inside (ls : List (List Char)) :
    keepLines hosts true ls = keepLines hosts false (ls.dropWhile isIndented) := by
  induction ls with
  | nil => rfl
  | cons line rest ih =>
    cases h : isIndented line with
    | true => simp [keepLines, h, ih]
    | false => simp [keepLines, h]

theorem countP_dropWhile_isIndented (ls : List (List Char)) :
    (ls.dropWhile isIndented).countP (isHeader hosts) = ls.countP (isHeader hosts) := by
  induction ls with
  | nil => rfl
  | cons line rest ih =>
    cases h : isIndented line with
    | true => simp [h, ih, not_isHeader_of_isIndented h]
    | false => simp [h]

theorem keepLines_sublist (inside : Bool) (ls : List (List Char)) :
    (keepLines hosts inside ls).Sublist ls := by
  induction ls generalizing inside with
  | nil => exact List.Sublist.refl []
  | cons line rest ih =>
    rw [keepLines]
    split
    · exact (ih true).cons line
    · exact (ih false).cons_cons line

/-- No header line is kept. -/
theorem countP_keepLines (inside : Bool) (ls : List (List Char)) :
    (keepLines hosts inside ls).countP (isHeader hosts) = 0 := by
  induction ls generalizing inside with
  | nil => rfl
  | cons line rest ih =>
    rw [keepLines]
    split
    · exact ih true
    · rename_i hnot
      have hline : isHeader hosts line = false := by
        cases h : isHeader hosts line with
        | true => simp [h] at hnot
        | false => rfl
      rw [List.countP_cons_of_neg (by simp [hline]), ih false]

/-- Without a header line all lines are kept. -/
theorem keepLines_eq_self {ls : List (List Char)} (h : ls.countP (isHeader hosts) = 0) :
    keepLines hosts false ls = ls := by
  induction ls with
  | nil => rfl
  | cons line rest ih =>
    have hline : isHeader hosts line = false := by
      cases hheader : isHeader hosts line with
      | true => simp [hheader] at h
      | false => rfl
    rw [List.countP_cons_of_neg (by simp [hline])] at h
    simp [keepLines, hline, ih h]

/-! ## What the filter leaves out -/

theorem inEntry_zero (line : List Char) (rest : List (List Char)) :
    InEntry hosts (line :: rest) 0 ↔ isHeader hosts line = true := by
  constructor
  · rintro ⟨j, hj, hheader, -⟩
    obtain rfl := Nat.le_zero.mp hj
    exact hheader
  · exact fun h => ⟨0, Nat.le_refl 0, h, fun k hk hlt => absurd hlt (by omega)⟩

theorem inEntry_succ (line : List Char) (rest : List (List Char)) (i : Nat) :
    InEntry hosts (line :: rest) (i + 1) ↔ InEntry hosts rest i ∨
      isHeader hosts line = true ∧ ∀ k, k ≤ i → rest[k]?.any isIndented = true := by
  constructor
  · rintro ⟨j, hj, hheader, hbody⟩
    cases j with
    | zero => exact .inr ⟨hheader, fun k hk => hbody (k + 1) (by omega) (by omega)⟩
    | succ j =>
      exact .inl ⟨j, by omega, hheader, fun k hk hlt => hbody (k + 1) (by omega) (by omega)⟩
  · rintro (⟨j, hj, hheader, hbody⟩ | ⟨hheader, hbody⟩)
    · refine ⟨j + 1, by omega, hheader, fun k hk hlt => ?_⟩
      obtain ⟨k, rfl⟩ := Nat.exists_eq_add_of_lt (Nat.zero_lt_of_lt hlt)
      simpa using hbody k (by omega) (by omega)
    · refine ⟨0, by omega, hheader, fun k hk hlt => ?_⟩
      obtain ⟨k, rfl⟩ := Nat.exists_eq_add_of_lt hlt
      simpa using hbody k (by omega)

theorem indentedUpTo_succ (line : List Char) (rest : List (List Char)) (i : Nat) :
    (∀ k, k ≤ i + 1 → (line :: rest)[k]?.any isIndented = true) ↔
      isIndented line = true ∧ ∀ k, k ≤ i → rest[k]?.any isIndented = true := by
  constructor
  · exact fun h => ⟨h 0 (by omega), fun k hk => h (k + 1) (by omega)⟩
  · rintro ⟨hline, hrest⟩ (_ | k) hk
    · exact hline
    · exact hrest k (by omega)

/-- A line is left out if it belongs to an entry or goes on with the one that the lines begin in. -/
theorem keepLines_eq (inside : Bool) (ls : List (List Char)) :
    keepLines hosts inside ls = (ls.zipIdx.filter fun (_, i) => ¬ (InEntry hosts ls i ∨
      inside = true ∧ ∀ k, k ≤ i → ls[k]?.any isIndented = true)).map Prod.fst := by
  induction ls generalizing inside with
  | nil => rfl
  | cons line rest ih =>
    -- the rest begins inside of an entry if the first line belongs to one; its lines count from one on
    have hshift : ∀ inside' : Bool, (inside' = true ↔
        isHeader hosts line = true ∨ inside = true ∧ isIndented line = true) →
        keepLines hosts inside' rest = ((rest.zipIdx 1).filter fun (_, i) =>
          ¬ (InEntry hosts (line :: rest) i ∨ inside = true ∧
            ∀ k, k ≤ i → (line :: rest)[k]?.any isIndented = true)).map Prod.fst := by
      intro inside' hinside'
      rw [ih, List.zipIdx_succ, List.filter_map, List.map_map]
      congr 1
      refine List.filter_congr fun ⟨_, i⟩ _ => ?_
      simp only [Function.comp_apply, inEntry_succ, indentedUpTo_succ, hinside']
      refine decide_eq_decide.mpr ?_
      grind
    have hzero : (InEntry hosts (line :: rest) 0 ∨
        inside = true ∧ ∀ k, k ≤ 0 → (line :: rest)[k]?.any isIndented = true) ↔
        (isHeader hosts line || (inside && isIndented line)) = true := by
      simp [inEntry_zero]
    rw [List.zipIdx_cons, keepLines, List.filter_cons]
    simp only [hzero]
    cases h : isHeader hosts line || (inside && isIndented line) with
    | true => simpa using hshift true (by simpa using h)
    | false => simpa using hshift false (by simpa using h)

/-- The filter leaves out the lines of entries. -/
theorem keepLines_eq_outsideEntries (ls : List (List Char)) :
    keepLines hosts false ls = outsideEntries hosts ls := by
  rw [keepLines_eq, outsideEntries]
  simp only [Bool.false_eq_true, false_and, or_false]

theorem outsideEntries_sublist (hosts ls : List (List Char)) :
    (outsideEntries hosts ls).Sublist ls := by
  rw [← keepLines_eq_outsideEntries]
  exact keepLines_sublist false ls

/-- No header line is outside of entries. -/
theorem countP_outsideEntries (ls : List (List Char)) :
    (outsideEntries hosts ls).countP (isHeader hosts) = 0 := by
  rw [← keepLines_eq_outsideEntries]
  exact countP_keepLines false ls

/-- Without a header line all lines are outside of entries. -/
theorem outsideEntries_eq_self {ls : List (List Char)} (h : ls.countP (isHeader hosts) = 0) :
    outsideEntries hosts ls = ls := by
  rw [← keepLines_eq_outsideEntries, keepLines_eq_self h]

/-! ## The filter in parts -/

/-- Up to a line that is not indented and from there on, lines are filtered on their own. -/
theorem outsideEntries_append (first : List (List Char)) {second : List (List Char)}
    (h : ∀ line, second.head? = some line → isIndented line = false) :
    outsideEntries hosts (first ++ second) =
      outsideEntries hosts first ++ outsideEntries hosts second := by
  have hstart : ∀ inside, keepLines hosts inside second = keepLines hosts false second := by
    intro inside
    cases second with
    | nil => rfl
    | cons line rest => simp only [keepLines, h line rfl, Bool.and_false]
  -- the first lines may end within an entry
  have hparts : ∀ inside, keepLines hosts inside (first ++ second) =
      keepLines hosts inside first ++ keepLines hosts false second := by
    induction first with
    | nil => exact hstart
    | cons line rest ih =>
      intro inside
      rw [List.cons_append, keepLines, keepLines, ih, ih]
      split <;> rfl
  simpa only [keepLines_eq_outsideEntries] using hparts false

/-- Indented lines are kept behind a line that is no header line, together with it. -/
theorem outsideEntries_block {header : List Char} {body : List (List Char)}
    (hheader : isHeader hosts header = false) (hbody : ∀ line ∈ body, isIndented line = true) :
    outsideEntries hosts (header :: body) = header :: body := by
  refine outsideEntries_eq_self (List.countP_eq_zero.mpr fun line hline => ?_)
  rcases List.mem_cons.mp hline with rfl | hline
  · simp [hheader]
  · simp [not_isHeader_of_isIndented (hbody line hline)]

/-- The line after an entry is not indented. -/
theorem head?_keepLines_inside {line : List Char} {ls : List (List Char)}
    (h : (keepLines hosts true ls).head? = some line) : isIndented line = false := by
  induction ls with
  | nil => cases h
  | cons first rest ih =>
    rw [keepLines] at h
    split at h
    · exact ih h
    · rename_i hnot
      cases h
      simp only [Bool.true_and, Bool.or_eq_true, not_or, Bool.not_eq_true] at hnot
      exact hnot.2

/-- Where lines do not begin with an indented one, what is left of them does not either. -/
theorem head?_outsideEntries {ls : List (List Char)}
    (hls : ∀ line, ls.head? = some line → isIndented line = false) {line : List Char}
    (h : (outsideEntries hosts ls).head? = some line) : isIndented line = false := by
  rw [← keepLines_eq_outsideEntries] at h
  cases ls with
  | nil => cases h
  | cons first rest =>
    rw [keepLines] at h
    split at h
    · exact head?_keepLines_inside h
    · cases h
      exact hls _ rfl

end WorkspaceDesk.Ssh

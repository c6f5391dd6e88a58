import WorkspaceDesk.Proofs.Ssh.Lines
import WorkspaceDesk.Proofs.Text.Pattern

/-!
# Entries by lines

The pattern of an entry takes whole lines: it begins at a header line and takes this line and the
indented lines behind it. Removing the matches is therefore a filter of the lines of the text
(`removeEntries_eq`), whatever characters the names of the hosts are made of.
-/

namespace WorkspaceDesk.Ssh

open Text Pattern

/-! ## What the parts of the pattern match -/

variable {next : Matcher} {s rest r : List Char} {hosts : List (List Char)}

theorem dropWhile_dropWhile_isIndent (s : List Char) :
    (s.dropWhile isIndent).dropWhile (· ≠ '\n') = s.dropWhile (· ≠ '\n') := by
  induction s with
  | nil => rfl
  | cons c s ih =>
    by_cases hc : isIndent c = true
    · rw [List.dropWhile_cons_of_pos hc, ih,
        List.dropWhile_cons_of_pos (by simpa using ne_feed_of_isIndent hc)]
    · rw [List.dropWhile_cons_of_neg hc]

theorem reaches_lineBreak_nil (h : Reaches next [] r) : Reaches (lineBreak.run next) [] r :=
  reaches_alt_second fails_one_nil h

theorem reaches_lineBreak_feed (h : Reaches next s r) :
    Reaches (lineBreak.run next) ('\n' :: s) r :=
  reaches_alt_first (reaches_one (decide_eq_true rfl) h)

theorem fails_lineBreak {c : Char} (hc : c ≠ '\n') : Fails (lineBreak.run next) (c :: s) := by
  refine fails_alt (fails_one fun h => absurd (of_decide_eq_true h) hc) fun b => ?_
  simp only [run, hc, ↓reduceIte]

/-- The rest of a line is taken with its line feed. -/
theorem reaches_restOfLine (h : Reaches next (dropLine s) r) :
    Reaches ((star (one (· ≠ '\n'))).run (lineBreak.run next)) s r := by
  refine reaches_star_one ?_
  induction s with
  | nil => exact reaches_lineBreak_nil h
  | cons c s ih =>
    by_cases hc : c = '\n'
    · subst hc
      exact reaches_lineBreak_feed h
    · rw [dropLine, if_neg hc] at h
      rw [List.dropWhile_cons_of_pos (by simpa using hc)]
      exact ih h

/-- Spaces and tabs are taken up to the end of the line, with its line feed. -/
theorem reaches_blanks (hblank : (s.takeWhile (· ≠ '\n')).all isIndent = true)
    (h : Reaches next (dropLine s) r) :
    Reaches ((star (one isIndent)).run (lineBreak.run next)) s r := by
  refine reaches_star_one ?_
  induction s with
  | nil => exact reaches_lineBreak_nil h
  | cons c s ih =>
    by_cases hc : c = '\n'
    · subst hc
      exact reaches_lineBreak_feed h
    · rw [List.takeWhile_cons_of_pos (by simpa using hc), List.all_cons, Bool.and_eq_true] at hblank
      rw [dropLine, if_neg hc] at h
      rw [List.dropWhile_cons_of_pos hblank.1]
      exact ih hblank.2 h

/-- Where something else follows on the line, neither all the spaces and tabs nor fewer of them lead to
its end. -/
theorem fails_blanks (hblank : ¬ (s.takeWhile (· ≠ '\n')).all isIndent = true) :
    Fails ((star (one isIndent)).run (lineBreak.run next)) s := by
  -- a blank that is given back is no end of the line either
  refine fails_star_one (fun c t hc => fails_lineBreak (ne_feed_of_isIndent hc)) ?_
  induction s with
  | nil => exact absurd rfl hblank
  | cons c s ih =>
    have hfeed : c ≠ '\n' := by
      rintro rfl
      exact hblank rfl
    rw [List.takeWhile_cons_of_pos (by simpa using hfeed), List.all_cons, Bool.and_eq_true] at hblank
    by_cases hc : isIndent c = true
    · rw [List.dropWhile_cons_of_pos hc]
      exact ih fun hall => hblank ⟨hc, hall⟩
    · rw [List.dropWhile_cons_of_neg hc]
      exact fails_lineBreak hfeed

/-! ## Body lines -/

theorem isIndented_takeLine (s : List Char) : isIndented (takeLine s) = isIndented s := by
  cases s with
  | nil => rfl
  | cons c s => by_cases hc : c = '\n' <;> simp [takeLine, isIndented, hc]

theorem reaches_bodyLine (hs : isIndented s = true) (h : Reaches next (dropLine s) r) :
    Reaches (bodyLine.run next) s r := by
  cases s with
  | nil => exact absurd hs (by decide)
  | cons c s =>
    have hc : isIndent c = true := hs
    rw [dropLine, if_neg (ne_feed_of_isIndent hc), dropLine_eq_dropWhile] at h
    -- the first blank, the other blanks, the rest of the line
    refine reaches_one hc (reaches_star_one (reaches_restOfLine ?_))
    rwa [dropLine_eq_dropWhile, dropWhile_dropWhile_isIndent]

theorem fails_bodyLine (hs : isIndented s = false) : Fails (bodyLine.run next) s := by
  cases s with
  | nil => exact fails_one_nil
  | cons c s =>
    have hc : isIndent c = false := hs
    exact fails_one fun h => by simp [hc] at h

/-- Body lines are taken up to the first line that is not indented. -/
theorem reaches_body (s : List Char) :
    Reaches ((star bodyLine).run some) s ((lines s).dropWhile isIndented).flatten := by
  -- on the length, since each repetition takes a whole line
  induction hlength : s.length using Nat.strongRecOn generalizing s with
  | ind n ih =>
    cases hs : isIndented s with
    | true =>
      obtain ⟨c, t, rfl⟩ : ∃ c t, s = c :: t := by
        cases s with
        | nil => exact absurd hs (by decide)
        | cons c t => exact ⟨c, t, rfl⟩
      have hlt := length_dropLine_lt c t
      rw [lines_cons, List.dropWhile_cons_of_pos (by rw [isIndented_takeLine, hs])]
      exact reaches_star_again hlt (fun _ hm => reaches_bodyLine hs hm)
        (ih _ (by omega) (dropLine (c :: t)) rfl)
    | false =>
      have hkept : ((lines s).dropWhile isIndented).flatten = s := by
        cases s with
        | nil => rfl
        | cons c t =>
          rw [lines_cons, List.dropWhile_cons_of_neg (by simp [isIndented_takeLine, hs]),
            ← lines_cons, flatten_lines]
      rw [hkept]
      exact reaches_star_end (fun _ => fails_bodyLine hs) (reaches_some s)

/-! ## Header lines -/

theorem feed_not_mem_headerWord : '\n' ∉ headerWord := by
  decide

/-- A header line is the word and the name of one of the hosts, and nothing but spaces and tabs follows on
the line. -/
theorem exists_of_isHeader {s : List Char} (hs : isHeader hosts (takeLine s) = true) :
    ∃ host ∈ hosts, ∃ rest, s = headerWord ++ (host ++ rest) ∧
      (rest.takeWhile (· ≠ '\n')).all isIndent = true := by
  simp only [isHeader, takeWhile_takeLine, List.any_eq_true, Bool.and_eq_true,
    List.isPrefixOf_iff_prefix] at hs
  obtain ⟨host, hhost, ⟨rest, hrest⟩, hblank⟩ := hs
  rw [← hrest, List.drop_left] at hblank
  have hall : ∀ c ∈ rest, decide (c ≠ '\n') = true := fun c hc =>
    decide_eq_true (ne_feed_of_isIndent (List.all_eq_true.mp hblank c hc))
  refine ⟨host, hhost, rest ++ s.dropWhile (· ≠ '\n'), ?_, ?_⟩
  · rw [← List.append_assoc, ← List.append_assoc, hrest, List.takeWhile_append_dropWhile]
  · rwa [List.takeWhile_append_of_pos hall, takeWhile_dropWhile_feed, List.append_nil]

/-- A text begins with a header line if it begins with the word and the name of one of the hosts, and
nothing but spaces and tabs follows on the line. -/
theorem isHeader_takeLine_iff (hhosts : ∀ host ∈ hosts, '\n' ∉ host) (s : List Char) :
    isHeader hosts (takeLine s) = true ↔ ∃ host ∈ hosts, ∃ rest, s = headerWord ++ (host ++ rest) ∧
      (rest.takeWhile (· ≠ '\n')).all isIndent = true := by
  -- word and name stand on one line
  have hname : ∀ host ∈ hosts, ∀ c ∈ headerWord ++ host, decide (c ≠ '\n') = true := by
    intro host hhost c hc
    rcases List.mem_append.mp hc with hc | hc
    · exact decide_eq_true fun h => feed_not_mem_headerWord (h ▸ hc)
    · exact decide_eq_true fun h => hhosts host hhost (h ▸ hc)
  refine ⟨exists_of_isHeader, ?_⟩
  rintro ⟨host, hhost, rest, rfl, hblank⟩
  simp only [isHeader, takeWhile_takeLine, List.any_eq_true, Bool.and_eq_true,
    List.isPrefixOf_iff_prefix]
  rw [← List.append_assoc, List.takeWhile_append_of_pos (hname host hhost)]
  refine ⟨host, hhost, List.prefix_append _ _, ?_⟩
  rwa [List.drop_left]

theorem run_entry (s : List Char) : (entry hosts).run some ⟨true, s⟩ =
    (literal headerWord).run ((anyOf hosts).run ((star (one isIndent)).run
      (lineBreak.run ((star bodyLine).run some)))) ⟨true, s⟩ :=
  rfl

/-- No entry begins within a line. -/
theorem run_entry_inside (s : List Char) : (entry hosts).run some ⟨false, s⟩ = none :=
  rfl

/-- What follows the name of a host leads on to the body, or not at all. -/
theorem afterName_cases (rest : List Char) :
    let m := (star (one isIndent)).run (lineBreak.run ((star bodyLine).run some))
    ((rest.takeWhile (· ≠ '\n')).all isIndent = true ∧
      Reaches m rest ((lines (dropLine rest)).dropWhile isIndented).flatten) ∨
    (¬ (rest.takeWhile (· ≠ '\n')).all isIndent = true ∧ Fails m rest) := by
  by_cases hblank : (rest.takeWhile (· ≠ '\n')).all isIndent = true
  · exact .inl ⟨hblank, reaches_blanks hblank (reaches_body _)⟩
  · exact .inr ⟨hblank, fails_blanks hblank⟩

/-- From a header line on, the line and the indented lines behind it match. Which of the names that begin
alike is tried first does not matter. -/
theorem run_entry_of_isHeader (hhosts : ∀ host ∈ hosts, '\n' ∉ host)
    (hs : isHeader hosts (takeLine s) = true) :
    ∃ b, (entry hosts).run some ⟨true, s⟩ =
      some ⟨b, ((lines (dropLine s)).dropWhile isIndented).flatten⟩ := by
  obtain ⟨host, hhost, rest, rfl, hblank⟩ := (isHeader_takeLine_iff hhosts s).mp hs
  -- any other name that fits ends on the same line, so that the same lines follow
  have hdrop : ∀ other ∈ hosts, ∀ t, host ++ rest = other ++ t →
      dropLine (headerWord ++ (host ++ rest)) = dropLine t := by
    intro other hother t ht
    rw [ht, dropLine_append feed_not_mem_headerWord, dropLine_append (hhosts other hother)]
  rw [run_entry]
  refine reaches_literal headerWord (reaches_anyOf ?_ ?_) true
  · intro other hother t ht
    rw [hdrop other hother t ht]
    exact (afterName_cases t).imp And.right And.right
  · refine ⟨host, hhost, rest, rfl, ?_⟩
    rw [hdrop host hhost rest rfl]
    exact reaches_blanks hblank (reaches_body _)

/-- No entry begins at another line. -/
theorem run_entry_of_not_isHeader (hhosts : ∀ host ∈ hosts, '\n' ∉ host)
    (hs : ¬ isHeader hosts (takeLine s) = true) : (entry hosts).run some ⟨true, s⟩ = none := by
  rw [isHeader_takeLine_iff hhosts] at hs
  rw [run_entry]
  refine fails_literal headerWord (fun t ht => fails_anyOf fun host hhost rest hrest => ?_) true
  refine fails_blanks fun hblank => hs ⟨host, hhost, rest, ?_, hblank⟩
  rw [ht, hrest]

/-! ## Removal -/

/-- A match that ends before some of the other lines removes the lines up to there and counts once, and the
text goes on with these lines. -/
theorem remove_of_lines {c : Char} {t : List Char} {others : List (List Char)}
    (hothers : others <:+ lines (dropLine (c :: t)))
    (hmatch : ∃ b, (entry hosts).run some ⟨true, c :: t⟩ = some ⟨b, others.flatten⟩) :
    others.flatten.length < (c :: t).length ∧ lines others.flatten = others ∧
      (entry hosts).remove (c :: t) =
        (((entry hosts).remove others.flatten).1, ((entry hosts).remove others.flatten).2 + 1) := by
  obtain ⟨body, hbody⟩ := hothers
  have hsplit : lines (c :: t) = (takeLine (c :: t) :: body) ++ others := by
    rw [List.cons_append, hbody, lines_cons]
  have hare := areLines_lines (c :: t)
  have htext := flatten_lines (c :: t)
  rw [hsplit] at hare
  rw [hsplit, List.flatten_append] at htext
  have hne : (takeLine (c :: t) :: body).flatten ≠ [] := by
    rw [List.flatten_cons]
    exact List.append_ne_nil_of_left_ne_nil (takeLine_ne_nil c t) _
  have hremove := remove_of_match hne (hare.flatten_end (List.cons_ne_nil _ _)) (htext ▸ hmatch)
  refine ⟨?_, lines_flatten (hare.sublist (List.sublist_append_right _ _)), ?_⟩
  · have hlength := congrArg List.length htext
    have hpos := List.length_pos_iff.mpr hne
    rw [List.length_append] at hlength
    omega
  · rw [← hremove, htext]

/-- From a header line on, the line and the indented lines behind it are removed and counted once, and
the text goes on with the other lines. -/
theorem remove_of_isHeader (hhosts : ∀ host ∈ hosts, '\n' ∉ host) {c : Char} {t : List Char}
    (hs : isHeader hosts (takeLine (c :: t)) = true) :
    ∃ others : List Char, others.length < (c :: t).length ∧
      lines others = (lines (dropLine (c :: t))).dropWhile isIndented ∧
      (entry hosts).remove (c :: t) =
        (((entry hosts).remove others).1, ((entry hosts).remove others).2 + 1) :=
  ⟨_, remove_of_lines (List.dropWhile_suffix _) (run_entry_of_isHeader hhosts hs)⟩

/-- The pattern removes what the filter of lines leaves out. -/
theorem remove_entry (hhosts : ∀ host ∈ hosts, '\n' ∉ host) (s : List Char) :
    (entry hosts).remove s =
      ((keepLines hosts false (lines s)).flatten, (lines s).countP (isHeader hosts)) := by
  -- on the length, since a match takes several lines at once
  induction hlength : s.length using Nat.strongRecOn generalizing s with
  | ind n ih =>
    cases s with
    | nil => rfl
    | cons c t =>
      have hlt := length_dropLine_lt c t
      by_cases hheader : isHeader hosts (takeLine (c :: t)) = true
      · obtain ⟨others, hshorter, hothers, hremove⟩ := remove_of_isHeader hhosts hheader
        have hkeep : keepLines hosts false (lines (c :: t)) =
            keepLines hosts false (lines others) := by
          rw [lines_cons, keepLines, hheader, Bool.true_or, if_pos rfl, keepLines_inside, hothers]
        have hcount : (lines (c :: t)).countP (isHeader hosts) =
            (lines others).countP (isHeader hosts) + 1 := by
          rw [lines_cons, List.countP_cons_of_pos hheader, hothers, countP_dropWhile_isIndented]
        rw [hremove, ih _ (by omega) others rfl, hkeep, hcount]
      · have hkeep : keepLines hosts false (lines (c :: t)) =
            takeLine (c :: t) :: keepLines hosts false (lines (dropLine (c :: t))) := by
          rw [lines_cons, keepLines]
          simp [hheader]
        rw [remove_of_no_match run_entry_inside (run_entry_of_not_isHeader hhosts hheader),
          ih _ (by omega) (dropLine (c :: t)) rfl, hkeep, List.flatten_cons, lines_cons,
          List.countP_cons_of_neg hheader]

/-- Exactly the lines of entries are removed, and the header lines are counted. -/
theorem removeEntries_eq {names : List String} (hnames : ∀ name ∈ names, '\n' ∉ name.toList)
    (text : List Char) :
    removeEntries names text =
      ((outsideEntries (names.map String.toList) (lines text)).flatten,
        (lines text).countP (isHeader (names.map String.toList))) := by
  rw [removeEntries, remove_entry (by simpa using hnames), keepLines_eq_outsideEntries]

theorem mem_of_mem_removeEntries {names : List String}
    (hnames : ∀ name ∈ names, '\n' ∉ name.toList) {text : List Char} {c : Char}
    (h : c ∈ (removeEntries names text).1) : c ∈ text := by
  rw [removeEntries_eq hnames] at h
  obtain ⟨line, hline, hc⟩ := List.mem_flatten.mp h
  rw [← flatten_lines text]
  exact List.mem_flatten.mpr ⟨line, (outsideEntries_sublist _ _).subset hline, hc⟩

/-- Where there is no entry, the text stays as it is. -/
theorem removeEntries_eq_self {names : List String} (hnames : ∀ name ∈ names, '\n' ∉ name.toList)
    {text : List Char} (h : (removeEntries names text).2 = 0) :
    (removeEntries names text).1 = text := by
  rw [removeEntries_eq hnames] at h ⊢
  rw [outsideEntries_eq_self h, flatten_lines]

/-- What is left has no entry any more. -/
theorem removeEntries_removeEntries {names : List String}
    (hnames : ∀ name ∈ names, '\n' ∉ name.toList) (text : List Char) :
    removeEntries names (removeEntries names text).1 = ((removeEntries names text).1, 0) := by
  have hkept := lines_flatten ((areLines_lines text).sublist
    (outsideEntries_sublist (names.map String.toList) (lines text)))
  rw [removeEntries_eq hnames text, removeEntries_eq hnames, hkept, countP_outsideEntries,
    outsideEntries_eq_self (countP_outsideEntries _)]

end WorkspaceDesk.Ssh

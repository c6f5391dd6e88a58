import WorkspaceDesk.Proofs.Ssh.Removal

/-!
# Texts without header lines

Whatever the names of the hosts are made of, no header line of any of them is left (`removeHosts_clears`). A
name with a line feed in it is on no line, and what it matches are still whole lines, so that the header lines of
the other hosts are found as well.
-/

namespace WorkspaceDesk.Ssh

open Text Pattern

variable {hosts : List (List Char)}

/-- No line is a header line of one of the hosts. -/
def Cleared (hosts ls : List (List Char)) : Prop :=
  ∀ line ∈ ls, isHeader hosts line = false

/-! ## Removal from a text -/

/-- At the beginning of a line, a match goes on to the beginning of a later line. Where there is none, the line is
no header line. -/
theorem run_entry_cases (hosts : List (List Char)) (s : List Char) :
    (∃ others, others <:+ lines (dropLine s) ∧
      ∃ b, (entry hosts).run some ⟨true, s⟩ = some ⟨b, others.flatten⟩) ∨
    (entry hosts).run some ⟨true, s⟩ = none ∧ isHeader hosts (takeLine s) = false := by
  rw [run_entry]
  by_cases hword : ∃ t, s = headerWord ++ t
  · obtain ⟨t, rfl⟩ := hword
    have hplaces : ∀ host ∈ hosts, ∀ rest, t = host ++ rest →
        (∃ r, (∃ others, others <:+ lines (dropLine (headerWord ++ t)) ∧ others.flatten = r) ∧
          Reaches ((star (one isIndent)).run (lineBreak.run ((star bodyLine).run some))) rest r) ∨
        Fails ((star (one isIndent)).run (lineBreak.run ((star bodyLine).run some))) rest := by
      rintro host - rest rfl
      refine (afterName_cases rest).imp (fun h => ⟨_, ⟨_, ?_, rfl⟩, h.2⟩) And.right
      rw [← List.append_assoc]
      exact (List.dropWhile_suffix _).trans (lines_dropLine_append_suffix _ rest)
    rcases anyOf_cases hplaces with ⟨_, ⟨others, hothers, rfl⟩, hreach⟩ | ⟨hfails, hall⟩
    · exact .inl ⟨others, hothers, reaches_literal headerWord hreach true⟩
    · refine .inr ⟨fails_literal headerWord (fun rest hrest => ?_) true, ?_⟩
      · rwa [← List.append_cancel_left hrest]
      · refine Bool.eq_false_iff.mpr fun hheader => ?_
        obtain ⟨host, hhost, rest, hrest, hblank⟩ := exists_of_isHeader hheader
        exact (reaches_blanks hblank (reaches_body _)).not_fails
          (hall host hhost rest (List.append_cancel_left hrest))
  · refine .inr ⟨fails_literal headerWord (fun t ht => absurd ⟨t, ht⟩ hword) true, ?_⟩
    refine Bool.eq_false_iff.mpr fun hheader => ?_
    obtain ⟨host, -, rest, hrest, -⟩ := exists_of_isHeader hheader
    exact hword ⟨_, hrest⟩

/-- Of the lines of a text, those that a removal leaves: no header line, and all of them if nothing has been
removed. -/
structure Leaves (hosts ls kept : List (List Char)) (n : Nat) : Prop where
  sublist : kept.Sublist ls
  cleared : Cleared hosts kept
  eq_of_none : n = 0 → kept = ls

/-- A removal leaves whole lines. -/
theorem exists_leaves (hosts : List (List Char)) (s : List Char) :
    ∃ kept, ((entry hosts).remove s).1 = kept.flatten ∧
      Leaves hosts (lines s) kept ((entry hosts).remove s).2 := by
  -- on the length, since a match may take several lines at once
  induction hlength : s.length using Nat.strongRecOn generalizing s with
  | ind n ih =>
    cases s with
    | nil => exact ⟨[], rfl, List.Sublist.refl _, by simp [Cleared], fun _ => rfl⟩
    | cons c t =>
      have hlt := length_dropLine_lt c t
      rcases run_entry_cases hosts (c :: t) with ⟨others, hothers, hmatch⟩ | ⟨hnone, hheader⟩
      · obtain ⟨hshorter, hlines, hremove⟩ := remove_of_lines hothers hmatch
        obtain ⟨kept, hkept, hleaves⟩ := ih _ (by omega) others.flatten rfl
        have hsublist := hlines ▸ hleaves.sublist
        rw [hremove]
        refine ⟨kept, hkept, ?_, hleaves.cleared, fun h => absurd h (Nat.succ_ne_zero _)⟩
        exact hsublist.trans (hothers.trans (lines_dropLine_suffix _)).sublist
      · obtain ⟨kept, hkept, hsublist, hcleared, hall⟩ := ih _ (by omega) (dropLine (c :: t)) rfl
        rw [remove_of_no_match run_entry_inside hnone, hkept, lines_cons]
        refine ⟨takeLine (c :: t) :: kept, rfl, hsublist.cons_cons _, ?_, fun h => by rw [hall h]⟩
        intro line hline
        rcases List.mem_cons.mp hline with rfl | hline
        · exact hheader
        · exact hcleared line hline

/-! ## Removal from a file -/

variable {d : Disk} {path : Path} {names : List String} {bytes : Bytes} {text : List Char}

/-- Bytes are those of one text only. -/
theorem HasText.unique {other : List Char} (h : HasText bytes text) (h' : HasText bytes other) :
    other = text := by
  obtain ⟨raw, hraw, rfl⟩ := h
  obtain ⟨raw', hraw', rfl⟩ := h'
  rw [Except.ok.inj (hraw.symm.trans hraw')]

/-- Removing the entries of hosts from a text file leaves a text file where none of its lines is a header line of
any of them. -/
theorem removeHosts_clears (hread : d.read path = .ok bytes) (htext : HasText bytes text) :
    ∃ d' n bytes' text', removeHosts d path names = (d', .ok n) ∧ d'.read path = .ok bytes' ∧
      HasText bytes' text' ∧ Cleared (names.map String.toList) (lines text') := by
  obtain ⟨kept, hkept, hleaves⟩ := exists_leaves (names.map String.toList) text
  have hkept' : (removeEntries names text).1 = kept.flatten := hkept
  by_cases hnone : (removeEntries names text).2 = 0
  · refine ⟨d, 0, bytes, text, removeHosts_of_none hread htext hnone, hread, htext, ?_⟩
    rw [← hleaves.eq_of_none hnone]
    exact hleaves.cleared
  · obtain ⟨d', hread', hremove⟩ := removeHosts_of_some hread htext hnone
    -- reading the file again finds the same lines
    have hreturn : '\r' ∉ kept.flatten := by
      intro h
      apply htext.not_mem
      obtain ⟨line, hline, hc⟩ := List.mem_flatten.mp h
      rw [← flatten_lines text]
      exact List.mem_flatten.mpr ⟨line, hleaves.sublist.subset hline, hc⟩
    rw [hkept'] at hread'
    refine ⟨d', _, _, _, hremove, hread', hasText_encode hreturn, ?_⟩
    rw [lines_flatten ((areLines_lines text).sublist hleaves.sublist)]
    exact hleaves.cleared

/-! ## Removal of a workspace -/

/-- A header line of one of the hosts is a header line of them. -/
theorem isHeader_of_mem {host : List Char} (hhost : host ∈ hosts) {line : List Char}
    (h : isHeader [host] line = true) : isHeader hosts line = true := by
  simp only [isHeader, List.any_cons, List.any_nil, Bool.or_false] at h
  exact List.any_eq_true.mpr ⟨host, hhost, h⟩

theorem Cleared.of_mem {ls : List (List Char)} (h : Cleared hosts ls) {host : List Char}
    (hhost : host ∈ hosts) : Cleared [host] ls := by
  intro line hline
  refine Bool.eq_false_iff.mpr fun hheader => ?_
  have hnot := h line hline
  rw [isHeader_of_mem hhost hheader] at hnot
  cases hnot

/-- A project with a name has a host. -/
theorem mem_hostNames {projects : List String} {project : String} (hproject : project ∈ projects)
    (hname : project ≠ "") (profileId workspace : String) :
    hostName profileId workspace project ∈ hostNames profileId workspace projects :=
  List.mem_map_of_mem (List.mem_filter.mpr ⟨hproject, decide_eq_true hname⟩)

/-- Removing the entries of a workspace leaves no header line of any of its projects. -/
theorem removeWorkspace_clears (hread : d.read path = .ok bytes) (htext : HasText bytes text)
    (profileId workspace : String) (projects : List String) :
    ∃ d' n bytes' text', removeWorkspace d path profileId workspace projects = (d', .ok n) ∧
      d'.read path = .ok bytes' ∧ HasText bytes' text' ∧ ∀ project ∈ projects, project ≠ "" →
        Cleared [(hostName profileId workspace project).toList] (lines text') := by
  obtain ⟨d', n, bytes', text', hremove, hread', htext', hcleared⟩ :=
    removeHosts_clears hread htext
  refine ⟨d', n, bytes', text', hremove, hread', htext', fun project hproject hname => ?_⟩
  exact hcleared.of_mem (List.mem_map_of_mem (mem_hostNames hproject hname profileId workspace))

end WorkspaceDesk.Ssh

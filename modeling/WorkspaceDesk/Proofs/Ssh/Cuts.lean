import WorkspaceDesk.Proofs.Ssh.Removal
import WorkspaceDesk.Proofs.Text.LineEnds

/-!
# Cuts in the bytes of a file

A removal cuts blocks out of the lines of a file, each with its own end, and writes a line feed for the end of
every other line (`remove_unified`). So the bytes outside of the blocks are as before if and only if none of
them is a carriage return (`removeWorkspace_keeps_bytes_iff`). The names of the hosts may be made of any
characters: one with line feeds has a header of several lines.
-/

namespace WorkspaceDesk.Ssh

open Text Pattern

variable {hosts : List (List Char)}

/-! ## Blocks in lines -/

/-- The number of line feeds in the name of a host, if the text begins with it and nothing but spaces and tabs
follows on the line. -/
def nameFeeds? (text host : List Char) : Option Nat :=
  if host.isPrefixOf text ∧ ((text.drop host.length).takeWhile (· ≠ '\n')).all isIndent then
    some (host.count '\n')
  else none

/-- The number of line feeds before the last line of the header that the text begins with, if it begins with
one. The first of the hosts that fit counts. -/
def headerFeeds? (hosts : List (List Char)) (text : List Char) : Option Nat :=
  if headerWord.isPrefixOf text then hosts.findSome? (nameFeeds? (text.drop headerWord.length))
  else none

/-- Lines behind a block are some of those behind its first line. -/
theorem behind_suffix (rest : List (List Char)) (feeds : Nat) :
    (rest.drop feeds).dropWhile isIndented <:+ rest :=
  (List.dropWhile_suffix _).trans (List.drop_suffix feeds rest)

/-- The lines outside of the blocks of hosts, and the number of these blocks: a block is a header and the
indented lines behind it. -/
def cut (hosts : List (List Char)) : List (List Char) → List (List Char) × Nat
  | [] => ([], 0)
  | line :: rest =>
    match headerFeeds? hosts (unified (line :: rest)) with
    | none => (line :: (cut hosts rest).1, (cut hosts rest).2)
    | some feeds =>
      let others := (rest.drop feeds).dropWhile isIndented
      ((cut hosts others).1, (cut hosts others).2 + 1)
termination_by ls => ls.length
decreasing_by
  · simp
  all_goals
    exact Nat.lt_succ_of_le (behind_suffix rest feeds).length_le

/-- Lines outside of blocks are kept in order. -/
theorem cut_sublist (hosts ls : List (List Char)) : (cut hosts ls).1.Sublist ls := by
  fun_induction cut hosts ls with
  | case1 => exact List.Sublist.refl []
  | case2 line rest _ ih => exact ih.cons_cons line
  | case3 line rest feeds _ others ih => exact (ih.trans (behind_suffix rest feeds).sublist).cons line

/-! ## The pattern of an entry -/

/-- The name of a host behind the word leads on to the lines behind the block, or nowhere. -/
theorem nameFeeds?_cases (text host : List Char) :
    let m := (star (one isIndent)).run (lineBreak.run ((star bodyLine).run some))
    (∃ feeds rest, nameFeeds? text host = some feeds ∧ text = host ++ rest ∧
      Reaches m rest (((lines (headerWord ++ text)).drop (feeds + 1)).dropWhile isIndented).flatten) ∨
    (nameFeeds? text host = none ∧ ∀ rest, text = host ++ rest → Fails m rest) := by
  intro m
  by_cases hname : ∃ rest, text = host ++ rest
  · obtain ⟨rest, rfl⟩ := hname
    have hfeeds : nameFeeds? (host ++ rest) host =
        if (rest.takeWhile (· ≠ '\n')).all isIndent = true then some (host.count '\n') else none := by
      simp only [nameFeeds?, List.isPrefixOf_iff_prefix, List.prefix_append, true_and, List.drop_left]
    rcases afterName_cases rest with ⟨hblank, hreach⟩ | ⟨hblank, hfails⟩
    · refine .inl ⟨_, rest, by rw [hfeeds, if_pos hblank], rfl, ?_⟩
      have hword : headerWord.count '\n' = 0 := by decide
      have hlines := lines_dropLine_append (headerWord ++ host) rest
      rw [List.count_append, hword, Nat.zero_add, List.append_assoc] at hlines
      rwa [← hlines]
    · refine .inr ⟨by rw [hfeeds, if_neg hblank], fun rest' hrest => ?_⟩
      rwa [← List.append_cancel_left hrest]
  · refine .inr ⟨if_neg fun h => hname ?_, fun rest hrest => absurd ⟨rest, hrest⟩ hname⟩
    obtain ⟨rest, hrest⟩ := List.isPrefixOf_iff_prefix.mp h.1
    exact ⟨rest, hrest.symm⟩

/-- At the beginning of a line, the pattern matches a header and the indented lines behind it, and nothing
else. -/
theorem run_entry_eq (hosts : List (List Char)) (s : List Char) :
    (∃ feeds, headerFeeds? hosts s = some feeds ∧ ∃ b, (entry hosts).run some ⟨true, s⟩ =
      some ⟨b, (((lines s).drop (feeds + 1)).dropWhile isIndented).flatten⟩) ∨
    headerFeeds? hosts s = none ∧ (entry hosts).run some ⟨true, s⟩ = none := by
  rw [run_entry]
  by_cases hword : ∃ text, s = headerWord ++ text
  · obtain ⟨text, rfl⟩ := hword
    have hfeeds : headerFeeds? hosts (headerWord ++ text) = hosts.findSome? (nameFeeds? text) := by
      rw [headerFeeds?, if_pos (List.isPrefixOf_iff_prefix.mpr (List.prefix_append _ _)), List.drop_left]
    rw [hfeeds]
    refine (anyOf_findSome? hosts (nameFeeds?_cases text)).imp ?_ ?_
    · rintro ⟨feeds, hfind, hreach⟩
      exact ⟨feeds, hfind, reaches_literal headerWord hreach true⟩
    · rintro ⟨hfind, hfails⟩
      refine ⟨hfind, fails_literal headerWord (fun rest hrest => ?_) true⟩
      rwa [← List.append_cancel_left hrest]
  · refine .inr ⟨if_neg fun h => hword ?_,
      fails_literal headerWord (fun text htext => absurd ⟨text, htext⟩ hword) true⟩
    obtain ⟨text, htext⟩ := List.isPrefixOf_iff_prefix.mp h
    exact ⟨text, htext.symm⟩

/-! ## Removal -/

theorem isIndented_unifyLineEnds (line : List Char) :
    isIndented (unifyLineEnds line) = isIndented line := by
  fun_cases unifyLineEnds line <;> rfl

/-- What is left of lines with unified ends are the lines outside of blocks, with unified ends. -/
theorem remove_unified {ls : List (List Char)} (hls : AreLines (ls.map unifyLineEnds)) :
    (entry hosts).remove (unified ls) = (unified (cut hosts ls).1, (cut hosts ls).2) := by
  fun_induction cut hosts ls with
  | case1 => rfl
  | case2 line rest hnone ih =>
    have hlines : lines (unified (line :: rest)) = unifyLineEnds line :: rest.map unifyLineEnds :=
      lines_flatten hls
    obtain ⟨hline, hrest⟩ := takeLine_dropLine_of_lines hlines
    have hmatch : (entry hosts).run some ⟨true, unified (line :: rest)⟩ = none := by
      rcases run_entry_eq hosts (unified (line :: rest)) with ⟨feeds, hsome, -⟩ | ⟨-, hmatch⟩
      · rw [hnone] at hsome
        cases hsome
      · exact hmatch
    rw [remove_of_no_match run_entry_inside hmatch, hline, hrest, ← unified,
      ih (hls.sublist (List.sublist_cons_self _ _))]
    rfl
  | case3 line rest feeds hsome others ih =>
    have hlines : lines (unified (line :: rest)) = unifyLineEnds line :: rest.map unifyLineEnds :=
      lines_flatten hls
    have hothers : ((lines (unified (line :: rest))).drop (feeds + 1)).dropWhile isIndented =
        others.map unifyLineEnds := by
      rw [hlines, List.drop_succ_cons, ← List.map_drop, List.dropWhile_map]
      congr 2
      exact funext isIndented_unifyLineEnds
    have hmatch : ∃ b, (entry hosts).run some ⟨true, unified (line :: rest)⟩ =
        some ⟨b, (others.map unifyLineEnds).flatten⟩ := by
      rcases run_entry_eq hosts (unified (line :: rest)) with ⟨_, hsome', hmatch⟩ | ⟨hnone, -⟩
      · obtain rfl := Option.some.inj (hsome.symm.trans hsome')
        rwa [hothers] at hmatch
      · rw [hsome] at hnone
        cases hnone
    have hsuffix := (behind_suffix rest feeds).map unifyLineEnds
    have hrest := ih (hls.sublist (hsuffix.sublist.cons _))
    obtain ⟨c, t, htext⟩ : ∃ c t, unified (line :: rest) = c :: t := by
      refine List.exists_cons_of_ne_nil fun hnil => ?_
      rw [hnil] at hlines
      cases hlines
    rw [htext, lines_cons] at hlines
    rw [htext] at hmatch ⊢
    rw [← (List.cons.inj hlines).2] at hsuffix
    obtain ⟨-, -, hremove⟩ := remove_of_lines hsuffix hmatch
    rw [hremove, ← unified, hrest]

theorem areLines_rawLines (raw : List Char) : AreLines ((rawLines raw).map unifyLineEnds) := by
  rw [← lines_unifyLineEnds]
  exact areLines_lines _

/-- Entries are removed from a text with unified line ends just as blocks are cut out of the lines of the text
itself. -/
theorem removeEntries_unifyLineEnds (names : List String) (raw : List Char) :
    removeEntries names (unifyLineEnds raw) = (unified (cut (names.map String.toList) (rawLines raw)).1,
      (cut (names.map String.toList) (rawLines raw)).2) := by
  rw [removeEntries, ← unified_rawLines, remove_unified (areLines_rawLines raw)]

/-- Where no name has a line feed, the blocks are the entries. -/
theorem cut_rawLines (hhosts : ∀ host ∈ hosts, '\n' ∉ host) (raw : List Char) :
    (cut hosts (rawLines raw)).1.map unifyLineEnds = outsideEntries hosts (lines (unifyLineEnds raw)) ∧
      (cut hosts (rawLines raw)).2 = (lines (unifyLineEnds raw)).countP (isHeader hosts) := by
  have hremove : (entry hosts).remove (unified (rawLines raw)) = _ := remove_unified (areLines_rawLines raw)
  rw [unified_rawLines, remove_entry hhosts, keepLines_eq_outsideEntries, Prod.mk.injEq] at hremove
  refine ⟨?_, hremove.2.symm⟩
  have hkept := (areLines_rawLines raw).sublist ((cut_sublist hosts (rawLines raw)).map unifyLineEnds)
  have houtside := (areLines_lines (unifyLineEnds raw)).sublist (outsideEntries_sublist hosts _)
  rw [← lines_flatten hkept, ← lines_flatten houtside, hremove.1, unified]

/-! ## The bytes of the file -/

variable {d : Disk} {path : Path} {bytes : Bytes} {raw : List Char}

/-- Removing the entries of a workspace cuts their blocks out of the lines of the file, and yields their number.
If there are any, the file then has the other lines in order, each with a line feed for its own end. So the
bytes outside of the blocks are preserved if and only if there is no carriage return among them. -/
theorem removeWorkspace_keeps_bytes_iff (hread : d.read path = .ok bytes)
    (hraw : Utf8.decode bytes = .ok raw) (profileId workspace : String) (projects : List String) :
    let hosts := (hostNames profileId workspace projects).map String.toList
    let kept := (cut hosts (rawLines raw)).1
    let n := (cut hosts (rawLines raw)).2
    bytes = (rawLines raw).flatMap Utf8.encode ∧ kept.Sublist (rawLines raw) ∧
    ∃ d', removeWorkspace d path profileId workspace projects = (d', .ok n) ∧
      (n = 0 → d' = d) ∧
      (n ≠ 0 → d'.read path = .ok (kept.flatMap fun line => Utf8.encode (unifyLineEnds line)) ∧
        (d'.read path = .ok (kept.flatMap Utf8.encode) ↔ '\r' ∉ kept.flatten)) := by
  intro hosts kept n
  have hremoved : removeEntries (hostNames profileId workspace projects) (unifyLineEnds raw) =
      (unified kept, n) := removeEntries_unifyLineEnds _ raw
  refine ⟨?_, cut_sublist hosts (rawLines raw), ?_⟩
  · rw [← Utf8.encode_flatten, flatten_rawLines, Utf8.decode_eq_ok.mp hraw]
  · by_cases hnone : n = 0
    · refine ⟨d, ?_, fun _ => rfl, fun hsome => absurd hnone hsome⟩
      rw [hnone]
      exact removeHosts_of_none hread ⟨raw, hraw, rfl⟩ (by rw [hremoved, hnone])
    · obtain ⟨d', hread', hremove⟩ := removeHosts_of_some hread ⟨raw, hraw, rfl⟩
        (by rw [hremoved]; exact hnone)
      rw [hremoved] at hread' hremove
      refine ⟨d', hremove, fun h => absurd h hnone, fun _ => ⟨?_, ?_⟩⟩
      · rw [hread', unified, Utf8.encode_flatten, List.flatMap_map]
      · rw [hread', ← Utf8.encode_flatten, Except.ok.injEq, Utf8.encode_inj, unified_eq_flatten_iff]

/-- In a file that has carriage returns within a block only, everything else is preserved, also the last line
without an end. -/
theorem removeWorkspace_keeps_bytes_of_unix_lines :
    let before := "Host other\n  y\n".toList
    let block := "Host p-w-a \r\n\tx\r\n".toList
    let after := "Match all\n  z".toList
    ∃ d', removeWorkspace [(["config"], .file (Utf8.encode (before ++ block ++ after)))] ⟨"", ["config"]⟩
        "p" "w" ["a"] = (d', .ok 1) ∧
      d'.read ⟨"", ["config"]⟩ = .ok (Utf8.encode (before ++ after)) := by
  intro before block after
  have hread := Disk.read_single (by decide : '\x00' ∉ "config".toList) (by decide) (by decide)
    (Utf8.encode (before ++ block ++ after))
  obtain ⟨-, -, d', hremove, -, hsome⟩ :=
    removeWorkspace_keeps_bytes_iff hread (Utf8.decode_encode _) "p" "w" ["a"]
  have hcut : cut ((hostNames "p" "w" ["a"]).map String.toList) (rawLines (before ++ block ++ after)) =
      (["Host other\n".toList, "  y\n".toList, "Match all\n".toList, "  z".toList], 1) := by
    decide +kernel
  rw [hcut] at hremove hsome
  have hkept := ((hsome (by decide)).2).mpr (by decide)
  rw [← Utf8.encode_flatten] at hkept
  exact ⟨d', hremove, hkept⟩

/-- Behind a block, the other lines of a file lose their carriage returns. -/
theorem removeWorkspace_changes_line_ends :
    let block := "Host p-w-a\n  x\n".toList
    let after := "Host other\r\n  y\r\n".toList
    ∃ d', removeWorkspace [(["config"], .file (Utf8.encode (block ++ after)))] ⟨"", ["config"]⟩ "p" "w" ["a"] =
        (d', .ok 1) ∧
      d'.read ⟨"", ["config"]⟩ = .ok (Utf8.encode "Host other\n  y\n".toList) ∧
      d'.read ⟨"", ["config"]⟩ ≠ .ok (Utf8.encode after) := by
  intro block after
  have hread := Disk.read_single (by decide : '\x00' ∉ "config".toList) (by decide) (by decide)
    (Utf8.encode (block ++ after))
  have hremoved : removeEntries (hostNames "p" "w" ["a"]) (unifyLineEnds (block ++ after)) =
      ("Host other\n  y\n".toList, 1) := by
    rw [removeEntries_unifyLineEnds]
    decide +kernel
  obtain ⟨d', hread', hremove⟩ := removeHosts_of_some hread ⟨_, Utf8.decode_encode _, rfl⟩
    (by rw [hremoved]; decide)
  rw [hremoved] at hread' hremove
  refine ⟨d', hremove, hread', ?_⟩
  rw [hread', ne_eq, Except.ok.injEq, Utf8.encode_inj]
  decide

end WorkspaceDesk.Ssh

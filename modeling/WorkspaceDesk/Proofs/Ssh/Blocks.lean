import Mathlib.Data.List.DropRight
import WorkspaceDesk.Proofs.Ssh.Removal

/-!
# Blocks of other workspaces

The name of a host does not tell where the profile ends and the workspace begins, nor where the workspace
ends and the project begins. So the removal of one workspace may take a block of another one
(`removeWorkspace_takes_block_of_other`); it takes none whose host has another name than all of the
removed ones (`removeWorkspace_keeps_block`).
-/

namespace WorkspaceDesk.Ssh

open Text

variable {d : Disk} {path : Path} {bytes : Bytes} {text : List Char}

/-! ## Header lines of two hosts -/

/-- A header line is the word, the name of one of the hosts, and blanks. -/
theorem isHeader_iff {hosts : List (List Char)} {line : List Char} :
    isHeader hosts line = true ↔ ∃ host ∈ hosts, ∃ blanks : List Char, blanks.all isIndent = true ∧
      line.takeWhile (· ≠ '\n') = headerWord ++ host ++ blanks := by
  simp only [isHeader, List.any_eq_true, Bool.and_eq_true, List.isPrefixOf_iff_prefix]
  constructor
  · rintro ⟨host, hhost, ⟨blanks, hblanks⟩, hall⟩
    rw [← hblanks, List.drop_left] at hall
    exact ⟨host, hhost, blanks, hall, hblanks.symm⟩
  · rintro ⟨host, hhost, blanks, hall, hline⟩
    refine ⟨host, hhost, ?_⟩
    rw [hline, List.drop_left]
    exact ⟨List.prefix_append _ _, hall⟩

/-- Blanks behind a name are left off with those at its end. -/
theorem rdropWhile_append_blanks (host : List Char) {blanks : List Char}
    (h : blanks.all isIndent = true) :
    (host ++ blanks).rdropWhile isIndent = host.rdropWhile isIndent := by
  rw [List.all_eq_true] at h
  rw [List.rdropWhile, List.reverse_append, List.dropWhile_append_of_pos (by simpa using h)]
  rfl

/-- Hosts that share a header line have one name, up to blanks at its end. -/
theorem exists_host_of_isHeader {hosts : List (List Char)} {host line : List Char}
    (hline : isHeader [host] line = true) (h : isHeader hosts line = true) :
    ∃ other ∈ hosts, other.rdropWhile isIndent = host.rdropWhile isIndent := by
  obtain ⟨_, hmem, blanks, hblanks, hcontent⟩ := isHeader_iff.mp hline
  obtain rfl := List.mem_singleton.mp hmem
  obtain ⟨other, hother, blanks', hblanks', hcontent'⟩ := isHeader_iff.mp h
  refine ⟨other, hother, ?_⟩
  rw [hcontent, List.append_assoc, List.append_assoc] at hcontent'
  have hname := List.append_cancel_left hcontent'
  rw [← rdropWhile_append_blanks other hblanks', ← hname, rdropWhile_append_blanks _ hblanks]

/-! ## The block of another workspace -/

/-- Removing the entries of a workspace leaves a block in its place, whole and with no line added to it,
if no host of the workspace has the name of the host of the block, up to blanks at its end. -/
theorem removeWorkspace_keeps_block {profileId workspace : String} {projects : List String}
    (hprofile : '\n' ∉ profileId.toList) (hworkspace : '\n' ∉ workspace.toList)
    (hprojects : ∀ project ∈ projects, '\n' ∉ project.toList)
    (hread : d.read path = .ok bytes) (htext : HasText bytes text)
    {host : String} {header : List Char} {before body after : List (List Char)}
    (hlines : lines text = before ++ (header :: body ++ after))
    (hheader : isHeader [host.toList] header = true)
    (hbody : ∀ line ∈ body, isIndented line = true)
    (hafter : ∀ line, after.head? = some line → isIndented line = false)
    (hother : ∀ other ∈ hostNames profileId workspace projects,
      other.toList.rdropWhile isIndent ≠ host.toList.rdropWhile isIndent) :
    ∃ d' bytes' text' n before' after',
      removeWorkspace d path profileId workspace projects = (d', .ok n) ∧
        d'.read path = .ok bytes' ∧ HasText bytes' text' ∧
        lines text' = before' ++ (header :: body ++ after') ∧
        before'.Sublist before ∧ after'.Sublist after ∧
        ∀ line, after'.head? = some line → isIndented line = false := by
  have hhosts := feed_not_mem_hostNames hprofile hworkspace hprojects
  obtain ⟨d', bytes', hremove, hread', htext', -⟩ := removeHosts_spec hhosts hread htext
  rw [removeEntries_eq hhosts] at htext'
  let hosts := (hostNames profileId workspace projects).map String.toList
  have hkept : isHeader hosts header = false := by
    refine Bool.eq_false_iff.mpr fun htaken => ?_
    obtain ⟨_, hmem, hname⟩ := exists_host_of_isHeader hheader htaken
    obtain ⟨other, hmem', rfl⟩ := List.mem_map.mp hmem
    exact hother other hmem' hname
  -- the lines before the block end where it begins, as its header line is not indented
  have hindent : isIndented header = false := by
    refine Bool.eq_false_iff.mpr fun hindented => ?_
    rw [not_isHeader_of_isIndented hindented] at hheader
    cases hheader
  have hstart : ∀ line, (header :: body ++ after).head? = some line → isIndented line = false := by
    rintro line hline
    cases hline
    exact hindent
  refine ⟨d', bytes', _, _, outsideEntries hosts before, outsideEntries hosts after, hremove, hread',
    htext', ?_, outsideEntries_sublist _ _, outsideEntries_sublist _ _,
    fun line hline => head?_outsideEntries hafter hline⟩
  rw [lines_flatten ((areLines_lines text).sublist (outsideEntries_sublist _ _)), hlines,
    outsideEntries_append before hstart, outsideEntries_append _ hafter,
    outsideEntries_block hkept hbody]

/-- The block of a workspace whose name begins like that of the removed one stays, though its project has
the same name. -/
theorem removeWorkspace_keeps_block_of_longer_name :
    let bytes := Utf8.encode "Host p-ws-proj\n  x\nHost p-ws-extra-proj\n  y\n".toList
    ∃ d' bytes' text' n before' after',
      removeWorkspace [(["config"], .file bytes)] ⟨"", ["config"]⟩ "p" "ws" ["proj"] = (d', .ok n) ∧
        d'.read ⟨"", ["config"]⟩ = .ok bytes' ∧ HasText bytes' text' ∧
        lines text' =
          before' ++ ("Host p-ws-extra-proj\n".toList :: ["  y\n".toList] ++ after') ∧
        before'.Sublist ["Host p-ws-proj\n".toList, "  x\n".toList] ∧ after'.Sublist [] ∧
        ∀ line, after'.head? = some line → isIndented line = false := by
  intro bytes
  have hread : Disk.read [(["config"], .file bytes)] ⟨"", ["config"]⟩ = .ok bytes :=
    Disk.read_eq_ok_iff.mpr
      ⟨["config"], Disk.locate_name _ (by decide) (by decide) (by decide), rfl⟩
  have hheader : isHeader [(hostName "p" "ws-extra" "proj").toList]
      "Host p-ws-extra-proj\n".toList = true := by decide
  exact removeWorkspace_keeps_block (by decide) (by decide) (by decide) hread
    ⟨_, Utf8.decode_encode _, rfl⟩ rfl hheader (by decide) (by simp) (by decide)

/-- The block of a workspace goes with another one that has a project of the right name: the two hosts
are one. -/
theorem removeWorkspace_takes_block_of_other :
    let bytes := Utf8.encode "Host p-ws-extra-proj\n  y\n".toList
    ("p", "ws") ≠ ("p", "ws-extra") ∧
      isHeader [(hostName "p" "ws-extra" "proj").toList] "Host p-ws-extra-proj\n".toList = true ∧
      ∃ d' bytes', removeWorkspace [(["config"], .file bytes)] ⟨"", ["config"]⟩ "p" "ws"
          ["extra-proj"] = (d', .ok 1) ∧
        d'.read ⟨"", ["config"]⟩ = .ok bytes' ∧ HasText bytes' [] := by
  intro bytes
  have hread : Disk.read [(["config"], .file bytes)] ⟨"", ["config"]⟩ = .ok bytes :=
    Disk.read_eq_ok_iff.mpr
      ⟨["config"], Disk.locate_name _ (by decide) (by decide) (by decide), rfl⟩
  have hhosts : ∀ host ∈ hostNames "p" "ws" ["extra-proj"], '\n' ∉ host.toList := by decide
  have htext : HasText bytes "Host p-ws-extra-proj\n  y\n".toList := ⟨_, Utf8.decode_encode _, rfl⟩
  obtain ⟨d', bytes', hremove, hread', htext', -⟩ := removeHosts_spec hhosts hread htext
  rw [removeEntries_eq hhosts] at hremove htext'
  exact ⟨by decide, by decide, d', bytes', hremove, hread', htext'⟩

end WorkspaceDesk.Ssh

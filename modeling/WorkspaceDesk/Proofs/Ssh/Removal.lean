import WorkspaceDesk.Proofs.Disk.Basic
import WorkspaceDesk.Proofs.Ssh.Entries
import WorkspaceDesk.Proofs.Text.Utf8

/-!
# Removing entries from a file

The text of the file loses exactly the lines of the entries, the file is written only if there are any,
and a second removal finds nothing more.
-/

namespace WorkspaceDesk.Ssh

open Text

/-- The bytes are those of a text, of which the line ends are unified. -/
def HasText (bytes : Bytes) (text : List Char) : Prop :=
  ∃ raw, Utf8.decode bytes = .ok raw ∧ unifyLineEnds raw = text

theorem hasText_encode {text : List Char} (h : '\r' ∉ text) : HasText (Utf8.encode text) text :=
  ⟨text, Utf8.decode_encode text, unifyLineEnds_eq_self h⟩

theorem HasText.not_mem {bytes : Bytes} {text : List Char} (h : HasText bytes text) : '\r' ∉ text := by
  obtain ⟨raw, -, rfl⟩ := h
  exact not_mem_unifyLineEnds raw

theorem feed_not_mem_hostName {profileId workspace project : String}
    (hprofile : '\n' ∉ profileId.toList) (hworkspace : '\n' ∉ workspace.toList)
    (hproject : '\n' ∉ project.toList) :
    '\n' ∉ (hostName profileId workspace project).toList := by
  simp [hostName, hprofile, hworkspace, hproject]

theorem feed_not_mem_hostNames {profileId workspace : String} {projects : List String}
    (hprofile : '\n' ∉ profileId.toList) (hworkspace : '\n' ∉ workspace.toList)
    (hprojects : ∀ project ∈ projects, '\n' ∉ project.toList) :
    ∀ host ∈ hostNames profileId workspace projects, '\n' ∉ host.toList := by
  intro host hhost
  obtain ⟨project, hproject, rfl⟩ := List.mem_map.mp hhost
  exact feed_not_mem_hostName hprofile hworkspace (hprojects project (List.mem_filter.mp hproject).1)

/-! ## One removal -/

variable {d : Disk} {path : Path} {hosts : List String} {bytes : Bytes} {text : List Char}

/-- Without hosts there is no entry. -/
theorem removeEntries_nil (text : List Char) : removeEntries [] text = (text, 0) := by
  have hheader : isHeader [] = fun _ => false := rfl
  have hcount : (lines text).countP (isHeader []) = 0 := by simp [hheader]
  rw [removeEntries_eq (by simp), List.map_nil, hcount, outsideEntries_eq_self hcount, flatten_lines]

/-- Where there is no entry, nothing is written. -/
theorem removeHosts_of_none (hread : d.read path = .ok bytes) (htext : HasText bytes text)
    (hnone : (removeEntries hosts text).2 = 0) : removeHosts d path hosts = (d, .ok 0) := by
  obtain ⟨raw, hraw, rfl⟩ := htext
  rw [removeHosts]
  split
  · rfl
  · simp only [hread, hraw, hnone, ↓reduceIte]

/-- Where there are entries, the rest of the text is written. -/
theorem removeHosts_of_some (hread : d.read path = .ok bytes) (htext : HasText bytes text)
    (hsome : (removeEntries hosts text).2 ≠ 0) :
    ∃ d', d'.read path = .ok (Utf8.encode (removeEntries hosts text).1) ∧
      removeHosts d path hosts = (d', .ok (removeEntries hosts text).2) := by
  obtain ⟨raw, hraw, rfl⟩ := htext
  obtain ⟨d', hwrite⟩ := Disk.exists_write_of_read hread
    (Utf8.encode (removeEntries hosts (unifyLineEnds raw)).1)
  -- without hosts the file would not even be read
  have hne : hosts ≠ [] := by
    rintro rfl
    exact hsome (by rw [removeEntries_nil])
  refine ⟨d', Disk.read_of_write hwrite, ?_⟩
  rw [removeHosts, if_neg (by simpa using hne)]
  simp only [hread, hraw, hsome, ↓reduceIte, hwrite]

/-- The text of the file afterwards is that without the entries, the number is that of the entries, and
without an entry the disk is as it was. -/
theorem removeHosts_spec (hhosts : ∀ host ∈ hosts, '\n' ∉ host.toList)
    (hread : d.read path = .ok bytes) (htext : HasText bytes text) :
    ∃ d' bytes', removeHosts d path hosts = (d', .ok (removeEntries hosts text).2) ∧
      d'.read path = .ok bytes' ∧ HasText bytes' (removeEntries hosts text).1 ∧
      ((removeEntries hosts text).2 = 0 → d' = d) := by
  by_cases hnone : (removeEntries hosts text).2 = 0
  · refine ⟨d, bytes, ?_, hread, ?_, fun _ => rfl⟩
    · rw [hnone]
      exact removeHosts_of_none hread htext hnone
    · rwa [removeEntries_eq_self hhosts hnone]
  · obtain ⟨d', hread', hremove⟩ := removeHosts_of_some hread htext hnone
    -- reading the file again does not change its line ends any more
    have hreturn : '\r' ∉ (removeEntries hosts text).1 := fun h =>
      htext.not_mem (mem_of_mem_removeEntries hhosts h)
    exact ⟨d', _, hremove, hread', hasText_encode hreturn, fun h => absurd h hnone⟩

/-! ## The entries of a workspace -/

/-- Removing the entries of a workspace leaves exactly the lines that belong to no entry of the hosts of
its projects, in order, and yields the number of header lines that are gone. Without a header line the
disk is as it was, and a second removal finds nothing. -/
theorem removeWorkspace_removes_entries {profileId workspace : String} {projects : List String}
    (hprofile : '\n' ∉ profileId.toList) (hworkspace : '\n' ∉ workspace.toList)
    (hprojects : ∀ project ∈ projects, '\n' ∉ project.toList)
    (hread : d.read path = .ok bytes) (htext : HasText bytes text) :
    let hosts := (hostNames profileId workspace projects).map String.toList
    let n := (lines text).countP (isHeader hosts)
    ∃ d' bytes', removeWorkspace d path profileId workspace projects = (d', .ok n) ∧
      d'.read path = .ok bytes' ∧ HasText bytes' (outsideEntries hosts (lines text)).flatten ∧
      (n = 0 → d' = d) ∧
      removeWorkspace d' path profileId workspace projects = (d', .ok 0) := by
  intro hosts n
  have hhosts := feed_not_mem_hostNames hprofile hworkspace hprojects
  obtain ⟨d', bytes', hremove, hread', htext', hsame⟩ := removeHosts_spec hhosts hread htext
  have hagain := removeHosts_of_none hread' htext'
    (congrArg Prod.snd (removeEntries_removeEntries hhosts text))
  rw [removeEntries_eq hhosts] at hremove htext' hsame
  exact ⟨d', bytes', hremove, hread', htext', hsame, hagain⟩

/-- Of two hosts of which one begins like the other, and with a character that stands for others in
patterns, the entries go; that of a host with another character in its place stays. -/
theorem removeWorkspace_removes_entries_of_similar_hosts :
    let bytes := Utf8.encode
      "Host p-w-a.b \t\r\n  x\nHost p-w-a\n\ty\nHost p-w-a.b\nHost p-w-axb\n  z\nHost p-w-a.b".toList
    let text := "Host p-w-axb\n  z\n".toList
    ∃ d' bytes', removeWorkspace [(["config"], .file bytes)] ⟨"", ["config"]⟩ "p" "w"
        ["a", "", "a.b"] = (d', .ok 4) ∧
      d'.read ⟨"", ["config"]⟩ = .ok bytes' ∧ HasText bytes' text ∧
      removeWorkspace d' ⟨"", ["config"]⟩ "p" "w" ["a", "", "a.b"] = (d', .ok 0) := by
  intro bytes text
  have hprofile : '\n' ∉ "p".toList := by decide
  have hworkspace : '\n' ∉ "w".toList := by decide
  have hprojects : ∀ project ∈ ["a", "", "a.b"], '\n' ∉ project.toList := by decide
  have hread : Disk.read [(["config"], .file bytes)] ⟨"", ["config"]⟩ = .ok bytes :=
    Disk.read_eq_ok_iff.mpr
      ⟨["config"], Disk.locate_name _ (by decide) (by decide) (by decide), rfl⟩
  obtain ⟨d', bytes', hremove, hread', htext', -, hagain⟩ := removeWorkspace_removes_entries
    hprofile hworkspace hprojects hread ⟨_, Utf8.decode_encode _, rfl⟩
  exact ⟨d', bytes', hremove, hread', htext', hagain⟩

end WorkspaceDesk.Ssh

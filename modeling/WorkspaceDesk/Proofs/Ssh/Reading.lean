import WorkspaceDesk.Proofs.Ssh.Blocks

/-!
# What a configuration says

SSH reads a configuration by its header lines: options in front of the first of them, and then blocks, each
with the options up to the next header line. Removing entries goes by indentation, and what is left of a block
falls to the block before it (`parts_keepLines`). So the other blocks keep just their own options if and only
if no removed block has an option behind its first line that is not indented
(`removeWorkspace_keeps_options_iff`).
-/

namespace WorkspaceDesk.Ssh

open Text

variable {hosts : List (List Char)} {line : List Char}

/-! ## Readings -/

/-- The characters of a line before its line feed. -/
def lineText (line : List Char) : List Char :=
  line.takeWhile (· ≠ '\n')

/-- The character ends the word at the head of a line. -/
def endsWord (c : Char) : Bool :=
  isIndent c || c = '=' || c = '"'

/-- The word in the first column of a line, in small letters; none if the line is indented. -/
def keyword (line : List Char) : List Char :=
  ((lineText line).takeWhile (!endsWord ·)).map Char.toLower

/-- The line is a `Host` or `Match` line. -/
def opensBlock (line : List Char) : Bool :=
  keyword line = "host".toList || keyword line = "match".toList

/-- The option in a line, without its indentation; blank lines and comments have none. -/
def option? (line : List Char) : Option (List Char) :=
  let text := (lineText line).dropWhile isIndent
  if text.head?.all (· = '#') then none else some text

/-- The options in lines. -/
def options (ls : List (List Char)) : List (List Char) :=
  ls.filterMap option?

/-- The lines in front of the first header line, and each header line with the lines up to the next
one. -/
def parts : List (List Char) → List (List Char) × List (List Char × List (List Char))
  | [] => ([], [])
  | line :: rest =>
    let (front, blocks) := parts rest
    if opensBlock line then ([], (line, front) :: blocks) else (line :: front, blocks)

/-- A header line and the options that stand below it. -/
structure Block where
  header : List Char
  options : List (List Char)
deriving DecidableEq, Repr

/-- The block of a header line and the lines below it. -/
def Block.ofLines (b : List Char × List (List Char)) : Block :=
  ⟨lineText b.1, Ssh.options b.2⟩

/-- The options for all hosts, and the blocks in order. -/
structure Reading where
  preamble : List (List Char)
  blocks : List Block
deriving DecidableEq, Repr

/-- What a text says. -/
def reading (text : List Char) : Reading :=
  ⟨options (parts (lines text)).1, (parts (lines text)).2.map Block.ofLines⟩

/-- The reading without the blocks of hosts. -/
def Reading.without (r : Reading) (hosts : List (List Char)) : Reading :=
  { r with blocks := r.blocks.filter fun b => !isHeader hosts b.header }

/-- No block of the hosts has an option behind its first line that is not indented. -/
def EndIndented (hosts : List (List Char)) (text : List Char) : Prop :=
  ∀ b ∈ (parts (lines text)).2, isHeader hosts b.1 = true → options (b.2.dropWhile isIndented) = []

/-! ## Header lines -/

theorem isHeader_lineText (line : List Char) : isHeader hosts (lineText line) = isHeader hosts line := by
  rw [isHeader, isHeader, lineText, List.takeWhile_idem]

/-- The header line of an entry opens a block. -/
theorem opensBlock_of_isHeader (h : isHeader hosts line = true) : opensBlock line = true := by
  obtain ⟨host, -, blanks, -, htext⟩ := isHeader_iff.mp h
  have hkeyword : keyword line = "host".toList := by
    rw [keyword, lineText, htext, List.append_assoc]
    rfl
  rw [opensBlock, decide_eq_true hkeyword, Bool.true_or]

/-- Blocks are opened in the first column. -/
theorem not_opensBlock_of_isIndented (h : isIndented line = true) : opensBlock line = false := by
  cases line with
  | nil => exact absurd h (by decide)
  | cons c rest =>
    have hc : isIndent c = true := h
    have hkeyword : keyword (c :: rest) = [] := by
      rw [keyword, lineText, List.takeWhile_cons_of_pos (by simpa using ne_feed_of_isIndent hc),
        List.takeWhile_cons_of_neg (by simp [endsWord, hc])]
      rfl
    rw [opensBlock, hkeyword]
    rfl

theorem parts_cons_of_opensBlock (h : opensBlock line = true) (rest : List (List Char)) :
    parts (line :: rest) = ([], (line, (parts rest).1) :: (parts rest).2) :=
  if_pos h

theorem parts_cons_of_not_opensBlock (h : opensBlock line = false) (rest : List (List Char)) :
    parts (line :: rest) = (line :: (parts rest).1, (parts rest).2) :=
  if_neg (Bool.eq_false_iff.mp h)

/-- Every header line of an entry is the header line of a block. -/
theorem countP_parts (ls : List (List Char)) :
    (parts ls).2.countP (fun b => isHeader hosts b.1) = ls.countP (isHeader hosts) := by
  induction ls with
  | nil => rfl
  | cons line rest ih =>
    cases hopens : opensBlock line with
    | true => rw [parts_cons_of_opensBlock hopens, List.countP_cons, List.countP_cons, ih]
    | false =>
      have hheader : isHeader hosts line = false :=
        Bool.eq_false_iff.mpr fun h => Bool.eq_false_iff.mp hopens (opensBlock_of_isHeader h)
      rw [parts_cons_of_not_opensBlock hopens, List.countP_cons_of_neg (by simp [hheader]), ih]

/-! ## What is left of blocks -/

/-- Blocks without those of hosts: what is left of such a block falls to the block before it, or stands in
front. -/
def fallBack (hosts : List (List Char)) : List (List Char × List (List Char)) →
    List (List Char) × List (List Char × List (List Char))
  | [] => ([], [])
  | (header, body) :: rest =>
    let (left, kept) := fallBack hosts rest
    if isHeader hosts header then (body.dropWhile isIndented ++ left, kept)
    else ([], (header, body ++ left) :: kept)

/-- The filter of lines keeps the other blocks, and what is left of those of the hosts. -/
theorem parts_keepLines (inside : Bool) (ls : List (List Char)) :
    parts (keepLines hosts inside ls) =
      ((if inside then (parts ls).1.dropWhile isIndented else (parts ls).1) ++
        (fallBack hosts (parts ls).2).1, (fallBack hosts (parts ls).2).2) := by
  induction ls generalizing inside with
  | nil => cases inside <;> rfl
  | cons line rest ih =>
    cases hopens : opensBlock line with
    | true =>
      have hindent : isIndented line = false :=
        Bool.eq_false_iff.mpr fun h => Bool.eq_false_iff.mp (not_opensBlock_of_isIndented h) hopens
      rw [parts_cons_of_opensBlock hopens]
      cases hheader : isHeader hosts line with
      | true =>
        simp only [keepLines, hheader, Bool.true_or, ↓reduceIte, ih, fallBack]
        cases inside <;> rfl
      | false =>
        simp only [keepLines, hheader, hindent, Bool.and_false, Bool.or_false, Bool.false_eq_true,
          ↓reduceIte, parts_cons_of_opensBlock hopens, ih, fallBack]
        cases inside <;> rfl
    | false =>
      have hheader : isHeader hosts line = false :=
        Bool.eq_false_iff.mpr fun h => Bool.eq_false_iff.mp hopens (opensBlock_of_isHeader h)
      rw [parts_cons_of_not_opensBlock hopens]
      -- within an entry an indented line is left out, and the first other line ends the entry
      cases hinside : inside && isIndented line with
      | true =>
        obtain ⟨rfl, hindent⟩ := Bool.and_eq_true_iff.mp hinside
        simp only [keepLines, hheader, hindent, Bool.and_true, Bool.or_true, ↓reduceIte, ih,
          List.dropWhile_cons_of_pos]
      | false =>
        simp only [keepLines, hheader, hinside, Bool.or_false, Bool.false_eq_true, ↓reduceIte,
          parts_cons_of_not_opensBlock hopens, ih]
        cases inside with
        | false => rfl
        | true =>
          rw [Bool.true_and] at hinside
          rw [if_pos rfl, List.dropWhile_cons_of_neg (by simp [hinside])]
          rfl

theorem options_append (first second : List (List Char)) :
    options (first ++ second) = options first ++ options second :=
  List.filterMap_append

/-- The blocks are those without the ones of the hosts, with no option in front, just where nothing is left
of any removed block. -/
theorem fallBack_iff (blocks : List (List Char × List (List Char))) :
    (options (fallBack hosts blocks).1 = [] ∧
      (fallBack hosts blocks).2.map Block.ofLines =
        (blocks.map Block.ofLines).filter fun b => !isHeader hosts b.header) ↔
      ∀ b ∈ blocks, isHeader hosts b.1 = true → options (b.2.dropWhile isIndented) = [] := by
  induction blocks with
  | nil => simp [fallBack, options]
  | cons b rest ih =>
    obtain ⟨header, body⟩ := b
    rw [List.forall_mem_cons, ← ih, List.map_cons, List.filter_cons, fallBack]
    have hname : isHeader hosts (Block.ofLines (header, body)).header = isHeader hosts header :=
      isHeader_lineText header
    rw [hname]
    cases hheader : isHeader hosts header with
    | true =>
      simp only [↓reduceIte, options_append, List.append_eq_nil_iff, Bool.not_true, Bool.false_eq_true,
        forall_const, and_assoc]
    | false =>
      -- a block that stays has its own options just if nothing falls to it
      have hown : Block.ofLines (header, body ++ (fallBack hosts rest).1) = Block.ofLines (header, body) ↔
          options (fallBack hosts rest).1 = [] := by
        simp only [Block.ofLines, options_append, Block.mk.injEq, true_and, List.append_right_eq_self]
      simp only [Bool.false_eq_true, ↓reduceIte, Bool.not_false, List.map_cons, List.cons.injEq, hown,
        false_implies, true_and]
      exact and_iff_right rfl

/-- What the lines outside of entries say is what all lines say without the blocks of the hosts, just where
nothing is left of any of these. -/
theorem reading_outsideEntries_iff (text : List Char) :
    reading (outsideEntries hosts (lines text)).flatten = (reading text).without hosts ↔
      EndIndented hosts text := by
  have hlines : lines (outsideEntries hosts (lines text)).flatten = keepLines hosts false (lines text) := by
    rw [lines_flatten ((areLines_lines text).sublist (outsideEntries_sublist _ _)),
      keepLines_eq_outsideEntries]
  rw [reading, hlines, parts_keepLines, if_neg Bool.false_ne_true, EndIndented, ← fallBack_iff,
    options_append, reading, Reading.without, Reading.mk.injEq, List.append_right_eq_self]

/-! ## The blocks of a workspace -/

variable {d : Disk} {path : Path} {bytes : Bytes} {text : List Char}

/-- Removing the entries of a workspace yields the number of its blocks, and leaves a text that says what the
text said without these blocks if and only if none of them has an option behind its first line that is not
indented. -/
theorem removeWorkspace_keeps_options_iff {profileId workspace : String} {projects : List String}
    (hprofile : '\n' ∉ profileId.toList) (hworkspace : '\n' ∉ workspace.toList)
    (hprojects : ∀ project ∈ projects, '\n' ∉ project.toList)
    (hread : d.read path = .ok bytes) (htext : HasText bytes text) :
    let hosts := (hostNames profileId workspace projects).map String.toList
    ∃ d' bytes' text',
      removeWorkspace d path profileId workspace projects =
        (d', .ok ((reading text).blocks.countP fun b => isHeader hosts b.header)) ∧
      d'.read path = .ok bytes' ∧ HasText bytes' text' ∧
      (reading text' = (reading text).without hosts ↔ EndIndented hosts text) := by
  intro hosts
  have hhosts := feed_not_mem_hostNames hprofile hworkspace hprojects
  obtain ⟨d', bytes', hremove, hread', htext', -⟩ := removeHosts_spec hhosts hread htext
  rw [removeEntries_eq hhosts] at hremove htext'
  refine ⟨d', bytes', _, ?_, hread', htext', reading_outsideEntries_iff text⟩
  have hcount : (reading text).blocks.countP (fun b => isHeader hosts b.header) =
      (lines text).countP (isHeader hosts) := by
    rw [← countP_parts, reading, List.countP_map]
    congr 1
    funext b
    exact isHeader_lineText b.1
  rw [hcount]
  exact hremove

/-- Empty lines and comments behind the options of a block are left, and say nothing. -/
theorem removeWorkspace_keeps_options_of_comments :
    let text := "User a\nHost keep-me\n  Port 1\nHost p-ws-proj\n  HostName b\n\n# end\nMatch all".toList
    ∃ d' bytes' text',
      removeWorkspace [(["config"], .file (Utf8.encode text))] ⟨"", ["config"]⟩ "p" "ws" ["proj"] =
        (d', .ok 1) ∧
      d'.read ⟨"", ["config"]⟩ = .ok bytes' ∧ HasText bytes' text' ∧
      reading text' = ⟨["User a".toList], [⟨"Host keep-me".toList, ["Port 1".toList]⟩,
        ⟨"Match all".toList, []⟩]⟩ := by
  intro text
  have hread := Disk.read_single (by decide : '\x00' ∉ "config".toList) (by decide) (by decide)
    (Utf8.encode text)
  have hprofile : '\n' ∉ "p".toList := by decide
  have hworkspace : '\n' ∉ "ws".toList := by decide
  have hprojects : ∀ project ∈ ["proj"], '\n' ∉ project.toList := by decide
  obtain ⟨d', bytes', text', hremove, hread', htext', hiff⟩ :=
    removeWorkspace_keeps_options_iff hprofile hworkspace hprojects hread
      ⟨text, Utf8.decode_encode _, rfl⟩
  have hend : EndIndented ((hostNames "p" "ws" ["proj"]).map String.toList) text := by
    unfold EndIndented
    decide
  exact ⟨d', bytes', text', hremove, hread', htext', hiff.mpr hend⟩

/-- An option behind an empty line within a block becomes one of the host before. -/
theorem removeWorkspace_adds_option_to_other_host :
    let text := "Host keep-me\n  User a\nHost p-ws-proj\n  HostName b\n\n  Port 22\n".toList
    let hosts := (hostNames "p" "ws" ["proj"]).map String.toList
    ∃ d' bytes' text',
      removeWorkspace [(["config"], .file (Utf8.encode text))] ⟨"", ["config"]⟩ "p" "ws" ["proj"] =
        (d', .ok 1) ∧
      d'.read ⟨"", ["config"]⟩ = .ok bytes' ∧ HasText bytes' text' ∧
      (reading text).without hosts = ⟨[], [⟨"Host keep-me".toList, ["User a".toList]⟩]⟩ ∧
      reading text' = ⟨[], [⟨"Host keep-me".toList, ["User a".toList, "Port 22".toList]⟩]⟩ := by
  intro text hosts
  have hread := Disk.read_single (by decide : '\x00' ∉ "config".toList) (by decide) (by decide)
    (Utf8.encode text)
  have hhosts : ∀ host ∈ hostNames "p" "ws" ["proj"], '\n' ∉ host.toList := by decide
  have htext : HasText (Utf8.encode text) text := ⟨text, Utf8.decode_encode _, rfl⟩
  obtain ⟨d', bytes', hremove, hread', htext', -⟩ := removeHosts_spec hhosts hread htext
  rw [removeEntries_eq hhosts] at hremove htext'
  exact ⟨d', bytes', _, hremove, hread', htext', by decide, by decide⟩

end WorkspaceDesk.Ssh

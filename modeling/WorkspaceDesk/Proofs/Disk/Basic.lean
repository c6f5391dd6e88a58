import WorkspaceDesk.Disk.Basic

/-!
# What stands where

A path leads to the same place as long as the directories stay (`KeepsDirectories`), so that what is
written to a file is read from it, and nothing else changes.
-/

namespace WorkspaceDesk.Disk

variable {d d' d'' : Disk} {place other here : Place} {node : Node} {p : Path} {contents : Bytes}

/-! ## Nodes -/

theorem node?_nil (d : Disk) : d.node? [] = some .directory :=
  if_pos rfl

theorem lookup_put_self (d : Disk) (place : Place) (node : Node) :
    (d.put place node).lookup place = some node := by
  induction d with
  | nil => simp [put]
  | cons entry rest ih =>
    obtain ⟨q, m⟩ := entry
    by_cases hq : q = place
    · simp [put, hq]
    · rw [put, if_neg hq, List.lookup_cons, beq_eq_false_iff_ne.mpr (Ne.symm hq)]
      exact ih

theorem lookup_put_of_ne (d : Disk) (node : Node) (h : other ≠ place) :
    (d.put place node).lookup other = d.lookup other := by
  induction d with
  | nil => simp [put, h]
  | cons entry rest ih =>
    obtain ⟨q, m⟩ := entry
    by_cases hq : q = place
    · subst hq
      rw [put, if_pos rfl, List.lookup_cons, List.lookup_cons, beq_eq_false_iff_ne.mpr h]
    · rw [put, if_neg hq, List.lookup_cons, List.lookup_cons, ih]

theorem node?_put_self (d : Disk) (node : Node) (h : place ≠ []) :
    (d.put place node).node? place = some node := by
  rw [node?, if_neg h, lookup_put_self]

theorem node?_put_of_ne (d : Disk) (node : Node) (h : other ≠ place) :
    (d.put place node).node? other = d.node? other := by
  rw [node?, node?, lookup_put_of_ne d node h]

theorem node?_erase_of_ne (d : Disk) (h : other ≠ place) :
    (d.erase place).node? other = d.node? other := by
  rw [node?, node?]
  congr 1
  induction d with
  | nil => rfl
  | cons entry rest ih =>
    obtain ⟨q, m⟩ := entry
    rw [erase] at ih ⊢
    by_cases hq : q = place
    · subst hq
      rw [List.filter_cons_of_neg (by simp), ih, List.lookup_cons, beq_eq_false_iff_ne.mpr h]
    · rw [List.filter_cons_of_pos (by simpa using hq), List.lookup_cons, List.lookup_cons, ih]

theorem ne_nil_of_node?_ne (h : d.node? place ≠ some .directory) : place ≠ [] := by
  rintro rfl
  exact h (node?_nil d)

/-- Nothing stands any more where something has been erased. -/
theorem node?_erase_self (d : Disk) (h : place ≠ []) : (d.erase place).node? place = none := by
  rw [node?, if_neg h]
  apply List.lookup_eq_none_iff.mpr
  intro entry hentry
  simpa using Ne.symm (of_decide_eq_true (List.mem_filter.mp hentry).2)

/-- Erasing makes no directory. -/
theorem node?_erase_ne_directory (h : d.node? other ≠ some .directory) :
    (d.erase place).node? other ≠ some .directory := by
  by_cases heq : other = place
  · subst heq
    rw [node?_erase_self d (ne_nil_of_node?_ne h)]
    simp
  · rwa [node?_erase_of_ne d heq]

/-- A file is no directory. -/
theorem node?_put_ne_directory (h : d.node? other ≠ some .directory) (place : Place)
    (contents : Bytes) : (d.put place (.file contents)).node? other ≠ some .directory := by
  by_cases heq : other = place
  · subst heq
    rw [node?_put_self d _ (ne_nil_of_node?_ne h)]
    simp
  · rwa [node?_put_of_ne d _ heq]

/-! ## Paths -/

/-- The directories of one disk are directories of the other. -/
def KeepsDirectories (d d' : Disk) : Prop :=
  ∀ place, d.node? place = some .directory → d'.node? place = some .directory

theorem KeepsDirectories.trans (h : KeepsDirectories d d') (h' : KeepsDirectories d' d'') :
    KeepsDirectories d d'' :=
  fun place hplace => h' place (h place hplace)

theorem ne_of_node?_ne (hother : d.node? other = some .directory)
    (h : d.node? place ≠ some .directory) : other ≠ place := by
  rintro rfl
  exact h hother

/-- A file may be put wherever no directory stands. -/
theorem keepsDirectories_put (d : Disk) (node : Node) (h : d.node? place ≠ some .directory) :
    KeepsDirectories d (d.put place node) := by
  intro q hq
  rwa [node?_put_of_ne d node (ne_of_node?_ne hq h)]

theorem keepsDirectories_erase (h : d.node? place ≠ some .directory) :
    KeepsDirectories d (d.erase place) := by
  intro q hq
  rwa [node?_erase_of_ne d (ne_of_node?_ne hq h)]

theorem KeepsDirectories.walk (h : KeepsDirectories d d') {parts : List String}
    (hwalk : d.walk here parts = .ok place) : d'.walk here parts = .ok place := by
  induction parts generalizing here with
  | nil => exact hwalk
  | cons part rest ih =>
    rw [Disk.walk] at hwalk ⊢
    by_cases hlong : longestName < part.utf8ByteSize
    · simp [hlong] at hwalk
    simp only [hlong, ↓reduceIte] at hwalk ⊢
    -- where the part leads does not depend on the disk
    generalize (if part = ".." then here.dropLast else here ++ [part]) = next at hwalk ⊢
    cases hrest : rest.isEmpty with
    | true => simpa [hrest] using hwalk
    | false =>
      simp only [hrest, Bool.false_eq_true, ↓reduceIte] at hwalk ⊢
      -- on the way there are directories only
      cases hnode : d.node? next with
      | none => simp [hnode] at hwalk
      | some m =>
        cases m with
        | file _ => simp [hnode] at hwalk
        | directory =>
          rw [hnode] at hwalk
          rw [h next hnode]
          exact ih hwalk

/-- A path leads to the same place as long as the directories stay. -/
theorem KeepsDirectories.locate (h : KeepsDirectories d d') (hlocate : d.locate p = .ok place) :
    d'.locate p = .ok place := by
  rw [Disk.locate] at hlocate ⊢
  split at hlocate
  · cases hlocate
  · rename_i hnull
    rw [if_neg hnull]
    split at hlocate
    · cases hlocate
    · rename_i hlong
      rw [if_neg hlong]
      exact h.walk hlocate

/-- A path that names something is followed. -/
theorem locate_eq_walk (d : Disk) (hnull : '\x00' ∉ p.text.toList)
    (hshort : p.text.utf8ByteSize < pathBound) : d.locate p = d.walk [] p.parts := by
  rw [locate, String.contains_char_eq, decide_eq_false hnull, if_neg Bool.false_ne_true,
    if_neg (Nat.not_le.mpr hshort)]

theorem locate_top (d : Disk) : d.locate ⟨"", []⟩ = .ok [] :=
  locate_eq_walk d (by decide) (by decide)

/-- The top is there already. -/
theorem ensureDirectories_top (d : Disk) : d.ensureDirectories ⟨"", []⟩ 0 = (d, .ok ()) := by
  have hmake : d.makeDirectory ⟨"", []⟩ = .error .exists := by
    rw [makeDirectory, locate_top]
    rfl
  have hdirectory : d.isDirectory ⟨"", []⟩ = true := by
    rw [isDirectory, locate_top]
    exact decide_eq_true (node?_nil d)
  rw [ensureDirectories, ensureDirectory, hmake]
  dsimp only
  rw [if_pos hdirectory]

/-- A name alone leads to a place at the top. -/
theorem locate_name (d : Disk) {name : String} (hnull : '\x00' ∉ name.toList)
    (hshort : name.utf8ByteSize ≤ longestName) (hdots : name ≠ "..") :
    d.locate ⟨"", [name]⟩ = .ok [name] := by
  have htext : Path.text ⟨"", [name]⟩ = name := by simp [Path.text]
  have hbound : longestName < pathBound := by decide
  rw [locate_eq_walk d (by rwa [htext]) (by rw [htext]; omega), walk, if_neg (by omega), if_neg hdots]
  rfl

/-! ## Files -/

theorem read_eq_ok_iff : d.read p = .ok contents ↔
    ∃ place, d.locate p = .ok place ∧ d.node? place = some (.file contents) := by
  constructor
  · intro h
    rw [read] at h
    split at h
    · cases h
    · rename_i place hlocate
      split at h
      · rename_i hnode
        cases h
        exact ⟨place, hlocate, hnode⟩
      · cases h
      · cases h
  · rintro ⟨place, hlocate, hnode⟩
    simp only [read, hlocate, hnode]

/-- A single file at the top is read. -/
theorem read_single {name : String} (hnull : '\x00' ∉ name.toList)
    (hshort : name.utf8ByteSize ≤ longestName) (hdots : name ≠ "..") (contents : Bytes) :
    Disk.read [([name], .file contents)] ⟨"", [name]⟩ = .ok contents :=
  read_eq_ok_iff.mpr ⟨[name], locate_name _ hnull hshort hdots, by simp [node?]⟩

theorem write_eq_ok_iff : d.write p contents = .ok d' ↔ ∃ place, d.locate p = .ok place ∧
    d.node? place ≠ some .directory ∧ d' = d.put place (.file contents) := by
  constructor
  · intro h
    rw [write] at h
    split at h
    · cases h
    · rename_i place hlocate
      split at h
      · cases h
      · rename_i hnode
        cases h
        exact ⟨place, hlocate, hnode, rfl⟩
  · rintro ⟨place, hlocate, hnode, rfl⟩
    rw [write, hlocate]
    dsimp only
    split
    · contradiction
    · rfl

/-- Writing keeps the directories. -/
theorem keepsDirectories_of_write (h : d.write p contents = .ok d') : KeepsDirectories d d' := by
  obtain ⟨place, -, hnode, rfl⟩ := write_eq_ok_iff.mp h
  exact keepsDirectories_put d _ hnode

/-- Writing makes no directory. -/
theorem node?_ne_directory_of_write (h : d.write p contents = .ok d')
    (hother : d.node? other ≠ some .directory) : d'.node? other ≠ some .directory := by
  obtain ⟨place, -, -, rfl⟩ := write_eq_ok_iff.mp h
  exact node?_put_ne_directory hother place contents

/-- The directories after writing are those before. -/
theorem keepsDirectories_back (h : d.write p contents = .ok d') : KeepsDirectories d' d := by
  intro other hother
  apply Decidable.byContradiction
  intro hnot
  exact node?_ne_directory_of_write h hnot hother

/-- What is written is read. -/
theorem read_of_write (h : d.write p contents = .ok d') : d'.read p = .ok contents := by
  have hkeeps := keepsDirectories_of_write h
  obtain ⟨place, hlocate, hnode, rfl⟩ := write_eq_ok_iff.mp h
  exact read_eq_ok_iff.mpr
    ⟨place, hkeeps.locate hlocate, node?_put_self d _ (ne_nil_of_node?_ne hnode)⟩

/-- A file that can be read can be written. -/
theorem exists_write_of_read {old : Bytes} (h : d.read p = .ok old) (contents : Bytes) :
    ∃ d', d.write p contents = .ok d' := by
  obtain ⟨place, hlocate, hnode⟩ := read_eq_ok_iff.mp h
  exact ⟨_, write_eq_ok_iff.mpr ⟨place, hlocate, by simp [hnode], rfl⟩⟩

end WorkspaceDesk.Disk

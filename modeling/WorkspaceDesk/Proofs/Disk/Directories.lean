import WorkspaceDesk.Proofs.Disk.Basic

/-!
# Making directories

Making directories takes nothing away (`Extends`) and makes no file (`SameFiles`), and once a path leads to a
directory it is not made again. What is done to a single file leaves all else as it is (`DiffersAt`).
-/

namespace WorkspaceDesk.Disk

variable {d d' d'' : Disk} {place other here : Place} {p : Path}

/-! ## Disks that hold more -/

/-- What stands on one disk stands on the other. -/
def Extends (d d' : Disk) : Prop :=
  ∀ place node, d.node? place = some node → d'.node? place = some node

theorem Extends.refl (d : Disk) : Extends d d := fun _ _ h => h

theorem Extends.trans (h : Extends d d') (h' : Extends d' d'') : Extends d d'' :=
  fun place node hnode => h' place node (h place node hnode)

theorem Extends.keepsDirectories (h : Extends d d') : KeepsDirectories d d' :=
  fun place hplace => h place .directory hplace

theorem Extends.node?_eq_none (h : Extends d d') (hnone : d'.node? place = none) :
    d.node? place = none := by
  cases hnode : d.node? place with
  | none => rfl
  | some node =>
    rw [h place node hnode] at hnone
    cases hnone

theorem extends_put (node : Node) (hfree : d.node? place = none) : Extends d (d.put place node) := by
  intro other n hother
  have hne : other ≠ place := by
    rintro rfl
    rw [hfree] at hother
    cases hother
  rwa [node?_put_of_ne d node hne]

/-- A file is read the same on a disk that holds more. -/
theorem Extends.read (h : Extends d d') {contents : Bytes} (hread : d.read p = .ok contents) :
    d'.read p = .ok contents := by
  obtain ⟨place, hlocate, hnode⟩ := read_eq_ok_iff.mp hread
  exact read_eq_ok_iff.mpr ⟨place, h.keepsDirectories.locate hlocate, h place _ hnode⟩

/-- Where a way leads on a disk that holds more, it leads on the disk itself, unless something on it is
missing. -/
theorem Extends.walk_back (h : Extends d d') {parts : List String}
    (hwalk : d'.walk here parts = .ok place) :
    d.walk here parts = .ok place ∨ d.walk here parts = .error .noEntry := by
  induction parts generalizing here with
  | nil => exact .inl hwalk
  | cons part rest ih =>
    rw [Disk.walk] at hwalk ⊢
    by_cases hlong : longestName < part.utf8ByteSize
    · simp [hlong] at hwalk
    simp only [hlong, ↓reduceIte] at hwalk ⊢
    generalize (if part = ".." then here.dropLast else here ++ [part]) = next at hwalk ⊢
    cases hrest : rest.isEmpty with
    | true => exact .inl (by simpa [hrest] using hwalk)
    | false =>
      simp only [hrest, Bool.false_eq_true, ↓reduceIte] at hwalk ⊢
      cases hnode : d.node? next with
      | none => exact .inr rfl
      | some m =>
        -- what stands there stands on the other disk too, so it is a directory
        rw [h next m hnode] at hwalk
        cases m with
        | file _ => cases hwalk
        | directory => exact ih hwalk

theorem Extends.locate_back (h : Extends d d') (hlocate : d'.locate p = .ok place) :
    d.locate p = .ok place ∨ d.locate p = .error .noEntry := by
  rw [Disk.locate] at hlocate ⊢
  split at hlocate
  · cases hlocate
  · rename_i hnull
    rw [if_neg hnull]
    split at hlocate
    · cases hlocate
    · rename_i hlong
      rw [if_neg hlong]
      exact h.walk_back hlocate

/-! ## Making directories -/

theorem isDirectory_iff : d.isDirectory p = true ↔
    ∃ place, d.locate p = .ok place ∧ d.node? place = some .directory := by
  rw [isDirectory]
  constructor
  · intro h
    split at h
    · rename_i place hlocate
      exact ⟨place, hlocate, of_decide_eq_true h⟩
    · cases h
  · rintro ⟨place, hlocate, hnode⟩
    rw [hlocate]
    exact decide_eq_true hnode

theorem makeDirectory_eq_ok (h : d.makeDirectory p = .ok d') :
    ∃ place, d.locate p = .ok place ∧ d.node? place = none ∧ d' = d.put place .directory := by
  rw [makeDirectory] at h
  split at h
  · cases h
  · rename_i place hlocate
    split at h
    · cases h
    · rename_i hnone
      cases h
      exact ⟨place, hlocate, by simpa using hnone, rfl⟩

/-- A directory is made where nothing stands. -/
theorem extends_makeDirectory (h : d.makeDirectory p = .ok d') : Extends d d' := by
  obtain ⟨place, -, hnone, rfl⟩ := makeDirectory_eq_ok h
  exact extends_put .directory hnone

theorem isDirectory_of_makeDirectory (h : d.makeDirectory p = .ok d') : d'.isDirectory p = true := by
  have hkeeps := (extends_makeDirectory h).keepsDirectories
  obtain ⟨place, hlocate, hnone, rfl⟩ := makeDirectory_eq_ok h
  have hne : place ≠ [] := ne_nil_of_node?_ne (d := d) (by simp [hnone])
  exact isDirectory_iff.mpr ⟨place, hkeeps.locate hlocate, node?_put_self d .directory hne⟩

theorem isDirectory_of_ensureDirectory (h : d.ensureDirectory p = (d', .ok ())) :
    d'.isDirectory p = true := by
  rw [ensureDirectory] at h
  split at h
  · rename_i hmake
    cases h
    exact isDirectory_of_makeDirectory hmake
  · split at h
    · rename_i hdirectory
      cases h
      exact hdirectory
    · cases h

/-- What holds of disks when one directory is made holds when several are, also where one of them cannot be
made. -/
theorem ensureDirectories_induction {r : Disk → Disk → Prop} (hrefl : ∀ d, r d d)
    (htrans : ∀ d d' d'', r d d' → r d' d'' → r d d'')
    (hmake : ∀ d d' p, d.makeDirectory p = .ok d' → r d d') (d : Disk) (p : Path) (up : Nat) :
    r d (d.ensureDirectories p up).1 := by
  have hone : ∀ d p, r d (d.ensureDirectory p).1 := by
    intro d p
    rw [ensureDirectory]
    split
    · rename_i d' hd'
      exact hmake d d' p hd'
    · split <;> exact hrefl d
  induction up generalizing p with
  | zero => exact hone d p
  | succ up ih =>
    have hparent := ih p.parent
    rw [ensureDirectories]
    split
    · split
      · rename_i hensure
        rwa [hensure] at hparent
      · rename_i d' hensure
        rw [hensure] at hparent
        exact htrans d d' _ hparent (hone d' p)
    · exact hone d p

/-- Nothing is lost by making directories. -/
theorem extends_ensureDirectories (d : Disk) (p : Path) (up : Nat) :
    Extends d (d.ensureDirectories p up).1 :=
  ensureDirectories_induction .refl (fun _ _ _ => .trans) (fun _ _ _ => extends_makeDirectory) d p up

theorem isDirectory_of_ensureDirectories {up : Nat} (h : d.ensureDirectories p up = (d', .ok ())) :
    d'.isDirectory p = true := by
  cases up with
  | zero => exact isDirectory_of_ensureDirectory h
  | succ up =>
    rw [ensureDirectories] at h
    split at h
    · split at h
      · cases h
      · exact isDirectory_of_ensureDirectory h
    · exact isDirectory_of_ensureDirectory h

/-- A directory that is there is not made again. -/
theorem ensureDirectories_of_isDirectory (h : d.isDirectory p = true) (up : Nat) :
    d.ensureDirectories p up = (d, .ok ()) := by
  obtain ⟨place, hlocate, hnode⟩ := isDirectory_iff.mp h
  have hmake : d.makeDirectory p = .error .exists := by
    rw [makeDirectory, hlocate]
    simp [hnode]
  have hensure : d.ensureDirectory p = (d, .ok ()) := by
    rw [ensureDirectory, hmake]
    simp [h]
  cases up with
  | zero => exact hensure
  | succ up =>
    rw [ensureDirectories, hmake]
    exact hensure

/-! ## Disks with the same files -/

/-- The same files stand on the disks, at the same places. -/
def SameFiles (d d' : Disk) : Prop :=
  ∀ place contents, d'.node? place = some (.file contents) ↔ d.node? place = some (.file contents)

theorem SameFiles.refl (d : Disk) : SameFiles d d := fun _ _ => Iff.rfl

theorem SameFiles.trans (h : SameFiles d d') (h' : SameFiles d' d'') : SameFiles d d'' :=
  fun place contents => (h' place contents).trans (h place contents)

theorem sameFiles_makeDirectory (h : d.makeDirectory p = .ok d') : SameFiles d d' := by
  obtain ⟨place, -, hnone, rfl⟩ := makeDirectory_eq_ok h
  intro other contents
  by_cases heq : other = place
  · -- nothing stood here, and no file does now
    subst heq
    have hne : other ≠ [] := ne_nil_of_node?_ne (d := d) (by simp [hnone])
    simp [node?_put_self d .directory hne, hnone]
  · rw [node?_put_of_ne d .directory heq]

/-- Making directories makes no file and changes none. -/
theorem sameFiles_ensureDirectories (d : Disk) (p : Path) (up : Nat) :
    SameFiles d (d.ensureDirectories p up).1 :=
  ensureDirectories_induction .refl (fun _ _ _ => .trans) (fun _ _ _ => sameFiles_makeDirectory) d p up

/-! ## A single file -/

/-- The disks differ at one place at most, and neither has a directory there. -/
structure DiffersAt (place : Place) (d d' : Disk) : Prop where
  node?_eq : ∀ other, other ≠ place → d'.node? other = d.node? other
  before : d.node? place ≠ some .directory
  after : d'.node? place ≠ some .directory

theorem DiffersAt.symm (h : DiffersAt place d d') : DiffersAt place d' d :=
  ⟨fun other hother => (h.node?_eq other hother).symm, h.after, h.before⟩

theorem DiffersAt.trans (h : DiffersAt place d d') (h' : DiffersAt place d' d'') :
    DiffersAt place d d'' :=
  ⟨fun other hother => (h'.node?_eq other hother).trans (h.node?_eq other hother), h.before, h'.after⟩

theorem DiffersAt.keepsDirectories (h : DiffersAt place d d') : KeepsDirectories d d' := by
  intro other hother
  rwa [h.node?_eq other (ne_of_node?_ne hother h.before)]

theorem DiffersAt.isDirectory (h : DiffersAt place d d') (hp : d.isDirectory p = true) :
    d'.isDirectory p = true := by
  obtain ⟨other, hlocate, hnode⟩ := isDirectory_iff.mp hp
  exact isDirectory_iff.mpr
    ⟨other, h.keepsDirectories.locate hlocate, h.keepsDirectories other hnode⟩

theorem differsAt_write {contents : Bytes} (h : d.write p contents = .ok d')
    (hlocate : d.locate p = .ok place) : DiffersAt place d d' := by
  obtain ⟨_, hlocate', hnode, hd'⟩ := write_eq_ok_iff.mp h
  obtain rfl := Except.ok.inj (hlocate.symm.trans hlocate')
  refine ⟨fun other hother => ?_, hnode, node?_ne_directory_of_write h hnode⟩
  rw [hd', node?_put_of_ne d _ hother]

theorem differsAt_erase (h : d.node? place ≠ some .directory) : DiffersAt place d (d.erase place) :=
  ⟨fun _ hother => node?_erase_of_ne d hother, h, node?_erase_ne_directory h⟩

/-! ## The end of a path -/

theorem getLast?_walk {parts : List String} {name : String} (hname : name ≠ "..")
    (h : d.walk here (parts ++ [name]) = .ok place) : place.getLast? = some name := by
  induction parts generalizing here with
  | nil =>
    rw [List.nil_append, walk] at h
    split at h
    · cases h
    · rw [List.isEmpty_nil, if_pos rfl] at h
      cases h
      exact List.getLast?_concat
  | cons part rest ih =>
    rw [List.cons_append, walk] at h
    split at h
    · cases h
    · dsimp only at h
      rw [if_neg (by simp)] at h
      split at h
      · exact ih h
      · cases h
      · cases h

/-- A path below a directory leads to a place of its name. -/
theorem getLast?_locate_child {name : String} (hname : name ≠ "..")
    (h : d.locate (p.child name) = .ok place) : place.getLast? = some name := by
  rw [locate] at h
  split at h
  · cases h
  split at h
  · cases h
  · exact getLast?_walk hname h

end WorkspaceDesk.Disk

import WorkspaceDesk.Proofs.Disk.Directories
import WorkspaceDesk.Proofs.Profile.Store

/-!
# The configuration that a directory holds

A directory without a file stands for the initial configuration, and one with a file for the configuration
that was saved last (`Stored`). A save that fails, at whatever step, leaves the file as it was (`Kept`), and so
the directory with the configuration that it had.
-/

namespace WorkspaceDesk.Store

open Disk

variable {d d' : Disk} {dir : Path} {c : Config} {token : String} {weather : Weather}

/-- The directory is there or can be made, and there is no configuration in it. -/
def Unsaved (d : Disk) (dir : Path) : Prop :=
  ∃ d₁ place, d.ensureDirectories dir dir.parts.length = (d₁, .ok ()) ∧
    d₁.locate (configPath dir) = .ok place ∧ d₁.node? place = none

/-- The top is there, and there is no configuration in it. -/
theorem unsaved_top (h : d.node? ["config.json"] = none) : Unsaved d ⟨"", []⟩ :=
  ⟨d, ["config.json"], ensureDirectories_top d, locate_name d (by decide) (by decide) (by decide), h⟩

/-- The configuration that a directory holds. -/
inductive Stored (d : Disk) (dir : Path) : Config → Prop
  | unsaved (h : Unsaved d dir) : Stored d dir .initial
  | saved {c : Config} (hlasting : c.Lasting) (h : d.read (configPath dir) = .ok (contents c)) :
    Stored d dir c

/-- Where nothing has been saved there is no file to be read. -/
theorem read_of_unsaved (h : Unsaved d dir) :
    d.read (configPath dir) = .error { problem := .noEntry, path := (configPath dir).text } := by
  obtain ⟨d₁, place, hensure, hlocate, hnone⟩ := h
  have hextends : d.Extends d₁ := by
    have := d.extends_ensureDirectories dir dir.parts.length
    rwa [hensure] at this
  -- the directory itself may be missing, or else the file in it
  rcases hextends.locate_back hlocate with hplace | hmissing
  · simp only [Disk.read, hplace, hextends.node?_eq_none hnone]
  · simp only [Disk.read, hmissing]

theorem loads_of_unsaved (room : Json.Room) (h : Unsaved d dir) : Loads room d dir .initial := by
  have hread := read_of_unsaved h
  refine ⟨by simp only [Store.load, hread], ?_⟩
  intro bytes _ hbytes
  cases hread.symm.trans hbytes

/-- The configuration that a directory holds is loaded from it. -/
theorem Stored.loads (room : Json.Room) (h : Stored d dir c) : Loads room d dir c := by
  cases h with
  | unsaved h => exact loads_of_unsaved room h
  | saved hlasting h => exact loads_of_read room hlasting h

/-! ## Saves that fail -/

/-- The name of a temporary file is not that of the file of the configuration. -/
theorem getLast?_temporary {source : Place}
    (hsource : d.locate (temporaryPath dir token) = .ok source) :
    source.getLast? ≠ some "config.json" := by
  have hhead : (".config." ++ token ++ ".tmp").toList.head? = some '.' := by simp
  have hdots : ".config." ++ token ++ ".tmp" ≠ ".." := by
    intro heq
    have hsecond : (".config." ++ token ++ ".tmp").toList[1]? = some 'c' := by simp
    rw [heq] at hsecond
    exact absurd hsecond (by decide)
  rw [getLast?_locate_child hdots hsource]
  intro hname
  rw [Option.some.inj hname] at hhead
  exact absurd hhead (by decide)

/-- The temporary file is not the file of the configuration. -/
theorem temporary_ne_config {source place : Place}
    (hsource : d.locate (temporaryPath dir token) = .ok source)
    (hplace : d'.locate (configPath dir) = .ok place) : place ≠ source := by
  rintro rfl
  exact getLast?_temporary hsource (getLast?_locate_child (by decide) hplace)

theorem differsAt_removeTemporary {temporary : Path} {source : Place}
    (hlocate : d.locate temporary = .ok source) (hnode : d.node? source ≠ some .directory) :
    DiffersAt source d (removeTemporary d temporary) := by
  rw [removeTemporary, hlocate]
  exact differsAt_erase hnode

/-- A save that fails has touched nothing but the temporary file, which it has removed. -/
theorem saveInto_eq_error {bytes : Bytes} {e : DiskError}
    (h : saveInto d dir token weather bytes = (d', .error e)) :
    d' = d ∨ ∃ filled source, d.locate (temporaryPath dir token) = .ok source ∧
      DiffersAt source d filled ∧ d' = removeTemporary filled (temporaryPath dir token) := by
  unfold saveInto at h
  dsimp only at h
  split at h
  · cases h
    exact .inl rfl
  split at h
  · cases h
    exact .inl rfl
  rename_i created hcreated
  obtain ⟨source, hsource, -, -⟩ := write_eq_ok_iff.mp hcreated
  have hcreate := differsAt_write hcreated hsource
  -- from here on each step that fails removes the temporary file
  split at h
  · cases h
    exact .inr ⟨created, source, hsource, hcreate, rfl⟩
  rename_i filled hfilled
  have hfill := hcreate.trans (differsAt_write hfilled (hcreate.keepsDirectories.locate hsource))
  have hremove : removeTemporary filled (temporaryPath dir token) = d' →
      ∃ filled source, d.locate (temporaryPath dir token) = .ok source ∧
        DiffersAt source d filled ∧ d' = removeTemporary filled (temporaryPath dir token) :=
    fun heq => ⟨filled, source, hsource, hfill, heq.symm⟩
  split at h
  · exact .inr (hremove (congrArg Prod.fst h))
  · exact .inr (hremove (congrArg Prod.fst h))
  · split at h
    · exact .inr (hremove (congrArg Prod.fst h))
    · cases h

/-- A save that fails has made no directory, or it has made directories and failed at them or after them. -/
theorem save_eq_error {e : SaveError} (h : save d dir token weather c = (d', .error e)) :
    d' = d ∨ ∃ d₁ made, d.ensureDirectories dir dir.parts.length = (d₁, made) ∧
      (d' = d₁ ∨ made = .ok () ∧
        ∃ e', saveInto d₁ dir token weather (contents c) = (d', .error e')) := by
  unfold save at h
  split at h
  · cases h
    exact .inl rfl
  split at h
  · rename_i hensure
    cases h
    exact .inr ⟨d', _, hensure, .inl rfl⟩
  rename_i d₁ hensure
  split at h
  · obtain ⟨rfl, hresult⟩ := Prod.mk.inj h
    obtain ⟨e', he', -⟩ := exists_of_mapError_eq_error hresult
    exact .inr ⟨d₁, _, hensure, .inr ⟨rfl, e', Prod.ext rfl he'⟩⟩
  · cases h
    exact .inr ⟨d', _, hensure, .inl rfl⟩

/-- A save of a configuration that can be written fails for an error of the disk. -/
theorem exists_disk_of_save_eq_error {e : SaveError} (hwritable : c.toJson.isWritable = true)
    (h : save d dir token weather c = (d', .error e)) : ∃ e', e = .disk e' := by
  unfold save at h
  split at h
  · cases h
    exact ⟨_, rfl⟩
  split at h
  · cases h
    exact ⟨_, rfl⟩
  · rw [if_pos hwritable] at h
    obtain ⟨e', -, rfl⟩ := exists_of_mapError_eq_error (Prod.mk.inj h).2
    exact ⟨e', rfl⟩

/-- The file of a configuration, if there is one, is as it was. -/
structure Kept (dir : Path) (d d' : Disk) : Prop where
  read : ∀ bytes, d.read (configPath dir) = .ok bytes → d'.read (configPath dir) = .ok bytes
  unsaved : Unsaved d dir → Unsaved d' dir
  /-- Wherever the path leads once directories have been made, no file of this name has come, gone or
  changed. -/
  files : ∀ place : Place, place.getLast? = some "config.json" → ∀ bytes,
    d'.node? place = some (.file bytes) ↔ d.node? place = some (.file bytes)

theorem Kept.refl (dir : Path) (d : Disk) : Kept dir d d :=
  ⟨fun _ h => h, fun h => h, fun _ _ _ => Iff.rfl⟩

theorem Kept.trans {d'' : Disk} (h : Kept dir d d') (h' : Kept dir d' d'') : Kept dir d d'' :=
  ⟨fun bytes hread => h'.read bytes (h.read bytes hread), fun hunsaved => h'.unsaved (h.unsaved hunsaved),
    fun place hplace bytes => (h'.files place hplace bytes).trans (h.files place hplace bytes)⟩

/-- The file is kept when the directory is made, and when it cannot be made. -/
theorem kept_ensureDirectories (d : Disk) (dir : Path) :
    Kept dir d (d.ensureDirectories dir dir.parts.length).1 := by
  refine ⟨fun bytes => (d.extends_ensureDirectories dir _).read, ?_,
    fun place _ => d.sameFiles_ensureDirectories dir _ place⟩
  rintro ⟨d₁, place, hensure, hlocate, hnone⟩
  have hdirectory := isDirectory_of_ensureDirectories hensure
  rw [hensure]
  exact ⟨d₁, place, ensureDirectories_of_isDirectory hdirectory _, hlocate, hnone⟩

/-- The file is kept when the temporary file is touched. -/
theorem kept_of_differsAt (hdirectory : d.isDirectory dir = true) {source : Place}
    (hsource : d.locate (temporaryPath dir token) = .ok source) (hdiffers : DiffersAt source d d') :
    Kept dir d d' where
  read bytes h := by
    obtain ⟨place, hlocate, hnode⟩ := read_eq_ok_iff.mp h
    refine read_eq_ok_iff.mpr ⟨place, hdiffers.keepsDirectories.locate hlocate, ?_⟩
    rw [hdiffers.node?_eq place (temporary_ne_config hsource hlocate), hnode]
  unsaved := by
    rintro ⟨d₁, place, hensure, hlocate, hnone⟩
    rw [ensureDirectories_of_isDirectory hdirectory] at hensure
    cases hensure
    refine ⟨d', place, ensureDirectories_of_isDirectory (hdiffers.isDirectory hdirectory) _,
      hdiffers.keepsDirectories.locate hlocate, ?_⟩
    rw [hdiffers.node?_eq place (temporary_ne_config hsource hlocate), hnone]
  files place hplace bytes := by
    have hne : place ≠ source := fun heq => getLast?_temporary hsource (heq ▸ hplace)
    rw [hdiffers.node?_eq place hne]

/-- A save that fails leaves the file as it was. -/
theorem kept_of_save_eq_error {e : SaveError} (h : save d dir token weather c = (d', .error e)) :
    Kept dir d d' := by
  rcases save_eq_error h with rfl | ⟨d₁, made, hensure, hinto⟩
  · exact .refl dir d'
  have hmade := kept_ensureDirectories d dir
  rw [hensure] at hmade
  rcases hinto with rfl | ⟨rfl, e', hinto⟩
  · exact hmade
  · rcases saveInto_eq_error hinto with rfl | ⟨filled, source, hsource, hfill, rfl⟩
    · exact hmade
    · have hremove := differsAt_removeTemporary (hfill.keepsDirectories.locate hsource) hfill.after
      exact hmade.trans (kept_of_differsAt (isDirectory_of_ensureDirectories hensure) hsource
        (hfill.trans hremove))

/-- A directory whose file is kept keeps its configuration. -/
theorem Stored.of_kept (h : Stored d dir c) (hkept : Kept dir d d') : Stored d' dir c := by
  cases h with
  | unsaved h => exact .unsaved (hkept.unsaved h)
  | saved hlasting h => exact .saved hlasting (hkept.read _ h)

/-- After a save the directory holds the new configuration or, if it fails, the old one. -/
theorem Stored.save {changed : Config} (h : Stored d dir c) (hlasting : changed.Lasting) :
    Stored (save d dir token weather changed).1 dir c ∨
      Stored (save d dir token weather changed).1 dir changed := by
  cases hsave : Store.save d dir token weather changed with
  | mk d' result =>
    cases result with
    | error e => exact .inl (h.of_kept (kept_of_save_eq_error hsave))
    | ok => exact .inr (.saved hlasting (read_of_save hsave))

end WorkspaceDesk.Store

import WorkspaceDesk.Profile.Store
import WorkspaceDesk.Proofs.Disk.Basic
import WorkspaceDesk.Proofs.Except
import WorkspaceDesk.Proofs.Json.Pairs
import WorkspaceDesk.Proofs.Profile.Config
import WorkspaceDesk.Proofs.Text.Lines
import WorkspaceDesk.Proofs.Text.Utf8

/-!
# Configurations back from the disk

What is saved is loaded: the bytes of the file are those of the written configuration, and reading them
gives the configuration again (`load_save`). So a configuration that has been loaded does not change by
being saved and loaded once more.
-/

namespace WorkspaceDesk.Store

open Json Text

variable {room : Room} {d d' : Disk} {dir : Path} {c : Config} {token : String} {weather : Weather}
  {bytes : Bytes}

/-! ## The bytes of a file -/

/-- A configuration is nested four deep, for which there is room. -/
theorem readable_toJson (room : Room) (hc : c.Lasting) : Readable room.levels c.toJson := by
  obtain ⟨more, hmore⟩ := Nat.exists_eq_add_of_le' room.four_le
  rw [hmore]
  exact Config.readable_toJson hc.ports more

/-- The bytes of a configuration that lasts are read as the configuration. -/
theorem parse_contents (hc : c.Lasting) (path : Path) : parse room path (contents c) = .ok c := by
  have hreadable := readable_toJson room hc
  have hreturn : '\r' ∉ c.toJson.write ++ ['\n'] := by
    rw [List.mem_append, not_or]
    exact ⟨return_not_mem_write hreadable 0, by decide⟩
  unfold parse contents
  rw [Utf8.decode_encode]
  dsimp only
  rw [unifyLineEnds_eq_self hreturn, Json.read, readWithin_write hreadable, Config.toJson_eq]
  dsimp only
  rw [Config.ofFields_jsonFields hc]

/-- A configuration that is read from bytes lasts. -/
theorem lasting_of_parse {path : Path} (h : parse room path bytes = .ok c) :
    c.Lasting := by
  unfold parse at h
  split at h
  · cases h
  split at h
  · cases h
  · rename_i hread
    split at h
    · rename_i hfields
      cases h
      exact Config.lasting_of_ofFields (bounded_readWithin hread) hfields
    · cases h
    · cases h
  · cases h

theorem lasting_of_load (h : load room d dir = .ok c) : c.Lasting := by
  unfold load at h
  split at h
  · exact lasting_of_parse h
  · split at h
    · cases h
      exact Config.lasting_initial
    · cases h
    · cases h

theorem load_of_read (hc : c.Lasting) (h : d.read (configPath dir) = .ok (contents c)) :
    load room d dir = .ok c := by
  unfold load
  rw [h]
  exact parse_contents hc (configPath dir)

/-- The configuration is loaded, and if it is from a file, its text escapes no half of a surrogate pair: its
texts are of characters alone. -/
structure Loads (room : Room) (d : Disk) (dir : Path) (c : Config) : Prop where
  load : load room d dir = .ok c
  paired : ∀ bytes text, d.read (configPath dir) = .ok bytes → Utf8.decode bytes = .ok text →
    Paired text

theorem loads_of_read (room : Room) (hc : c.Lasting)
    (h : d.read (configPath dir) = .ok (contents c)) : Loads room d dir c := by
  refine ⟨load_of_read hc h, ?_⟩
  intro bytes text hbytes htext
  cases h.symm.trans hbytes
  rw [contents, Utf8.decode_encode] at htext
  cases htext
  exact paired_write (readable_toJson room hc)

/-! ## Putting the temporary file in place -/

theorem replaceFile_eq_ok_iff {temporary target : Path} :
    replaceFile d temporary target = .ok d' ↔
      ∃ source place node, d.locate temporary = .ok source ∧ d.locate target = .ok place ∧
        d.node? source = some node ∧ d.node? place ≠ some .directory ∧
          d' = (d.erase source).put place node := by
  constructor
  · intro h
    unfold replaceFile at h
    split at h
    · rename_i source place hsource hplace
      split at h
      · rename_i node _ hnode hfile
        cases h
        exact ⟨source, place, node, hsource, hplace, hnode, by simp [hfile], rfl⟩
      · rename_i node hnode hnone
        cases h
        exact ⟨source, place, node, hsource, hplace, hnode, by simp [hnone], rfl⟩
      · cases h
      · cases h
    · cases h
    · cases h
  · rintro ⟨source, place, node, hsource, hplace, hnode, hdirectory, rfl⟩
    unfold replaceFile
    rw [hsource, hplace]
    dsimp only
    rw [hnode]
    cases h : d.node? place with
    | none => rfl
    | some m =>
      cases m with
      | file _ => rfl
      | directory => exact absurd h hdirectory

/-- The file has the contents that the temporary file had. -/
theorem read_of_replaceFile {temporary target : Path}
    (hread : d.read temporary = .ok bytes) (h : replaceFile d temporary target = .ok d') :
    d'.read target = .ok bytes := by
  obtain ⟨source, place, node, hsource, hplace, hnode, hdirectory, rfl⟩ :=
    replaceFile_eq_ok_iff.mp h
  obtain ⟨source', hsource', hfile⟩ := Disk.read_eq_ok_iff.mp hread
  -- the path of the temporary file leads to one place, and there is one file there
  obtain rfl : source' = source := Except.ok.inj (hsource'.symm.trans hsource)
  obtain rfl : node = .file bytes := Option.some.inj (hnode.symm.trans hfile)
  have herase : Disk.KeepsDirectories d (d.erase source') :=
    Disk.keepsDirectories_erase (by rw [hnode]; simp)
  have hput := Disk.keepsDirectories_put (d.erase source') (.file bytes)
    (Disk.node?_erase_ne_directory hdirectory)
  apply Disk.read_eq_ok_iff.mpr
  exact ⟨place, (herase.trans hput).locate hplace,
    Disk.node?_put_self _ _ (Disk.ne_nil_of_node?_ne hdirectory)⟩

/-! ## Saving -/

/-- No step is made to fail. -/
def Weather.IsFair (weather : Weather) : Prop :=
  ∀ step, weather.fails step = none

/-- The disk lets a configuration be saved: the directory can be made, and then the names of the file and
of the temporary file lead to places where no directory stands. -/
def Savable (d : Disk) (dir : Path) (token : String) : Prop :=
  ∃ d₁ source place, d.ensureDirectories dir dir.parts.length = (d₁, .ok ()) ∧
    d₁.locate (temporaryPath dir token) = .ok source ∧ d₁.node? source ≠ some .directory ∧
    d₁.locate (configPath dir) = .ok place ∧ d₁.node? place ≠ some .directory

/-- At the top a configuration can be saved unless directories have the names of the two files. -/
theorem savable_top (hnull : '\x00' ∉ (".config." ++ token ++ ".tmp").toList)
    (hshort : (".config." ++ token ++ ".tmp").utf8ByteSize ≤ Disk.longestName)
    (hdots : ".config." ++ token ++ ".tmp" ≠ "..")
    (hsource : d.node? [".config." ++ token ++ ".tmp"] ≠ some .directory)
    (hplace : d.node? ["config.json"] ≠ some .directory) : Savable d ⟨"", []⟩ token :=
  ⟨d, _, _, Disk.ensureDirectories_top d, Disk.locate_name d hnull hshort hdots, hsource,
    Disk.locate_name d (by decide) (by decide) (by decide), hplace⟩

/-- A save that succeeds has written all the bytes to the temporary file and put it in place, and nothing was made
to fail. -/
theorem saveInto_eq_ok (h : saveInto d dir token weather bytes = (d', .ok ())) :
    (∀ step, step ≠ .makeDirectory → weather.fails step = none) ∧
    ∃ created filled, d.write (temporaryPath dir token) [] = .ok created ∧
      created.write (temporaryPath dir token) bytes = .ok filled ∧
        replaceFile filled (temporaryPath dir token) (configPath dir) = .ok d' := by
  -- the steps in their order, each of which ends the save if it fails
  unfold saveInto at h
  dsimp only at h
  split at h
  · cases h
  rename_i htemporary
  split at h
  · cases h
  rename_i created hcreated
  split at h
  · cases h
  rename_i filled hfilled
  split at h
  · cases h
  · cases h
  · rename_i hwrite hrename
    split at h
    · cases h
    · rename_i saved hsaved
      cases h
      rw [hwrite, Option.isSome_none, if_neg Bool.false_ne_true, List.take_length] at hfilled
      refine ⟨fun step hstep => ?_, created, filled, hcreated, hfilled, hsaved⟩
      cases step with
      | makeDirectory => exact absurd rfl hstep
      | makeTemporary => exact htemporary
      | write => exact hwrite
      | rename => exact hrename

/-- A save that succeeds has made the directory, made a text of the configuration and saved that into it. -/
theorem save_eq_ok (h : save d dir token weather c = (d', .ok ())) :
    weather.fails .makeDirectory = none ∧ c.toJson.isWritable = true ∧
      ∃ d₁, d.ensureDirectories dir dir.parts.length = (d₁, .ok ()) ∧
        saveInto d₁ dir token weather (contents c) = (d', .ok ()) := by
  unfold save at h
  split at h
  · cases h
  rename_i hmake
  split at h
  · cases h
  rename_i d₁ hensure
  split at h
  · rename_i hwritable
    obtain ⟨rfl, hresult⟩ := Prod.mk.inj h
    exact ⟨hmake, hwritable, d₁, hensure, Prod.ext rfl (eq_ok_of_mapError_eq_ok hresult)⟩
  · cases h

/-- The file that is saved holds the written configuration. -/
theorem read_of_save (h : save d dir token weather c = (d', .ok ())) :
    d'.read (configPath dir) = .ok (contents c) := by
  obtain ⟨-, -, _, -, hinto⟩ := save_eq_ok h
  obtain ⟨-, created, filled, -, hfilled, hsaved⟩ := saveInto_eq_ok hinto
  exact read_of_replaceFile (Disk.read_of_write hfilled) hsaved

/-- In fair weather all the bytes are written, and the temporary file is put in place. -/
theorem saveInto_of_fair (hfair : weather.IsFair) {created filled : Disk}
    (hcreated : d.write (temporaryPath dir token) [] = .ok created)
    (hfilled : created.write (temporaryPath dir token) bytes = .ok filled)
    (hreplace : replaceFile filled (temporaryPath dir token) (configPath dir) = .ok d') :
    saveInto d dir token weather bytes = (d', .ok ()) := by
  simp only [saveInto, hfair _, hcreated, Option.isSome_none, Bool.false_eq_true, ↓reduceIte,
    List.take_length, hfilled, hreplace]

/-- In fair weather a configuration that can be written is saved where the disk allows it. -/
theorem exists_save (hfair : weather.IsFair) (hdisk : Savable d dir token)
    (hwritable : c.toJson.isWritable = true) :
    ∃ d', save d dir token weather c = (d', .ok ()) := by
  obtain ⟨d₁, source, place, hdirs, hsource, hfree, hplace, hfile⟩ := hdisk
  obtain ⟨created, hcreated⟩ : ∃ created, d₁.write (temporaryPath dir token) [] = .ok created :=
    ⟨_, Disk.write_eq_ok_iff.mpr ⟨source, hsource, hfree, rfl⟩⟩
  obtain ⟨filled, hfilled⟩ := Disk.exists_write_of_read (Disk.read_of_write hcreated) (contents c)
  -- both writes keep the directories, so that the paths lead where they led
  have hkeeps : Disk.KeepsDirectories d₁ filled :=
    (Disk.keepsDirectories_of_write hcreated).trans (Disk.keepsDirectories_of_write hfilled)
  have hfile' : filled.node? place ≠ some .directory :=
    Disk.node?_ne_directory_of_write hfilled (Disk.node?_ne_directory_of_write hcreated hfile)
  obtain ⟨source', hsource', hnode⟩ := Disk.read_eq_ok_iff.mp (Disk.read_of_write hfilled)
  have hreplace := replaceFile_eq_ok_iff.mpr
    ⟨source', place, _, hsource', hkeeps.locate hplace, hnode, hfile', rfl⟩
  refine ⟨(filled.erase source').put place (.file (contents c)), ?_⟩
  have hinto := saveInto_of_fair hfair hcreated hfilled hreplace
  unfold save
  simp only [hfair _, hdirs, hwritable, ↓reduceIte, hinto]
  rfl

/-- Saving succeeds only where the disk allows it. -/
theorem savable_of_save (h : save d dir token weather c = (d', .ok ())) : Savable d dir token := by
  obtain ⟨-, -, d₁, hdirs, hinto⟩ := save_eq_ok h
  obtain ⟨-, created, filled, hcreated, hfilled, hsaved⟩ := saveInto_eq_ok hinto
  obtain ⟨source, hsource, hfree, -⟩ := Disk.write_eq_ok_iff.mp hcreated
  obtain ⟨_, place, _, -, hplace, -, hfile, -⟩ := replaceFile_eq_ok_iff.mp hsaved
  have hkeeps : Disk.KeepsDirectories d₁ filled :=
    (Disk.keepsDirectories_of_write hcreated).trans (Disk.keepsDirectories_of_write hfilled)
  -- the place of the file was found after the writes, and it was the same before them
  have hback : Disk.KeepsDirectories filled d₁ :=
    (Disk.keepsDirectories_back hfilled).trans (Disk.keepsDirectories_back hcreated)
  exact ⟨d₁, source, place, hdirs, hsource, hfree, hback.locate hplace,
    fun hdirectory => hfile (hkeeps place hdirectory)⟩

/-- What is saved is loaded, if the configuration lasts or has been loaded itself; and in fair weather it
is saved exactly where the disk allows it. -/
theorem load_save (hc : c.Lasting ∨ ∃ room before, Loads room before dir c) :
    (∀ d', save d dir token weather c = (d', .ok ()) → ∀ room, Loads room d' dir c) ∧
      (weather.IsFair →
        ((∃ d', save d dir token weather c = (d', .ok ())) ↔ Savable d dir token)) := by
  have hlasting : c.Lasting := by
    rcases hc with hc | ⟨room, before, hloads⟩
    · exact hc
    · exact lasting_of_load hloads.load
  refine ⟨fun d' hsave room => loads_of_read room hlasting (read_of_save hsave), fun hfair => ?_⟩
  constructor
  · rintro ⟨d', hsave⟩
    exact savable_of_save hsave
  · exact fun hdisk => exists_save hfair hdisk hlasting.isWritable

/-- A configuration with an empty password, a negative port, and quotes, control characters and one
beyond the basic plane in its texts is saved at the top and loaded, also with no more room than it takes. -/
theorem load_save_of_special_characters :
    let c : Config := ⟨"d\"\\\n\x01é😀", [⟨"default", "", "h\x7f", -5, ⟨"u", some "", none⟩, "\u2028"⟩]⟩
    c.Lasting ∧ ∃ d', save [] ⟨"", []⟩ "abcdefgh" .fair c = (d', .ok ()) ∧
      load ⟨4, by decide⟩ d' ⟨"", []⟩ = .ok c := by
  intro c
  have hc : c.Lasting := by
    refine ⟨⟨_, List.mem_cons_self, rfl⟩, by decide, ?_⟩
    intro p hp
    rw [List.mem_singleton.mp hp]
    exact Nat.lt_of_lt_of_le (by decide : (-5 : Int).natAbs < 10 ^ 1)
      (Nat.pow_le_pow_right (by decide) (by decide))
  have hdisk : Savable [] ⟨"", []⟩ "abcdefgh" :=
    savable_top (by decide) (by decide) (by decide) (by simp [Disk.node?]) (by simp [Disk.node?])
  have hboth : (∀ d', save [] ⟨"", []⟩ "abcdefgh" .fair c = (d', .ok ()) →
      ∀ room, Loads room d' ⟨"", []⟩ c) ∧ (Weather.fair.IsFair →
        ((∃ d', save [] ⟨"", []⟩ "abcdefgh" .fair c = (d', .ok ())) ↔
          Savable [] ⟨"", []⟩ "abcdefgh")) :=
    load_save (.inl hc)
  obtain ⟨d', hsave⟩ := (hboth.2 fun _ => rfl).mpr hdisk
  exact ⟨hc, d', hsave, (hboth.1 d' hsave _).load⟩

end WorkspaceDesk.Store

import WorkspaceDesk.Proofs.Json.Nesting
import WorkspaceDesk.Proofs.Profile.Store
import WorkspaceDesk.Proofs.Text.Utf8

/-!
# Failures of loading

Loading ends with a configuration or with an error that is reported, except for three kinds of
files: those that are not UTF-8, those that nest containers too deeply, and those where an infinite
port is the first thing wrong with the profiles (`load_reported_iff`).
-/

namespace WorkspaceDesk

open Json Text

/-! ## Infinite ports -/

/-- The port of the profile that fields describe is infinite. -/
def Profile.HasInfinitePort (fields : Fields) : Prop :=
  ∃ negative, fields.get? "port" = some (.float (.infinite negative))

/-- A profile with an infinite port stands among values, and no profile before it is bad. -/
def Config.MeetsInfinitePort (values : List Value) : Prop :=
  ∃ before fields after profiles, values = before ++ .obj fields :: after ∧
    Config.profilesOf before = .ok profiles ∧ Profile.HasInfinitePort fields

namespace Json

theorem toInt_eq_infinite {v : Value} :
    v.toInt = .error .infinite ↔ ∃ negative, v = .float (.infinite negative) := by
  constructor
  · intro h
    cases v with
    | float x =>
      cases x with
      | infinite negative => exact ⟨negative, rfl⟩
      | finite s m e => cases h
      | nan => cases h
    | str s =>
      rw [Value.toInt] at h
      cases hparse : parseInt s.toList with
      | ok n =>
        rw [hparse] at h
        cases h
      | error e =>
        rw [hparse] at h
        cases h
    | _ => cases h
  · rintro ⟨negative, rfl⟩
    rfl

/-- A field is refused as infinite only where it is: no default and no numeral is infinite. -/
theorem int_eq_infinite {fields : Fields} {name : String} :
    fields.int name = .error .infinite ↔
      ∃ negative, fields.get? name = some (.float (.infinite negative)) := by
  unfold Fields.int Fields.truthy?
  constructor
  · intro h
    split at h
    · rename_i v hv
      obtain ⟨negative, rfl⟩ := toInt_eq_infinite.mp h
      exact ⟨negative, (Option.filter_eq_some_iff.mp hv).1⟩
    · cases h
  · rintro ⟨negative, hget⟩
    rw [hget]
    rfl

theorem parts_ne_infinite {fields : Fields} {name : String} :
    fields.parts name ≠ .error .infinite := by
  intro h
  unfold Fields.parts at h
  split at h
  · rename_i v _
    cases v <;> cases h
  · cases h

end Json

theorem Profile.ofFields_eq_infinite {fields : Fields} :
    Profile.ofFields fields = .error .infinite ↔ Profile.HasInfinitePort fields := by
  rw [Profile.HasInfinitePort, ← int_eq_infinite]
  unfold Profile.ofFields
  cases fields.int "port" with
  | ok n => simp [Except.map]
  | error e => simp [Except.map]

namespace Config

theorem profilesOf_eq_infinite {values : List Value} :
    profilesOf values = .error .infinite ↔ MeetsInfinitePort values := by
  constructor
  · intro h
    -- as the values are read: none, a bad profile, a profile, a value that is no object
    fun_induction profilesOf values with
    | case1 => cases h
    | case2 fields rest e he =>
      cases h
      exact ⟨[], fields, rest, [], rfl, rfl, Profile.ofFields_eq_infinite.mp he⟩
    | case3 fields rest p hp ih =>
      cases hrest : profilesOf rest with
      | ok ps =>
        rw [hrest] at h
        cases h
      | error e =>
        rw [hrest] at h
        cases h
        obtain ⟨before, bad, after, ps, rfl, hbefore, hbad⟩ := ih hrest
        refine ⟨.obj fields :: before, bad, after, p :: ps, rfl, ?_, hbad⟩
        rw [profilesOf, hp]
        dsimp only
        rw [hbefore, Except.map]
    | case4 v rest hv ih =>
      obtain ⟨before, bad, after, ps, rfl, hbefore, hbad⟩ := ih h
      refine ⟨v :: before, bad, after, ps, rfl, ?_, hbad⟩
      rw [profilesOf]
      · exact hbefore
      · exact hv
  · rintro ⟨before, fields, after, ps, rfl, hbefore, hbad⟩
    have hfields := Profile.ofFields_eq_infinite.mpr hbad
    fun_induction profilesOf before generalizing ps with
    | case1 => rw [List.nil_append, profilesOf, hfields]
    | case2 _ _ _ _ => cases hbefore
    | case3 first rest p hp ih =>
      obtain ⟨others, hothers, -⟩ := exists_of_map_eq_ok hbefore
      rw [List.cons_append, profilesOf, hp]
      dsimp only
      rw [ih others hothers, Except.map]
    | case4 v rest hv ih =>
      rw [List.cons_append, profilesOf]
      · exact ih ps hbefore
      · exact hv

theorem ofFields_eq_infinite {fields : Fields} :
    ofFields fields = .error .infinite ↔
      ∃ values, fields.parts "profiles" = .ok values ∧ MeetsInfinitePort values := by
  unfold ofFields
  cases hparts : fields.parts "profiles" with
  | error e =>
    have he : e ≠ .infinite := fun he => parts_ne_infinite (he ▸ hparts)
    simp [he]
  | ok values =>
    simp only [Except.ok.injEq, exists_eq_left']
    rw [← profilesOf_eq_infinite]
    cases profilesOf values with
    | ok ps => simp [Except.map]
    | error e => simp [Except.map]

end Config

/-! ## Files -/

namespace Store

variable {room : Room} {d : Disk} {dir path : Path} {bytes : Bytes}

/-- The error of a configuration file that is not reported. -/
inductive Unreported (room : Room) (bytes : Bytes) : Prop
  /-- The bytes are those of no text. -/
  | notUtf8 (h : ∀ text, Utf8.encode text ≠ bytes)
  /-- The text nests more containers than there is room for. -/
  | nestedTooDeep {text : List Char} (htext : Utf8.encode text = bytes)
      (h : NestsBeyond room.levels (unifyLineEnds text))
  /-- An infinite port is the first thing wrong with the profiles. -/
  | infinitePort {text : List Char} {fields : Fields} {values : List Value}
      (htext : Utf8.encode text = bytes)
      (hread : Json.read room (unifyLineEnds text) = .ok (.obj fields))
      (hparts : fields.parts "profiles" = .ok values) (h : Config.MeetsInfinitePort values)

/-- Loading ends with a configuration or with an error that is reported. -/
def Reported (r : Except LoadError Config) : Prop :=
  (∃ c, r = .ok c) ∨ ∃ e, r = .error e ∧ e.isReported = true

theorem not_reported_error {e : LoadError} (h : e.isReported = false) : ¬ Reported (.error e) := by
  rintro (⟨c, hc⟩ | ⟨e', he, hreported⟩)
  · cases hc
  · obtain rfl : e = e' := Except.error.inj he
    rw [h] at hreported
    cases hreported

theorem not_reported_of_unreported (h : Unreported room bytes) (path : Path) :
    ¬ Reported (parse room path bytes) := by
  cases h with
  | notUtf8 h =>
    cases hdecode : Utf8.decode bytes with
    | ok text => exact absurd (Utf8.decode_eq_ok.mp hdecode) (h text)
    | error f =>
      rw [parse, hdecode]
      exact not_reported_error rfl
  | nestedTooDeep htext h =>
    obtain ⟨e, c, hread, hproblem⟩ := nestsBeyond_iff.mp h
    rw [parse, Utf8.decode_eq_ok.mpr htext]
    dsimp only
    rw [Json.read, hread]
    dsimp only
    unfold LoadError.ofRead
    rw [hproblem]
    exact not_reported_error rfl
  | infinitePort htext hread hparts h =>
    rw [parse, Utf8.decode_eq_ok.mpr htext]
    dsimp only
    rw [hread]
    dsimp only
    rw [Config.ofFields_eq_infinite.mpr ⟨_, hparts, h⟩]
    exact not_reported_error rfl

theorem reported_of_not_unreported (h : ¬ Unreported room bytes) (path : Path) :
    Reported (parse room path bytes) := by
  unfold parse
  split
  · rename_i f hdecode
    refine absurd (.notUtf8 fun text htext => ?_) h
    rw [Utf8.decode_eq_ok.mpr htext] at hdecode
    cases hdecode
  rename_i text hdecode
  have htext := Utf8.decode_eq_ok.mp hdecode
  split
  · rename_i e hread
    refine .inr ⟨_, rfl, ?_⟩
    unfold LoadError.ofRead
    split
    · rename_i c hproblem
      exact absurd (.nestedTooDeep htext (nestsBeyond_iff.mpr ⟨e, c, hread, hproblem⟩)) h
    · rfl
  · rename_i fields hread
    split
    · exact .inl ⟨_, rfl⟩
    · rename_i hfields
      obtain ⟨values, hparts, hmeets⟩ := Config.ofFields_eq_infinite.mp hfields
      exact absurd (.infinitePort htext hread hparts hmeets) h
    · exact .inr ⟨_, rfl, rfl⟩
  · exact .inr ⟨_, rfl, rfl⟩

/-- Whatever the file holds, loading ends with a configuration or a reported error, unless the file
is of one of the three kinds whose error is not reported. -/
theorem load_reported_iff (hread : d.read (configPath dir) = .ok bytes) :
    Reported (load room d dir) ↔ ¬ Unreported room bytes := by
  unfold load
  rw [hread]
  constructor
  · exact fun hreported hbytes => not_reported_of_unreported hbytes _ hreported
  · exact fun hbytes => reported_of_not_unreported hbytes _

/-- A disk with a configuration file at the top. -/
def diskOf (bytes : Bytes) : Disk :=
  [(["config.json"], .file bytes)]

/-- A file with one profile, whose port is written as given. -/
def fileOfPort (port : String) : Bytes :=
  Utf8.encode ("\x7b\"profiles\": [\x7b\"port\": ".toList ++ port.toList ++ "\x7d]\x7d".toList)

theorem read_diskOf (bytes : Bytes) : (diskOf bytes).read (configPath ⟨"", []⟩) = .ok bytes :=
  Disk.read_single (by decide) (by decide) (by decide) bytes

/-- A port that is not a number is a bad profile, which is reported. -/
theorem load_reported_of_port_not_a_number :
    Reported (load ⟨990, by decide⟩ (diskOf (fileOfPort "NaN")) ⟨"", []⟩) ∧
      ¬ Unreported ⟨990, by decide⟩ (fileOfPort "NaN") := by
  have hload : load ⟨990, by decide⟩ (diskOf (fileOfPort "NaN")) ⟨"", []⟩ =
      .error (.badProfile (configPath ⟨"", []⟩) .notANumber) := by
    rw [load, read_diskOf]
    decide +kernel
  have hreported : Reported (load ⟨990, by decide⟩ (diskOf (fileOfPort "NaN")) ⟨"", []⟩) :=
    .inr ⟨_, hload, rfl⟩
  exact ⟨hreported, (load_reported_iff (read_diskOf _)).mp hreported⟩

/-- An infinite port is as bad, but its error is not reported. -/
theorem load_not_reported_of_infinite_port :
    ¬ Reported (load ⟨990, by decide⟩ (diskOf (fileOfPort "Infinity")) ⟨"", []⟩) := by
  have hload : load ⟨990, by decide⟩ (diskOf (fileOfPort "Infinity")) ⟨"", []⟩ = .error .infinitePort := by
    rw [load, read_diskOf]
    decide +kernel
  rw [hload]
  exact not_reported_error rfl

end Store

end WorkspaceDesk

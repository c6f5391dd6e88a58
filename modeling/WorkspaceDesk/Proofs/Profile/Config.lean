import WorkspaceDesk.Profile.Config
import WorkspaceDesk.Proofs.Json.Bounds
import WorkspaceDesk.Proofs.Json.Values

/-!
# Configurations back from their fields

The generous reading of fields changes nothing in what a configuration is written as: empty texts, zero
ports and missing secrets stay what they are. What is read from any fields is a configuration that lasts
(`lasting_of_ofFields`), and it lasts through the changes that are made of it.
-/

namespace WorkspaceDesk

open Json Text

/-! ## Profiles -/

namespace Profile

/-- A text is read as it is. The empty one counts as missing, and is what a missing one is read as. -/
theorem text_of_get? {fields : Fields} {name s : String} (h : fields.get? name = some (.str s)) :
    fields.text name = s := by
  unfold Fields.text Fields.truthy?
  rw [h]
  by_cases hs : s = ""
  · subst hs
    rfl
  · rw [Option.filter_some, if_pos (by simpa [Value.isTruthy] using hs)]
    rfl

/-- A whole number is read as it is; zero counts as missing, which is read as zero. -/
theorem int_of_get? {fields : Fields} {name : String} {n : Int}
    (h : fields.get? name = some (.int n)) : fields.int name = .ok n := by
  unfold Fields.int Fields.truthy?
  rw [h]
  by_cases hn : n = 0
  · subst hn
    rfl
  · rw [Option.filter_some, if_pos (by simpa [Value.isTruthy] using hn)]
    rfl

theorem string?_of_get? {fields : Fields} {name : String} {s : Option String}
    (h : fields.get? name = some (optionalText s)) : fields.string? name = s := by
  unfold Fields.string?
  rw [h]
  cases s <;> rfl

/-- The fields that the part about recognition is written as. -/
def authJson (auth : Auth) : Fields :=
  [("user", .str auth.user), ("password", optionalText auth.password),
    ("privateKeyPath", optionalText auth.privateKeyPath)]

/-- The fields that a profile is written as. -/
def jsonFields (p : Profile) : Fields :=
  [("id", .str p.id), ("name", .str p.name), ("hostname", .str p.hostname), ("port", .int p.port),
    ("auth", .obj (authJson p.auth)), ("apiUrl", .str p.apiUrl)]

theorem toJson_eq (p : Profile) : p.toJson = .obj p.jsonFields :=
  rfl

/-- A profile is read back from its fields. -/
theorem ofFields_jsonFields (p : Profile) : ofFields p.jsonFields = .ok p := by
  have hid : p.jsonFields.text "id" = p.id := text_of_get? rfl
  have hname : p.jsonFields.text "name" = p.name := text_of_get? rfl
  have hhostname : p.jsonFields.text "hostname" = p.hostname := text_of_get? rfl
  have hport : p.jsonFields.int "port" = .ok p.port := int_of_get? rfl
  have hurl : p.jsonFields.text "apiUrl" = p.apiUrl := text_of_get? rfl
  have hauth : authFields p.jsonFields = authJson p.auth := rfl
  have huser : (authJson p.auth).text "user" = p.auth.user := text_of_get? rfl
  have hpassword : (authJson p.auth).string? "password" = p.auth.password := string?_of_get? rfl
  have hkey : (authJson p.auth).string? "privateKeyPath" = p.auth.privateKeyPath :=
    string?_of_get? rfl
  -- each field is read by its own rule; none of the rules changes what was written
  unfold ofFields
  rw [hid, hname, hhostname, hport, hurl, hauth]
  dsimp only
  rw [huser, hpassword, hkey, Except.map]

theorem readable_toJson {p : Profile} (h : p.port.natAbs < 10 ^ maxDigits) (room : Nat) :
    Readable (room + 2) p.toJson := by
  have hsecret : ∀ s : Option String, Readable room (optionalText s) := by
    intro s
    cases s with
    | none => exact .null
    | some s => exact .str s
  have hauth : Readable (room + 1) (.obj (authJson p.auth)) := by
    apply Readable.obj
    · show ["user", "password", "privateKeyPath"].Nodup
      decide
    · simp only [authJson, List.mem_cons, List.not_mem_nil, or_false]
      rintro f (rfl | rfl | rfl)
      · exact .str _
      · exact hsecret _
      · exact hsecret _
  rw [toJson_eq]
  apply Readable.obj
  · show ["id", "name", "hostname", "port", "auth", "apiUrl"].Nodup
    decide
  · simp only [jsonFields, List.mem_cons, List.not_mem_nil, or_false]
    rintro f (rfl | rfl | rfl | rfl | rfl | rfl)
    · exact .str _
    · exact .str _
    · exact .str _
    · exact .int h
    · exact hauth
    · exact .str _

theorem isWritable_optionalText (s : Option String) : (optionalText s).isWritable = true := by
  cases s <;> rfl

/-- A profile is written unless its port has too many digits. -/
theorem isWritable_toJson (p : Profile) :
    p.toJson.isWritable = decide (p.port.natAbs < 10 ^ maxDigits) := by
  have hport : (Nat.toDigits 10 p.port.natAbs).length ≤ maxDigits ↔ p.port.natAbs < 10 ^ maxDigits :=
    Nat.length_toDigits_le_iff (by decide) (by decide)
  simp [toJson_eq, jsonFields, authJson, isWritable_optionalText, Value.isWritable, areFieldsWritable,
    hport]

theorem natAbs_builtIn_port_lt : builtIn.port.natAbs < 10 ^ maxDigits :=
  lt_limit (by decide : builtIn.port.natAbs < 10 ^ 4) (by decide)

end Profile

/-! ## Configurations -/

namespace Config

variable {c : Config} {fields : Fields}

/-- The configuration lasts when it is saved: it has the built-in profile and an active id, and no port
has more digits than are read. -/
structure Lasting (c : Config) : Prop where
  builtIn : ∃ p ∈ c.profiles, p.id = Profile.defaultId
  active : c.activeId ≠ ""
  ports : ∀ p ∈ c.profiles, p.port.natAbs < 10 ^ maxDigits

theorem profilesOf_toJson (profiles : List Profile) :
    profilesOf (profiles.map Profile.toJson) = .ok profiles := by
  induction profiles with
  | nil => rfl
  | cons p profiles ih =>
    rw [List.map_cons, Profile.toJson_eq, profilesOf, Profile.ofFields_jsonFields]
    dsimp only
    rw [ih, Except.map]

/-- The fields that a configuration is written as. -/
def jsonFields (c : Config) : Fields :=
  [("activeProfile", .str c.activeId), ("profiles", .arr (c.profiles.map Profile.toJson))]

theorem toJson_eq (c : Config) : c.toJson = .obj c.jsonFields :=
  rfl

theorem readable_toJson (h : ∀ p ∈ c.profiles, p.port.natAbs < 10 ^ maxDigits) (room : Nat) :
    Readable (room + 4) c.toJson := by
  have hprofiles : Readable (room + 3) (.arr (c.profiles.map Profile.toJson)) := by
    apply Readable.arr
    intro v hv
    obtain ⟨p, hp, rfl⟩ := List.mem_map.mp hv
    exact Profile.readable_toJson (h p hp) room
  rw [toJson_eq]
  apply Readable.obj
  · show ["activeProfile", "profiles"].Nodup
    decide
  · simp only [jsonFields, List.mem_cons, List.not_mem_nil, or_false]
    rintro f (rfl | rfl)
    · exact .str _
    · exact hprofiles

/-- A configuration is written unless a port of it has too many digits. -/
theorem isWritable_toJson_iff :
    c.toJson.isWritable = true ↔ ∀ p ∈ c.profiles, p.port.natAbs < 10 ^ maxDigits := by
  have hprofiles : ∀ profiles : List Profile, areItemsWritable (profiles.map Profile.toJson) = true ↔
      ∀ p ∈ profiles, p.port.natAbs < 10 ^ maxDigits := by
    intro profiles
    induction profiles with
    | nil => simp [areItemsWritable]
    | cons p profiles ih => simp [areItemsWritable, Profile.isWritable_toJson, ih]
  simp [toJson_eq, jsonFields, Value.isWritable, areFieldsWritable, hprofiles]

theorem Lasting.isWritable (h : c.Lasting) : c.toJson.isWritable = true :=
  isWritable_toJson_iff.mpr h.ports

theorem withBuiltIn_eq_self {profiles : List Profile}
    (h : ∃ p ∈ profiles, p.id = Profile.defaultId) : withBuiltIn profiles = profiles := by
  apply if_pos
  obtain ⟨p, hp, hid⟩ := h
  exact List.any_eq_true.mpr ⟨p, hp, decide_eq_true hid⟩

theorem parts_jsonFields (c : Config) :
    c.jsonFields.parts "profiles" = .ok (c.profiles.map Profile.toJson) := by
  have hget : c.jsonFields.get? "profiles" = some (.arr (c.profiles.map Profile.toJson)) := rfl
  unfold Fields.parts Fields.truthy?
  rw [hget]
  cases c.profiles with
  | nil => rfl
  | cons p profiles => rfl

/-- A configuration is read back from its fields. -/
theorem ofFields_jsonFields (h : c.Lasting) : ofFields c.jsonFields = .ok c := by
  have hactive : activeIdOf c.jsonFields = c.activeId := by
    have hget : c.jsonFields.string? "activeProfile" = some c.activeId := rfl
    unfold activeIdOf
    rw [hget]
    exact if_neg h.active
  rw [ofFields, parts_jsonFields]
  dsimp only
  rw [profilesOf_toJson, hactive, Except.map, withBuiltIn_eq_self h.builtIn]

/-! ## What is read from any fields -/

theorem exists_builtIn (profiles : List Profile) :
    ∃ p ∈ withBuiltIn profiles, p.id = Profile.defaultId := by
  unfold withBuiltIn
  split
  · rename_i h
    obtain ⟨p, hp, hid⟩ := List.any_eq_true.mp h
    exact ⟨p, hp, of_decide_eq_true hid⟩
  · exact ⟨Profile.builtIn, List.mem_cons_self, rfl⟩

theorem activeIdOf_ne (fields : Fields) : activeIdOf fields ≠ "" := by
  unfold activeIdOf
  split
  · split
    · decide
    · rename_i h
      exact h
  · decide

theorem natAbs_port_lt {p : Profile} (hfields : Bounded (.obj fields))
    (h : Profile.ofFields fields = .ok p) : p.port.natAbs < 10 ^ maxDigits := by
  unfold Profile.ofFields at h
  cases hport : fields.int "port" with
  | error e =>
    rw [hport] at h
    cases h
  | ok port =>
    rw [hport] at h
    cases h
    exact natAbs_int_lt hfields hport

theorem ports_of_profilesOf {values : List Value} {profiles : List Profile}
    (hvalues : ∀ v ∈ values, Bounded v) (h : profilesOf values = .ok profiles) :
    ∀ p ∈ profiles, p.port.natAbs < 10 ^ maxDigits := by
  -- as the values are read: none, a bad profile, a profile, a value that is no object
  fun_induction profilesOf values generalizing profiles with
  | case1 =>
    cases h
    simp
  | case2 fields rest e _ => cases h
  | case3 fields rest q hq ih =>
    have hrest := fun v hv => hvalues v (List.mem_cons_of_mem _ hv)
    cases hprofiles : profilesOf rest with
    | error e =>
      rw [hprofiles] at h
      cases h
    | ok others =>
      rw [hprofiles] at h
      cases h
      intro p hp
      rcases List.mem_cons.mp hp with rfl | hp
      · exact natAbs_port_lt (hvalues _ List.mem_cons_self) hq
      · exact ih hrest hprofiles p hp
  | case4 v rest _ ih => exact ih (fun w hw => hvalues w (List.mem_cons_of_mem v hw)) h

/-- What is read from the fields of a text lasts. -/
theorem lasting_of_ofFields (hfields : Bounded (.obj fields)) (h : ofFields fields = .ok c) :
    c.Lasting := by
  unfold ofFields at h
  split at h
  · cases h
  rename_i values hparts
  cases hprofiles : profilesOf values with
  | error e =>
    rw [hprofiles] at h
    cases h
  | ok profiles =>
    rw [hprofiles] at h
    cases h
    have hports := ports_of_profilesOf (bounded_parts hfields hparts) hprofiles
    refine ⟨exists_builtIn profiles, activeIdOf_ne fields, ?_⟩
    intro p hp
    -- the built-in profile may have been put before those that were read
    have hp : p = Profile.builtIn ∨ p ∈ profiles := by
      dsimp only at hp
      unfold withBuiltIn at hp
      split at hp
      · exact .inr hp
      · exact List.mem_cons.mp hp
    rcases hp with rfl | hp
    · exact Profile.natAbs_builtIn_port_lt
    · exact hports p hp

theorem lasting_initial : initial.Lasting := by
  have hport : ∀ p ∈ initial.profiles, p.port.natAbs < 10 ^ maxDigits := by
    intro p hp
    rw [List.mem_singleton.mp hp]
    exact Profile.natAbs_builtIn_port_lt
  exact ⟨⟨Profile.builtIn, List.mem_cons_self, rfl⟩, by decide, hport⟩

/-! ## Changes -/

/-- What is made of a configuration that lasts by making a profile with an id the active one lasts. -/
theorem Lasting.use {c' : Config} {id : String} (h : c.Lasting) (hid : id ≠ "")
    (huse : c.use id = .ok c') : c'.Lasting := by
  rw [Config.use] at huse
  split at huse
  · cases huse
    exact { h with active := hid }
  · cases huse

theorem Lasting.add {c' : Config} {p : Profile} (h : c.Lasting)
    (hport : p.port.natAbs < 10 ^ maxDigits) (hadd : c.add p = .ok c') : c'.Lasting := by
  rw [Config.add] at hadd
  split at hadd
  · cases hadd
  split at hadd
  · cases hadd
  split at hadd
  · cases hadd
  cases hadd
  obtain ⟨q, hq, hid⟩ := h.builtIn
  exact ⟨⟨q, List.mem_append_left _ hq, hid⟩, h.active,
    List.forall_mem_append.mpr ⟨h.ports, List.forall_mem_singleton.mpr hport⟩⟩

/-- The built-in profile is not removed, and the active id does not become empty. -/
theorem Lasting.remove {c' : Config} {id : String} (h : c.Lasting) (hremove : c.remove id = .ok c') :
    c'.Lasting := by
  rw [Config.remove] at hremove
  split at hremove
  · cases hremove
  rename_i hid
  split at hremove
  · cases hremove
  cases hremove
  obtain ⟨q, hq, hbuiltIn⟩ := h.builtIn
  refine ⟨⟨q, List.mem_filter.mpr ⟨hq, ?_⟩, hbuiltIn⟩, ?_,
    fun p hp => h.ports p (List.mem_filter.mp hp).1⟩
  · rw [hbuiltIn]
    exact decide_eq_true (Ne.symm hid)
  · dsimp only
    split
    · decide
    · exact h.active

end Config

end WorkspaceDesk

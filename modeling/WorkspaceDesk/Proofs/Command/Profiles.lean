import WorkspaceDesk.Command.Run
import WorkspaceDesk.Proofs.Command.Arguments
import WorkspaceDesk.Proofs.Profile.Sound
import WorkspaceDesk.Proofs.Profile.Stored

/-!
# Commands about profiles keep the configuration sound

Each command about profiles leaves a sound configuration in the directory, whether it succeeds, is refused or
fails (`SoundIn`): it saves what has been made of the loaded configuration by a change that is allowed, or
nothing. So after any calls of the program the configuration can be loaded and is sound
(`load_afterCalls`).
-/

namespace WorkspaceDesk.Command

open Store (Stored)

variable {s : Surroundings} {dir : Path} {d : Desk} {c : Config}

/-! ## The disk of a desk -/

/-- A choice touches no file. -/
theorem disk_choose (d : Desk) (given : Option String) (prompt : Terminal.Link → Prompt.Ran) :
    (d.choose given prompt).1.disk = d.disk := by
  rw [Desk.choose]
  split <;> rfl

theorem disk_settle (d : Desk) (ending : Ending) : (settle d ending).1.disk = d.disk := by
  unfold settle
  split
  · split <;> rfl
  · rfl

theorem disk_refusal_report (r : Refusal) (s : Surroundings) (d : Desk) :
    (r.report s d).1.disk = d.disk := by
  unfold Refusal.report
  split <;> rfl

/-! ## Commands -/

/-- The directory holds a sound configuration. -/
def SoundIn (dir : Path) (disk : Disk) : Prop :=
  ∃ c, Stored disk dir c ∧ c.Sound

theorem SoundIn.exists_load {disk : Disk} (h : SoundIn dir disk) :
    ∃ c, (∀ room, Store.load room disk dir = .ok c) ∧ c.Sound := by
  obtain ⟨c, hstored, hsound⟩ := h
  exact ⟨c, fun room => (hstored.loads room).load, hsound⟩

theorem SoundIn.of_choose {given : Option String} {prompt : Terminal.Link → Prompt.Ran}
    {after : Desk} {chosen : Except Ending String} (h : SoundIn dir d.disk)
    (hchoose : d.choose given prompt = (after, chosen)) : SoundIn dir after.disk := by
  have hdisk := disk_choose d given prompt
  rw [hchoose] at hdisk
  exact hdisk ▸ h

theorem soundIn_saveConfig {changed : Config} (h : SoundIn dir d.disk) (hchanged : changed.Sound)
    (done : String) : SoundIn dir (saveConfig s dir changed done d).1.disk := by
  obtain ⟨c, hstored, hsound⟩ := h
  have hdisk : (saveConfig s dir changed done d).1.disk =
      (Store.save d.disk dir s.token s.weather changed).1 := by
    unfold saveConfig
    split
    · rename_i hsave
      rw [hsave]
    · rename_i hsave
      rw [hsave]
      rfl
  rw [hdisk]
  rcases hstored.save hchanged.lasting with hkept | hsaved
  · exact ⟨c, hkept, hsound⟩
  · exact ⟨changed, hsaved, hchanged⟩

theorem soundIn_saveChange {changed : Except ConfigError Config} (h : SoundIn dir d.disk)
    (hchanged : ∀ c, changed = .ok c → c.Sound) (done : String) :
    SoundIn dir (saveChange s dir changed done d).1.disk := by
  unfold saveChange
  split
  · exact h
  · exact soundIn_saveConfig h (hchanged _ rfl) done

theorem soundIn_listProfiles (h : SoundIn dir d.disk) :
    SoundIn dir (listProfiles s dir d).1.disk := by
  unfold listProfiles
  split
  · exact h
  · dsimp only
    split <;> exact h

theorem soundIn_useProfile (h : SoundIn dir d.disk) (id : Option String) :
    SoundIn dir (useProfile s dir id d).1.disk := by
  obtain ⟨c, hload, hsound⟩ := h.exists_load
  unfold useProfile
  rw [hload]
  dsimp only
  split
  · rename_i hchoose
    exact h.of_choose hchoose
  · rename_i hchoose
    have hafter := h.of_choose hchoose
    split
    · exact hafter
    split
    · exact hafter
    · exact soundIn_saveChange hafter (fun changed hchanged => hsound.use hchanged) _

theorem soundIn_addProfile (h : SoundIn dir d.disk) {p : Profile}
    (hport : p.port.natAbs < 10 ^ Text.maxDigits) : SoundIn dir (addProfile s dir p d).1.disk := by
  obtain ⟨c, hload, hsound⟩ := h.exists_load
  unfold addProfile
  rw [hload]
  exact soundIn_saveChange h (fun changed hchanged => hsound.add hport hchanged) _

theorem soundIn_removeProfile (h : SoundIn dir d.disk) (id : Option String) :
    SoundIn dir (removeProfile s dir id d).1.disk := by
  obtain ⟨c, hload, hsound⟩ := h.exists_load
  unfold removeProfile
  rw [hload]
  dsimp only
  split
  · exact h
  split
  · rename_i hchoose
    exact h.of_choose hchoose
  · rename_i hchoose
    have hafter := h.of_choose hchoose
    split
    · exact hafter
    · exact soundIn_saveChange hafter (fun changed hchanged => hsound.remove hchanged) _

/-- The job is about profiles. -/
def Job.IsAboutProfiles : Job → Prop
  | .deleteWorkspace _ _ => False
  | _ => True

theorem soundIn_runJob (h : SoundIn dir d.disk) {job : Job} (hjob : job.IsAboutProfiles)
    (hport : BoundedJob (some job)) : SoundIn dir (runJob s dir d job).1.disk := by
  cases job with
  | listProfiles => exact soundIn_listProfiles h
  | useProfile id => exact soundIn_useProfile h id
  | addProfile p => exact soundIn_addProfile h (hport p rfl)
  | removeProfile id => exact soundIn_removeProfile h id
  | deleteWorkspace => exact hjob.elim

theorem soundIn_run {i : Invocation} (h : SoundIn dir d.disk)
    (hdirectory : ∀ found, Store.directory s.homes i.configDir
      (s.environment.lookup Store.directoryVariable) = .ok found → found = dir)
    (hjob : ∀ job, i.job = some job → job.IsAboutProfiles) (hport : BoundedJob i.job) :
    SoundIn dir (i.run s d).1.disk := by
  unfold Invocation.run
  split
  · exact h
  · rename_i found hfound
    obtain rfl := hdirectory found hfound
    split
    · exact h
    · rename_i job hsome
      rw [disk_settle]
      rw [hsome] at hport
      exact soundIn_runJob h (hjob job hsome) hport

/-! ## Calls -/

/-- A call of the program. -/
structure Call where
  surroundings : Surroundings
  /-- The time that notes bear. -/
  time : String
  arguments : List String

/-- The call is refused, or is about profiles and works in a directory if it finds one. -/
def Call.WorksIn (dir : Path) (call : Call) : Prop :=
  ∀ i, Invocation.ofArguments call.arguments = .ok i →
    (∀ found, Store.directory call.surroundings.homes i.configDir
      (call.surroundings.environment.lookup Store.directoryVariable) = .ok found → found = dir) ∧
    ∀ job, i.job = some job → job.IsAboutProfiles

theorem worksIn_of_eq_ok {call : Call} {i : Invocation}
    (h : Invocation.ofArguments call.arguments = .ok i)
    (hdirectory : Store.directory call.surroundings.homes i.configDir
      (call.surroundings.environment.lookup Store.directoryVariable) = .ok dir)
    (hjob : ∀ job, i.job = some job → job.IsAboutProfiles) : call.WorksIn dir := by
  intro j hj
  obtain rfl := Except.ok.inj (h.symm.trans hj)
  exact ⟨fun found hfound => Except.ok.inj (hfound.symm.trans hdirectory), hjob⟩

/-- The desk after a call. -/
def Desk.afterCall (d : Desk) (call : Call) : Desk :=
  (run call.surroundings call.time call.arguments d).desk

/-- The desk after calls one after the other. -/
def Desk.afterCalls (d : Desk) (calls : List Call) : Desk :=
  calls.foldl Desk.afterCall d

theorem soundIn_afterCall {call : Call} (h : SoundIn dir d.disk) (hcall : call.WorksIn dir) :
    SoundIn dir (d.afterCall call).disk := by
  have hcleared : SoundIn dir ({ d with reports := [] } : Desk).disk := h
  unfold Desk.afterCall run
  dsimp only
  split
  · rename_i r _
    show SoundIn dir (r.report call.surroundings { d with reports := [] }).1.disk
    rwa [disk_refusal_report]
  · rename_i i hi
    obtain ⟨hfound, hjob⟩ := hcall i hi
    exact soundIn_run hcleared hfound hjob (boundedJob_ofArguments hi)

theorem soundIn_afterCalls {calls : List Call} (h : SoundIn dir d.disk)
    (hcalls : ∀ call ∈ calls, call.WorksIn dir) : SoundIn dir (d.afterCalls calls).disk := by
  induction calls generalizing d with
  | nil => exact h
  | cons call rest ih =>
    exact ih (soundIn_afterCall h (hcalls call List.mem_cons_self))
      fun other hother => hcalls other (List.mem_cons_of_mem call hother)

/-- In a directory that starts without a configuration, after any calls about profiles that work in it, a
configuration is loaded: the built-in profile stands first and is the only one of its id, ids differ and may
be used as such, no profile has two secrets, and the active profile is found. -/
theorem load_afterCalls {calls : List Call} (hunsaved : Store.Unsaved d.disk dir)
    (hcalls : ∀ call ∈ calls, call.WorksIn dir) :
    ∃ c, (∀ room, Store.load room (d.afterCalls calls).disk dir = .ok c) ∧
      c.profiles.head? = some Profile.builtIn ∧
      c.profiles.filter (·.id = Profile.defaultId) = [Profile.builtIn] ∧
      (c.profiles.map (·.id)).Nodup ∧
      (∀ p ∈ c.profiles, p.id ≠ "" ∧ p.id ≠ Profile.newId) ∧
      (∀ p ∈ c.profiles, p.auth.password = none ∨ p.auth.privateKeyPath = none) ∧
      ∃ p ∈ c.profiles, p.id = c.activeId ∧ c.active = .ok p := by
  have hsoundIn := soundIn_afterCalls ⟨.initial, .unsaved hunsaved, Config.sound_initial⟩ hcalls
  obtain ⟨c, hload, hsound⟩ := hsoundIn.exists_load
  exact ⟨c, hload, hsound.head, hsound.filter_eq, hsound.nodup, hsound.id_ne, hsound.secrets,
    hsound.exists_active⟩

/-- A profile is added, the save that makes it the active one fails, and the built-in profile is not
removed. -/
theorem load_afterCalls_of_failed_save :
    let fair : Surroundings := ⟨⟨"", []⟩, [], false, Table.Markup.tagReader,
      .scripted [], "abcdefgh", .fair, ⟨990, by decide⟩⟩
    let failing : Surroundings :=
      { fair with
        weather := ⟨fun step => if step = .write then some ⟨.noEntry, "", none⟩ else none, 3⟩ }
    let calls : List Call :=
      [⟨fair, "", ["--config-dir", ".", "profile", "add", "--id", "a", "--hostname", "h", "--port",
        "-1", "--user", "u", "--password="]⟩,
      ⟨failing, "", ["--config-dir", ".", "profile", "use", "a"]⟩,
      ⟨fair, "", ["--config-dir", ".", "profile", "rm", "default"]⟩]
    let d : Desk := ⟨[], default, ⟨.url, [], []⟩, []⟩
    Store.Unsaved d.disk ⟨"", []⟩ ∧ (∀ call ∈ calls, call.WorksIn ⟨"", []⟩) ∧
      ∃ c, Store.load fair.room (d.afterCalls calls).disk ⟨"", []⟩ = .ok c ∧
        c.profiles.filter (·.id = Profile.defaultId) = [Profile.builtIn] ∧
        ∃ p ∈ c.profiles, p.id = c.activeId ∧ c.active = .ok p := by
  intro fair failing calls d
  have hunsaved : Store.Unsaved d.disk ⟨"", []⟩ := Store.unsaved_top rfl
  have hcalls : ∀ call ∈ calls, call.WorksIn ⟨"", []⟩ := by
    simp only [calls, List.mem_cons, List.not_mem_nil, or_false]
    rintro call (rfl | rfl | rfl)
    all_goals
      refine worksIn_of_eq_ok rfl rfl ?_
      intro job hjob
      cases hjob
      trivial
  obtain ⟨c, hload, -, hfilter, -, -, -, hactive⟩ := load_afterCalls hunsaved hcalls
  exact ⟨hunsaved, hcalls, c, hload _, hfilter, hactive⟩

end WorkspaceDesk.Command

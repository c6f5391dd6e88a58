import WorkspaceDesk.Proofs.Command.Changes

/-!
# Choices that are accepted

A command that changes the configuration lets the user choose only what it can go on with: whatever the profiles
are, and whatever is typed, the change that is asked for with a chosen id is allowed (`choice_is_accepted`). An
id that is given on the command line may well be refused.
-/

namespace WorkspaceDesk.Command

variable {s : Surroundings} {dir : Path} {link : Terminal.Link} {d : Desk} {c : Config} {job : Job}
  {ran : Prompt.Ran} {id : String}

/-- The ids that a command can go on with: none, for nothing is to be done; that of the offer to create a
profile, where a profile is to become the active one; that of a profile, and to remove it, of one that is not
the built-in one. -/
inductive Acceptable (c : Config) : Job → String → Prop
  | dismissed (job : Job) : Acceptable c job ""
  | offer (given : Option String) : Acceptable c (.useProfile given) Profile.newId
  | use {given : Option String} {p : Profile} (hp : p ∈ c.profiles) : Acceptable c (.useProfile given) p.id
  | remove {given : Option String} {p : Profile} (hp : p ∈ c.profiles) (hid : p.id ≠ Profile.defaultId) :
    Acceptable c (.removeProfile given) p.id

/-- A prompt yields nothing else. -/
theorem acceptable_of_prompts (hprompts : Prompts s link c job ran) (hresult : ran.result = .ok id) :
    Acceptable c job id := by
  cases hprompts with
  | use hgiven =>
    rcases Prompt.chooseProfile_ends hresult with ⟨p, hp, rfl⟩ | rfl
    · rcases List.mem_append.mp hp with hp | hp
      · exact .use hp
      · obtain rfl := List.mem_singleton.mp hp
        exact .offer _
    · exact .dismissed _
  | remove hgiven hsome =>
    rcases Prompt.chooseProfile_ends hresult with ⟨p, hp, rfl⟩ | rfl
    · obtain ⟨hp, hid⟩ := List.mem_filter.mp hp
      exact .remove hp (of_decide_eq_true hid)
    · exact .dismissed _

/-- A profile of the configuration is found by its id. -/
theorem isSome_get? {p : Profile} (hp : p ∈ c.profiles) : (c.get? p.id).isSome = true := by
  rw [Config.get?, List.find?_isSome]
  exact ⟨p, hp, decide_eq_true rfl⟩

/-- The command has done all it had to do, but for a save that the disk may have refused. -/
def Accepted (ending : Ending) : Prop :=
  ending = .status 0 ∨ ∃ e, ending = .failed (.save (.disk e))

theorem accepted_saveChange {changed : Except ConfigError Config} {c' : Config} (h : changed = .ok c')
    (hlasting : c'.Lasting) (done : String) (d : Desk) : Accepted (saveChange s dir changed done d).2 := by
  rw [h, saveChange, saveConfig]
  split
  · rename_i hsave
    obtain ⟨e, rfl⟩ := Store.exists_disk_of_save_eq_error hlasting.isWritable hsave
    exact .inr ⟨e, rfl⟩
  · exact .inl rfl

/-- Whatever the prompt yields, the command is not refused its change. -/
theorem accepted_of_prompts (hload : Store.load s.room d.disk dir = .ok c) (hprompts : Prompts s d.link c job ran)
    (hresult : ran.result = .ok id) : Accepted (runJob s dir d job).2 := by
  have hid := acceptable_of_prompts hprompts hresult
  have hlasting := Store.lasting_of_load hload
  cases hprompts with
  | use hgiven =>
    rw [runJob, useProfile, hload]
    dsimp only
    rw [choose_of_silent hgiven, hresult]
    show Accepted (if id = "" then _ else if id = Profile.newId then _ else _ : Desk × Ending).2
    split
    · exact .inl rfl
    rename_i hempty
    split
    · exact .inl rfl
    rename_i hnew
    have huse : c.use id = .ok { c with activeId := id } := by
      cases hid with
      | dismissed => exact absurd rfl hempty
      | offer => exact absurd rfl hnew
      | use hp => rw [Config.use, if_pos (isSome_get? hp)]
    exact accepted_saveChange huse (hlasting.use hempty huse) _ _
  | remove hgiven hsome =>
    rw [runJob, removeProfile, hload]
    dsimp only
    rw [if_neg fun h => hsome h.2, choose_of_silent hgiven, hresult]
    show Accepted (if id = "" then _ else _ : Desk × Ending).2
    split
    · exact .inl rfl
    rename_i hempty
    obtain ⟨c', hremove⟩ : ∃ c', c.remove id = .ok c' := by
      cases hid with
      | dismissed => exact absurd rfl hempty
      | remove hp hdefault =>
        obtain ⟨found, hfound⟩ := Option.isSome_iff_exists.mp (isSome_get? hp)
        rw [Config.remove, if_neg hdefault, hfound, if_neg (by simp)]
        exact ⟨_, rfl⟩
    exact accepted_saveChange hremove (hlasting.remove hremove) _ _

theorem accepted_settle {ending : Ending} (h : Accepted ending) (d : Desk) :
    Accepted (settle d ending).2 := by
  rcases h with rfl | ⟨e, rfl⟩
  · exact .inl rfl
  · exact .inr ⟨e, rfl⟩

/-- Whatever configuration is loaded from the directory, and whatever is typed at the prompt that is shown where
no id is given: once the prompt has yielded an id, it is one that the command can go on with, and the command
ends well, or with a failure of the disk to save the change. -/
theorem choice_is_accepted {configDir : Option String} (hdirectory : FindsDirectory s dir configDir)
    (hload : Store.load s.room d.disk dir = .ok c) (hprompts : Prompts s d.link c job ran)
    (hresult : ran.result = .ok id) (debug : Bool) :
    Acceptable c job id ∧ Accepted (Invocation.run s d ⟨configDir, debug, some job⟩).2 := by
  refine ⟨acceptable_of_prompts hprompts hresult, ?_⟩
  rw [run_of_findsDirectory hdirectory]
  exact accepted_settle (accepted_of_prompts hload hprompts hresult) _

/-- Two profiles share an id, one has that of the offer, and the active one is gone: the last of those that can
be removed is chosen and confirmed, in a window that is too narrow to show a column. -/
theorem choice_is_accepted_of_shared_id :
    let profile (id name : String) : Profile := ⟨id, name, "h", 22, ⟨"u", none, none⟩, ""⟩
    let c : Config := ⟨"gone", [Profile.builtIn, profile "+" "x", profile "a" "y", profile "a" "z"]⟩
    let s : Surroundings :=
      ⟨⟨"", []⟩, [], false, Table.Markup.tagReader,
        .scripted [.events [.key .endKey], .events [.key .enter]], "abcdefgh", .fair, ⟨990, by decide⟩⟩
    let d : Desk := ⟨[(["config.json"], .file (Store.contents c))],
      { (default : Terminal.Link) with size := ⟨9, 24⟩ }, ⟨.url, [], []⟩, []⟩
    Store.load s.room d.disk ⟨"", []⟩ = .ok c ∧
      (∃ ran, Prompts s d.link c (.removeProfile none) ran ∧ ran.result = .ok "a") ∧
      Acceptable c (.removeProfile none) "a" ∧
      Accepted (Invocation.run s d ⟨some ".", false, some (.removeProfile none)⟩).2 := by
  intro profile c s d
  have hlasting : c.Lasting := by
    refine ⟨⟨_, List.mem_cons_self, rfl⟩, by decide, fun p hp => ?_⟩
    have hport : p.port.natAbs < 10 ^ 4 := by
      revert p
      decide
    exact Nat.lt_of_lt_of_le hport (Nat.pow_le_pow_right (by decide) (by decide))
  have hload : Store.load s.room d.disk ⟨"", []⟩ = .ok c :=
    Store.load_of_read hlasting (Disk.read_single (by decide) (by decide) (by decide) _)
  have hprompts : Prompts s d.link c (.removeProfile none) _ := .remove (by simp [Silent]) (by decide)
  have hresult : (Prompt.chooseProfile d.link s.console s.source (removable c) c.activeId
      "Select a profile to remove" false).result = .ok "a" := by rfl
  have hdirectory : FindsDirectory s ⟨"", []⟩ (some ".") := rfl
  exact ⟨hload, ⟨_, hprompts, hresult⟩, choice_is_accepted hdirectory hload hprompts hresult false⟩

end WorkspaceDesk.Command

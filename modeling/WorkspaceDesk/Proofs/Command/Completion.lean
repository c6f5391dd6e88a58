import WorkspaceDesk.Proofs.Command.Deletion
import WorkspaceDesk.Proofs.Service.Listing
import WorkspaceDesk.Proofs.Ssh.Cleared

/-!
# Completing a deletion

Once the service has deleted a workspace, its entries in the SSH configuration of the user are to go as well. The
command completes the deletion if and only if the configuration is a text or the workspace has no projects
(`deletion_completes_iff`). Otherwise it fails and leaves the entries of a workspace that is gone.
-/

namespace WorkspaceDesk.Command

open Service Text

/-! ## What is to be done -/

/-- A run of the command has a workspace deleted: the service lists the workspaces, a name is given or chosen, and
the service deletes the workspace of this name. -/
structure Deletes (s : Surroundings) (dir : Path) (argument : Option String) (force : Bool) (d : Desk)
    (p : Profile) (client : Client) (workspaces : List Workspace) (name : String) : Prop where
  serves : Serves s dir d p client
  listed : (client.list s.room d.exchange).2 = .ok workspaces
  found : (workspaceName s argument workspaces (listWorkspaces s client d).1).2 = .ok name
  named : name ≠ ""
  removed : (client.remove (client.list s.room d.exchange).1 name force).2 = .ok ()

/-- The SSH configuration has no header line of any of the projects. -/
def NoEntries (home : Path) (profileId name : String) (projects : List String) (disk : Disk) : Prop :=
  ∃ bytes, disk.read (sshConfigPath home) = .ok bytes ∧ ∀ text, Ssh.HasText bytes text →
    ∀ project ∈ projects, Ssh.Cleared [(Ssh.hostName profileId name project).toList] (lines text)

/-- The deletion is completed: the command ends well, tells so at last, and no entry is left. -/
structure Completes (home : Path) (profileId name : String) (projects : List String) (d after : Desk)
    (ending : Ending) : Prop where
  succeeds : ending = .status 0
  told : ∃ before, after.reports = d.reports ++ before ++ [.output (deletedLine name)]
  noEntries : NoEntries home profileId name projects after.disk

variable {s : Surroundings} {dir home : Path} {argument : Option String} {force : Bool} {d after : Desk}
  {p : Profile} {client : Client} {workspaces : List Workspace} {name profileId : String}
  {projects : List String} {bytes : Bytes}

/-! ## The hosts of a workspace -/

theorem ne_empty_of_mem_projectsOf {room : Json.Room} {x : Exchange}
    (h : (client.list room x).2 = .ok workspaces) :
    ∀ project ∈ projectsOf workspaces name, project ≠ "" := by
  unfold projectsOf
  cases hfound : workspaces.find? (·.name = name) with
  | none => simp
  | some w => exact Client.ne_empty_of_list h w (List.mem_of_find?_eq_some hfound)

theorem not_isEmpty_hostNames (h : ∀ project ∈ projects, project ≠ "") (hprojects : projects ≠ [])
    (profileId name : String) : ¬ (Ssh.hostNames profileId name projects).isEmpty = true := by
  obtain ⟨project, hproject⟩ := List.exists_mem_of_ne_nil projects hprojects
  rw [List.isEmpty_iff]
  exact List.ne_nil_of_mem (Ssh.mem_hostNames hproject (h project hproject) profileId name)

/-! ## Removing the entries -/

/-- Where there is nothing to remove, or a text to remove it from, no entry is left. -/
theorem exists_removeSshEntries (hhome : s.homes.home = .ok home)
    (hread : d.disk.read (sshConfigPath home) = .ok bytes) (hnames : ∀ project ∈ projects, project ≠ "")
    (h : projects = [] ∨ ∃ text, Ssh.HasText bytes text) (profileId name : String) :
    ∃ after n, removeSshEntries s profileId name projects d = (after, .ok n) ∧
      AddsQuietly d after ∧ NoEntries home profileId name projects after.disk := by
  by_cases hprojects : projects = []
  · subst hprojects
    refine ⟨d, 0, rfl, addsQuietly_refl d, bytes, hread, fun text _ project hproject => ?_⟩
    cases hproject
  · obtain ⟨text, htext⟩ := h.resolve_left hprojects
    obtain ⟨disk, n, bytes', text', hremove, hread', htext', hcleared⟩ :=
      Ssh.removeWorkspace_clears hread htext profileId name projects
    have hnoEntries : NoEntries home profileId name projects disk := by
      refine ⟨bytes', hread', fun other hother project hproject => ?_⟩
      rw [htext'.unique hother]
      exact hcleared project hproject (hnames project hproject)
    rw [removeSshEntries, if_neg (not_isEmpty_hostNames hnames hprojects _ _), hhome]
    dsimp only
    rw [hremove]
    dsimp only
    split
    · exact ⟨_, n, rfl, addsQuietly_refl d, hnoEntries⟩
    · exact ⟨_, n, rfl, addsQuietly_note d _ _, hnoEntries⟩

/-- Where the configuration is no text, the entries stay. -/
theorem removeSshEntries_of_fault {f : Utf8.Fault} (hhome : s.homes.home = .ok home)
    (hread : d.disk.read (sshConfigPath home) = .ok bytes) (hnames : ∀ project ∈ projects, project ≠ "")
    (hprojects : projects ≠ []) (hfault : Utf8.decode bytes = .error f) (profileId name : String) :
    removeSshEntries s profileId name projects d = (d, .error (.ssh (.undecodable f))) := by
  have hhosts := not_isEmpty_hostNames hnames hprojects profileId name
  rw [removeSshEntries, if_neg hhosts, hhome]
  simp only [Ssh.removeWorkspace, Ssh.removeHosts, if_neg hhosts, hread, hfault]

/-! ## The run -/

/-- The service has deleted the workspace, and nothing else has changed but for the line and the reports. -/
theorem Deletes.exists_called (h : Deletes s dir argument force d p client workspaces name) :
    ∃ between called, removeFromService client name force between = (called, .ok ()) ∧
      called.disk = d.disk ∧ AddsQuietly d called ∧
      deleteWorkspace s dir argument force d =
        removeWorkspace s p client name force (projectsOf workspaces name) between := by
  obtain ⟨⟨c, hload, hactive, hurl⟩, hlist, hfound, hnamed, hremoved⟩ := h
  have hlisted : listWorkspaces s client d = ((listWorkspaces s client d).1, .ok workspaces) :=
    Prod.ext rfl hlist
  obtain ⟨between, hname⟩ : ∃ between,
      workspaceName s argument workspaces (listWorkspaces s client d).1 = (between, .ok name) :=
    ⟨_, Prod.ext rfl hfound⟩
  have hbetween := listed_of_workspaceName hname
  have hcalled : (removeFromService client name force between).2 = .ok () := by
    rw [← hremoved, ← hbetween.exchange]
    rfl
  refine ⟨between, _, Prod.ext rfl hcalled, hbetween.disk,
    hbetween.reports.trans (addsQuietly_removeFromService _ _ _ _), ?_⟩
  rw [deleteWorkspace, hload]
  dsimp only
  rw [hactive]
  dsimp only
  rw [deleteFrom, hurl]
  dsimp only
  rw [hlisted]
  dsimp only
  rw [hname]
  exact if_neg hnamed

section Completion

variable {configDir : Option String} (hdirectory : FindsDirectory s dir configDir)
  (hdeletes : Deletes s dir argument force d p client workspaces name)
  (hhome : s.homes.home = .ok home) (hread : d.disk.read (sshConfigPath home) = .ok bytes)
include hdirectory hdeletes hhome hread

theorem completes_of_text (h : projectsOf workspaces name = [] ∨ ∃ text, Ssh.HasText bytes text)
    (debug : Bool) :
    let run := Invocation.run s d ⟨configDir, debug, some (.deleteWorkspace argument force)⟩
    Completes home p.id name (projectsOf workspaces name) d run.1 run.2 := by
  have hnames : ∀ project ∈ projectsOf workspaces name, project ≠ "" :=
    ne_empty_of_mem_projectsOf hdeletes.listed
  obtain ⟨between, called, hcalled, hdisk, hquiet, hdelete⟩ := hdeletes.exists_called
  rw [← hdisk] at hread
  obtain ⟨after, n, hssh, hafter, hnoEntries⟩ :=
    exists_removeSshEntries hhome hread hnames h p.id name
  obtain ⟨noted, hnoted, hremove⟩ := removeWorkspace_of_cleared hcalled hssh
  obtain ⟨new, hnew, -⟩ := (hquiet.trans hafter).trans hnoted.reports
  rw [run_of_findsDirectory hdirectory, runJob, hdelete, hremove]
  refine ⟨rfl, ⟨new, ?_⟩, ?_⟩
  · rw [← hnew]
    rfl
  · rw [← hnoted.disk] at hnoEntries
    exact hnoEntries

theorem failed_of_fault {f : Utf8.Fault} (hprojects : projectsOf workspaces name ≠ [])
    (hfault : Utf8.decode bytes = .error f) (debug : Bool) :
    let run := Invocation.run s d ⟨configDir, debug, some (.deleteWorkspace argument force)⟩
    run.2 = .failed (.ssh (.undecodable f)) ∧ run.1.disk = d.disk := by
  have hnames : ∀ project ∈ projectsOf workspaces name, project ≠ "" :=
    ne_empty_of_mem_projectsOf hdeletes.listed
  obtain ⟨between, called, hcalled, hdisk, -, hdelete⟩ := hdeletes.exists_called
  rw [← hdisk] at hread
  have hssh := removeSshEntries_of_fault hhome hread hnames hprojects hfault p.id name
  rw [run_of_findsDirectory hdirectory, runJob, hdelete, removeWorkspace_of_kept hcalled hssh]
  exact ⟨rfl, hdisk⟩

/-- Whatever the bytes of the SSH configuration of the user are: where the service has deleted a workspace, the
command completes the deletion if and only if the bytes are a text or the workspace has no projects. If they are
no text, it fails and leaves the entries of the projects as they are. -/
theorem deletion_completes_iff (debug : Bool) :
    let run := Invocation.run s d ⟨configDir, debug, some (.deleteWorkspace argument force)⟩
    let projects := projectsOf workspaces name
    (Completes home p.id name projects d run.1 run.2 ↔
        projects = [] ∨ ∃ text, Ssh.HasText bytes text) ∧
      ∀ f, projects ≠ [] → Utf8.decode bytes = .error f →
        run.2 = .failed (.ssh (.undecodable f)) ∧ run.1.disk = d.disk := by
  intro run projects
  have hfailed : ∀ f, projects ≠ [] → Utf8.decode bytes = .error f →
      run.2 = .failed (.ssh (.undecodable f)) ∧ run.1.disk = d.disk := fun f hprojects hfault =>
    failed_of_fault hdirectory hdeletes hhome hread hprojects hfault debug
  refine ⟨⟨fun hcompletes => ?_, fun h => ?_⟩, hfailed⟩
  · by_cases hprojects : projects = []
    · exact .inl hprojects
    · cases hdecode : Utf8.decode bytes with
      | ok raw => exact .inr ⟨_, raw, hdecode, rfl⟩
      | error f => cases hcompletes.succeeds.symm.trans (hfailed f hprojects hdecode).1
  · exact completes_of_text hdirectory hdeletes hhome hread h debug

end Completion

/-! ## A workspace with two projects -/

/-- The home directory is the top, and the environment says nothing. -/
def plainSurroundings : Surroundings :=
  ⟨⟨"", []⟩, [], false, Table.Markup.tagReader, .scripted [], "abcdefgh", .fair,
    ⟨990, Nat.le_of_ble_eq_true rfl⟩⟩

/-- A desk with an SSH configuration, and a line to a service that lists one workspace. The name of one of its
projects has a line feed in it. -/
def deskOfConfig (bytes : Bytes) : Desk :=
  ⟨[([".ssh"], .directory), ([".ssh", "config"], .file bytes)], default,
    Client.lineOf "[\x7b\"name\": \"ws\", \"projects\": [\"a\\nb\", \"c\"]\x7d]", []⟩

theorem home_plainSurroundings : plainSurroundings.homes.home = .ok ⟨"/", []⟩ := by
  have htilde : Path.ofText "~" = ⟨"", ["~"]⟩ := by decide +kernel
  have hnull : "~".contains '\x00' = false := by
    rw [String.contains_char_eq]
    rfl
  simp only [Homes.home, htilde, Homes.expand, hnull]
  decide +kernel

theorem findsDirectory_plainSurroundings :
    FindsDirectory plainSurroundings ⟨"", []⟩ (some ".") :=
  rfl

theorem read_deskOfConfig (bytes : Bytes) :
    (deskOfConfig bytes).disk.read (sshConfigPath ⟨"/", []⟩) = .ok bytes := by
  have hlocate := (deskOfConfig bytes).disk.locate_eq_walk (p := sshConfigPath ⟨"/", []⟩) (by decide +kernel)
    (by decide +kernel)
  exact Disk.read_eq_ok_iff.mpr ⟨[".ssh", "config"], hlocate, rfl⟩

theorem deletes_deskOfConfig (bytes : Bytes) :
    ∃ client, Deletes plainSurroundings ⟨"", []⟩ (some "ws") false (deskOfConfig bytes) Profile.builtIn
      client [⟨"", "ws", ["a\nb", "c"]⟩] "ws" := by
  have hunsaved : Store.Unsaved (deskOfConfig bytes).disk ⟨"", []⟩ := Store.unsaved_top rfl
  have hload := (Store.loads_of_unsaved plainSurroundings.room hunsaved).load
  refine ⟨_, ⟨_, hload, rfl, rfl⟩, ?_, rfl, by decide, rfl⟩
  rw [deskOfConfig, Client.list_lineOf]
  decide +kernel

/-- Whatever surrounds the entries, and though one of the names takes up two lines, no entry is left. -/
theorem deletion_completes_of_name_with_feed :
    let bytes := Utf8.encode
      "Host default-ws-a\nb\n  x\nHost default-ws-c \t\n  y\n\nHost keep\nHost default-ws-c".toList
    let d := deskOfConfig bytes
    let run := Invocation.run plainSurroundings d ⟨some ".", true, some (.deleteWorkspace (some "ws") false)⟩
    FindsDirectory plainSurroundings ⟨"", []⟩ (some ".") ∧
      d.disk.read (sshConfigPath ⟨"/", []⟩) = .ok bytes ∧
      Completes ⟨"/", []⟩ "default" "ws" ["a\nb", "c"] d run.1 run.2 := by
  intro bytes d run
  obtain ⟨client, hdeletes⟩ := deletes_deskOfConfig bytes
  have htext : ∃ text, Ssh.HasText bytes text := ⟨_, Ssh.hasText_encode (by decide)⟩
  obtain ⟨hiff, -⟩ := deletion_completes_iff findsDirectory_plainSurroundings hdeletes
    home_plainSurroundings (read_deskOfConfig bytes) true
  exact ⟨findsDirectory_plainSurroundings, read_deskOfConfig bytes, hiff.mpr (.inr htext)⟩

/-- Bytes that are no text keep the deletion from being completed: the service has deleted the workspace, and the
command fails. -/
theorem deletion_fails_of_bytes_without_text :
    let d := deskOfConfig [0xff]
    let run := Invocation.run plainSurroundings d ⟨some ".", false, some (.deleteWorkspace (some "ws") false)⟩
    (∃ client, Deletes plainSurroundings ⟨"", []⟩ (some "ws") false d Profile.builtIn client
        [⟨"", "ws", ["a\nb", "c"]⟩] "ws") ∧
      d.disk.read (sshConfigPath ⟨"/", []⟩) = .ok [0xff] ∧
      run.2 = .failed (.ssh (.undecodable ⟨0, 1, 0xff, .startByte⟩)) ∧
      ¬ Completes ⟨"/", []⟩ "default" "ws" ["a\nb", "c"] d run.1 run.2 := by
  intro d run
  obtain ⟨client, hdeletes⟩ := deletes_deskOfConfig [0xff]
  have hfault : Utf8.decode [0xff] = .error ⟨0, 1, 0xff, .startByte⟩ := rfl
  obtain ⟨hending, -⟩ := failed_of_fault findsDirectory_plainSurroundings hdeletes home_plainSurroundings
    (read_deskOfConfig [0xff]) (by decide) hfault false
  refine ⟨⟨client, hdeletes⟩, read_deskOfConfig [0xff], hending, fun hcompletes => ?_⟩
  cases hcompletes.succeeds.symm.trans hending

end WorkspaceDesk.Command

import WorkspaceDesk.Proofs.Command.Profiles
import WorkspaceDesk.Proofs.Prompt.Choice

/-!
# Deleting a workspace

A run of the command asks the service for the list before it asks it to delete anything, deletes
only what was named, and leaves the disk alone unless the service has deleted the workspace
(`deletion_run`). The command can take five courses (`Course`), and each of them is followed through
to its end.
-/

namespace WorkspaceDesk.Command

open Service

/-! ## Calls of the service -/

/-- A call of the service, and what it gives. -/
inductive ServiceCall where
  | list (listed : Except ClientError (List Workspace))
  | remove (name : String) (force : Bool) (removed : Except ClientError Unit)

/-- A client has made calls of the service, and nothing else has happened on the line. -/
inductive Called (room : Json.Room) (client : Client) : Exchange → List ServiceCall → Exchange → Prop
  | done (x : Exchange) : Called room client x [] x
  | list {x y : Exchange} {calls : List ServiceCall}
      (rest : Called room client (client.list room x).1 calls y) :
    Called room client x (.list (client.list room x).2 :: calls) y
  | remove {x y : Exchange} {calls : List ServiceCall} (name : String) (force : Bool)
      (rest : Called room client (client.remove x name force).1 calls y) :
    Called room client x (.remove name force (client.remove x name force).2 :: calls) y

/-! ## What a run is about -/

section Terms

variable (s : Surroundings) (dir : Path) (d : Desk) (link : Terminal.Link)
  (argument : Option String)

/-- The directory that the configuration is looked for in. -/
def FindsDirectory (configDir : Option String) : Prop :=
  Store.directory s.homes configDir (s.environment.lookup Store.directoryVariable) = .ok dir

/-- The configuration has an active profile, and it names a service. -/
def Serves (p : Profile) (client : Client) : Prop :=
  ∃ c, Store.load s.room d.disk dir = .ok c ∧ c.active = .ok p ∧
    Client.ofUrl p.apiUrl defaultTimeout = .ok client

/-- The command fails before the service is called. -/
inductive Unserved : Failure → Prop
  | load {e : Store.LoadError} (h : Store.load s.room d.disk dir = .error e) : Unserved (.load e)
  | active {c : Config} {e : ConfigError} (hload : Store.load s.room d.disk dir = .ok c)
      (h : c.active = .error e) : Unserved (.config e)
  | url {c : Config} {p : Profile} {e : ClientError} (hload : Store.load s.room d.disk dir = .ok c)
      (hactive : c.active = .ok p) (h : Client.ofUrl p.apiUrl defaultTimeout = .error e) :
    Unserved (.client e)

/-- The command fails, at whatever stage. -/
inductive Fails (calls : List ServiceCall) : Failure → Prop
  | unserved {f : Failure} (h : Unserved s dir d f) : Fails calls f
  | list {e : ClientError} (h : .list (.error e) ∈ calls) : Fails calls (.client e)
  | remove {name : String} {force : Bool} {e : ClientError}
      (h : .remove name force (.error e) ∈ calls) : Fails calls (.client e)

/-- The text is missing or empty. -/
def Silent (text : Option String) : Prop :=
  ∀ t ∈ text, t = ""

/-- How the prompt for a workspace to delete ends. -/
def PromptEnds (workspaces : List Workspace) (state : Table.State) (name : String) : Prop :=
  Prompt.ChoiceEnds link s.console s.source workspaces "delete" state name

/-- Where the name of the workspace comes from: the environment, else the command line, else the
prompt. -/
inductive Named (workspaces : List Workspace) : String → Prop
  | environment {name : String} (h : s.environment.lookup workspaceVariable = some name)
      (hname : name ≠ "") : Named workspaces name
  | argument {name : String} (henvironment : Silent (s.environment.lookup workspaceVariable))
      (h : argument = some name) (hname : name ≠ "") : Named workspaces name
  | confirmed {name : String} (henvironment : Silent (s.environment.lookup workspaceVariable))
      (hargument : Silent argument) (h : PromptEnds s link workspaces .confirmed name)
      (hlisted : ∃ w ∈ workspaces, w.name = name) : Named workspaces name

end Terms

/-- The projects are those of the first workspace of a name, none if there is no such workspace. -/
def FirstProjects (workspaces : List Workspace) (name : String) (projects : List String) : Prop :=
  (∃ before w after, workspaces = before ++ w :: after ∧ (∀ v ∈ before, v.name ≠ name) ∧
    w.name = name ∧ w.projects = projects) ∨
  (∀ v ∈ workspaces, v.name ≠ name) ∧ projects = []

/-- The disk when the entries of a workspace have been removed; without a home directory it stays. -/
def diskWithout (s : Surroundings) (disk : Disk) (profileId name : String) (projects : List String) :
    Disk :=
  match s.homes.home with
  | .ok home => (Ssh.removeWorkspace disk (sshConfigPath home) profileId name projects).1
  | .error _ => disk

/-- The line that tells that a workspace has been deleted. -/
def deletedLine (name : String) : String :=
  "Workspace " ++ name ++ " deleted\n"

/-- No report tells that a workspace has been deleted. -/
def Quiet (reports : List Report) : Prop :=
  ∀ name, .output (deletedLine name) ∉ reports

/-- All that a run of the command does that makes some calls of the service. -/
structure Deletion (s : Surroundings) (configDir argument : Option String) (force : Bool)
    (d after : Desk) (ending : Ending) (calls : List ServiceCall) : Prop where
  calls_cases : calls = [] ∨ (∃ listed, calls = [.list listed]) ∨
    ∃ workspaces name removed, calls = [.list (.ok workspaces), .remove name force removed]
  called : calls = [] ∧ after.exchange = d.exchange ∨ ∃ dir p client,
    FindsDirectory s dir configDir ∧ Serves s dir d p client ∧
      Called s.room client d.exchange calls after.exchange
  named : ∀ {workspaces name removed},
    calls = [.list (.ok workspaces), .remove name force removed] →
      name ≠ "" ∧ Named s d.link argument workspaces name
  disk_eq : (∀ workspaces name, calls ≠ [.list (.ok workspaces), .remove name force (.ok ())]) →
    after.disk = d.disk
  disk_of_removed : ∀ {workspaces name},
    calls = [.list (.ok workspaces), .remove name force (.ok ())] →
      ∃ dir p client projects, FindsDirectory s dir configDir ∧ Serves s dir d p client ∧
        FirstProjects workspaces name projects ∧
          after.disk = diskWithout s d.disk p.id name projects
  reports : ∃ new, after.reports = d.reports ++ new ∧
    (Quiet new ∨ ∃ workspaces name before,
      calls = [.list (.ok workspaces), .remove name force (.ok ())] ∧ ending = .status 0 ∧
        Quiet before ∧ new = before ++ [.output (deletedLine name)])
  dismissed : ∀ {workspaces name}, calls.head? = some (.list (.ok workspaces)) →
    workspaces ≠ [] → Silent (s.environment.lookup workspaceVariable) → Silent argument →
      PromptEnds s d.link workspaces .cancelled name →
        ending = .status 0 ∧ calls = [.list (.ok workspaces)]
  failed : ∀ {dir f}, FindsDirectory s dir configDir → Fails s dir d calls f → f.isReported = true →
    ending = .status 1 ∧ after.disk = d.disk

/-! ## Courses -/

variable {s : Surroundings} {dir : Path} {d after : Desk} {argument : Option String} {force : Bool}
  {p : Profile} {client : Client} {workspaces : List Workspace} {name : String} {ending : Ending}
  {calls : List ServiceCall}

/-- The courses that the command can take. -/
inductive Course (s : Surroundings) (dir : Path) (argument : Option String) (force : Bool) (d : Desk) :
    List ServiceCall → Desk × Ending → Prop
  | unserved {f : Failure} (h : Unserved s dir d f) : Course s dir argument force d [] (d, .failed f)
  | unlisted {p : Profile} {client : Client} {e : ClientError} (hserves : Serves s dir d p client)
      (hlist : (client.list s.room d.exchange).2 = .error e) :
    Course s dir argument force d [.list (.error e)] ((listWorkspaces s client d).1, .failed (.client e))
  /-- There is nothing to choose from, or the prompt fails. -/
  | unnamed {p : Profile} {client : Client} {workspaces : List Workspace} {after : Desk}
      {ending : Ending} (hserves : Serves s dir d p client)
      (hlist : (client.list s.room d.exchange).2 = .ok workspaces)
      (hname : workspaceName s argument workspaces (listWorkspaces s client d).1 =
        (after, .error ending)) :
    Course s dir argument force d [.list (.ok workspaces)] (after, ending)
  | dismissed {p : Profile} {client : Client} {workspaces : List Workspace} {after : Desk}
      (hserves : Serves s dir d p client) (hlist : (client.list s.room d.exchange).2 = .ok workspaces)
      (hname : workspaceName s argument workspaces (listWorkspaces s client d).1 = (after, .ok "")) :
    Course s dir argument force d [.list (.ok workspaces)] (after, .status 0)
  | named {p : Profile} {client : Client} {workspaces : List Workspace} {name : String} {after : Desk}
      (hserves : Serves s dir d p client) (hlist : (client.list s.room d.exchange).2 = .ok workspaces)
      (hname : workspaceName s argument workspaces (listWorkspaces s client d).1 = (after, .ok name))
      (hne : name ≠ "") :
    Course s dir argument force d
      [.list (.ok workspaces), .remove name force (client.remove after.exchange name force).2]
      (removeWorkspace s p client name force (projectsOf workspaces name) after)

/-- The command takes one of the courses. -/
theorem course_deleteWorkspace (s : Surroundings) (dir : Path) (argument : Option String)
    (force : Bool) (d : Desk) :
    ∃ calls, Course s dir argument force d calls (deleteWorkspace s dir argument force d) := by
  unfold deleteWorkspace
  split
  · rename_i hload
    exact ⟨_, .unserved (.load hload)⟩
  rename_i c hload
  split
  · rename_i hactive
    exact ⟨_, .unserved (.active hload hactive)⟩
  rename_i p hactive
  unfold deleteFrom
  split
  · rename_i hurl
    exact ⟨_, .unserved (.url hload hactive hurl)⟩
  rename_i client hurl
  have hserves : Serves s dir d p client := ⟨c, hload, hactive, hurl⟩
  split
  · rename_i listed e hlist
    obtain rfl : (listWorkspaces s client d).1 = listed := congrArg Prod.fst hlist
    exact ⟨_, .unlisted hserves (congrArg Prod.snd hlist)⟩
  rename_i listed workspaces hlist
  obtain rfl : (listWorkspaces s client d).1 = listed := congrArg Prod.fst hlist
  have hok : (client.list s.room d.exchange).2 = .ok workspaces := congrArg Prod.snd hlist
  split
  · rename_i hname
    exact ⟨_, .unnamed hserves hok hname⟩
  · rename_i after name hname
    split
    · rename_i hempty
      rw [hempty] at hname
      exact ⟨_, .dismissed hserves hok hname⟩
    · rename_i hne
      exact ⟨_, .named hserves hok hname hne⟩

/-! ## Steps -/

theorem deletedLine_eq (name : String) :
    deletedLine name = "Workspace " ++ name ++ " deleted" ++ "\n" := by
  have hassoc : "Workspace " ++ name ++ " deleted" ++ "\n" =
      "Workspace " ++ name ++ (" deleted" ++ "\n") := String.append_assoc
  rw [hassoc]
  rfl

theorem quiet_nil : Quiet [] := by
  intro name h
  cases h

theorem Quiet.append {first second : List Report} (hfirst : Quiet first) (hsecond : Quiet second) :
    Quiet (first ++ second) := by
  intro name h
  rcases List.mem_append.mp h with h | h
  · exact hfirst name h
  · exact hsecond name h

/-- What is no output tells nothing. -/
theorem quiet_of_forall_ne {reports : List Report} (h : ∀ text, .output text ∉ reports) :
    Quiet reports :=
  fun name => h (deletedLine name)

/-- A text that begins with another letter is another line. -/
theorem quiet_output {text : String} (h : text.toList.head? ≠ some 'W') : Quiet [.output text] := by
  intro name hmem
  cases List.mem_singleton.mp hmem
  apply h
  rw [deletedLine, String.append_assoc, String.toList_append]
  rfl

/-- What is reported tells of no workspace that has been deleted. -/
def AddsQuietly (d after : Desk) : Prop :=
  ∃ new, after.reports = d.reports ++ new ∧ Quiet new

theorem addsQuietly_refl (d : Desk) : AddsQuietly d d :=
  ⟨[], (List.append_nil _).symm, quiet_nil⟩

theorem AddsQuietly.trans {between : Desk} (h : AddsQuietly d between)
    (h' : AddsQuietly between after) : AddsQuietly d after := by
  obtain ⟨first, hfirst, hquiet⟩ := h
  obtain ⟨second, hsecond, hquiet'⟩ := h'
  exact ⟨first ++ second, by rw [hsecond, hfirst, List.append_assoc], hquiet.append hquiet'⟩

theorem addsQuietly_note (d : Desk) (area : LogArea) (message : String) :
    AddsQuietly d (d.note area message) :=
  ⟨_, rfl, quiet_of_forall_ne fun text h => by simp at h⟩

theorem addsQuietly_error (d : Desk) (text : String) : AddsQuietly d (d.report (.error text)) :=
  ⟨_, rfl, quiet_of_forall_ne fun text h => by simp at h⟩

/-- A step leaves the disk and the line as they are and tells of no workspace that has been
deleted. -/
structure Harmless (d after : Desk) : Prop where
  disk : after.disk = d.disk
  exchange : after.exchange = d.exchange
  reports : AddsQuietly d after

theorem harmless_refl (d : Desk) : Harmless d d :=
  ⟨rfl, rfl, addsQuietly_refl d⟩

theorem harmless_afterTable (d : Desk) {ran : Prompt.Ran} (h : Prompt.Unworded ran.output) :
    Harmless d (d.afterTable ran) := by
  refine ⟨rfl, rfl, .output ran.output :: ran.log.map .note ++ [.error ran.errors], ?_, ?_⟩
  · simp [Desk.afterTable]
  · have houtput : Quiet [.output ran.output] := by
      refine quiet_output fun hhead => ?_
      rcases h 'W' hhead with h | h <;> cases h
    refine (houtput.append ?_).append ?_
    · exact quiet_of_forall_ne fun text h => by simp at h
    · exact quiet_of_forall_ne fun text h => by simp at h

/-! ## The name of the workspace -/

theorem silent_iff {text : Option String} : Silent text ↔ text.filter (· ≠ "") = none := by
  cases text with
  | none => simp [Silent]
  | some t => simp [Silent]

theorem givenName_eq_none :
    givenName s argument = none ↔
      Silent (s.environment.lookup workspaceVariable) ∧ Silent argument := by
  rw [givenName, Option.or_eq_none_iff, silent_iff, silent_iff]

/-- A name that is given is that of the environment, else that of the command line. -/
theorem named_of_givenName (h : givenName s argument = some name) (link : Terminal.Link)
    (workspaces : List Workspace) : name ≠ "" ∧ Named s link argument workspaces name := by
  rw [givenName] at h
  rcases Option.or_eq_some_iff.mp h with h | ⟨henvironment, h⟩
  · obtain ⟨hlookup, hname⟩ := Option.filter_eq_some_iff.mp h
    have hne : name ≠ "" := of_decide_eq_true hname
    exact ⟨hne, .environment hlookup hne⟩
  · obtain ⟨hargument, hname⟩ := Option.filter_eq_some_iff.mp h
    have hne : name ≠ "" := of_decide_eq_true hname
    exact ⟨hne, .argument (silent_iff.mpr henvironment) hargument hne⟩

/-- The table that the user chooses a workspace from. -/
def prompted (s : Surroundings) (workspaces : List Workspace) (d : Desk) : Prompt.Ran :=
  Prompt.chooseWorkspace d.link s.console s.source workspaces "delete"

/-- The name is given, or there is nothing to choose from, or the user is prompted. -/
theorem workspaceName_cases (s : Surroundings) (argument : Option String)
    (workspaces : List Workspace) (d : Desk) :
    (∃ name, givenName s argument = some name ∧
      workspaceName s argument workspaces d = (d, .ok name)) ∨
    (givenName s argument = none ∧ workspaces = [] ∧ workspaceName s argument workspaces d =
      (d.print "No workspaces available.", .error (.status 1))) ∨
    (givenName s argument = none ∧ workspaces ≠ [] ∧ workspaceName s argument workspaces d =
      (d.afterTable (prompted s workspaces d),
        (prompted s workspaces d).result.mapError .ofTable)) := by
  cases hgiven : givenName s argument with
  | some name =>
    obtain ⟨hne, -⟩ := named_of_givenName hgiven d.link workspaces
    refine .inl ⟨name, rfl, ?_⟩
    rw [workspaceName, hgiven, if_neg (by simp), Desk.choose, Option.filter_some,
      if_pos (by simpa using hne)]
  | none =>
    by_cases hempty : workspaces = []
    · refine .inr (.inl ⟨rfl, hempty, ?_⟩)
      simp [workspaceName, hgiven, hempty]
    · refine .inr (.inr ⟨rfl, hempty, ?_⟩)
      simp [workspaceName, hgiven, hempty, Desk.choose, prompted]

/-- Finding the name of a workspace is harmless. -/
theorem harmless_workspaceName (s : Surroundings) (argument : Option String)
    (workspaces : List Workspace) (d : Desk) :
    Harmless d (workspaceName s argument workspaces d).1 := by
  rcases workspaceName_cases s argument workspaces d with ⟨_, -, h⟩ | ⟨-, -, h⟩ | ⟨-, -, h⟩
  · rw [h]
    exact harmless_refl d
  · rw [h]
    exact ⟨rfl, rfl, _, rfl, quiet_output (by decide)⟩
  · rw [h]
    exact harmless_afterTable d (Prompt.unworded_output_chooseWorkspace _ _ _ _ _)

/-- A name that is found comes from where names come from. -/
theorem named_of_workspaceName (h : (workspaceName s argument workspaces d).2 = .ok name)
    (hne : name ≠ "") : Named s d.link argument workspaces name := by
  rcases workspaceName_cases s argument workspaces d with
    ⟨given, hgiven, hname⟩ | ⟨-, -, hname⟩ | ⟨hgiven, -, hname⟩
  · rw [hname] at h
    cases h
    exact (named_of_givenName hgiven d.link workspaces).2
  · rw [hname] at h
    cases h
  · rw [hname] at h
    obtain ⟨henvironment, hargument⟩ := givenName_eq_none.mp hgiven
    rcases Prompt.chooseWorkspace_ends (eq_ok_of_mapError_eq_ok h) with ⟨hends, hlisted⟩ | ⟨-, hempty⟩
    · exact .confirmed henvironment hargument hends hlisted
    · exact absurd hempty hne

/-- Where the user quits, no name is found. -/
theorem workspaceName_of_cancelled {chosen : String} (hworkspaces : workspaces ≠ [])
    (henvironment : Silent (s.environment.lookup workspaceVariable)) (hargument : Silent argument)
    (h : PromptEnds s d.link workspaces .cancelled chosen) :
    (workspaceName s argument workspaces d).2 = .ok "" := by
  have hgiven := givenName_eq_none.mpr ⟨henvironment, hargument⟩
  rcases workspaceName_cases s argument workspaces d with
    ⟨_, hsome, -⟩ | ⟨-, hempty, -⟩ | ⟨-, -, hname⟩
  · rw [hgiven] at hsome
    cases hsome
  · exact absurd hempty hworkspaces
  · rcases Prompt.chooseWorkspace_ends h.1 with ⟨hconfirmed, -⟩ | ⟨-, hempty⟩
    · cases h.state_unique hconfirmed
    · rw [hname, prompted, h.1, hempty]
      rfl

theorem firstProjects_projectsOf (workspaces : List Workspace) (name : String) :
    FirstProjects workspaces name (projectsOf workspaces name) := by
  unfold projectsOf
  cases h : workspaces.find? (·.name = name) with
  | none =>
    refine .inr ⟨fun v hv hname => ?_, rfl⟩
    simpa [hname] using List.find?_eq_none.mp h v hv
  | some w =>
    obtain ⟨hw, before, after, rfl, hbefore⟩ := List.find?_eq_some_iff_append.mp h
    refine .inl ⟨before, w, after, rfl, fun v hv => ?_, of_decide_eq_true hw, rfl⟩
    simpa using hbefore v hv

/-! ## Listing and deleting -/

/-- The list has been asked for, and nothing else has happened. -/
structure Listed (s : Surroundings) (client : Client) (d after : Desk) : Prop where
  disk : after.disk = d.disk
  exchange : after.exchange = (client.list s.room d.exchange).1
  reports : AddsQuietly d after

theorem listed_listWorkspaces (s : Surroundings) (client : Client) (d : Desk) :
    Listed s client d (listWorkspaces s client d).1 :=
  ⟨rfl, rfl, addsQuietly_note d _ _⟩

theorem listed_of_workspaceName {found : Except Ending String}
    (h : workspaceName s argument workspaces (listWorkspaces s client d).1 = (after, found)) :
    Listed s client d after := by
  have hlisted := listed_listWorkspaces s client d
  have hharmless := harmless_workspaceName s argument workspaces (listWorkspaces s client d).1
  rw [h] at hharmless
  exact ⟨hharmless.disk.trans hlisted.disk, hharmless.exchange.trans hlisted.exchange,
    hlisted.reports.trans hharmless.reports⟩

theorem addsQuietly_removeFromService (client : Client) (name : String) (force : Bool) (d : Desk) :
    AddsQuietly d (removeFromService client name force d).1 :=
  addsQuietly_note d _ _

theorem diskWithout_of_home {home : Path} (h : s.homes.home = .ok home) (disk : Disk)
    (profileId name : String) (projects : List String) :
    diskWithout s disk profileId name projects =
      (Ssh.removeWorkspace disk (sshConfigPath home) profileId name projects).1 := by
  rw [diskWithout, h]

/-- Removing entries changes the disk in this way alone. -/
theorem removeSshEntries_spec (s : Surroundings) (profileId name : String) (projects : List String)
    (d : Desk) :
    let after := (removeSshEntries s profileId name projects d).1
    after.disk = diskWithout s d.disk profileId name projects ∧ after.exchange = d.exchange ∧
      AddsQuietly d after := by
  unfold removeSshEntries
  split
  · rename_i hhosts
    refine ⟨?_, rfl, addsQuietly_refl d⟩
    unfold diskWithout
    split
    · rw [Ssh.removeWorkspace, Ssh.removeHosts, if_pos hhosts]
    · rfl
  · cases hhome : s.homes.home with
    | error e =>
      refine ⟨?_, rfl, addsQuietly_refl d⟩
      rw [diskWithout, hhome]
    | ok home =>
      rw [diskWithout_of_home hhome]
      dsimp only
      split
      · rename_i hremoved
        rw [hremoved]
        exact ⟨rfl, rfl, addsQuietly_refl d⟩
      · rename_i hremoved
        rw [hremoved]
        dsimp only
        split
        · exact ⟨rfl, rfl, addsQuietly_refl d⟩
        · exact ⟨rfl, rfl, addsQuietly_note d _ _⟩

theorem print_deleted (d : Desk) (name : String) :
    d.print ("Workspace " ++ name ++ " deleted") = d.report (.output (deletedLine name)) := by
  rw [deletedLine_eq]
  rfl

theorem removeWorkspace_of_error {e : ClientError} {projects : List String}
    (h : (client.remove d.exchange name force).2 = .error e) :
    removeWorkspace s p client name force projects d =
      ((removeFromService client name force d).1, .failed (.client e)) := by
  have hremoved : removeFromService client name force d =
      ((removeFromService client name force d).1, .error e) :=
    Prod.ext rfl h
  rw [removeWorkspace, hremoved]

section Removed

variable {removed : Desk} {projects : List String}

/-- If the entries cannot be removed, the command fails. -/
theorem removeWorkspace_of_kept {f : Failure}
    (hremoved : removeFromService client name force d = (removed, .ok ()))
    (hssh : removeSshEntries s p.id name projects removed = (after, .error f)) :
    removeWorkspace s p client name force projects d = (after, .failed f) := by
  rw [removeWorkspace, hremoved]
  dsimp only
  rw [hssh]

/-- Once the entries are removed, it is told that the workspace has been deleted. -/
theorem removeWorkspace_of_cleared {n : Nat}
    (hremoved : removeFromService client name force d = (removed, .ok ()))
    (hssh : removeSshEntries s p.id name projects removed = (after, .ok n)) :
    ∃ noted, Harmless after noted ∧ removeWorkspace s p client name force projects d =
      (noted.report (.output (deletedLine name)), .status 0) := by
  rw [removeWorkspace, hremoved]
  dsimp only
  rw [hssh]
  dsimp only
  rw [print_deleted]
  refine ⟨_, ?_, rfl⟩
  exact ⟨rfl, rfl, addsQuietly_note after _ _⟩

end Removed

/-- Once the service has deleted the workspace, its entries are removed, and only then it is told. -/
theorem removeWorkspace_of_ok (s : Surroundings) (p : Profile) (projects : List String)
    (h : (client.remove d.exchange name force).2 = .ok ()) :
    let result := removeWorkspace s p client name force projects d
    result.1.disk = diskWithout s d.disk p.id name projects ∧
      result.1.exchange = (client.remove d.exchange name force).1 ∧
      ∃ new, result.1.reports = d.reports ++ new ∧ (Quiet new ∨ result.2 = .status 0 ∧
        ∃ before, Quiet before ∧ new = before ++ [.output (deletedLine name)]) := by
  have hremoved : removeFromService client name force d =
      ((removeFromService client name force d).1, .ok ()) :=
    Prod.ext rfl h
  have hcalled := addsQuietly_removeFromService client name force d
  obtain ⟨hdisk, hexchange, hreports⟩ := removeSshEntries_spec s p.id name projects
    (removeFromService client name force d).1
  dsimp only at hdisk hexchange hreports ⊢
  obtain ⟨⟨after, cleared⟩, hssh⟩ : ∃ result,
      removeSshEntries s p.id name projects (removeFromService client name force d).1 = result :=
    ⟨_, rfl⟩
  rw [hssh] at hdisk hexchange hreports
  cases cleared with
  | error f =>
    obtain ⟨new, hnew, hquiet⟩ := hcalled.trans hreports
    rw [removeWorkspace_of_kept hremoved hssh]
    exact ⟨hdisk, hexchange, new, hnew, .inl hquiet⟩
  | ok n =>
    obtain ⟨noted, hnoted, hresult⟩ := removeWorkspace_of_cleared hremoved hssh
    obtain ⟨new, hnew, hquiet⟩ := (hcalled.trans hreports).trans hnoted.reports
    rw [hresult]
    refine ⟨hnoted.disk.trans hdisk, hnoted.exchange.trans hexchange,
      new ++ [.output (deletedLine name)], ?_, .inr ⟨rfl, new, hquiet, rfl⟩⟩
    rw [← List.append_assoc, ← hnew]
    rfl

/-! ## Failures -/

/-- What fails before the service is called keeps the command from getting there. -/
theorem not_unserved_of_serves {f : Failure} (h : Serves s dir d p client) : ¬ Unserved s dir d f := by
  obtain ⟨c, hload, hactive, hurl⟩ := h
  intro hunserved
  cases hunserved with
  | load hload' => cases hload.symm.trans hload'
  | active hload' hactive' =>
    obtain rfl := Except.ok.inj (hload.symm.trans hload')
    cases hactive.symm.trans hactive'
  | url hload' hactive' hurl' =>
    obtain rfl := Except.ok.inj (hload.symm.trans hload')
    obtain rfl := Except.ok.inj (hactive.symm.trans hactive')
    cases hurl.symm.trans hurl'

theorem unserved_unique {f g : Failure} (hf : Unserved s dir d f) (hg : Unserved s dir d g) : f = g := by
  cases hf with
  | load h =>
    cases hg with
    | load h' => rw [Except.error.inj (h.symm.trans h')]
    | active hload => cases h.symm.trans hload
    | url hload => cases h.symm.trans hload
  | active hload h =>
    cases hg with
    | load h' => cases hload.symm.trans h'
    | active hload' h' =>
      obtain rfl := Except.ok.inj (hload.symm.trans hload')
      rw [Except.error.inj (h.symm.trans h')]
    | url hload' hactive =>
      obtain rfl := Except.ok.inj (hload.symm.trans hload')
      cases h.symm.trans hactive
  | url hload hactive h =>
    cases hg with
    | load h' => cases hload.symm.trans h'
    | active hload' h' =>
      obtain rfl := Except.ok.inj (hload.symm.trans hload')
      cases hactive.symm.trans h'
    | url hload' hactive' h' =>
      obtain rfl := Except.ok.inj (hload.symm.trans hload')
      obtain rfl := Except.ok.inj (hactive.symm.trans hactive')
      rw [Except.error.inj (h.symm.trans h')]

/-! ## What every course keeps to -/

namespace Course

variable {result : Desk × Ending}

theorem calls_cases (h : Course s dir argument force d calls result) :
    calls = [] ∨ (∃ listed, calls = [.list listed]) ∨
      ∃ workspaces name removed, calls = [.list (.ok workspaces), .remove name force removed] := by
  cases h with
  | unserved => exact .inl rfl
  | unlisted | unnamed | dismissed => exact .inr (.inl ⟨_, rfl⟩)
  | named => exact .inr (.inr ⟨_, _, _, rfl⟩)

theorem called (h : Course s dir argument force d calls result) :
    calls = [] ∧ result.1.exchange = d.exchange ∨ ∃ p client, Serves s dir d p client ∧
      Called s.room client d.exchange calls result.1.exchange := by
  -- a client that has listed the workspaces, and then made some calls
  have hlist : ∀ {client : Client} {listed : Except ClientError (List Workspace)}
      {rest : List ServiceCall} {y : Exchange}, (client.list s.room d.exchange).2 = listed →
      Called s.room client (client.list s.room d.exchange).1 rest y →
        Called s.room client d.exchange (.list listed :: rest) y := by
    rintro client listed rest y rfl hrest
    exact .list hrest
  cases h with
  | unserved => exact .inl ⟨rfl, rfl⟩
  | unlisted hserves herror => exact .inr ⟨_, _, hserves, hlist herror (.done _)⟩
  | unnamed hserves hok hname | dismissed hserves hok hname =>
    refine .inr ⟨_, _, hserves, hlist hok ?_⟩
    rw [← (listed_of_workspaceName hname).exchange]
    exact .done _
  | named hserves hok hname hne =>
    rename_i p client workspaces name after
    refine .inr ⟨p, client, hserves, hlist hok ?_⟩
    rw [← (listed_of_workspaceName hname).exchange]
    refine .remove name force ?_
    cases hremoved : (client.remove after.exchange name force).2 with
    | error e =>
      rw [removeWorkspace_of_error hremoved]
      exact .done _
    | ok u =>
      rw [(removeWorkspace_of_ok _ _ _ hremoved).2.1]
      exact .done _

theorem named_of_remove {removed : Except ClientError Unit}
    (h : Course s dir argument force d calls result)
    (hcalls : calls = [.list (.ok workspaces), .remove name force removed]) :
    name ≠ "" ∧ Named s d.link argument workspaces name := by
  cases h with
  | unserved | unlisted | unnamed | dismissed => simp at hcalls
  | named hserves hok hname hne =>
    simp only [List.cons.injEq, ServiceCall.list.injEq, Except.ok.injEq, ServiceCall.remove.injEq,
      true_and, and_true] at hcalls
    obtain ⟨rfl, rfl, -⟩ := hcalls
    exact ⟨hne, named_of_workspaceName (d := (listWorkspaces s _ d).1) (congrArg Prod.snd hname) hne⟩

theorem disk_eq (h : Course s dir argument force d calls result)
    (hcalls : ∀ workspaces name, calls ≠ [.list (.ok workspaces), .remove name force (.ok ())]) :
    result.1.disk = d.disk := by
  cases h with
  | unserved => rfl
  | unlisted => rfl
  | unnamed hserves hok hname | dismissed hserves hok hname =>
    exact (listed_of_workspaceName hname).disk
  | named hserves hok hname hne =>
    rename_i p client workspaces name after
    cases hremoved : (client.remove after.exchange name force).2 with
    | error e =>
      rw [removeWorkspace_of_error hremoved]
      exact (listed_of_workspaceName hname).disk
    | ok u =>
      rw [hremoved] at hcalls
      exact absurd rfl (hcalls workspaces name)

theorem disk_of_removed (h : Course s dir argument force d calls result)
    (hcalls : calls = [.list (.ok workspaces), .remove name force (.ok ())]) :
    ∃ p client projects, Serves s dir d p client ∧ FirstProjects workspaces name projects ∧
      result.1.disk = diskWithout s d.disk p.id name projects := by
  cases h with
  | unserved | unlisted | unnamed | dismissed => simp at hcalls
  | named hserves hok hname hne =>
    simp only [List.cons.injEq, ServiceCall.list.injEq, Except.ok.injEq, ServiceCall.remove.injEq,
      true_and, and_true] at hcalls
    obtain ⟨rfl, rfl, hremoved⟩ := hcalls
    refine ⟨_, _, _, hserves, firstProjects_projectsOf _ _, ?_⟩
    rw [(removeWorkspace_of_ok _ _ _ hremoved).1, (listed_of_workspaceName hname).disk]

theorem reports (h : Course s dir argument force d calls result) :
    ∃ new, result.1.reports = d.reports ++ new ∧
      (Quiet new ∨ ∃ workspaces name before,
        calls = [.list (.ok workspaces), .remove name force (.ok ())] ∧ result.2 = .status 0 ∧
          Quiet before ∧ new = before ++ [.output (deletedLine name)]) := by
  have hquiet : AddsQuietly d result.1 → ∃ new, result.1.reports = d.reports ++ new ∧
      (Quiet new ∨ ∃ workspaces name before,
        calls = [.list (.ok workspaces), .remove name force (.ok ())] ∧ result.2 = .status 0 ∧
          Quiet before ∧ new = before ++ [.output (deletedLine name)]) := by
    rintro ⟨new, hnew, hquiet⟩
    exact ⟨new, hnew, .inl hquiet⟩
  cases h with
  | unserved => exact hquiet (addsQuietly_refl d)
  | unlisted => exact hquiet (listed_listWorkspaces _ _ d).reports
  | unnamed hserves hok hname | dismissed hserves hok hname =>
    exact hquiet (listed_of_workspaceName hname).reports
  | named hserves hok hname hne =>
    rename_i p client workspaces name after
    have hlisted := (listed_of_workspaceName hname).reports
    cases hremoved : (client.remove after.exchange name force).2 with
    | error e =>
      rw [hremoved, removeWorkspace_of_error hremoved] at hquiet
      rw [removeWorkspace_of_error hremoved]
      exact hquiet (hlisted.trans (addsQuietly_removeFromService client name force after))
    | ok u =>
      obtain ⟨-, -, new, hnew, htold⟩ := removeWorkspace_of_ok s p
        (projectsOf workspaces name) hremoved
      obtain ⟨first, hfirst, hfirstquiet⟩ := hlisted
      refine ⟨first ++ new, by rw [hnew, hfirst, List.append_assoc], ?_⟩
      rcases htold with htold | ⟨hending, before, hbefore, rfl⟩
      · exact .inl (hfirstquiet.append htold)
      · exact .inr ⟨workspaces, name, first ++ before, rfl, hending, hfirstquiet.append hbefore,
          (List.append_assoc _ _ _).symm⟩

/-- Where the user quits, the command ends well and nothing is deleted. -/
theorem dismissed_of_cancelled {chosen : String} (h : Course s dir argument force d calls result)
    (hcalls : calls.head? = some (.list (.ok workspaces))) (hworkspaces : workspaces ≠ [])
    (henvironment : Silent (s.environment.lookup workspaceVariable)) (hargument : Silent argument)
    (hends : PromptEnds s d.link workspaces .cancelled chosen) :
    result.2 = .status 0 ∧ calls = [.list (.ok workspaces)] := by
  have hfound : ∀ {client : Client} {after : Desk} {found : Except Ending String},
      workspaceName s argument workspaces (listWorkspaces s client d).1 = (after, found) →
        found = .ok "" := by
    intro client after found hname
    rw [← workspaceName_of_cancelled (d := (listWorkspaces s client d).1) hworkspaces henvironment
      hargument hends, hname]
  cases h with
  | unserved | unlisted => simp at hcalls
  | unnamed hserves hok hname =>
    cases hcalls
    cases hfound hname
  | dismissed hserves hok hname =>
    cases hcalls
    exact ⟨rfl, rfl⟩
  | named hserves hok hname hne =>
    cases hcalls
    exact absurd (Except.ok.inj (hfound hname)) hne

/-- Whatever fails, the command ends with this failure, and the disk is as it was. -/
theorem failed {f : Failure} (h : Course s dir argument force d calls result)
    (hfails : Fails s dir d calls f) : result.2 = .failed f ∧ result.1.disk = d.disk := by
  cases h with
  | unserved hunserved =>
    cases hfails with
    | unserved hf => exact ⟨by rw [unserved_unique hunserved hf], rfl⟩
    | list h | remove h => cases h
  | unlisted hserves herror =>
    cases hfails with
    | unserved hf => exact absurd hf (not_unserved_of_serves hserves)
    | list h =>
      cases List.mem_singleton.mp h
      exact ⟨rfl, rfl⟩
    | remove h => cases List.mem_singleton.mp h
  | unnamed hserves hok hname | dismissed hserves hok hname =>
    cases hfails with
    | unserved hf => exact absurd hf (not_unserved_of_serves hserves)
    | list h => cases List.mem_singleton.mp h
    | remove h => cases List.mem_singleton.mp h
  | named hserves hok hname hne =>
    cases hfails with
    | unserved hf => exact absurd hf (not_unserved_of_serves hserves)
    | list h => simp at h
    | remove h =>
      simp only [List.mem_cons, reduceCtorEq, ServiceCall.remove.injEq, List.not_mem_nil, or_false,
        false_or] at h
      obtain ⟨rfl, rfl, hremoved⟩ := h
      rw [removeWorkspace_of_error hremoved.symm]
      exact ⟨rfl, (listed_of_workspaceName hname).disk⟩

end Course

/-! ## The end of a run -/

theorem harmless_settle (d : Desk) (ending : Ending) : Harmless d (settle d ending).1 := by
  unfold settle
  split
  · split
    · exact ⟨rfl, rfl, addsQuietly_error d _⟩
    · exact harmless_refl d
  · exact harmless_refl d

/-- A failure that is reported ends the program with status 1. -/
theorem settle_of_reported {f : Failure} (h : f.isReported = true) (d : Desk) :
    (settle d (.failed f)).2 = .status 1 := by
  rw [settle, if_pos h]

/-- With a directory, a run does its job and settles how it ends. -/
theorem run_of_findsDirectory {configDir : Option String} (h : FindsDirectory s dir configDir) (debug : Bool)
    (job : Job) (d : Desk) : Invocation.run s d ⟨configDir, debug, some job⟩ =
      settle (runJob s dir d job).1 (runJob s dir d job).2 := by
  unfold Invocation.run
  rw [h]

/-- Whatever the configuration, the argument, the environment, the service and the prompt say, a run
of the command that deletes a workspace makes no call of the service, or asks for the list, or asks
for the list and then to delete one workspace, whose name is given or chosen. -/
theorem deletion_run (s : Surroundings) (configDir : Option String) (debug : Bool)
    (argument : Option String) (force : Bool) (d : Desk) :
    let run := Invocation.run s d ⟨configDir, debug, some (.deleteWorkspace argument force)⟩
    ∃ calls, Deletion s configDir argument force d run.1 run.2 calls := by
  unfold Invocation.run
  cases hdir : Store.directory s.homes configDir
      (s.environment.lookup Store.directoryVariable) with
  | error e =>
    -- without a directory the service is not called
    refine ⟨[], .inl rfl, .inl ⟨rfl, rfl⟩, by simp, fun _ => rfl, by simp,
      ⟨[], (List.append_nil _).symm, .inl quiet_nil⟩, by simp, ?_⟩
    intro dir f hfound
    cases hdir.symm.trans hfound
  | ok dir =>
    dsimp only
    obtain ⟨calls, hcourse⟩ := course_deleteWorkspace s dir argument force d
    rw [runJob]
    generalize deleteWorkspace s dir argument force d = result at hcourse
    obtain ⟨after, ending⟩ := result
    have hsettle := harmless_settle after ending
    refine ⟨calls, ?_⟩
    refine
      { calls_cases := hcourse.calls_cases
        called := ?_
        named := hcourse.named_of_remove
        disk_eq := fun h => hsettle.disk.trans (hcourse.disk_eq h)
        disk_of_removed := fun h => ?_
        reports := ?_
        dismissed := fun hcalls hworkspaces henvironment hargument hends => ?_
        failed := fun hfound hfails hreported => ?_ }
    · rw [hsettle.exchange]
      rcases hcourse.called with h | ⟨p, client, hserves, hcalled⟩
      · exact .inl h
      · exact .inr ⟨dir, p, client, hdir, hserves, hcalled⟩
    · obtain ⟨p, client, projects, hserves, hprojects, hdisk⟩ := hcourse.disk_of_removed h
      exact ⟨dir, p, client, projects, hdir, hserves, hprojects, hsettle.disk.trans hdisk⟩
    · obtain ⟨new, hnew, hnewquiet | ⟨workspaces, name, before, hcalls, hending, hbefore⟩⟩ :=
        hcourse.reports
      · obtain ⟨more, hmore, hmorequiet⟩ := hsettle.reports
        dsimp only at hnew
        exact ⟨new ++ more, by rw [hmore, hnew, List.append_assoc], .inl (hnewquiet.append hmorequiet)⟩
      · dsimp only at hnew hending
        rw [hending]
        exact ⟨new, hnew, .inr ⟨workspaces, name, before, hcalls, rfl, hbefore⟩⟩
    · obtain ⟨hending, hcalls⟩ := hcourse.dismissed_of_cancelled hcalls hworkspaces henvironment
        hargument hends
      dsimp only at hending
      rw [hending]
      exact ⟨rfl, hcalls⟩
    · obtain rfl := Except.ok.inj (hdir.symm.trans hfound)
      obtain ⟨hending, hdisk⟩ := hcourse.failed hfails
      dsimp only at hending
      refine ⟨?_, hsettle.disk.trans hdisk⟩
      rw [hending, settle_of_reported hreported]

end WorkspaceDesk.Command

import WorkspaceDesk.Command.Desk
import WorkspaceDesk.Prompt.Choice

/-!
# Commands about workspaces

A workspace is deleted by the service of the active profile. The service is asked for the list first, as
the names of the projects are gone afterwards; they tell which entries of the SSH configuration to remove.
-/

namespace WorkspaceDesk.Command

open Service

/-- The environment variable that names the workspace. -/
def workspaceVariable : String := "WCM_WS_NAME"

/-- The name of the workspace, if it is given: by the environment or on the command line. -/
def givenName (s : Surroundings) (name : Option String) : Option String :=
  ((s.environment.lookup workspaceVariable).filter (· ≠ "")).or (name.filter (· ≠ ""))

/-- Lists the workspaces of a service. -/
def listWorkspaces (s : Surroundings) (client : Client) (d : Desk) :
    Desk × Except ClientError (List Workspace) :=
  let d := d.note .service ("GET " ++ client.base ++ Client.listPath)
  let (exchange, listed) := client.list s.room d.exchange
  ({ d with exchange }, listed)

/-- Deletes a workspace of a service. -/
def removeFromService (client : Client) (name : String) (force : Bool) (d : Desk) :
    Desk × Except ClientError Unit :=
  let d := d.note .service ("DELETE " ++ client.base ++ Client.removalPath name force)
  let (exchange, removed) := client.remove d.exchange name force
  ({ d with exchange }, removed)

/-- The name of the workspace: the given one, else the one that the user chooses among those listed. -/
def workspaceName (s : Surroundings) (name : Option String) (workspaces : List Workspace) (d : Desk) :
    Desk × Except Ending String :=
  let given := givenName s name
  if given.isNone ∧ workspaces = [] then (d.print "No workspaces available.", .error (.status 1))
  else
    d.choose given fun link => Prompt.chooseWorkspace link s.console s.source workspaces "delete"

/-- The projects of the first workspace of a name. -/
def projectsOf (workspaces : List Workspace) (name : String) : List String :=
  ((workspaces.find? (·.name = name)).map (·.projects)).getD []

/-- The SSH configuration of the user. -/
def sshConfigPath (home : Path) : Path :=
  (home.child ".ssh").child "config"

/-- Removes the entries of a workspace from the SSH configuration of the user. -/
def removeSshEntries (s : Surroundings) (profileId name : String) (projects : List String) (d : Desk) :
    Desk × Except Failure Nat :=
  -- without hosts the home directory is not asked for
  if (Ssh.hostNames profileId name projects).isEmpty then (d, .ok 0)
  else
    match s.homes.home with
    | .error e => (d, .error (.home e))
    | .ok home =>
      let path := sshConfigPath home
      match Ssh.removeWorkspace d.disk path profileId name projects with
      | (disk, .error e) => ({ d with disk }, .error (.ssh e))
      | (disk, .ok n) =>
        let d := { d with disk }
        let removed :=
          "removed " ++ toString n ++ " ssh entries for " ++ profileId ++ "/" ++ name ++ " from "
            ++ path.text
        (if n = 0 then d else d.note .config removed, .ok n)

/-- Deletes a workspace with projects, at the service and then in the SSH configuration. -/
def removeWorkspace (s : Surroundings) (p : Profile) (client : Client) (name : String) (force : Bool)
    (projects : List String) (d : Desk) : Desk × Ending :=
  match removeFromService client name force d with
  | (d, .error e) => (d, .failed (.client e))
  | (d, .ok ()) =>
    match removeSshEntries s p.id name projects d with
    | (d, .error f) => (d, .failed f)
    | (d, .ok n) =>
      let removed := "workspace " ++ name ++ " deleted, " ++ toString n ++ " ssh entries removed"
      ((d.note .commands removed).print ("Workspace " ++ name ++ " deleted"), .status 0)

/-- Deletes a workspace of the service of a profile. -/
def deleteFrom (s : Surroundings) (p : Profile) (name : Option String) (force : Bool) (d : Desk) :
    Desk × Ending :=
  match Client.ofUrl p.apiUrl defaultTimeout with
  | .error e => (d, .failed (.client e))
  | .ok client =>
    match listWorkspaces s client d with
    | (d, .error e) => (d, .failed (.client e))
    | (d, .ok workspaces) =>
      match workspaceName s name workspaces d with
      | (d, .error ending) => (d, ending)
      | (d, .ok name) =>
        if name = "" then (d, .status 0)
        else removeWorkspace s p client name force (projectsOf workspaces name) d

/-- Deletes a workspace. -/
def deleteWorkspace (s : Surroundings) (dir : Path) (name : Option String) (force : Bool) (d : Desk) :
    Desk × Ending :=
  match Store.load s.room d.disk dir with
  | .error e => (d, .failed (.load e))
  | .ok c =>
    match c.active with
    | .error e => (d, .failed (.config e))
    | .ok p => deleteFrom s p name force d

end WorkspaceDesk.Command

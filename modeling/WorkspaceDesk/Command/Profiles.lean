import WorkspaceDesk.Command.Desk
import WorkspaceDesk.Prompt.Choice

/-!
# Commands about profiles

Each command loads the configuration; those that change it save it and then say so. A profile that is not
named is chosen from a table, and nothing happens if the user quits.
-/

namespace WorkspaceDesk.Command

/-- Saves a configuration and prints a line. -/
def saveConfig (s : Surroundings) (dir : Path) (c : Config) (done : String) (d : Desk) :
    Desk × Ending :=
  match Store.save d.disk dir s.token s.weather c with
  | (disk, .error e) => ({ d with disk }, .failed (.save e))
  | (disk, .ok ()) =>
    let saved := Desk.note { d with disk } .config ("saved config to " ++ (Store.configPath dir).text)
    (saved.print done, .status 0)

/-- Saves a changed configuration, if the change is not refused. -/
def saveChange (s : Surroundings) (dir : Path) (changed : Except ConfigError Config) (done : String)
    (d : Desk) : Desk × Ending :=
  match changed with
  | .error e => (d, .failed (.config e))
  | .ok c => saveConfig s dir c done d

/-- Shows the profiles. -/
def listProfiles (s : Surroundings) (dir : Path) (d : Desk) : Desk × Ending :=
  match Store.load s.room d.disk dir with
  | .error e => (d, .failed (.load e))
  | .ok c =>
    let ran := Prompt.showProfiles d.link s.console c.profiles c.activeId
    match ran.result with
    | .error e => (d.afterTable ran, .ofTable e)
    | .ok _ => (d.afterTable ran, .status 0)

/-- How to create a profile. -/
def creationHint : String :=
  "Run `wcm profile add --id ID ...` to create a new profile."

/-- Makes a profile the active one. -/
def useProfile (s : Surroundings) (dir : Path) (id : Option String) (d : Desk) : Desk × Ending :=
  match Store.load s.room d.disk dir with
  | .error e => (d, .failed (.load e))
  | .ok c =>
    let chosen := d.choose id fun link =>
      Prompt.chooseProfile link s.console s.source c.profiles c.activeId "Choose a profile" true
    match chosen with
    | (d, .error ending) => (d, ending)
    | (d, .ok id) =>
      if id = "" then (d, .status 0)
      else if id = Profile.newId then (d.print creationHint, .status 0)
      else saveChange s dir (c.use id) ("Active profile set to " ++ id) d

/-- Adds a profile. -/
def addProfile (s : Surroundings) (dir : Path) (p : Profile) (d : Desk) : Desk × Ending :=
  match Store.load s.room d.disk dir with
  | .error e => (d, .failed (.load e))
  | .ok c => saveChange s dir (c.add p) ("Profile " ++ p.id ++ " added") d

/-- The profiles that can be removed. -/
def removable (c : Config) : List Profile :=
  c.profiles.filter (·.id ≠ Profile.defaultId)

/-- Removes a profile. -/
def removeProfile (s : Surroundings) (dir : Path) (id : Option String) (d : Desk) : Desk × Ending :=
  match Store.load s.room d.disk dir with
  | .error e => (d, .failed (.load e))
  | .ok c =>
    if (id.filter (· ≠ "")).isNone ∧ removable c = [] then
      (d.print "No profiles to remove.", .status 0)
    else
      let chosen := d.choose id fun link =>
        Prompt.chooseProfile link s.console s.source (removable c) c.activeId
          "Select a profile to remove" false
      match chosen with
      | (d, .error ending) => (d, ending)
      | (d, .ok id) =>
        if id = "" then (d, .status 0)
        else saveChange s dir (c.remove id) ("Profile " ++ id ++ " removed") d

end WorkspaceDesk.Command

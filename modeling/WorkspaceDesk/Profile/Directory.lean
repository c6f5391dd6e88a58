import WorkspaceDesk.Disk.Home
import WorkspaceDesk.Text.Blank

/-!
# The configuration directory

It is named on the command line, else by an environment variable, else it has its conventional place
below the home directory. An empty name is no name; around the variable blanks do not count.
-/

namespace WorkspaceDesk.Store

open Text

/-- The environment variable that names the configuration directory. -/
def directoryVariable : String := "WCM_CONFIG_DIR"

/-- The directory that the environment variable names. -/
def ofVariable? (value : Option String) : Option String :=
  (value.map fun v => String.ofList (trimBlank v.toList)).filter (· ≠ "")

/-- The configuration directory, given its name on the command line and the value of the environment
variable. -/
def directory (homes : Homes) (explicit fromEnvironment : Option String) : Except HomeError Path :=
  match (explicit.filter (· ≠ "")).or (ofVariable? fromEnvironment) with
  | some name => homes.expand (Path.ofText name)
  | none => homes.home.map fun home => (home.child ".config").child "wcm"

end WorkspaceDesk.Store

import WorkspaceDesk.Command.Grammar

/-!
# The manual

The grammars of all commands. The program knows commands about profiles and about workspaces.
-/

namespace WorkspaceDesk.Command.Manual

/-- The version of the program. -/
def version : String := "0.3.1"

/-- The option that shows the help. -/
def helpRule : OptionRule :=
  ⟨["-h", "--help"], .help, "", false, "show this help message and exit"⟩

/-- An option with a text. -/
def textRule (name valueName : String) (required : Bool) (about : String) : OptionRule :=
  ⟨[name], .text, valueName, required, about⟩

/-- A command without options of its own. -/
def plain (program : String) (operand : Operand) : Grammar :=
  ⟨program, "", [helpRule], [], operand⟩

/-- The program. -/
def program : Grammar where
  program := "wcm"
  about := "Workspace CLI Manager (profiles and workspaces)"
  options :=
    [helpRule, ⟨["--version"], .version, "", false, "show program's version number and exit"⟩,
      textRule "--config-dir" "CONFIG_DIR" false "Override the config dir (or set $WCM_CONFIG_DIR).",
      ⟨["--debug"], .flag, "", false, "Log debug output to stderr."⟩]
  oneOf := []
  operand :=
    .command "command"
      [⟨"profile", [], "Manage connection profiles."⟩, ⟨"workspace", ["ws"], "Manage workspaces."⟩]

/-- The commands about profiles. -/
def profile : Grammar :=
  plain "wcm profile" <| .command "profile_command"
    [⟨"list", ["ls"], "Show all profiles."⟩,
      ⟨"use", [], "Set the active profile (prompts when no id is given)."⟩,
      ⟨"add", [], "Add a profile."⟩,
      ⟨"remove", ["rm"], "Remove a profile (prompts when no id is given)."⟩]

/-- Showing the profiles. -/
def profileList : Grammar :=
  plain "wcm profile list" .none

/-- Making a profile the active one. -/
def profileUse : Grammar :=
  plain "wcm profile use" (.text "profile_id")

/-- Adding a profile. -/
def profileAdd : Grammar where
  program := "wcm profile add"
  about := ""
  options :=
    [helpRule, textRule "--id" "ID" true "", textRule "--name" "NAME" false "",
      textRule "--hostname" "HOSTNAME" true "", ⟨["--port"], .number, "PORT", false, ""⟩,
      textRule "--user" "USER" true "",
      textRule "--api-url" "API_URL" false "Workspace service URL."]
  oneOf :=
    [textRule "--password" "PASSWORD" false "",
      textRule "--private-key-path" "PRIVATE_KEY_PATH" false ""]
  operand := .none

/-- Removing a profile. -/
def profileRemove : Grammar :=
  plain "wcm profile remove" (.text "profile_id")

/-- The commands about workspaces. -/
def workspace : Grammar :=
  plain "wcm workspace" <| .command "workspace_command"
    [⟨"delete", ["remove", "rm"], "Delete the workspace."⟩]

/-- Deleting a workspace. -/
def workspaceDelete : Grammar where
  program := "wcm workspace delete"
  about := ""
  options := [helpRule, ⟨["-f", "--force"], .flag, "", false, "Force the workspace removal."⟩]
  oneOf := []
  operand := .text "workspace_name"

end WorkspaceDesk.Command.Manual

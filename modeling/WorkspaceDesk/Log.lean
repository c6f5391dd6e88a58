/-!
# The log

Notes for someone who looks for a fault. They are written only on demand.
-/

namespace WorkspaceDesk

/-- The part of the program that makes a note. -/
inductive LogArea where
  | tables
  | config
  | service
  | commands
deriving DecidableEq, Repr

/-- The name under which a part makes its notes. -/
def LogArea.name : LogArea → String
  | .tables => "workspace_cli_manager.table_view"
  | .config => "workspace_cli_manager.config"
  | .service => "workspace_cli_manager.client"
  | .commands => "workspace_cli_manager.cli"

/-- A note. -/
structure LogEntry where
  area : LogArea
  message : String
deriving DecidableEq, Repr

/-- The line of a note made at a time. -/
def LogEntry.line (e : LogEntry) (time : String) : String :=
  time ++ " DEBUG " ++ e.area.name ++ ": " ++ e.message ++ "\n"

end WorkspaceDesk

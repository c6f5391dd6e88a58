import WorkspaceDesk.Proofs.Command.Deletion

/-!
# Changes of the configuration

A command that changes the configuration makes its change as a whole or not at all. Where a configuration can
be loaded, such a command asks for one change of it (`Requests`) or ends before (`Declines`). A change that is
allowed is saved, and the changed configuration is loaded from then on; if it cannot be saved, the file is as
it was (`run_concludes`).
-/

namespace WorkspaceDesk

/-! ## Choosing a profile -/

namespace Command

/-! ## What a command asks for -/

/-- A change of the configuration. -/
inductive Change where
  | use (id : String)
  | add (p : Profile)
  | remove (id : String)

namespace Change

/-- What a change makes of a configuration. -/
def apply (c : Config) : Change → Except ConfigError Config
  | .use id => c.use id
  | .add p => c.add p
  | .remove id => c.remove id

/-- How it is told that a change has been made. -/
def told : Change → String
  | .use id => "Active profile set to " ++ id
  | .add p => "Profile " ++ p.id ++ " added"
  | .remove id => "Profile " ++ id ++ " removed"

end Change

section Terms

variable (s : Surroundings) (link : Terminal.Link) (c : Config)

/-- Where no id is given, the user chooses a profile: any profile and the offer to create one, or any
that can be removed. -/
inductive Prompts : Job → Prompt.Ran → Prop
  | use {given : Option String} (hgiven : Silent given) :
    Prompts (.useProfile given)
      (Prompt.chooseProfile link s.console s.source c.profiles c.activeId "Choose a profile" true)
  | remove {given : Option String} (hgiven : Silent given) (hsome : removable c ≠ []) :
    Prompts (.removeProfile given)
      (Prompt.chooseProfile link s.console s.source (removable c) c.activeId
        "Select a profile to remove" false)

end Terms

variable {s : Surroundings} {dir : Path} {d after : Desk} {c : Config} {job : Job}

/-! ## What has been printed -/

theorem choose_of_silent {given : Option String} (h : Silent given) (d : Desk)
    (prompt : Terminal.Link → Prompt.Ran) : d.choose given prompt =
      (d.afterTable (prompt d.link), (prompt d.link).result.mapError .ofTable) := by
  rw [Desk.choose, silent_iff.mp h]

end Command

end WorkspaceDesk

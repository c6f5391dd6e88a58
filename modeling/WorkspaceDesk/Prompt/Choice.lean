import WorkspaceDesk.Profile.Rows
import WorkspaceDesk.Prompt.Run
import WorkspaceDesk.Service.Workspace

/-!
# Choosing profiles and workspaces

A choice shows a heading and a table of which a row can be confirmed. It yields the id of a profile or
the name of a workspace, and the empty text if the user quits.
-/

namespace WorkspaceDesk.Prompt

open Table Terminal

/-- The table of profiles, with the cursor on the active one. -/
def profileListing (profiles : List Profile) (activeId : String) (selectable : Bool) : Listing where
  columns := Profile.columns
  rows := Profile.rows profiles activeId
  activeIndex := Profile.activeIndex profiles activeId
  activeId := some activeId
  selectable := selectable

/-- The table of workspaces. -/
def workspaceListing (workspaces : List Workspace) : Listing where
  columns := Workspace.columns
  rows := workspaces.map Workspace.row
  activeIndex := 0
  activeId := none
  selectable := true

/-- Runs a table below a heading. -/
def runTitled (link : Link) (console : Console) (source : Source) (title : String)
    (listing : Listing) : Ran :=
  let ran := runTable link console source listing
  { ran with output := heading console.columns title ++ ran.output }

/-- The profiles of a choice, with the offer to create one if it is wanted. -/
def choices (profiles : List Profile) (offerNew : Bool) : List Profile :=
  if offerNew then profiles ++ [Profile.offer] else profiles

/-- Lets the user choose a profile. -/
def chooseProfile (link : Link) (console : Console) (source : Source) (profiles : List Profile)
    (activeId title : String) (offerNew : Bool) : Ran :=
  runTitled link console source title (profileListing (choices profiles offerNew) activeId true)

/-- Shows the profiles. -/
def showProfiles (link : Link) (console : Console) (profiles : List Profile) (activeId : String) :
    Ran :=
  runTitled link console (.scripted []) "Profiles" (profileListing profiles activeId false)

/-- Lets the user choose a workspace for an action. -/
def chooseWorkspace (link : Link) (console : Console) (source : Source)
    (workspaces : List Workspace) (action : String) : Ran :=
  runTitled link console source ("Select a workspace to " ++ action) (workspaceListing workspaces)

end WorkspaceDesk.Prompt

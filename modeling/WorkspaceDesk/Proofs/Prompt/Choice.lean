import WorkspaceDesk.Proofs.Profile.Rows
import WorkspaceDesk.Proofs.Prompt.Erasure
import WorkspaceDesk.Prompt.Choice

/-!
# What a choice yields

A table that is browsed and yields a result has been browsed to an end: either a row was confirmed, and the
result is its first cell, or the user quit, and the result is empty (`runTable_ends`). So a choice yields the
name of a workspace (`chooseWorkspace_ends`) or the id of a profile (`chooseProfile_ends`), or nothing.
-/

namespace WorkspaceDesk

open Table Terminal

namespace Table.Session

/-- A session that takes input never becomes one that takes none. -/
theorem not_idle_handle {s : Session} (hs : s.state ≠ .idle) (e : Event) :
    (s.handle e).1.state ≠ .idle := by
  cases hdone : s.done with
  | true => rwa [handle_of_done hdone]
  | false =>
    refine handle_cases (p := fun t => t.state ≠ .idle) hdone e (fun _ _ _ => hs) ?_ (fun _ => hs)
    intro k t _ hpress
    cases hpress with
    | quit | confirm => simp
    | toggle =>
      dsimp only
      split <;> simp
    | nothing | unheard | move | unbound => exact hs

theorem not_idle_run {s : Session} (hs : s.state ≠ .idle) (events : List Event) :
    (s.run events).state ≠ .idle :=
  run_induction (p := fun t => t.state ≠ .idle) hs (fun _ e _ ht => not_idle_handle ht e) events

/-- A session that takes input is done only when a row has been confirmed or the user has quit. -/
theorem confirmed_or_cancelled {s : Session} (hs : s.state ≠ .idle) {events : List Event}
    (hdone : (s.run events).done = true) :
    (s.run events).state = .confirmed ∨ (s.run events).state = .cancelled := by
  have hidle := not_idle_run hs events
  cases hstate : (s.run events).state with
  | confirmed => exact .inl rfl
  | cancelled => exact .inr rfl
  | idle => exact absurd hstate hidle
  | browsing | unfocused | resizing => simp [done, hstate, State.isFinal] at hdone

end Table.Session

namespace Prompt

variable {link : Link} {console : Console} {source : Source} {workspaces : List Workspace}
  {action name : String}

/-! ## How a choice ends -/

/-- A table that is browsed and yields a result was ended by a row that was confirmed, whose first cell is the
result, or by the user who quit, without a result. -/
theorem runTable_ends {listing : Listing} (hselectable : listing.selectable = true)
    (h : (runTable link console source listing).result = .ok name) :
    ∃ s, Session.start listing.columns listing.rows link.size.columns link.size.lines
        listing.activeIndex listing.activeId true = .ok s ∧
      let last := s.run (runTable link console source listing).reads.flatten
      (last.state = .confirmed ∧ ∃ row ∈ listing.rows, row.head? = some name) ∨
        (last.state = .cancelled ∧ name = "") := by
  obtain ⟨s, served, o, hstart, hended, hname, hreads, -⟩ := ended_runTable hselectable h
  obtain ⟨hdone, rfl, -⟩ := hended
  rw [← hreads] at hdone hname
  refine ⟨s, hstart, ?_⟩
  have hyields := Session.yields_run (Session.inView_start hstart).2
    (runTable link console source listing).reads.flatten
  have hlive : s.state ≠ .idle := by
    obtain ⟨_, _, -, rfl⟩ := Session.start_eq_ok hstart
    simp [Session.follow]
  rcases Session.confirmed_or_cancelled hlive hdone with hstate | hstate
  · obtain ⟨rest, hrow⟩ := hyields.confirmed hstate
    rw [Session.cursorRow?, Session.rows_run hstart] at hrow
    refine .inl ⟨hstate, _, List.mem_of_getElem? hrow, ?_⟩
    rw [List.head?_cons, hname]
    rfl
  · exact .inr ⟨hstate, hname.trans (hyields.cancelled hstate)⟩

/-- A choice of a workspace yields a result, and the events that were read leave the table in a
state. -/
def ChoiceEnds (link : Link) (console : Console) (source : Source) (workspaces : List Workspace)
    (action : String) (state : State) (name : String) : Prop :=
  (chooseWorkspace link console source workspaces action).result = .ok name ∧
    ∃ s, Session.start Workspace.columns (workspaces.map Workspace.row) link.size.columns
        link.size.lines 0 none true = .ok s ∧
      (s.run (chooseWorkspace link console source workspaces action).reads.flatten).state = state

/-- A choice that yields a result was confirmed, with the name of a workspace, or dismissed, with no
name. -/
theorem chooseWorkspace_ends
    (h : (chooseWorkspace link console source workspaces action).result = .ok name) :
    ChoiceEnds link console source workspaces action .confirmed name ∧ (∃ w ∈ workspaces, w.name = name) ∨
      ChoiceEnds link console source workspaces action .cancelled name ∧ name = "" := by
  have hran : (runTable link console source (workspaceListing workspaces)).result = .ok name := h
  obtain ⟨s, hstart, ⟨hstate, row, hrow, hhead⟩ | ⟨hstate, hempty⟩⟩ := runTable_ends rfl hran
  · obtain ⟨w, hw, rfl⟩ := List.mem_map.mp hrow
    exact .inl ⟨⟨h, s, hstart, hstate⟩, w, hw, Option.some.inj hhead⟩
  · exact .inr ⟨⟨h, s, hstart, hstate⟩, hempty⟩

/-- A table ends in one state. -/
theorem ChoiceEnds.state_unique {first second : State} {other : String}
    (h : ChoiceEnds link console source workspaces action first name)
    (h' : ChoiceEnds link console source workspaces action second other) : first = second := by
  obtain ⟨-, s, hstart, hstate⟩ := h
  obtain ⟨-, t, hstart', hstate'⟩ := h'
  obtain rfl : s = t := Except.ok.inj (hstart.symm.trans hstart')
  exact hstate.symm.trans hstate'

/-- A choice of a profile that yields a result was confirmed, with the id of one of the profiles or of the offer
to create one, or dismissed, with no id. -/
theorem chooseProfile_ends {profiles : List Profile} {activeId title id : String} {offerNew : Bool}
    (h : (chooseProfile link console source profiles activeId title offerNew).result = .ok id) :
    (∃ p ∈ choices profiles offerNew, p.id = id) ∨ id = "" := by
  have hran : (runTable link console source
      (profileListing (choices profiles offerNew) activeId true)).result = .ok id := h
  obtain ⟨-, -, ⟨-, row, hrow, hhead⟩ | ⟨-, hempty⟩⟩ := runTable_ends rfl hran
  · obtain ⟨p, hp, rfl⟩ := List.mem_map.mp hrow
    rw [p.head?_row] at hhead
    exact .inl ⟨p, hp, Option.some.inj hhead⟩
  · exact .inr hempty

/-! ## The output of a choice -/

/-- The text is empty or begins with a line feed or an escape code. -/
def Unworded (text : String) : Prop :=
  ∀ c ∈ text.toList.head?, c = '\n' ∨ c = '\x1b'

theorem unworded_empty : Unworded "" := by
  simp [Unworded]

theorem Unworded.append {first second : String} (hfirst : Unworded first)
    (hsecond : Unworded second) : Unworded (first ++ second) := by
  intro c hc
  rw [String.toList_append, List.head?_append] at hc
  rcases Option.or_eq_some_iff.mp hc with hc | ⟨-, hc⟩
  · exact hfirst c hc
  · exact hsecond c hc

theorem unworded_eraseLines (n : Int) : Unworded (eraseLines n) := by
  unfold eraseLines
  induction n.toNat with
  | zero => exact unworded_empty
  | succ k ih =>
    rw [List.replicate_succ, String.join_cons]
    refine Unworded.append ?_ ih
    simp [Unworded, eraseLine]

/-- On a console without columns nothing of a table is shown. -/
theorem output_serveBrowsing (hconsole : console.columns = 0) (s : Session) :
    (serveBrowsing link console s source).output = "" := by
  have hlines : ∀ t : Session, t.view.lines console = .ok [] := fun t => by rw [View.lines, if_pos hconsole]
  have hopen : ∀ (link : Link) (arrivals : List Arrival),
      (serveOpen link console s arrivals).output = "" := by
    intro link arrivals
    rw [serveOpen]
    split
    · rfl
    · simp only [lastFrame, hlines]
      rfl
  cases source with
  | scripted arrivals => exact hopen link arrivals
  | stdin stream arrivals =>
    rw [serveBrowsing]
    split
    · rfl
    · dsimp only
      split <;> simp only [hopen]

theorem unworded_output_runTable (hconsole : console.columns = 0) {listing : Listing}
    (hselectable : listing.selectable = true) : Unworded (runTable link console source listing).output := by
  simp only [runTable, hselectable, ↓reduceIte]
  split
  · exact unworded_empty
  · rename_i s hstart
    have hlive : s.done = false := by
      obtain ⟨hfit, chosen, -, rfl⟩ := Session.start_eq_ok hstart
      rfl
    simp only [serve, hlive, Bool.false_eq_true, ↓reduceIte]
    split
    · rw [output_serveBrowsing hconsole]
      exact unworded_empty
    · dsimp only
      rw [output_serveBrowsing hconsole]
      exact unworded_empty.append (unworded_eraseLines _)

/-- What a choice shows begins with the empty line above its heading, if the console has columns to show
it on. -/
theorem unworded_output_chooseWorkspace (link : Link) (console : Console) (source : Source)
    (workspaces : List Workspace) (action : String) :
    Unworded (chooseWorkspace link console source workspaces action).output := by
  rw [chooseWorkspace, runTitled, heading]
  dsimp only
  split
  · rename_i hconsole
    exact unworded_empty.append (unworded_output_runTable hconsole rfl)
  · intro c hc
    rw [String.append_assoc, String.toList_append] at hc
    exact .inl (Option.some.inj hc).symm

end Prompt

end WorkspaceDesk

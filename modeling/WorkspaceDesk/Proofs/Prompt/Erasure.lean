import WorkspaceDesk.Proofs.Prompt.Batches
import WorkspaceDesk.Proofs.Table.Drawing

/-!
# Erasing the last frame

A table that has been browsed to its end erases its frame. As many lines are erased as the session counts
on, which are never more than the frame has (`runTable_erases`), so that nothing above the table is lost.
They are fewer where a cell has a line feed.
-/

namespace WorkspaceDesk.Prompt

open Table Terminal

variable {console : Console} {s t : Session} {p q : Progress}

/-! ## Browsing to the end -/

/-- A batch that has been handled is a run, also where it ends the session early. -/
theorem eq_run_of_handleBatch {events : List Event} (h : handleBatch s events = (t, .ok ())) :
    t = s.run events := by
  induction events generalizing s with
  | nil =>
    cases h
    rfl
  | cons e rest ih =>
    rw [handleBatch] at h
    split at h
    · cases h
    · rename_i u hhandle
      cases h
      rw [Session.run_cons, hhandle, Session.run_of_done (Session.done_eq_of_handle hhandle)]
    · rename_i u hhandle
      rw [Session.run_cons, hhandle]
      exact ih h

/-- Where browsing comes to an end, the session is done, the frame shows it, and it is what the events of
all reads have made of the one before. -/
theorem browse_eq_ok {arrivals : List Arrival} (h : browse console arrivals p = (q, .ok ()))
    (hshown : p.shown = p.session) :
    ∃ reads : List (List Event), q.reads = p.reads ++ reads ∧
      q.session = p.session.run reads.flatten ∧ q.shown = q.session ∧ q.session.done = true := by
  induction arrivals generalizing p with
  | nil =>
    rw [browse] at h
    split at h
    · rename_i hdone
      cases h
      exact ⟨[], (List.append_nil _).symm, rfl, hshown, hdone⟩
    · cases h
  | cons arrival rest ih =>
    rw [browse] at h
    split at h
    · rename_i hdone
      cases h
      exact ⟨[], (List.append_nil _).symm, rfl, hshown, hdone⟩
    · dsimp only at h
      split at h
      · cases h
      · rename_i events hevents
        split at h
        · cases h
        rename_i t hbatch
        split at h
        · cases h
        · obtain ⟨reads, hreads, hsession, hshown, hdone⟩ := ih h rfl
          refine ⟨events :: reads, ?_, ?_, hshown, hdone⟩
          · rw [hreads, List.append_assoc, List.singleton_append]
          · rw [hsession, eq_run_of_handleBatch hbatch, List.flatten_cons, Session.run_append]

/-- A table has been served to its end: the session is done after the events that were read, and what is
printed is its frame. -/
structure Served.Ended (console : Console) (s : Session) (served : Served) (o : Outcome) : Prop where
  done : (s.run served.reads.flatten).done = true
  outcome_eq : o = .ofSession (s.run served.reads.flatten)
  output_eq : ∃ frame, (s.run served.reads.flatten).view.lines console = .ok frame ∧
    served.output = joinLines (frame.map Line.text)

theorem ended_serveOpen {link : Link} {arrivals : List Arrival} {o : Outcome}
    (h : (serveOpen link console s arrivals).outcome = .ok o) :
    (serveOpen link console s arrivals).Ended console s o := by
  rw [serveOpen] at h ⊢
  have hfirst : refresh console s = .ok () := by
    cases hfirst : refresh console s with
    | error text =>
      simp only [hfirst] at h
      cases h
    | ok => rfl
  simp only [hfirst] at h ⊢
  cases hbrowse : browse console arrivals ⟨link, [], s, s, []⟩ with
  | mk q result =>
    cases hframe : q.shown.view.lines console with
    | error e =>
      simp only [hbrowse, lastFrame, hframe] at h
      cases h
    | ok frame =>
      simp only [hbrowse, lastFrame, hframe] at h ⊢
      cases result with
      | error e => cases h
      | ok =>
        cases h
        obtain ⟨reads, hreads, hsession, hshown, hdone⟩ := browse_eq_ok hbrowse rfl
        rw [List.nil_append] at hreads
        rw [hshown] at hframe
        subst hreads
        rw [hsession] at hframe hdone
        exact ⟨hdone, congrArg _ hsession, frame, hframe, rfl⟩

theorem ended_serveBrowsing {link : Link} {source : Source} {o : Outcome}
    (h : (serveBrowsing link console s source).outcome = .ok o) :
    (serveBrowsing link console s source).Ended console s o := by
  cases source with
  | scripted arrivals => exact ended_serveOpen h
  | stdin stream arrivals =>
    rw [serveBrowsing] at h ⊢
    cases hopen : link.openInput stream with
    | error e =>
      simp only [hopen] at h
      cases h
    | ok pair =>
      obtain ⟨opened, saved⟩ := pair
      simp only [hopen] at h ⊢
      cases hclose : (serveOpen opened console s arrivals).link.closeInput saved with
      | error e =>
        simp only [hclose] at h
        cases h
      | ok closed =>
        simp only [hclose] at h ⊢
        obtain ⟨hdone, houtcome, houtput⟩ := ended_serveOpen h
        exact ⟨hdone, houtcome, houtput⟩

/-- A table that yields something when it is browsed has been served to its end, and erases as many lines as
its last session counts on. -/
theorem ended_runTable {link : Link} {source : Source} {listing : Listing}
    {selection : String} (hselectable : listing.selectable = true)
    (h : (runTable link console source listing).result = .ok selection) :
    ∃ (s : Session) (served : Served) (o : Outcome),
      Session.start listing.columns listing.rows link.size.columns link.size.lines
        listing.activeIndex listing.activeId true = .ok s ∧
      served.Ended console s o ∧ selection = o.selection ∧
      (runTable link console source listing).reads = served.reads ∧
      (runTable link console source listing).output = served.output ++ eraseLines o.frameHeight := by
  simp only [runTable, hselectable, ↓reduceIte] at h ⊢
  cases hstart : Session.start listing.columns listing.rows link.size.columns link.size.lines
      listing.activeIndex listing.activeId true with
  | error e =>
    simp only [hstart] at h
    cases h
  | ok s =>
    have hlive : s.done = false := by
      obtain ⟨hfit, chosen, -, rfl⟩ := Session.start_eq_ok hstart
      rfl
    simp only [hstart, serve, hlive, Bool.false_eq_true, ↓reduceIte] at h ⊢
    cases houtcome : (serveBrowsing (link.openWake true true).1 console s source).outcome with
    | error e =>
      simp only [houtcome] at h
      cases h
    | ok o =>
      simp only [houtcome] at h ⊢
      cases h
      exact ⟨s, _, o, rfl, ended_serveBrowsing houtcome, rfl, rfl, rfl⟩

/-! ## The lines that are erased -/

/-- A table that is browsed to its end prints the frame of the session after all events read, and then
erases lines of this frame: never more than the frame has, and all of them where no title and no cell has a
line feed. -/
theorem runTable_erases (link : Link) (console : Console) (source : Source) (listing : Listing)
    (selection : String) (hselectable : listing.selectable = true) (hscreen : sideCells < console.columns)
    (h : (runTable link console source listing).result = .ok selection) :
    ∃ (s : Session) (frame : List Line),
      Session.start listing.columns listing.rows link.size.columns link.size.lines
        listing.activeIndex listing.activeId true = .ok s ∧
      let ran := runTable link console source listing
      let last := s.run ran.reads.flatten
      last.done = true ∧ selection = last.selection ∧
        last.view.lines console = .ok frame ∧ (∀ line ∈ frame, '\n' ∉ line.text) ∧
        ran.output = joinLines (frame.map Line.text) ++ eraseLines last.frameHeight ∧
        0 ≤ last.frameHeight ∧ last.frameHeight ≤ frame.length ∧
        (LevelGrid listing.columns listing.rows → last.frameHeight = frame.length) := by
  obtain ⟨s, served, o, hstart, hended, hselection, hreads, houtput⟩ := ended_runTable hselectable h
  obtain ⟨hdone, rfl, frame, hframe, hprinted⟩ := hended
  have hview : (s.run served.reads.flatten).InView :=
    Session.run_induction (Session.inView_start hstart).1 (fun t e _ ht => Session.inView_handle ht e)
      served.reads.flatten
  have hcontent : (s.run served.reads.flatten).columns = listing.columns ∧
      (s.run served.reads.flatten).rows = listing.rows := by
    rw [Session.columns, Session.rows, Session.run_content]
    obtain ⟨hfit, chosen, -, rfl⟩ := Session.start_eq_ok hstart
    exact ⟨rfl, rfl⟩
  obtain ⟨hframes, hnonneg⟩ := Session.frames_view hview hscreen hframe
  have hle := hframes.le_length
  refine ⟨s, frame, hstart, ?_⟩
  simp only [hreads]
  refine ⟨hdone, hselection, hframe, fun line hline => (hframes.feedFree line hline).text,
    by rw [houtput, hprinted]; rfl, hnonneg, by omega, fun hlevel => ?_⟩
  have heq := hframes.length_eq (by rw [hcontent.1, hcontent.2]; exact hlevel)
  omega

/-- Of three rows two are in view after the window has become lower, and the six lines of the frame are
erased when the user quits. -/
theorem runTable_erases_lowered_table :
    sideCells < 40 ∧ ∃ frame : List (List Char), (∀ line ∈ frame, '\n' ∉ line) ∧ frame.length = 6 ∧
      (runTable ⟨⟨20, 9⟩, false, .outer 0, none, ⟨true, true, true, true⟩, false⟩ (.plain 40)
        (.scripted [.events [.key .down, .resize 9 6], .events [.key .controlC]])
        ⟨[⟨"Id", 3, by decide⟩, ⟨"Name", 4, by decide⟩], [["a", "x"], ["b", "y"], ["c", "z"]], 1, none,
          true⟩).output = joinLines frame ++ eraseLines 6 := by
  obtain ⟨s, frame, hstart, -, -, -, hfeed, houtput, -, -, hlength⟩ :=
    runTable_erases ⟨⟨20, 9⟩, false, .outer 0, none, ⟨true, true, true, true⟩, false⟩ (.plain 40)
      (.scripted [.events [.key .down, .resize 9 6], .events [.key .controlC]])
      ⟨[⟨"Id", 3, by decide⟩, ⟨"Name", 4, by decide⟩], [["a", "x"], ["b", "y"], ["c", "z"]], 1, none,
        true⟩ "" rfl (by decide) (by rfl)
  obtain rfl := Except.ok.inj hstart
  have hheight : (6 : Int) = frame.length := hlength (by decide)
  refine ⟨by decide, frame.map Line.text, ?_, ?_, houtput⟩
  · exact List.forall_mem_map.mpr hfeed
  · rw [List.length_map]
    omega

/-- A table of one row that is confirmed at once, with a line feed in its cell: of the six lines of its frame
five are erased. -/
theorem runTable_leaves_line :
    (runTable ⟨⟨20, 9⟩, false, .outer 0, none, ⟨true, true, true, true⟩, false⟩ (.plain 40)
      (.scripted [.events [.key .enter]]) ⟨[⟨"Id", 4, by decide⟩], [["a\nb"]], 0, none, true⟩).result
        = .ok "a\nb" ∧
    ∃ frame : List (List Char), frame.length = 6 ∧ (∀ line ∈ frame, '\n' ∉ line) ∧
      (runTable ⟨⟨20, 9⟩, false, .outer 0, none, ⟨true, true, true, true⟩, false⟩ (.plain 40)
        (.scripted [.events [.key .enter]])
        ⟨[⟨"Id", 4, by decide⟩], [["a\nb"]], 0, none, true⟩).output
          = joinLines frame ++ eraseLines 5 := by
  refine ⟨rfl, ["╭────────╮".toList, "│ Id     │".toList, "│ ────── │".toList, "│ a      │".toList,
    "│ b      │".toList, "╰────────╯".toList], by decide, by decide, ?_⟩
  decide +kernel

end WorkspaceDesk.Prompt

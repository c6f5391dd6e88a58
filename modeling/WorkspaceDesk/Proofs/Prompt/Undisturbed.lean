import WorkspaceDesk.Proofs.Prompt.Batches
import WorkspaceDesk.Proofs.Prompt.Calls

/-!
# Calls that nothing disturbs

Where the threads take all the steps of a call, in whatever order, the call ends as `runTable` does
(`Call.agrees_of_run`): from every step on, what the worker is going to leave stays the same.
-/

namespace WorkspaceDesk.Prompt

open Table Terminal

/-! ## What a worker leaves -/

/-- What a worker leaves behind. -/
structure Left where
  link : Link
  drawn : String
  reads : List (List Event)
  outcome : Handed

/-- The input is given back. -/
def Left.closed (l : Left) (saved : Option Modes) : Left :=
  match closeSource l.link saved with
  | .error e => { l with outcome := .error e.message }
  | .ok closed => { l with link := closed }

/-- The frame that remains is drawn. -/
def Left.framed (l : Left) (console : Console) (shown : Session) : Left :=
  match lastFrame console shown with
  | .error text => { l with outcome := .error text }
  | .ok frame => { l with drawn := frame }

/-- What browsing leaves, the frame and the input still to be done with. -/
def Left.browsed (drawn : String) (p : Progress) (result : Except RunError Unit) : Left :=
  ⟨p.link, drawn, p.reads, (result.map fun _ => Outcome.ofSession p.session).mapError RunError.message⟩

/-- What a table that has been served leaves. -/
def Served.left (served : Served) : Left :=
  ⟨served.link, served.output, served.reads, served.outcome.mapError RunError.message⟩

namespace Call

variable {job : Job} {c c' : Call} {m : Move}

/-- The worker goes on from within the loop of reads. -/
def leftBrowsing (job : Job) (drawn : String) (saved : Option Modes) (arrivals : List Arrival)
    (p : Progress) : Left :=
  let (q, result) := browse job.console arrivals p
  ((Left.browsed drawn q result).framed job.console q.shown).closed saved

/-- The worker goes on with the input open, before the first frame. -/
def leftOpened (job : Job) (drawn : String) (reads : List (List Event)) (saved : Option Modes)
    (arrivals : List Arrival) (opened : Link) : Left :=
  match refresh job.console job.session with
  | .error text => (⟨opened, drawn, reads, .error text⟩ : Left).closed saved
  | .ok () => leftBrowsing job drawn saved arrivals ⟨opened, [], job.session, job.session, reads⟩

/-- What the worker leaves in the end if nothing comes in between. -/
def left (job : Job) (c : Call) : Left :=
  match c.worker with
  | .unstarted | .opening =>
    if job.session.done then
      match job.session.view.printed job.console with
      | .error text => ⟨c.link, c.drawn, c.reads, .error text⟩
      | .ok lines => ⟨c.link, endLines lines, c.reads, .ok (.ofSession job.session)⟩
    else
      match job.source.openInput c.link with
      | .error e => ⟨c.link, c.drawn, c.reads, .error e.message⟩
      | .ok (opened, saved) => leftOpened job c.drawn c.reads saved job.source.arrivals opened
  | .browsing saved arrivals unread session shown =>
    leftBrowsing job c.drawn saved arrivals ⟨c.link, unread, session, shown, c.reads⟩
  | .leaving saved shown result =>
    ((⟨c.link, c.drawn, c.reads, result⟩ : Left).framed job.console shown).closed saved
  | .closing saved result => (⟨c.link, c.drawn, c.reads, result⟩ : Left).closed saved
  | .handing result => ⟨c.link, c.drawn, c.reads, result⟩
  | .exiting | .ended => ⟨c.link, c.drawn, c.reads, c.delivered.getLast?.getD (.error "")⟩

theorem leftBrowsing_eq {drawn : String} {saved : Option Modes} {arrivals : List Arrival} {p q : Progress}
    {result : Except RunError Unit} (h : browse job.console arrivals p = (q, result)) :
    leftBrowsing job drawn saved arrivals p =
      ((Left.browsed drawn q result).framed job.console q.shown).closed saved := by
  rw [leftBrowsing, h]

theorem left_of_browsing {saved : Option Modes} {arrivals : List Arrival} {unread : Bytes}
    {session shown : Session} (hworker : c.worker = .browsing saved arrivals unread session shown) :
    c.left job = leftBrowsing job c.drawn saved arrivals ⟨c.link, unread, session, shown, c.reads⟩ := by
  rw [left, hworker]

theorem left_of_leaving {saved : Option Modes} {shown : Session} {result : Handed}
    (hworker : c.worker = .leaving saved shown result) :
    c.left job = ((⟨c.link, c.drawn, c.reads, result⟩ : Left).framed job.console shown).closed saved := by
  rw [left, hworker]

/-- A round of browsing is one of the worker. -/
theorem left_round {saved : Option Modes} {arrival : Arrival} {rest : List Arrival} {unread : Bytes}
    {session : Session} (hlive : session.done = false) (shown : Session) :
    (c.round job.console saved rest session shown (arrival.read c.link unread)).left job =
      leftBrowsing job c.drawn saved (arrival :: rest) ⟨c.link, unread, session, shown, c.reads⟩ := by
  have hlive' : ¬ session.done = true := Bool.eq_false_iff.mp hlive
  rw [leftBrowsing, browse, if_neg hlive']
  cases hevents : (arrival.read c.link unread).events with
  | error e =>
    rw [left_of_leaving (by simp only [round, hevents]; rfl)]
    simp only [round, hevents, Except.toOption, Option.toList_none, List.append_nil]
    rfl
  | ok events =>
    cases hbatch : handleBatch session events with
    | mk t result =>
      cases result with
      | error e =>
        rw [left_of_leaving (by simp only [round, hevents, hbatch]; rfl)]
        simp only [round, hevents, hbatch, Except.toOption, Option.toList_some]
        rfl
      | ok =>
        cases hframe : refresh job.console t with
        | error text =>
          rw [left_of_leaving (by simp only [round, hevents, hbatch, hframe]; rfl)]
          simp only [round, hevents, hbatch, hframe, Except.toOption, Option.toList_some]
          rfl
        | ok =>
          rw [left_of_browsing (by simp only [round, hevents, hbatch, hframe]; rfl)]
          simp only [round, hevents, hbatch, hframe, Except.toOption, Option.toList_some]
          rfl

theorem left_stepWorker (h : c.stepWorker job = some c') : c'.left job = c.left job := by
  rw [stepWorker] at h
  split at h <;> rename_i hworker
  · split at h
    · rename_i hdone
      split at h <;> rename_i hprinted <;> cases h <;>
        simp only [left, hworker, hdone, hprinted, ↓reduceIte]
    · rename_i hlive
      split at h <;> rename_i hopen
      · cases h
        simp only [left, hworker, hlive, hopen, ↓reduceIte, Bool.false_eq_true]
      · dsimp only at h
        split at h <;> rename_i hframe <;> cases h <;>
          simp only [left, leftOpened, hworker, hlive, hopen, hframe, ↓reduceIte, Bool.false_eq_true]
  · rename_i saved arrivals unread session shown
    rw [left_of_browsing hworker]
    split at h
    · rename_i hdone
      cases h
      rw [left_of_leaving rfl]
      exact (leftBrowsing_eq (browse_of_done (p := ⟨c.link, unread, session, shown, c.reads⟩) arrivals hdone)).symm
    · rename_i hlive
      split at h <;> cases h
      · rw [left_of_leaving rfl, leftBrowsing, browse, if_neg hlive]
        rfl
      · exact left_round (Bool.eq_false_iff.mpr hlive) shown
  · split at h <;> rename_i hframe <;> cases h <;> simp only [left, hworker, Left.framed, hframe]
  · split at h <;> rename_i hclose <;> cases h <;> simp only [left, hworker, Left.closed, hclose]
  · split at h
    · cases h
    · cases h
      simp [left, hworker]
  · cases h
    simp only [left, hworker]
  · cases h
  · cases h

theorem left_serveOpen (link : Link) (saved : Option Modes) (arrivals : List Arrival) :
    leftOpened job "" [] saved arrivals link =
      (serveOpen link job.console job.session arrivals).left.closed saved := by
  rw [leftOpened, serveOpen]
  cases hfirst : refresh job.console job.session with
  | error text => rfl
  | ok =>
    dsimp only
    rw [leftBrowsing]
    cases hbrowse : browse job.console arrivals ⟨link, [], job.session, job.session, []⟩ with
    | mk q result =>
      cases hframe : lastFrame job.console q.shown with
      | error e => simp only [hframe, Left.framed]; rfl
      | ok text => simp only [hframe, Left.framed]; rfl

/-- What a worker that is to be started leaves is what the table leaves when it is served. -/
theorem left_of_unstarted (hworker : c.worker = .unstarted) (hdrawn : c.drawn = "") (hreads : c.reads = []) :
    c.left job = (serve c.link job.console job.session job.source).left := by
  rw [left, hworker, hdrawn, hreads, serve]
  cases hdone : job.session.done with
  | true =>
    simp only [↓reduceIte]
    rw [serveStatic]
    cases job.session.view.printed job.console <;> rfl
  | false =>
    simp only [Bool.false_eq_true, ↓reduceIte]
    cases hsource : job.source with
    | scripted arrivals =>
      rw [serveBrowsing]
      exact left_serveOpen c.link none arrivals
    | stdin stream arrivals =>
      rw [serveBrowsing, Source.openInput]
      cases hopen : c.link.openInput stream with
      | error e => rfl
      | ok pair =>
        obtain ⟨opened, saved⟩ := pair
        refine (left_serveOpen opened (some saved) arrivals).trans ?_
        rw [Left.closed, closeSource]
        dsimp only [Served.left]
        cases (serveOpen opened job.console job.session arrivals).link.closeInput saved <;> rfl

/-- A call in which only the threads have taken steps is on the way to what the table leaves when it is served in
one go, or has got there. -/
def Undisturbed (job : Job) (before : Link) (c : Call) : Prop :=
  let taken := before.openWake job.session.selectable job.mainThread
  let served := (serve taken.1 job.console job.session job.source).left
  match c.caller with
  | .entering => c = begin before
  | .starting previous | .waiting previous | .joining previous _ | .releasing previous _ =>
    previous = taken.2 ∧ c.left job = served
  | .reporting o | .finished o _ =>
    c.link = served.link.closeWake taken.2 ∧ c.drawn = served.drawn ∧ c.reads = served.reads ∧
      o = served.outcome

variable {before : Link}

theorem undisturbed_stepCaller (h : c.stepCaller job = some c') (hin : c.InStep)
    (hc : Undisturbed job before c) : Undisturbed job before c' := by
  cases stepped_of_stepCaller h with
  | enter hcaller =>
    rw [Undisturbed, hcaller] at hc
    subst hc
    exact ⟨rfl, left_of_unstarted rfl rfl rfl⟩
  | start hcaller =>
    have hworker := hin.unstarted (by rw [hcaller]; rfl)
    rw [Undisturbed, hcaller, left, hworker] at hc
    exact hc
  | take hcaller | join hcaller =>
    rw [Undisturbed, hcaller] at hc
    exact hc
  | release hcaller =>
    rename_i previous o
    rw [Undisturbed, hcaller] at hc
    obtain ⟨rfl, hleft⟩ := hc
    have hjoined : c.caller.hasJoined = true := by rw [hcaller]; rfl
    have hdelivered := hin.delivered_eq hjoined (o := o) (by rw [hcaller]; rfl)
    rw [left, hin.joined hjoined, hdelivered] at hleft
    rw [Undisturbed, ← hleft]
    exact ⟨rfl, rfl, rfl, rfl⟩
  | fail hcaller | succeed hcaller =>
    rw [Undisturbed, hcaller] at hc
    exact hc
  | strike hmove => simp at hmove

theorem undisturbed_stepWorker (h : c.stepWorker job = some c') (hin : c.InStep)
    (hc : Undisturbed job before c) : Undisturbed job before c' := by
  have hsame : c'.caller = c.caller := by cases stepped_of_stepWorker h <;> rfl
  have hleft := left_stepWorker h
  rw [Undisturbed, hsame]
  rw [Undisturbed] at hc
  cases hcaller : c.caller with
  | entering =>
    simp only [hcaller] at hc
    rw [hc] at h
    cases h
  | reporting o | finished o ending =>
    -- the worker has ended
    rw [stepWorker, hin.joined (by rw [hcaller]; rfl)] at h
    cases h
  | starting previous | waiting previous | joining previous o | releasing previous o =>
    simp only [hcaller] at hc
    exact ⟨hc.1, hleft.trans hc.2⟩

/-- Steps of the threads leave a call undisturbed. -/
theorem undisturbed_run {moves : List Move} (hmoves : ∀ m ∈ moves, m = .caller ∨ m = .worker)
    (hin : c.InStep) (hc : Undisturbed job before c) (h : c.run job moves = some c') :
    Undisturbed job before c' := by
  induction moves generalizing c with
  | nil => exact Option.some.inj h ▸ hc
  | cons m moves ih =>
    obtain ⟨between, hstep, hrun⟩ := run_cons h
    rw [List.forall_mem_cons] at hmoves
    refine ih hmoves.2 ((stepped_of_step hstep).inStep hin) ?_ hrun
    rcases hmoves.1 with rfl | rfl
    · exact undisturbed_stepCaller hstep hin hc
    · exact undisturbed_stepWorker hstep hin hc

/-! ## The end -/

/-- A call has ended as a table that has been run. -/
structure Agrees (c : Call) (ending : Ending) (ran : Ran) : Prop where
  link : c.link = ran.link
  output : c.drawn ++ c.erased = ran.output
  errors : c.errors = ran.errors
  reads : c.reads = ran.reads
  ending : ending = ran.result.toOption.elim (.exits 1) .returns

/-- A call that nothing disturbs ends as the table that is run in one go. -/
theorem agrees_of_run {link : Link} {console : Console} {source : Source} {listing : Listing} {session : Session}
    (hstart : Session.start listing.columns listing.rows link.size.columns
      (if listing.selectable then link.size.lines else 0) listing.activeIndex listing.activeId
      listing.selectable = .ok session)
    {outcome : Handed} {ending : Ending} {moves : List Move}
    (hmoves : ∀ m ∈ moves, m = .caller ∨ m = .worker)
    (h : (begin link).run ⟨console, source, session, true⟩ moves = some c)
    (hcaller : c.caller = .finished outcome ending) :
    Agrees c ending (runTable link console source listing) := by
  have hselectable : session.selectable = listing.selectable := by
    obtain ⟨hfit, chosen, -, rfl⟩ := Session.start_eq_ok hstart
    rfl
  have hended := undisturbed_run hmoves (inStep_begin link) rfl h
  have hreports := run_induction (fun _ _ _ hs hr => hs.reports hr) (reports_begin link) h
  rw [Reports, hcaller] at hreports
  simp only [Undisturbed, hcaller, hselectable] at hended hreports
  obtain ⟨hlink, hdrawn, hreads, rfl⟩ := hended
  rw [runTable]
  simp only [hstart]
  generalize herrors : c.errors = errors at hreports
  generalize herased : c.erased = erased at hreports
  cases hserved : (serve (link.openWake listing.selectable true).1 console session source).outcome with
  | error e =>
    rw [Served.left, hserved] at hreports
    cases hreports
    exact ⟨hlink, by rw [hdrawn, herased, String.append_empty]; rfl, herrors, hreads, rfl⟩
  | ok o =>
    rw [Served.left, hserved] at hreports
    cases hreports
    exact ⟨hlink, by rw [hdrawn, herased]; rfl, herrors, hreads, rfl⟩

end Call

end WorkspaceDesk.Prompt

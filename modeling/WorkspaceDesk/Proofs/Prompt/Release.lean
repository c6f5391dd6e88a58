import WorkspaceDesk.Proofs.Prompt.Choice
import WorkspaceDesk.Proofs.Prompt.Undisturbed

/-!
# What a call gives back

At every step of a call, the modes of the terminal are as before or kept by the worker to be set again, and so the
caller keeps the handler (`Call.Held`). Hence a call leaves the link as it has found it, however it ends
(`runTable_releases`).
-/

namespace WorkspaceDesk.Prompt

open Table Terminal

/-! ## What reads leave alone -/

/-- The link has the same modes and handler, the terminal is still there if it was, and no wake pipe has been
opened. -/
structure SameTies (p q : Link) : Prop where
  modes : q.modes = p.modes
  handler : q.handler = p.handler
  hungUp : q.hungUp = p.hungUp
  wakePipe : p.wakePipe = none → q.wakePipe = none

theorem SameTies.refl (p : Link) : SameTies p p :=
  ⟨rfl, rfl, rfl, id⟩

theorem SameTies.trans {p q r : Link} (h : SameTies p q) (h' : SameTies q r) : SameTies p r :=
  ⟨h'.modes.trans h.modes, h'.handler.trans h.handler, h'.hungUp.trans h.hungUp,
    fun hp => h'.wakePipe (h.wakePipe hp)⟩

theorem sameTies_resize (p : Link) (size : Size) : SameTies p (p.resize size) :=
  ⟨rfl, rfl, rfl, id⟩

theorem sameTies_deliver (p : Link) : SameTies p p.deliver := by
  rw [Link.deliver]
  split
  · exact ⟨rfl, rfl, rfl, fun hp => by simp [hp]⟩
  · exact .refl p

theorem sameTies_drain (p : Link) : SameTies p p.drain :=
  ⟨rfl, rfl, rfl, fun hp => by simp [Link.drain, hp]⟩

theorem sameTies_readEvents (p : Link) (typed : Option Bytes) : SameTies p (p.readEvents typed).1 := by
  rw [Link.readEvents]
  split
  · exact sameTies_drain p
  · exact .refl p

theorem sameTies_readBytes (p : Link) (bytes : Option Bytes) : SameTies p (readBytes p bytes).link :=
  sameTies_readEvents p _

theorem sameTies_read (p : Link) (unread : Bytes) (arrival : Arrival) :
    SameTies p (arrival.read p unread).link := by
  cases arrival with
  | events es => exact .refl p
  | bytes b => exact sameTies_readBytes p _
  | resized size =>
    exact ((sameTies_resize p size).trans (sameTies_deliver _)).trans (sameTies_readBytes _ _)

/-- The modes that the worker has still to set again. -/
def Worker.saved? : Worker → Option Modes
  | .browsing saved _ _ _ _ | .leaving saved _ _ | .closing saved _ => saved
  | _ => none

/-- The handler that the caller has still to install again. -/
def Caller.previous? : Caller → Option Handler
  | .starting previous | .waiting previous | .joining previous _ | .releasing previous _ => previous
  | _ => none

theorem Source.openInput_eq_ok {source : Source} {p opened : Link} {saved : Option Modes}
    (h : source.openInput p = .ok (opened, saved)) :
    saved.getD opened.modes = p.modes ∧ opened = { p with modes := opened.modes } := by
  cases source with
  | scripted arrivals =>
    cases h
    exact ⟨rfl, rfl⟩
  | stdin stream arrivals =>
    cases stream <;> cases h
    exact ⟨rfl, rfl⟩

/-- A terminal that is still there can be given back. -/
theorem closeSource_eq {p : Link} (hconnected : p.hungUp = false) (saved : Option Modes) :
    closeSource p saved = .ok { p with modes := saved.getD p.modes } := by
  cases saved with
  | none => rfl
  | some modes => rw [closeSource, Link.closeInput, hconnected]; rfl

theorem Worker.saved?_of_raised {w w' : Worker} {text : String} (h : w.raised? text = some w') :
    w'.saved? = w.saved? := by
  rcases raised_cases h with ⟨rfl, rfl⟩ | ⟨_, _, _, _, _, rfl, rfl⟩ | ⟨_, _, _, rfl, rfl⟩ <;> rfl

namespace Call

variable {job : Job} {before : Link} {c c' : Call} {m : Move}

/-! ## What is held -/

theorem saved?_round (console : Console) (c : Call) (saved : Option Modes) (arrivals : List Arrival)
    (session shown : Session) (r : Read) :
    (c.round console saved arrivals session shown r).worker.saved? = saved := by
  rcases worker_round console c saved arrivals session shown r with ⟨_, h⟩ | ⟨_, _, _, h⟩ <;> rw [h] <;> rfl

/-- Whatever has been taken over of a link can be given back. -/
structure Held (job : Job) (before : Link) (c : Call) : Prop where
  modes : c.worker.saved?.getD c.link.modes = before.modes
  handler : c.caller.previous?.getD c.link.handler = before.handler
  connected : c.link.hungUp = false
  wakePipe : c.caller.previous? = none → (before.wakePipe = none ∨ job.session.selectable = true ∧
    job.mainThread = true ∧ c.caller ≠ .entering) → c.link.wakePipe = none

/-- A step keeps what is held if the link stays tied as it is and no thread takes over or gives back. -/
theorem Held.of_sameTies (h : Held job before c) (hlink : SameTies c.link c'.link)
    (hsaved : c'.worker.saved? = c.worker.saved?) (hprevious : c'.caller.previous? = c.caller.previous?)
    (hentering : c.caller = .entering → c'.caller = .entering) : Held job before c' := by
  refine ⟨?_, ?_, hlink.hungUp.trans h.connected, fun hnone hpipe => hlink.wakePipe ?_⟩
  · rw [hsaved, hlink.modes, h.modes]
  · rw [hprevious, hlink.handler, h.handler]
  · rw [hprevious] at hnone
    exact h.wakePipe hnone (hpipe.imp_right fun ⟨hs, hm, hc⟩ => ⟨hs, hm, fun he => hc (hentering he)⟩)

theorem Stepped.held (h : Stepped job c m c') (hin : c.InStep) (hc : Held job before c) : Held job before c' := by
  cases h with
  | enter hcaller =>
    obtain ⟨hmodes, hhandler, hconnected, hpipe⟩ := hc
    simp only [hcaller, Caller.previous?, Option.getD_none] at hhandler hpipe
    rw [Link.openWake]
    split
    · exact ⟨hmodes, hhandler, hconnected, fun hnone => by cases hnone⟩
    · rename_i hmain
      refine ⟨hmodes, hhandler, hconnected, fun _ => ?_⟩
      rintro (hnone | ⟨hs, hm, -⟩)
      · exact hpipe trivial (.inl hnone)
      · simp [hs, hm] at hmain
  | start hcaller =>
    have hunstarted : c.worker = .unstarted := hin.unstarted (by rw [hcaller]; rfl)
    exact hc.of_sameTies (.refl _) (by rw [hunstarted]; rfl) (by rw [hcaller]; rfl)
      (by rw [hcaller]; intro h; cases h)
  | take hcaller | join hcaller =>
    exact hc.of_sameTies (.refl _) rfl (by rw [hcaller]; rfl) (by rw [hcaller]; intro h; cases h)
  | release hcaller =>
    obtain ⟨hmodes, hhandler, hconnected, hpipe⟩ := hc
    rw [hcaller] at hhandler hpipe
    rename_i previous o
    cases previous with
    | none =>
      refine ⟨hmodes, hhandler, hconnected, fun _ hopened => hpipe rfl ?_⟩
      refine hopened.imp_right ?_
      rintro ⟨hs, hm, -⟩
      exact ⟨hs, hm, by intro h; cases h⟩
    | some handler => exact ⟨hmodes, hhandler, hconnected, fun _ _ => rfl⟩
  | fail hcaller | succeed hcaller =>
    exact hc.of_sameTies (.refl _) rfl (by rw [hcaller]; rfl) (by rw [hcaller]; intro h; cases h)
  | print hworker | draw hworker | hand hworker | exit hworker | done hworker =>
    exact hc.of_sameTies (.refl _) (by rw [hworker]; rfl) rfl id
  | opened hworker _ hopen | undrawn hworker hopen =>
    obtain ⟨hmodes, hhandler, hconnected, hpipe⟩ := hc
    rw [hworker] at hmodes
    obtain ⟨hsaved, hopened⟩ := Source.openInput_eq_ok hopen
    rw [hopened]
    exact ⟨hsaved.trans hmodes, hhandler, hconnected, hpipe⟩
  | read hworker =>
    exact hc.of_sameTies (sameTies_read _ _ _) (by rw [hworker, saved?_round]; rfl) rfl id
  | wake hworker =>
    exact hc.of_sameTies (sameTies_readBytes _ _) (by rw [hworker, saved?_round]; rfl) rfl id
  | close hworker hclose =>
    obtain ⟨hmodes, hhandler, hconnected, hpipe⟩ := hc
    rw [closeSource_eq hconnected] at hclose
    rw [hworker] at hmodes
    cases hclose
    exact ⟨hmodes, hhandler, hconnected, hpipe⟩
  | unclosed hworker hclose =>
    rw [closeSource_eq hc.connected] at hclose
    cases hclose
  | strike _ hraised => exact hc.of_sameTies (.refl _) (Worker.saved?_of_raised hraised) rfl id
  | resize report => exact hc.of_sameTies (sameTies_resize _ _) rfl rfl id
  | deliver => exact hc.of_sameTies (sameTies_deliver _) rfl rfl id

end Call

/-! ## Outcomes -/

/-- The outcome of a table that has not failed is that of a session that was confirmed or cancelled. -/
def Handed.Regular (h : Handed) : Prop :=
  ∀ o, h = .ok o → o.state = .confirmed ∨ o.state = .cancelled

theorem Handed.regular_error (text : String) : Handed.Regular (.error text) :=
  nofun

theorem regular_ofSession {s : Session} (hlive : s.state ≠ .idle) (hdone : s.done = true) :
    Handed.Regular (.ok (.ofSession s)) := by
  intro o ho
  cases ho
  have hrun : (s.run []).done = true := hdone
  exact Session.confirmed_or_cancelled hlive hrun

/-- The session takes input, and an outcome is regular. -/
def Worker.Regular : Worker → Prop
  | .browsing _ _ _ session _ => session.state ≠ .idle
  | .leaving _ _ result | .closing _ result | .handing result => Handed.Regular result
  | _ => True

theorem Worker.regular_of_raised {w w' : Worker} {text : String} (h : w.raised? text = some w') :
    w'.Regular := by
  rcases raised_cases h with ⟨rfl, rfl⟩ | ⟨_, _, _, _, _, rfl, rfl⟩ | ⟨_, _, _, rfl, rfl⟩ <;>
    exact Handed.regular_error text

/-- The worker is about to hand over an exception. -/
def Worker.Fails : Worker → Prop
  | .leaving _ _ result | .closing _ result | .handing result => ∃ text, result = .error text
  | _ => False

theorem Worker.fails_of_raised {w w' : Worker} {text : String} (h : w.raised? text = some w') : w'.Fails := by
  rcases raised_cases h with ⟨rfl, rfl⟩ | ⟨_, _, _, _, _, rfl, rfl⟩ | ⟨_, _, _, rfl, rfl⟩ <;> exact ⟨text, rfl⟩

namespace Call

variable {job : Job} {before : Link} {c c' : Call} {m : Move}

theorem regular_round (console : Console) (c : Call) (saved : Option Modes) (arrivals : List Arrival)
    {session : Session} (hlive : session.state ≠ .idle) (shown : Session) (r : Read) :
    (c.round console saved arrivals session shown r).worker.Regular := by
  rcases worker_round console c saved arrivals session shown r with ⟨text, h⟩ | ⟨events, t, hbatch, h⟩
  · rw [h]
    exact Handed.regular_error text
  · rw [h, Worker.Regular, eq_run_of_handleBatch hbatch]
    exact Session.not_idle_run hlive events

/-- Every outcome on its way is regular. -/
structure Regular (c : Call) : Prop where
  worker : c.worker.Regular
  delivered : ∀ o ∈ c.delivered, Handed.Regular o

theorem Stepped.regular (h : Stepped job c m c') (hlive : job.session.state ≠ .idle) (hc : c.Regular) :
    c'.Regular := by
  obtain ⟨hworker', hdelivered⟩ := hc
  cases h with
  | start => exact ⟨trivial, hdelivered⟩
  | print hworker hdone => exact ⟨regular_ofSession hlive hdone, hdelivered⟩
  | opened => exact ⟨hlive, hdelivered⟩
  | done hworker hdone =>
    rw [hworker] at hworker'
    exact ⟨regular_ofSession hworker' hdone, hdelivered⟩
  | read hworker | wake hworker =>
    rw [hworker] at hworker'
    exact ⟨regular_round _ _ _ _ hworker' _ _, hdelivered⟩
  | draw hworker | close hworker =>
    rw [hworker] at hworker'
    exact ⟨hworker', hdelivered⟩
  | undrawn | unclosed => exact ⟨Handed.regular_error _, hdelivered⟩
  | hand hworker =>
    rw [hworker] at hworker'
    refine ⟨trivial, fun o ho => ?_⟩
    rcases List.mem_append.mp ho with ho | ho
    · exact hdelivered o ho
    · rw [List.mem_singleton.mp ho]
      exact hworker'
  | exit => exact ⟨trivial, hdelivered⟩
  | strike _ hraised => exact ⟨Worker.regular_of_raised hraised, hdelivered⟩
  | _ => exact ⟨hworker', hdelivered⟩

/-- An exception is handed over, or is about to be. -/
def Fails (c : Call) : Prop :=
  c.worker.Fails ∨ ∃ text, .error text ∈ c.delivered

theorem Stepped.fails (h : Stepped job c m c') (hin : c.InStep) (hc : c.Fails) : c'.Fails := by
  rcases hc with hworker' | ⟨text, htext⟩
  · cases h with
    | start hcaller =>
      rw [hin.unstarted (by rw [hcaller]; rfl)] at hworker'
      cases hworker'
    | print hworker | opened hworker | done hworker | read hworker | wake hworker | exit hworker =>
      rw [hworker] at hworker'
      cases hworker'
    | draw hworker | close hworker =>
      rw [hworker] at hworker'
      exact .inl hworker'
    | undrawn | unclosed => exact .inl ⟨_, rfl⟩
    | hand hworker =>
      rw [hworker] at hworker'
      obtain ⟨text, rfl⟩ := hworker'
      exact .inr ⟨text, List.mem_append_right _ (List.mem_singleton_self _)⟩
    | strike _ hraised => exact .inl (Worker.fails_of_raised hraised)
    | _ => exact .inl hworker'
  · refine .inr ⟨text, ?_⟩
    cases h with
    | hand => exact List.mem_append_left _ htext
    | _ => exact htext

/-- A call in which an exception has struck the worker hands over an exception. -/
theorem fails_of_raise {moves : List Move} {text : String} (hin : c.InStep) (hmem : .raise text ∈ moves)
    (h : c.run job moves = some c') : c'.Fails := by
  induction moves generalizing c with
  | nil => cases hmem
  | cons m moves ih =>
    obtain ⟨between, hstep, hrun⟩ := run_cons h
    have hstepped := stepped_of_step hstep
    have hbetween := hstepped.inStep hin
    rcases List.mem_cons.mp hmem with rfl | hmem
    · have hfails : between.Fails := by
        cases hstepped with
        | strike _ hraised => exact .inl (Worker.fails_of_raised hraised)
      exact (run_induction (p := fun c => c.InStep ∧ c.Fails)
        (fun _ _ _ hs hc => ⟨hs.inStep hc.1, hs.fails hc.1 hc.2⟩) ⟨hbetween, hfails⟩ hrun).2
    · exact ih hbetween hmem hrun

end Call

/-! ## The end of a call -/

/-- Everything that has been taken over of a link is given back. -/
structure GivenBack (before after : Link) : Prop where
  modes : after.modes = before.modes
  handler : after.handler = before.handler
  wakePipe : after.wakePipe = none

namespace Call

variable {job : Job} {before : Link} {c : Call} {outcome : Handed} {ending : Ending} {moves : List Move}

/-- A call has given back the link, and its one outcome is reported. -/
structure Released (before : Link) (c : Call) (outcome : Handed) (ending : Ending) : Prop where
  link : GivenBack before c.link
  delivered : c.delivered = [outcome]
  regular : outcome.Regular
  report : Report true outcome ending c.errors c.erased

/-- However steps of the threads, changes of the window, signals and exceptions follow each other, a call that has
finished has given everything back. -/
theorem released_of_run (hselectable : job.session.selectable = true) (hlive : job.session.state ≠ .idle)
    (hconnected : before.hungUp = false) (hpipe : job.mainThread = false → before.wakePipe = none)
    (h : (begin before).run job moves = some c) (hcaller : c.caller = .finished outcome ending) :
    Released before c outcome ending := by
  have hbegin : Held job before (begin before) :=
    ⟨rfl, rfl, hconnected, fun _ hpipe' => by simpa [begin] using hpipe'⟩
  obtain ⟨hin, hheld, hreports, hregular⟩ := run_induction
    (p := fun c => c.InStep ∧ Held job before c ∧ Reports job c ∧ c.Regular)
    (fun _ _ _ hs ⟨hin, hheld, hreports, hregular⟩ =>
      ⟨hs.inStep hin, hs.held hin hheld, hs.reports hreports, hs.regular hlive hregular⟩)
    ⟨inStep_begin before, hbegin, ⟨rfl, rfl⟩, trivial, by simp [begin]⟩ h
  have hjoined : c.caller.hasJoined = true := by rw [hcaller]; rfl
  have hdelivered := hin.delivered_eq hjoined (o := outcome) (by rw [hcaller]; rfl)
  obtain ⟨hmodes, hhandler, -, hwake⟩ := hheld
  rw [hin.joined hjoined] at hmodes
  rw [hcaller] at hhandler hwake
  refine ⟨⟨hmodes, hhandler, hwake rfl ?_⟩, hdelivered, ?_, ?_⟩
  · cases hmain : job.mainThread with
    | true => exact .inr ⟨hselectable, rfl, nofun⟩
    | false => exact .inl (hpipe hmain)
  · exact hregular.delivered outcome (by rw [hdelivered]; exact List.mem_singleton_self _)
  · rw [Reports, hcaller, hselectable] at hreports
    exact hreports

/-- An exception that has struck the worker has become the outcome. -/
theorem error_of_raise {text : String} (hraise : .raise text ∈ moves)
    (h : (begin before).run job moves = some c) (hcaller : c.caller = .finished outcome ending) :
    ∃ text, outcome = .error text := by
  have hin := run_induction (fun _ _ _ hs hin => hs.inStep hin) (inStep_begin before) h
  have hjoined : c.caller.hasJoined = true := by rw [hcaller]; rfl
  rcases fails_of_raise (inStep_begin before) hraise h with hworker | ⟨other, hother⟩
  · rw [hin.joined hjoined] at hworker
    cases hworker
  · rw [hin.delivered_eq hjoined (o := outcome) (by rw [hcaller]; rfl), List.mem_singleton] at hother
    exact ⟨other, hother.symm⟩

/-- A table that is run in one go gives everything back, as the call does that nothing disturbs. -/
theorem givenBack_runTable {link : Link} {console : Console} {source : Source} {listing : Listing} {session : Session}
    (hstart : Session.start listing.columns listing.rows link.size.columns
      (if listing.selectable then link.size.lines else 0) listing.activeIndex listing.activeId
      listing.selectable = .ok session)
    (hselectable : session.selectable = true) (hlive : session.state ≠ .idle)
    (hconnected : link.hungUp = false) : GivenBack link (runTable link console source listing).link := by
  obtain ⟨moves, outcome, ending, c, hmoves, hrun, hcaller⟩ :=
    (inStep_begin link).exists_finished ⟨console, source, session, true⟩
  have hreleased := released_of_run hselectable hlive hconnected (fun h => by cases h) hrun hcaller
  exact (agrees_of_run hstart hmoves hrun hcaller).link ▸ hreleased.link

end Call

/-- However the run of a selectable table ends, it leaves the process as it has found it. A table that cannot be
set up takes nothing over. Otherwise the table that is run in one go gives back the modes of the terminal and the
handler, and the wake pipe is closed; and so it is with the call in two threads, wherever changes of the window,
signals and exceptions come in between their steps. At most one outcome is handed over on the way, the threads can
always bring the call to its end, and there the outcome is the only one, and is reported: after an exception, the
program ends with status 1 after a message, nothing is selected and no line is erased. Any exception that has
struck the worker has become the outcome, and where nothing has come in between, the call agrees with the table
that is run in one go. -/
theorem runTable_releases (link : Link) (console : Console) (source : Source) (listing : Listing) (mainThread : Bool)
    (hselectable : listing.selectable = true) (hconnected : link.hungUp = false)
    (hpipe : mainThread = false → link.wakePipe = none) :
    let ran := runTable link console source listing
    match Session.start listing.columns listing.rows link.size.columns link.size.lines listing.activeIndex
        listing.activeId true with
    | .error e => ran.link = link ∧ ran.output = "" ∧ ran.result = .error (.start e)
    | .ok session =>
      let job : Job := ⟨console, source, session, mainThread⟩
      GivenBack link ran.link ∧
      ∀ moves c, (Call.begin link).run job moves = some c →
        c.delivered.length ≤ 1 ∧
        (∃ more outcome ending c', (∀ m ∈ more, m = .caller ∨ m = .worker) ∧ c.run job more = some c' ∧
          c'.caller = .finished outcome ending) ∧
        ∀ outcome ending, c.caller = .finished outcome ending →
          c.Released link outcome ending ∧
          ((∃ text, .raise text ∈ moves) → ∃ text, outcome = .error text) ∧
          (mainThread = true → (∀ m ∈ moves, m = .caller ∨ m = .worker) → c.Agrees ending ran) := by
  intro ran
  split
  · rename_i e hstart
    have hran : ran = ⟨link, "", "", [], [], .error (.start e)⟩ := by
      simp only [ran, runTable, hselectable, ↓reduceIte, hstart]
    rw [hran]
    exact ⟨rfl, rfl, rfl⟩
  · rename_i session hstart
    have hsession : session.selectable = true ∧ session.state ≠ .idle := by
      obtain ⟨hfit, chosen, -, rfl⟩ := Session.start_eq_ok hstart
      exact ⟨rfl, by intro h; cases h⟩
    have hstart' : Session.start listing.columns listing.rows link.size.columns
        (if listing.selectable then link.size.lines else 0) listing.activeIndex listing.activeId
        listing.selectable = .ok session := by
      rw [hselectable]
      exact hstart
    refine ⟨Call.givenBack_runTable hstart' hsession.1 hsession.2 hconnected, fun moves c hrun => ?_⟩
    have hin := Call.run_induction (fun _ _ _ hs hin => hs.inStep hin) (Call.inStep_begin link) hrun
    refine ⟨hin.length_delivered_le, hin.exists_finished _, fun outcome ending hcaller => ?_⟩
    refine ⟨Call.released_of_run hsession.1 hsession.2 hconnected hpipe hrun hcaller, ?_, ?_⟩
    · rintro ⟨text, hraise⟩
      exact Call.error_of_raise hraise hrun hcaller
    · rintro rfl hmoves
      exact Call.agrees_of_run hstart' hmoves hrun hcaller

/-- The window changes while a table is browsed, and a row is confirmed, but then the last frame cannot be drawn: the
modes and the handler are as before, and the program ends with a message. -/
theorem runTable_releases_after_failed_drawing :
    let link : Link := ⟨⟨80, 24⟩, false, .outer 7, none, ⟨true, true, true, true⟩, false⟩
    let listing : Listing := ⟨[⟨"Id", 3, by decide⟩], [["a"]], 0, none, true⟩
    let moves : List Move := [.caller, .caller, .worker, .resize (some ⟨100, 30⟩), .deliver, .worker, .worker,
      .raise "lost", .worker, .worker, .caller, .worker, .caller, .caller, .caller]
    ∃ session c, Session.start listing.columns listing.rows 80 24 0 none true = .ok session ∧
      (Call.begin link).run ⟨.plain 40, .stdin .terminal [.bytes [0x0d]], session, true⟩ moves = some c ∧
      c.reads = [[.resize 100 30, .key .enter]] ∧ c.delivered = [.error "lost"] ∧ GivenBack link c.link ∧
      c.caller = .finished (.error "lost") (.exits 1) ∧ c.errors = "Error running program: lost\n" ∧
      c.erased = "" := by
  intro link listing moves
  obtain ⟨session, hstart⟩ : ∃ s, Session.start listing.columns listing.rows 80 24 0 none true = .ok s :=
    ⟨_, rfl⟩
  have hreleases := runTable_releases link (.plain 40) (.stdin .terminal [.bytes [0x0d]]) listing true rfl rfl nofun
  rw [show Session.start listing.columns listing.rows link.size.columns link.size.lines listing.activeIndex
    listing.activeId true = .ok session from hstart] at hreleases
  obtain ⟨c, hrun, hreads, hcaller⟩ : ∃ c, (Call.begin link).run
      ⟨.plain 40, .stdin .terminal [.bytes [0x0d]], session, true⟩ moves = some c ∧
        c.reads = [[.resize 100 30, .key .enter]] ∧ c.caller = .finished (.error "lost") (.exits 1) := by
    cases hstart
    exact ⟨_, rfl, rfl, rfl⟩
  obtain ⟨-, -, hfinished⟩ := hreleases.2 moves c hrun
  obtain ⟨⟨hgiven, hdelivered, -, hreport⟩, -⟩ := hfinished _ _ hcaller
  generalize herrors : c.errors = errors at hreport
  generalize herased : c.erased = erased at hreport
  cases hreport
  exact ⟨session, c, hstart, hrun, hreads, hdelivered, hgiven, hcaller, herrors, herased⟩

end WorkspaceDesk.Prompt

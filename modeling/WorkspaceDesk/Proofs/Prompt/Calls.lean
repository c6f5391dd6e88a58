import WorkspaceDesk.Prompt.Call

/-!
# Calls to their end

The threads of a call stay in step, whatever comes in between their steps: the worker runs from its start on until
the caller has waited for its end, and hands over one outcome, which the caller takes (`Call.InStep`). So there is
always a thread that can go on, and each of its steps brings the call closer to its end
(`Call.InStep.exists_finished`). What the caller reports in the end belongs to the outcome (`Call.Reports`).
-/

namespace WorkspaceDesk.Prompt

open Table Terminal

/-! ## Threads -/

/-- The worker runs, and has not handed over the outcome. -/
def Worker.isWorking : Worker → Bool
  | .unstarted | .exiting | .ended => false
  | _ => true

/-- The outcome is handed over. -/
def Worker.hasHanded : Worker → Bool
  | .exiting | .ended => true
  | _ => false

/-- The worker has been started. -/
def Caller.hasStarted : Caller → Bool
  | .entering | .starting _ => false
  | _ => true

/-- The worker has been waited for until its end. -/
def Caller.hasJoined : Caller → Bool
  | .releasing _ _ | .reporting _ | .finished _ _ => true
  | _ => false

/-- The outcome that the caller has taken. -/
def Caller.taken? : Caller → Option Handed
  | .joining _ o | .releasing _ o | .reporting o | .finished o _ => some o
  | _ => none

/-- An exception makes the worker leave what it is about, at once or in the next steps. -/
theorem Worker.raised_cases {w w' : Worker} {text : String} (h : w.raised? text = some w') :
    (w = .opening ∧ w' = .handing (.error text)) ∨
    (∃ saved arrivals unread session shown, w = .browsing saved arrivals unread session shown ∧
      w' = .leaving saved shown (.error text)) ∨
    ∃ saved shown result, w = .leaving saved shown result ∧ w' = .closing saved (.error text) := by
  cases w with
  | opening => exact .inl ⟨rfl, (Option.some.inj h).symm⟩
  | browsing saved arrivals unread session shown =>
    exact .inr (.inl ⟨saved, arrivals, unread, session, shown, rfl, (Option.some.inj h).symm⟩)
  | leaving saved shown result =>
    exact .inr (.inr ⟨saved, shown, result, rfl, (Option.some.inj h).symm⟩)
  | unstarted | closing _ _ | handing _ | exiting | ended => cases h

theorem Worker.isWorking_of_raised {w w' : Worker} {text : String} (h : w.raised? text = some w') :
    w.isWorking = true ∧ w'.isWorking = true := by
  rcases raised_cases h with ⟨rfl, rfl⟩ | ⟨_, _, _, _, _, rfl, rfl⟩ | ⟨_, _, _, rfl, rfl⟩ <;> exact ⟨rfl, rfl⟩

theorem Worker.not_hasHanded_of_isWorking {w : Worker} (h : w.isWorking = true) : w.hasHanded = false := by
  cases w <;> first | rfl | cases h

/-- A bound of the steps that the caller still has to take. -/
def Caller.rank : Caller → Nat
  | .entering => 6
  | .starting _ => 5
  | .waiting _ => 4
  | .joining _ _ => 3
  | .releasing _ _ => 2
  | .reporting _ => 1
  | .finished _ _ => 0

/-- A bound of the steps that the worker still has to take. -/
def Worker.rank (job : Job) : Worker → Nat
  | .unstarted | .opening => job.source.arrivals.length + 6
  | .browsing _ arrivals _ _ _ => arrivals.length + 5
  | .leaving _ _ _ => 4
  | .closing _ _ => 3
  | .handing _ => 2
  | .exiting => 1
  | .ended => 0

theorem Worker.rank_of_raised (job : Job) {w w' : Worker} {text : String} (h : w.raised? text = some w') :
    w'.rank job < w.rank job := by
  rcases raised_cases h with ⟨rfl, rfl⟩ | ⟨_, _, _, _, _, rfl, rfl⟩ | ⟨_, _, _, rfl, rfl⟩ <;>
    simp only [rank] <;> omega

namespace Call

/-! ## What a step does -/

/-- The steps of a call, with what they take for granted. -/
inductive Stepped (job : Job) (c : Call) : Move → Call → Prop
  | enter (hcaller : c.caller = .entering) :
    Stepped job c .caller { c with
      link := (c.link.openWake job.session.selectable job.mainThread).1
      caller := .starting (c.link.openWake job.session.selectable job.mainThread).2 }
  | start {previous : Option Handler} (hcaller : c.caller = .starting previous) :
    Stepped job c .caller { c with caller := .waiting previous, worker := .opening }
  | take {previous : Option Handler} {o : Handed} (hcaller : c.caller = .waiting previous)
      (hslot : c.slot = some o) :
    Stepped job c .caller { c with caller := .joining previous o, slot := none }
  | join {previous : Option Handler} {o : Handed} (hcaller : c.caller = .joining previous o)
      (hworker : c.worker = .ended) :
    Stepped job c .caller { c with caller := .releasing previous o }
  | release {previous : Option Handler} {o : Handed} (hcaller : c.caller = .releasing previous o) :
    Stepped job c .caller { c with link := c.link.closeWake previous, caller := .reporting o }
  | fail {text : String} (hcaller : c.caller = .reporting (.error text)) :
    Stepped job c .caller { c with
      caller := .finished (.error text) (.exits 1)
      errors := "Error running program: " ++ text ++ "\n" }
  | succeed {o : Outcome} (hcaller : c.caller = .reporting (.ok o)) :
    Stepped job c .caller { c with
      caller := .finished (.ok o) (.returns o.selection)
      erased := if job.session.selectable then eraseLines o.frameHeight else "" }
  | print {lines : List (List Char)} (hworker : c.worker = .opening) (hdone : job.session.done = true)
      (hprinted : job.session.view.printed job.console = .ok lines) :
    Stepped job c .worker { c with worker := .handing (.ok (.ofSession job.session)), drawn := endLines lines }
  | opened {opened : Link} {saved : Option Modes} (hworker : c.worker = .opening)
      (hlive : job.session.done = false) (hopen : job.source.openInput c.link = .ok (opened, saved))
      (hframe : refresh job.console job.session = .ok ()) :
    Stepped job c .worker { c with
      link := opened
      worker := .browsing saved job.source.arrivals [] job.session job.session }
  /-- The input is open, but the first frame cannot be drawn. -/
  | undrawn {opened : Link} {saved : Option Modes} {text : String} (hworker : c.worker = .opening)
      (hopen : job.source.openInput c.link = .ok (opened, saved)) :
    Stepped job c .worker { c with link := opened, worker := .closing saved (.error text) }
  | done {saved : Option Modes} {arrivals : List Arrival} {unread : Bytes} {session shown : Session}
      (hworker : c.worker = .browsing saved arrivals unread session shown) (hdone : session.done = true) :
    Stepped job c .worker { c with worker := .leaving saved shown (.ok (.ofSession session)) }
  | read {saved : Option Modes} {arrival : Arrival} {rest : List Arrival} {unread : Bytes}
      {session shown : Session} (hworker : c.worker = .browsing saved (arrival :: rest) unread session shown)
      (hlive : session.done = false) :
    Stepped job c .worker (c.round job.console saved rest session shown (arrival.read c.link unread))
  | wake {saved : Option Modes} {arrivals : List Arrival} {unread : Bytes} {session shown : Session}
      (hworker : c.worker = .browsing saved arrivals unread session shown) (hlive : session.done = false)
      (hwoken : c.link.woken = true) :
    Stepped job c .wake (c.round job.console saved arrivals session shown
      (readBytes c.link (if unread.isEmpty then none else some unread)))
  | draw {saved : Option Modes} {shown : Session} {result : Handed} {frame : String}
      (hworker : c.worker = .leaving saved shown result) (hframe : lastFrame job.console shown = .ok frame) :
    Stepped job c .worker { c with worker := .closing saved result, drawn := frame }
  | close {saved : Option Modes} {result : Handed} {closed : Link}
      (hworker : c.worker = .closing saved result) (hclose : closeSource c.link saved = .ok closed) :
    Stepped job c .worker { c with link := closed, worker := .handing result }
  | unclosed {saved : Option Modes} {result : Handed} {e : TerminalError}
      (hworker : c.worker = .closing saved result) (hclose : closeSource c.link saved = .error e) :
    Stepped job c .worker { c with worker := .handing (.error e.message) }
  | hand {result : Handed} (hworker : c.worker = .handing result) (hslot : c.slot = none) :
    Stepped job c .worker { c with
      worker := .exiting
      slot := some result
      delivered := c.delivered ++ [result] }
  | exit (hworker : c.worker = .exiting) : Stepped job c .worker { c with worker := .ended }
  /-- An exception strikes the worker in its own step, or from elsewhere. -/
  | strike {m : Move} {text : String} {w : Worker} (hmove : m = .worker ∨ m = .raise text)
      (hraised : c.worker.raised? text = some w) : Stepped job c m { c with worker := w }
  | resize (report : Option Size) :
    Stepped job c (.resize report) { c with link := c.link.resize (.ofReport report) }
  | deliver (hpending : c.link.signalPending = true) : Stepped job c .deliver { c with link := c.link.deliver }

variable {job : Job} {c c' : Call} {m : Move}

theorem stepped_of_stepCaller (h : c.stepCaller job = some c') : Stepped job c .caller c' := by
  rw [stepCaller] at h
  split at h <;> rename_i hcaller
  · cases h
    exact .enter hcaller
  · cases h
    exact .start hcaller
  · obtain ⟨o, hslot, rfl⟩ := Option.map_eq_some_iff.mp h
    exact .take hcaller hslot
  · split at h
    · rename_i hworker
      cases h
      exact .join hcaller hworker
    · cases h
  · cases h
    exact .release hcaller
  · cases h
    exact .fail hcaller
  · cases h
    exact .succeed hcaller
  · cases h

theorem stepped_of_stepWorker (h : c.stepWorker job = some c') : Stepped job c .worker c' := by
  rw [stepWorker] at h
  split at h <;> rename_i hworker
  · split at h
    · rename_i hdone
      split at h <;> rename_i hprinted <;> cases h
      · exact .strike (.inl rfl) (by rw [hworker]; rfl)
      · exact .print hworker hdone hprinted
    · rename_i hlive
      split at h <;> rename_i hopen
      · cases h
        exact .strike (.inl rfl) (by rw [hworker]; rfl)
      · dsimp only at h
        split at h <;> rename_i hframe <;> cases h
        · exact .undrawn hworker hopen
        · exact .opened hworker (Bool.eq_false_iff.mpr hlive) hopen hframe
  · split at h
    · rename_i hdone
      cases h
      exact .done hworker hdone
    · rename_i hlive
      split at h <;> cases h
      · exact .strike (.inl rfl) (by rw [hworker]; rfl)
      · exact .read hworker (Bool.eq_false_iff.mpr hlive)
  · split at h <;> rename_i hframe <;> cases h
    · exact .strike (.inl rfl) (by rw [hworker]; rfl)
    · exact .draw hworker hframe
  · split at h <;> rename_i hclose <;> cases h
    · exact .unclosed hworker hclose
    · exact .close hworker hclose
  · split at h
    · cases h
    · rename_i hslot
      cases h
      exact .hand hworker (Option.not_isSome_iff_eq_none.mp hslot)
  · cases h
    exact .exit hworker
  · cases h
  · cases h

theorem stepped_of_step (h : c.step job m = some c') : Stepped job c m c' := by
  cases m with
  | caller => exact stepped_of_stepCaller h
  | worker => exact stepped_of_stepWorker h
  | wake =>
    rw [step] at h
    split at h
    · rename_i hworker
      split at h
      · rename_i hready
        cases h
        rw [Bool.and_eq_true, Bool.not_eq_true'] at hready
        exact .wake hworker hready.1 hready.2
      · cases h
    · cases h
  | raise text =>
    obtain ⟨w, hraised, rfl⟩ := Option.map_eq_some_iff.mp h
    exact .strike (.inr rfl) hraised
  | resize report =>
    cases h
    exact .resize report
  | deliver =>
    rw [step] at h
    split at h
    · rename_i hpending
      cases h
      exact .deliver hpending
    · cases h

/-- After a read, the worker is about to leave with an exception, or goes on with what the events have made of the
session and shows it. -/
theorem worker_round (console : Console) (c : Call) (saved : Option Modes) (arrivals : List Arrival)
    (session shown : Session) (r : Read) :
    (∃ text, (c.round console saved arrivals session shown r).worker = .leaving saved shown (.error text)) ∨
    ∃ events t, handleBatch session events = (t, .ok ()) ∧
      (c.round console saved arrivals session shown r).worker = .browsing saved arrivals r.unread t t := by
  rw [round]
  dsimp only
  split
  · exact .inl ⟨_, rfl⟩
  rename_i events hevents
  split
  · exact .inl ⟨_, rfl⟩
  rename_i t hbatch
  split
  · exact .inl ⟨_, rfl⟩
  · exact .inr ⟨events, t, hbatch, rfl⟩

/-! ## The handover -/

theorem isWorking_round (console : Console) (c : Call) (saved : Option Modes) (arrivals : List Arrival)
    (session shown : Session) (r : Read) :
    (c.round console saved arrivals session shown r).worker.isWorking = true := by
  rcases worker_round console c saved arrivals session shown r with ⟨_, h⟩ | ⟨_, _, _, h⟩ <;> rw [h] <;> rfl

/-- The threads are in step: the worker runs from its start on until the caller has waited for its end, and what
it hands over, which is one outcome at most, is on its way or has been taken. -/
structure InStep (c : Call) : Prop where
  started : c.caller.hasStarted = (c.worker.isWorking || c.worker.hasHanded)
  joined : c.caller.hasJoined = true → c.worker = .ended
  delivered : c.delivered = c.caller.taken?.toList ++ c.slot.toList
  once : c.delivered.length = if c.worker.hasHanded then 1 else 0

theorem inStep_begin (link : Link) : (begin link).InStep :=
  ⟨rfl, nofun, rfl, rfl⟩

theorem InStep.unstarted (h : c.InStep) (hcaller : c.caller.hasStarted = false) : c.worker = .unstarted := by
  have hstarted := h.started
  rw [hcaller] at hstarted
  cases hworker : c.worker with
  | unstarted => rfl
  | _ =>
    rw [hworker] at hstarted
    cases hstarted

theorem InStep.length_delivered_le (h : c.InStep) : c.delivered.length ≤ 1 := by
  rw [h.once]
  split <;> omega

/-- What the caller has taken when it has joined the worker is all that has been handed over. -/
theorem InStep.delivered_eq (h : c.InStep) (hjoined : c.caller.hasJoined = true) {o : Handed}
    (htaken : c.caller.taken? = some o) : c.delivered = [o] := by
  have honce := h.once
  have hdelivered := h.delivered
  rw [htaken, Option.toList_some] at hdelivered
  rw [hdelivered, h.joined hjoined] at honce
  cases hslot : c.slot with
  | none => rw [hdelivered, hslot]; rfl
  | some other => simp [hslot, Worker.hasHanded] at honce

/-- The threads stay in step as long as the worker has not handed over anything. -/
theorem InStep.of_isWorking (h : c.InStep) (hworker : c.worker.isWorking = true)
    (hworker' : c'.worker.isWorking = true) (hcaller : c'.caller = c.caller) (hslot : c'.slot = c.slot)
    (hdelivered : c'.delivered = c.delivered) : c'.InStep := by
  refine ⟨?_, fun hjoined => ?_, ?_, ?_⟩
  · rw [hcaller, h.started, hworker, hworker', Bool.true_or, Bool.true_or]
  · rw [hcaller] at hjoined
    rw [h.joined hjoined] at hworker
    cases hworker
  · rw [hdelivered, hcaller, hslot, h.delivered]
  · rw [hdelivered, h.once, Worker.not_hasHanded_of_isWorking hworker,
      Worker.not_hasHanded_of_isWorking hworker']

theorem Stepped.inStep (h : Stepped job c m c') (hc : c.InStep) : c'.InStep := by
  cases h with
  | print hworker | opened hworker | undrawn hworker | done hworker | draw hworker | close hworker | unclosed hworker =>
    exact hc.of_isWorking (by rw [hworker]; rfl) rfl rfl rfl rfl
  | read hworker | wake hworker =>
    exact hc.of_isWorking (by rw [hworker]; rfl) (isWorking_round _ _ _ _ _ _ _) rfl rfl rfl
  | strike _ hraised =>
    obtain ⟨hworking, hworking'⟩ := Worker.isWorking_of_raised hraised
    exact hc.of_isWorking hworking hworking' rfl rfl rfl
  | resize | deliver => exact ⟨hc.started, hc.joined, hc.delivered, hc.once⟩
  | hand hworker hslot =>
    obtain ⟨hstarted, hjoined, hdelivered, honce⟩ := hc
    rw [hworker] at hstarted hjoined honce
    rw [hslot, Option.toList_none, List.append_nil] at hdelivered
    refine ⟨hstarted, fun h => absurd (hjoined h) nofun, ?_, ?_⟩
    · rw [hdelivered]
      rfl
    · rw [List.length_append, honce]
      rfl
  | exit hworker =>
    obtain ⟨hstarted, hjoined, hdelivered, honce⟩ := hc
    rw [hworker] at hstarted hjoined honce
    exact ⟨hstarted, fun h => absurd (hjoined h) nofun, hdelivered, honce⟩
  | start hcaller =>
    obtain ⟨hstarted, -, hdelivered, honce⟩ := hc
    rw [hcaller] at hstarted hdelivered
    have hnot : c.worker.hasHanded = false := (Bool.or_eq_false_iff.mp hstarted.symm).2
    rw [hnot] at honce
    exact ⟨rfl, nofun, hdelivered, honce⟩
  | enter hcaller =>
    obtain ⟨hstarted, -, hdelivered, honce⟩ := hc
    rw [hcaller] at hstarted hdelivered
    exact ⟨hstarted, nofun, hdelivered, honce⟩
  | take hcaller hslot =>
    obtain ⟨hstarted, -, hdelivered, honce⟩ := hc
    rw [hcaller] at hstarted hdelivered
    rw [hslot] at hdelivered
    exact ⟨hstarted, nofun, hdelivered, honce⟩
  | join hcaller hworker =>
    obtain ⟨hstarted, -, hdelivered, honce⟩ := hc
    rw [hcaller] at hstarted hdelivered
    exact ⟨hstarted, fun _ => hworker, hdelivered, honce⟩
  | release hcaller | fail hcaller | succeed hcaller =>
    obtain ⟨hstarted, hjoined, hdelivered, honce⟩ := hc
    rw [hcaller] at hstarted hjoined hdelivered
    exact ⟨hstarted, hjoined, hdelivered, honce⟩

/-! ## What is reported -/

/-- How an outcome is reported, with what is printed as an error and to erase lines: a table that has failed ends
the program, with a message and without erasing any line. -/
inductive Report (selectable : Bool) : Handed → Ending → (errors erased : String) → Prop
  | failed (text : String) :
    Report selectable (.error text) (.exits 1) ("Error running program: " ++ text ++ "\n") ""
  | succeeded (o : Outcome) :
    Report selectable (.ok o) (.returns o.selection) "" (if selectable then eraseLines o.frameHeight else "")

/-- The caller prints nothing before the end, and then what belongs to the outcome. -/
def Reports (job : Job) (c : Call) : Prop :=
  match c.caller with
  | .finished o ending => Report job.session.selectable o ending c.errors c.erased
  | _ => c.errors = "" ∧ c.erased = ""

theorem reports_begin (link : Link) : Reports job (begin link) :=
  ⟨rfl, rfl⟩

theorem Stepped.reports (h : Stepped job c m c') (hc : Reports job c) : Reports job c' := by
  cases h with
  | enter hcaller | start hcaller | take hcaller | join hcaller | release hcaller =>
    rw [Reports, hcaller] at hc
    exact hc
  | fail hcaller =>
    rw [Reports, hcaller] at hc
    rw [Reports, hc.2]
    exact .failed _
  | succeed hcaller =>
    rw [Reports, hcaller] at hc
    rw [Reports, hc.1]
    exact .succeeded _
  | _ => exact hc

/-! ## Progress -/

/-- A bound of the steps that the threads still have to take. -/
def rank (job : Job) (c : Call) : Nat :=
  c.caller.rank + c.worker.rank job

theorem rank_round (console : Console) (c : Call) (saved : Option Modes) (arrivals : List Arrival)
    (session shown : Session) (r : Read) :
    (c.round console saved arrivals session shown r).worker.rank job ≤ arrivals.length + 5 := by
  rcases worker_round console c saved arrivals session shown r with ⟨_, h⟩ | ⟨_, _, _, h⟩
  · rw [h]
    show 4 ≤ arrivals.length + 5
    omega
  · rw [h]
    exact Nat.le_refl _

theorem Stepped.rank_lt (h : Stepped job c m c') (hin : c.InStep) (hm : m = .caller ∨ m = .worker) :
    c'.rank job < c.rank job := by
  cases h with
  | start hcaller =>
    have hworker := hin.unstarted (by rw [hcaller]; rfl)
    simp only [rank, hcaller, hworker, Caller.rank, Worker.rank]
    omega
  | enter hcaller | take hcaller | join hcaller | release hcaller | fail hcaller | succeed hcaller =>
    simp only [rank, hcaller, Caller.rank]
    omega
  | print hworker | opened hworker | undrawn hworker | done hworker | draw hworker | close hworker | unclosed hworker
  | hand hworker | exit hworker =>
    simp only [rank, hworker, Worker.rank]
    omega
  | read hworker =>
    refine Nat.add_lt_add_left (Nat.lt_of_le_of_lt (rank_round _ _ _ _ _ _ _) ?_) _
    rw [hworker]
    exact Nat.lt_succ_self _
  | strike _ hraised => exact Nat.add_lt_add_left (Worker.rank_of_raised job hraised) _
  | wake | resize | deliver => simp at hm

/-- A worker that runs can go on until it hands over. -/
theorem exists_stepWorker (job : Job) (hworker : c.worker.isWorking = true) (hslot : c.slot = none) :
    ∃ c', c.stepWorker job = some c' := by
  cases hw : c.worker with
  | opening =>
    simp only [stepWorker, hw]
    split
    · split <;> exact ⟨_, rfl⟩
    · split
      · exact ⟨_, rfl⟩
      · split <;> exact ⟨_, rfl⟩
  | browsing saved arrivals unread session shown =>
    simp only [stepWorker, hw]
    split
    · exact ⟨_, rfl⟩
    · split <;> exact ⟨_, rfl⟩
  | leaving saved shown result | closing saved result =>
    simp only [stepWorker, hw]
    split <;> exact ⟨_, rfl⟩
  | handing result => exact ⟨_, by simp only [stepWorker, hw, hslot]; rfl⟩
  | unstarted | exiting | ended =>
    rw [hw] at hworker
    cases hworker

/-- Some thread can go on until the call has finished. -/
theorem InStep.exists_step (job : Job) (hin : c.InStep) (hunfinished : ∀ o ending, c.caller ≠ .finished o ending) :
    ∃ m c', (m = .caller ∨ m = .worker) ∧ c.step job m = some c' := by
  obtain ⟨hstarted, -, hdelivered, honce⟩ := hin
  cases hcaller : c.caller with
  | entering | starting previous | releasing previous o =>
    exact ⟨.caller, _, .inl rfl, by simp only [step, stepCaller, hcaller]; rfl⟩
  | reporting o =>
    cases o <;> exact ⟨.caller, _, .inl rfl, by simp only [step, stepCaller, hcaller]; rfl⟩
  | waiting previous =>
    rw [hcaller] at hstarted hdelivered
    cases hslot : c.slot with
    | some o => exact ⟨.caller, _, .inl rfl, by simp only [step, stepCaller, hcaller, hslot]; rfl⟩
    | none =>
      -- nothing has been handed over yet, so the worker is still at work
      have hnot : c.worker.hasHanded = false := by
        rw [hdelivered, hslot] at honce
        simpa [Caller.taken?] using honce
      rw [hnot, Bool.or_false] at hstarted
      obtain ⟨c', hstep⟩ := exists_stepWorker job hstarted.symm hslot
      exact ⟨.worker, c', .inr rfl, hstep⟩
  | joining previous o =>
    rw [hdelivered, hcaller] at honce
    cases hworker : c.worker with
    | ended => exact ⟨.caller, _, .inl rfl, by simp only [step, stepCaller, hcaller, hworker]; rfl⟩
    | exiting => exact ⟨.worker, _, .inr rfl, by simp only [step, stepWorker, hworker]; rfl⟩
    | _ => simp [hworker, Caller.taken?, Worker.hasHanded] at honce
  | finished o ending => exact absurd hcaller (hunfinished o ending)

/-! ## Runs -/

theorem run_cons {moves : List Move} (h : c.run job (m :: moves) = some c') :
    ∃ between, c.step job m = some between ∧ between.run job moves = some c' := by
  rw [run, List.foldlM_cons] at h
  exact Option.bind_eq_some_iff.mp h

/-- What every step keeps holds after a run. -/
theorem run_induction {p : Call → Prop} (hkeep : ∀ c m c', Stepped job c m c' → p c → p c')
    {moves : List Move} (hc : p c) (h : c.run job moves = some c') : p c' := by
  induction moves generalizing c with
  | nil => exact Option.some.inj h ▸ hc
  | cons m moves ih =>
    obtain ⟨between, hstep, hrun⟩ := run_cons h
    exact ih (hkeep c m between (stepped_of_step hstep) hc) hrun

/-- The threads bring every call that is in step to its end. -/
theorem InStep.exists_finished (job : Job) (hin : c.InStep) :
    ∃ moves o ending c', (∀ m ∈ moves, m = .caller ∨ m = .worker) ∧ c.run job moves = some c' ∧
      c'.caller = .finished o ending := by
  induction hrank : c.rank job using Nat.strongRecOn generalizing c with
  | ind n ih =>
    by_cases hfinished : ∃ o ending, c.caller = .finished o ending
    · obtain ⟨o, ending, hcaller⟩ := hfinished
      exact ⟨[], o, ending, c, by simp, rfl, hcaller⟩
    · simp only [not_exists] at hfinished
      obtain ⟨m, between, hm, hstep⟩ := hin.exists_step job hfinished
      have hstepped := stepped_of_step hstep
      obtain ⟨moves, o, ending, c', hmoves, hrun, hcaller⟩ :=
        ih _ (hrank ▸ hstepped.rank_lt hin hm) (hstepped.inStep hin) rfl
      refine ⟨m :: moves, o, ending, c', List.forall_mem_cons.mpr ⟨hm, hmoves⟩, ?_, hcaller⟩
      rw [run, List.foldlM_cons, hstep]
      exact hrun

end Call

end WorkspaceDesk.Prompt

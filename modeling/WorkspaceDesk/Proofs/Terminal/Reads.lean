import WorkspaceDesk.Terminal.Link

/-!
# Sizes that reads tell

While the window changes its size again and again, in the middle of reads as well, the signals of several
changes may become one, and a read may ask for the size before the signal of a change has arrived. Still the
last size is told in the end: as long as it has not been told, there is a signal to come, a byte in the pipe,
or a read that has emptied the pipe and is about to ask for the size (`Reader.Aware`). So once none of these is
left, the last size that has been told is that of the window (`Reader.sees_last_size`).
-/

namespace WorkspaceDesk.Terminal

open Table

/-! ## What reads have told -/

/-- The new size that an event tells. -/
def newSize? : Event → Option Size
  | .resize columns lines => some ⟨columns, lines⟩
  | .key _ | .foreign _ => none

/-- The events are keys, with at most one new size before them. -/
def SizeFirst (events : List Event) : Prop :=
  ∃ (size : Option Size) (keys : List Key),
    events = (size.toList.map fun s => Event.resize s.columns s.lines) ++ keys.map .key

/-- The report of the last change of the window among steps. -/
def lastReport? (steps : List Step) : Option (Option Size) :=
  (steps.filterMap fun
    | .resize report => some report
    | _ => none).getLast?

namespace Reader

/-- A reader whose wake pipe has just been opened. -/
def opened (p : Link) : Reader :=
  ⟨(p.openWake true true).1, .outside, []⟩

/-- The size that the read under way has asked for. -/
def asked? (r : Reader) : Option Size :=
  match r.phase with
  | .measured size _ => size
  | _ => none

/-- The sizes that reads have told, in order. That of the read under way is told once it is known. -/
def sizes (r : Reader) : List Size :=
  r.returned.flatten.filterMap newSize? ++ r.asked?.toList

/-- No signal is to come, the pipe is empty, and no read stands between emptying it and asking for the
size, or has failed. -/
structure Settled (r : Reader) : Prop where
  delivered : r.link.signalPending = false
  emptied : r.link.wakePipe = some 0
  measured : ∀ typed, r.phase ≠ .drained typed
  unfailed : ∀ e, r.phase ≠ .failed e

/-! ## What a step does -/

/-- The steps of a reader, with what they take for granted. -/
inductive Stepped (r : Reader) : Step → Reader → Prop
  | resize (report : Option Size) :
    Stepped r (.resize report) { r with link := r.link.resize (.ofReport report) }
  | deliver (hpending : r.link.signalPending = true) : Stepped r .deliver { r with link := r.link.deliver }
  | wake {typed : Option Bytes} (hphase : r.phase = .outside) (hwoken : r.link.woken = true) :
    Stepped r (.select typed) { r with phase := .waking typed }
  | keys {typed : Option Bytes} (hphase : r.phase = .outside) (htyped : typed.isSome = true) :
    Stepped r (.select typed) { r with phase := .measured none typed }
  | drain {typed : Option Bytes} (hphase : r.phase = .waking typed) :
    Stepped r .drain { r with link := r.link.drain, phase := .drained typed }
  | measure {typed : Option Bytes} (hphase : r.phase = .drained typed) :
    Stepped r .measure { r with phase := .measured (some r.link.size) typed }
  | finish {size : Option Size} {typed : Option Bytes} {events : List Event}
      (hphase : r.phase = .measured size typed) (hevents : eventsOf size typed = .ok events) :
    Stepped r .finish { r with phase := .outside, returned := r.returned ++ [events] }
  | fail {size : Option Size} {typed : Option Bytes} {e : ReadError}
      (hphase : r.phase = .measured size typed) (hevents : eventsOf size typed = .error e) :
    Stepped r .finish { r with phase := .failed e }

variable {r r' : Reader} {st : Step}

theorem stepped_of_step (h : r.step st = some r') : Stepped r st r' := by
  cases st with
  | resize report =>
    cases h
    exact .resize report
  | deliver =>
    rw [step] at h
    split at h
    · rename_i hpending
      cases h
      exact .deliver hpending
    · cases h
  | select typed =>
    cases hphase : r.phase with
    | outside =>
      simp only [step, hphase] at h
      split at h
      · rename_i hwoken
        cases h
        exact .wake hphase hwoken
      · split at h
        · rename_i htyped
          cases h
          exact .keys hphase htyped
        · cases h
    | _ => simp [step, hphase] at h
  | drain =>
    cases hphase : r.phase with
    | waking typed =>
      simp only [step, hphase] at h
      cases h
      exact .drain hphase
    | _ => simp [step, hphase] at h
  | measure =>
    cases hphase : r.phase with
    | drained typed =>
      simp only [step, hphase] at h
      cases h
      exact .measure hphase
    | _ => simp [step, hphase] at h
  | finish =>
    cases hphase : r.phase with
    | measured size typed =>
      simp only [step, hphase] at h
      split at h
      · rename_i events hevents
        cases h
        exact .finish hphase hevents
      · rename_i e hevents
        cases h
        exact .fail hphase hevents
    | _ => simp [step, hphase] at h

/-! ## Reads without anything in between -/

/-- A read in steps is a read, where no step of another kind comes in between. -/
theorem run_read (p : Link) (typed : Option Bytes) (returned : List (List Event))
    (hready : p.woken = true ∨ typed.isSome = true) :
    run ⟨p, .outside, returned⟩
        (if p.woken then [.select typed, .drain, .measure, .finish] else [.select typed, .finish]) =
      some (match p.readEvents typed with
        | (q, .ok events) => ⟨q, .outside, returned ++ [events]⟩
        | (q, .error e) => ⟨q, .failed e, returned⟩) := by
  cases hwoken : p.woken with
  | true =>
    simp only [Link.readEvents, run, hwoken, ↓reduceIte, List.foldlM_cons, List.foldlM_nil, step,
      Option.bind_eq_bind, Option.bind_some]
    split <;> rename_i hevents <;> rw [hevents] <;> rfl
  | false =>
    have htyped : typed.isSome = true := by simpa [hwoken] using hready
    simp only [Link.readEvents, run, hwoken, htyped, Bool.false_eq_true, ↓reduceIte,
      List.foldlM_cons, List.foldlM_nil, step, Option.bind_eq_bind, Option.bind_some]
    split <;> rename_i hevents <;> rw [hevents] <;> rfl

/-! ## What every step keeps -/

/-- The events of a read that succeeds are keys behind the size that it has asked for. -/
theorem exists_keys_of_eventsOf {size : Option Size} {typed : Option Bytes} {events : List Event}
    (h : eventsOf size typed = .ok events) : ∃ keys : List Key,
      events = (size.toList.map fun s => Event.resize s.columns s.lines) ++ keys.map .key := by
  unfold eventsOf at h
  dsimp only at h
  split at h
  · exact ⟨[], by rw [← Except.ok.inj h, List.map_nil, List.append_nil]⟩
  · cases h
  · split at h
    · rename_i keys _
      exact ⟨keys, (Except.ok.inj h).symm⟩
    · cases h

/-- What a read tells is the size that it has asked for. -/
theorem newSizes_of_eventsOf {size : Option Size} {typed : Option Bytes} {events : List Event}
    (h : eventsOf size typed = .ok events) : events.filterMap newSize? = size.toList := by
  obtain ⟨keys, rfl⟩ := exists_keys_of_eventsOf h
  have hkeys : (keys.map Event.key).filterMap newSize? = [] := by
    rw [List.filterMap_map]
    exact List.filterMap_eq_nil_iff.mpr fun _ _ => rfl
  rw [List.filterMap_append, hkeys, List.append_nil, List.filterMap_map]
  cases size <;> rfl

/-- The handler writes to the pipe, which is open, and each read that has returned told at most one size,
before the keys. -/
structure Listens (r : Reader) : Prop where
  handler : r.link.handler = .wake
  pipe : r.link.wakePipe.isSome = true
  reads : ∀ events ∈ r.returned, SizeFirst events

theorem listens_opened (p : Link) : (opened p).Listens :=
  ⟨rfl, rfl, by simp [opened]⟩

theorem Stepped.listens (h : Stepped r st r') (hr : r.Listens) : r'.Listens := by
  cases h with
  | resize | wake | keys | measure | fail => exact ⟨hr.handler, hr.pipe, hr.reads⟩
  | deliver hpending =>
    refine ⟨?_, ?_, hr.reads⟩
    · simpa [Link.deliver, hpending] using hr.handler
    · simpa [Link.deliver, hpending, hr.handler] using hr.pipe
  | drain => exact ⟨hr.handler, by simpa [Link.drain] using hr.pipe, hr.reads⟩
  | finish hphase hevents =>
    refine ⟨hr.handler, hr.pipe, fun events hmem => ?_⟩
    rcases List.mem_append.mp hmem with hmem | hmem
    · exact hr.reads events hmem
    · obtain rfl := List.mem_singleton.mp hmem
      exact ⟨_, exists_keys_of_eventsOf hevents⟩

/-- The size of the window has been told last, or something is left that leads to it, unless a read has
failed. -/
inductive Aware (r : Reader) : Prop
  | told (h : r.sizes.getLast? = some r.link.size)
  | signalled (h : r.link.signalPending = true)
  | woken (h : r.link.woken = true)
  /-- A read has emptied the pipe and is about to ask for the size. -/
  | drained {typed : Option Bytes} (h : r.phase = .drained typed)
  | failed {e : ReadError} (h : r.phase = .failed e)

/-- Once nothing is left, the size has been told. -/
theorem Aware.told_of_settled (h : r.Aware) (hsettled : r.Settled) :
    r.sizes.getLast? = some r.link.size := by
  cases h with
  | told h => exact h
  | signalled h => rw [hsettled.delivered] at h; cases h
  | woken h => rw [Link.woken, hsettled.emptied] at h; cases h
  | drained h => exact absurd h (hsettled.measured _)
  | failed h => exact absurd h (hsettled.unfailed _)

/-- A step of a read before or after the size is asked for loses nothing. -/
theorem Aware.of_read (h : r.Aware) (hlink : r'.link = r.link) (hsizes : r'.sizes = r.sizes)
    (hdrained : ∀ typed, r.phase ≠ .drained typed) (hfailed : ∀ e, r.phase ≠ .failed e) :
    r'.Aware := by
  cases h with
  | told h => exact .told (by rw [hsizes, hlink, h])
  | signalled h => exact .signalled (by rw [hlink, h])
  | woken h => exact .woken (by rw [hlink, h])
  | drained h => exact absurd h (hdrained _)
  | failed h => exact absurd h (hfailed _)

theorem Stepped.aware (h : Stepped r st r') (hr : r.Listens) (haware : r.Aware) : r'.Aware := by
  cases h with
  | resize => exact .signalled rfl
  | deliver hpending =>
    obtain ⟨n, hpipe⟩ := Option.isSome_iff_exists.mp hr.pipe
    exact .woken (by simp [Link.woken, Link.deliver, hpending, hr.handler, hpipe])
  | wake hphase | keys hphase =>
    exact haware.of_read rfl (by simp [sizes, asked?, hphase]) (by simp [hphase]) (by simp [hphase])
  | drain => exact .drained rfl
  | measure => exact .told (by simp [sizes, asked?])
  | finish hphase hevents =>
    refine haware.of_read rfl ?_ (by simp [hphase]) (by simp [hphase])
    simp [sizes, asked?, hphase, newSizes_of_eventsOf hevents]
  | fail => exact .failed rfl

/-! ## Runs -/

theorem exists_of_run_cons {steps : List Step} (h : r.run (st :: steps) = some r') :
    ∃ between, Stepped r st between ∧ between.run steps = some r' := by
  rw [run, List.foldlM_cons] at h
  obtain ⟨between, hstep, hrun⟩ := Option.bind_eq_some_iff.mp h
  exact ⟨between, stepped_of_step hstep, hrun⟩

theorem listens_run {steps : List Step} (hr : r.Listens) (h : r.run steps = some r') : r'.Listens := by
  induction steps generalizing r with
  | nil => exact Option.some.inj h ▸ hr
  | cons st steps ih =>
    obtain ⟨between, hstep, hrun⟩ := exists_of_run_cons h
    exact ih (hstep.listens hr) hrun

theorem lastReport?_resize (report : Option Size) (steps : List Step) :
    lastReport? (.resize report :: steps) = some ((lastReport? steps).getD report) :=
  List.getLast?_cons

theorem lastReport?_cons (h : ∀ report, st ≠ .resize report) (steps : List Step) :
    lastReport? (st :: steps) = lastReport? steps := by
  cases st with
  | resize report => exact absurd rfl (h report)
  | _ => rfl

/-- The window has the size of its last change. -/
theorem size_run {steps : List Step} (h : r.run steps = some r') :
    r'.link.size = ((lastReport? steps).map Size.ofReport).getD r.link.size := by
  induction steps generalizing r with
  | nil =>
    obtain rfl := Option.some.inj h
    rfl
  | cons st steps ih =>
    obtain ⟨between, hstep, hrun⟩ := exists_of_run_cons h
    rw [ih hrun]
    cases hstep with
    | resize report =>
      rw [lastReport?_resize]
      cases lastReport? steps <;> rfl
    | deliver hpending =>
      rw [lastReport?_cons (by simp)]
      simp [Link.deliver, hpending]
    | drain =>
      rw [lastReport?_cons (by simp)]
      rfl
    | wake | keys | measure | finish | fail => rw [lastReport?_cons (by simp)]

/-- A change of the window is not lost, from the step on that makes it. -/
theorem aware_run {steps : List Step} (hr : r.Listens) (h : r.run steps = some r')
    (haware : r.Aware ∨ (lastReport? steps).isSome = true) : r'.Aware := by
  induction steps generalizing r with
  | nil =>
    obtain rfl := Option.some.inj h
    exact haware.resolve_right (by simp [lastReport?])
  | cons st steps ih =>
    obtain ⟨between, hstep, hrun⟩ := exists_of_run_cons h
    apply ih (hstep.listens hr) hrun
    rcases haware with haware | hlast
    · exact .inl (hstep.aware hr haware)
    · cases hstep with
      | resize report => exact .inl (.signalled rfl)
      | _ =>
        rw [lastReport?_cons (by simp)] at hlast
        exact .inr hlast

/-- However changes of the window and their signals come in between the steps of reads, no read tells more
than one size, and none behind its keys; and once a changed window is settled, the last size that has been
told is that of the window. -/
theorem sees_last_size (p : Link) {steps : List Step} (hrun : (opened p).run steps = some r) :
    (∀ events ∈ r.returned, SizeFirst events) ∧
      ∀ report, lastReport? steps = some report → r.Settled →
        r.link.size = .ofReport report ∧ r.sizes.getLast? = some r.link.size := by
  have hlistens := listens_opened p
  refine ⟨(listens_run hlistens hrun).reads, fun report hlast hsettled => ⟨?_, ?_⟩⟩
  · rw [size_run hrun, hlast]
    rfl
  · have haware := aware_run hlistens hrun (.inr (by rw [hlast]; rfl))
    exact haware.told_of_settled hsettled

/-- The window changes twice before its signal arrives, and once more after a read has emptied the pipe: this
read tells the last size already, and so does the next one, which the last signal leads to. -/
theorem sees_last_size_of_change_within_read :
    let p : Link := { (default : Link) with size := ⟨80, 24⟩ }
    let steps : List Step := [.resize (some ⟨100, 30⟩), .resize none, .deliver, .select (some [0x71]),
      .drain, .resize (some ⟨60, 20⟩), .measure, .finish, .deliver, .select none, .drain, .measure]
    ∃ r, (opened p).run steps = some r ∧ r.returned = [[.resize 60 20, .key (.char 'q')]] ∧
      SizeFirst [.resize 60 20, .key (.char 'q')] ∧ r.sizes = [⟨60, 20⟩, ⟨60, 20⟩] ∧
        r.link.size = ⟨60, 20⟩ ∧ r.sizes.getLast? = some r.link.size := by
  intro p steps
  obtain ⟨r, hrun, hreturned, hphase, hsettled⟩ : ∃ r, (opened p).run steps = some r ∧
      r.returned = [[.resize 60 20, .key (.char 'q')]] ∧
        r.phase = .measured (some ⟨60, 20⟩) none ∧ r.Settled :=
    ⟨_, rfl, rfl, rfl, rfl, rfl, by simp, by simp⟩
  obtain ⟨hreads, hlast⟩ := sees_last_size p hrun
  obtain ⟨hsize, htold⟩ := hlast (some ⟨60, 20⟩) rfl hsettled
  refine ⟨r, hrun, hreturned, hreads _ (by rw [hreturned]; simp), ?_, hsize, htold⟩
  rw [sizes, asked?, hreturned, hphase]
  rfl

end Reader

end WorkspaceDesk.Terminal

import WorkspaceDesk.Command.Invocation
import WorkspaceDesk.Proofs.Except
import WorkspaceDesk.Proofs.Json.Bounds

/-!
# Numbers among arguments

The numbers that options are given have no more digits than numbers may have, so that a profile that is to be
added has a port that can be written and read (`boundedJob_ofArguments`).
-/

namespace WorkspaceDesk.Command

open Text

variable {g : Grammar}

namespace Arguments

variable {a b : Arguments}

/-- The numbers that options have been given have no more digits than numbers may have. -/
def Bounded (a : Arguments) : Prop :=
  ∀ r n, (r, Setting.number n) ∈ a.options → n.natAbs < 10 ^ maxDigits

theorem bounded_empty : Arguments.empty.Bounded := by
  intro r n h
  cases h

theorem Bounded.of_options_eq (h : a.Bounded) (heq : b.options = a.options) : b.Bounded := by
  intro r n hmem
  rw [heq] at hmem
  exact h r n hmem

theorem Bounded.set {r : OptionRule} {s : Setting} (h : a.Bounded)
    (hs : ∀ n, s = .number n → n.natAbs < 10 ^ maxDigits) (hset : a.set g r s = .ok b) :
    b.Bounded := by
  rw [Arguments.set] at hset
  split at hset
  · cases hset
  · cases hset
    intro r' n hmem
    rcases List.mem_append.mp hmem with hmem | hmem
    · exact h r' n hmem
    · cases List.mem_singleton.mp hmem
      exact hs n rfl

theorem Bounded.use {u : Use} (h : a.Bounded) (huse : a.use g u = .ok b) : b.Bounded := by
  rw [Arguments.use] at huse
  split at huse
  · cases huse
  · cases huse
  · exact h.set (by simp) huse
  · exact h.set (by simp) huse
  · dsimp only at huse
    split at huse
    · rename_i n hparse
      refine h.set (fun m hm => ?_) huse
      cases hm
      exact Json.natAbs_parseInt_lt hparse
    · cases huse

theorem Bounded.foldlM_use {uses : List Use} (h : a.Bounded)
    (hfold : uses.foldlM (Arguments.use g) a = .ok b) : b.Bounded := by
  induction uses generalizing a with
  | nil =>
    cases hfold
    exact h
  | cons u rest ih =>
    rw [List.foldlM_cons] at hfold
    obtain ⟨next, huse, hrest⟩ := exists_of_bind_eq_ok hfold
    exact ih (h.use huse) hrest

theorem options_enter {operand : String} {choices : List Choice} {arguments : List String}
    (henter : a.enter operand choices arguments = .ok b) : b.options = a.options := by
  unfold enter at henter
  split at henter
  · cases henter
    rfl
  · split at henter
    · cases henter
      rfl
    · cases henter

/-- Only the options among the arguments that are read change what options have been given. -/
theorem Bounded.readFrom {isOpen : Bool} {shaped : List (String × Shape)} (h : a.Bounded)
    (hread : Arguments.readFrom g isOpen a shaped = .ok b) : b.Bounded := by
  fun_induction Arguments.readFrom g isOpen a shaped with
  | case1 | case13 =>
    cases hread
    exact h
  | case3 | case4 | case6 | case8 => cases hread
  | case5 _ _ _ _ _ _ _ _ _ hfold ih | case7 _ _ _ _ _ _ _ _ _ _ _ hfold ih =>
    exact ih (h.foldlM_use hfold) hread
  | case14 => exact h.of_options_eq (options_enter hread)
  -- an operand, or an argument that nothing asks for
  | _ =>
    rename_i ih
    exact ih h hread

theorem Bounded.number? {name : String} {n : Int} (h : a.Bounded) (hn : a.number? name = some n) :
    n.natAbs < 10 ^ maxDigits := by
  rw [Arguments.number?] at hn
  split at hn
  · rename_i hsetting
    cases hn
    obtain ⟨⟨r, s⟩, hfind, rfl⟩ := Option.map_eq_some_iff.mp hsetting
    exact h r n (List.mem_reverse.mp (List.mem_of_find?_eq_some hfind))
  · cases hn

end Arguments

theorem Grammar.bounded_read {arguments : List String} {a : Arguments}
    (h : g.read arguments = .ok a) : a.Bounded := by
  rw [Grammar.read] at h
  split at h
  · cases h
  split at h
  · cases h
  rename_i b hread
  have hbounded := Arguments.bounded_empty.readFrom hread
  unfold Arguments.complete at h
  dsimp only at h
  split at h
  · cases h
  split at h
  · cases h
  · cases h
    exact hbounded

/-! ## Jobs -/

/-- The port of the profile that is to be added, if any, has no more digits than numbers may have. -/
def BoundedJob (job : Option Job) : Prop :=
  ∀ p, job = some (.addProfile p) → p.port.natAbs < 10 ^ maxDigits

theorem natAbs_port_profileOf {a : Arguments} (h : a.Bounded) :
    (profileOf a).port.natAbs < 10 ^ maxDigits := by
  show ((a.number? "--port").getD 22).natAbs < 10 ^ maxDigits
  cases hn : a.number? "--port" with
  | none => exact Json.lt_limit (by decide : (22 : Int).natAbs < 10 ^ 2) (by decide)
  | some n => exact h.number? hn

theorem askOf_eq_ok {arguments : List String} {job : Arguments → Job} {asked : Asked}
    (h : askOf g arguments job = .ok asked) :
    ∃ a : Arguments, a.Bounded ∧ asked.1 = some (job a) := by
  rw [askOf, readOf] at h
  obtain ⟨a, hread, rfl⟩ := exists_of_map_eq_ok h
  exact ⟨a, Grammar.bounded_read (eq_ok_of_mapError_eq_ok hread), rfl⟩

/-- A command that adds no profile has no port. -/
theorem boundedJob_askOf {arguments : List String} {job : Arguments → Job} {asked : Asked}
    (h : askOf g arguments job = .ok asked) (hjob : ∀ a p, job a ≠ .addProfile p) :
    BoundedJob asked.1 := by
  obtain ⟨a, -, hasked⟩ := askOf_eq_ok h
  intro p hp
  rw [hasked] at hp
  exact absurd (Option.some.inj hp) (hjob a p)

theorem boundedJob_askProfile {name : String} {arguments : List String} {asked : Asked}
    (h : askProfile name arguments = .ok asked) : BoundedJob asked.1 := by
  unfold askProfile at h
  split at h
  · exact boundedJob_askOf h (by simp)
  · obtain ⟨a, hbounded, hasked⟩ := askOf_eq_ok h
    intro p hp
    rw [hasked] at hp
    cases hp
    exact natAbs_port_profileOf hbounded
  all_goals exact boundedJob_askOf h (by simp)

theorem boundedJob_askWithin {arguments : List String} {meant : Option Job}
    {inner : String → List String → Except Refusal Asked} {asked : Asked}
    (hmeant : BoundedJob meant)
    (hinner : ∀ name rest asked, inner name rest = .ok asked → BoundedJob asked.1)
    (h : askWithin g arguments meant inner = .ok asked) : BoundedJob asked.1 := by
  unfold askWithin at h
  split at h
  · cases h
  split at h
  · cases h
    exact hmeant
  · rename_i name rest _
    obtain ⟨inside, hask, rfl⟩ := exists_of_map_eq_ok h
    exact hinner name rest inside hask

theorem boundedJob_askProgram {arguments : List String} {asked : Asked}
    (h : askProgram arguments = .ok asked) : BoundedJob asked.1 := by
  unfold askProgram at h
  split at h
  · cases h
    intro p hp
    cases hp
  · refine boundedJob_askWithin (fun p hp => ?_) (fun _ _ _ => boundedJob_askProfile) h
    cases hp
  · refine boundedJob_askWithin (fun p hp => ?_) (fun _ _ _ hask => ?_) h
    · cases hp
    · exact boundedJob_askOf hask (by simp)

/-- A profile that the program is to add has a port that can be written and read. -/
theorem boundedJob_ofArguments {arguments : List String} {i : Invocation}
    (h : Invocation.ofArguments arguments = .ok i) : BoundedJob i.job := by
  unfold Invocation.ofArguments at h
  split at h
  · cases h
  split at h
  · cases h
  rename_i job unknown hask
  dsimp only at h
  split at h
  · cases h
    exact boundedJob_askProgram hask
  · cases h

end WorkspaceDesk.Command

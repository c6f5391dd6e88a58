import Mathlib.Order.Bounds.Basic
import WorkspaceDesk.Profile.Rows
import WorkspaceDesk.Proofs.Profile.Sound
import WorkspaceDesk.Proofs.Profile.Store

/-!
# The active profile, in the table and in the configuration

The configuration takes the first profile with the active id, the cursor of the table starts at the last one, and
every one is marked, unless the id is that of the offer to create a profile. So the table and the configuration agree
exactly if one profile has the active id and it is not that of the offer (`Config.agreesOnActive_iff`).
-/

namespace WorkspaceDesk

open Table

namespace Profile

variable {profiles rest : List Profile} {p : Profile} {id : String} {i : Nat}

/-- The profile at an index has an id. -/
def HasIdAt (profiles : List Profile) (id : String) (i : Nat) : Prop :=
  ∃ p, profiles[i]? = some p ∧ p.id = id

@[simp]
theorem hasIdAt_cons_zero : HasIdAt (p :: rest) id 0 ↔ p.id = id := by
  simp [HasIdAt]

@[simp]
theorem hasIdAt_cons_succ : HasIdAt (p :: rest) id (i + 1) ↔ HasIdAt rest id i := by
  simp [HasIdAt]

theorem exists_hasIdAt (h : ∃ p ∈ profiles, p.id = id) : ∃ i, HasIdAt profiles id i := by
  obtain ⟨p, hp, hid⟩ := h
  obtain ⟨i, hi⟩ := List.getElem?_of_mem hp
  exact ⟨i, p, hi, hid⟩

/-! ## The start of the cursor -/

/-- The search goes on to the last profile with the id, and keeps what was found before if there is none. -/
theorem activeIndexFrom_cases (profiles : List Profile) (id : String) (index found : Nat) :
    (∀ i, ¬ HasIdAt profiles id i) ∧ activeIndexFrom id index found profiles = found ∨
      ∃ j, IsGreatest {i | HasIdAt profiles id i} j ∧
        activeIndexFrom id index found profiles = index + j := by
  induction profiles generalizing index found with
  | nil => exact .inl ⟨by simp [HasIdAt], rfl⟩
  | cons p rest ih =>
    rw [activeIndexFrom]
    rcases ih (index + 1) (if p.id = id then index else found) with ⟨hnone, hfound⟩ | ⟨j, hlast, hindex⟩
    · rw [hfound]
      by_cases hid : p.id = id
      · refine .inr ⟨0, ⟨hasIdAt_cons_zero.mpr hid, ?_⟩, if_pos hid⟩
        rintro (_ | i) hi
        · exact Nat.le_refl 0
        · exact absurd (hasIdAt_cons_succ.mp hi) (hnone i)
      · refine .inl ⟨?_, if_neg hid⟩
        rintro (_ | i) hi
        · exact hid (hasIdAt_cons_zero.mp hi)
        · exact hnone i (hasIdAt_cons_succ.mp hi)
    · refine .inr ⟨j + 1, ⟨hasIdAt_cons_succ.mpr hlast.1, ?_⟩, by omega⟩
      rintro (_ | i) hi
      · exact Nat.zero_le _
      · exact Nat.succ_le_succ (hlast.2 (hasIdAt_cons_succ.mp hi))

theorem isGreatest_activeIndex (h : ∃ p ∈ profiles, p.id = id) :
    IsGreatest {i | HasIdAt profiles id i} (activeIndex profiles id) := by
  rcases activeIndexFrom_cases profiles id 0 0 with ⟨hnone, -⟩ | ⟨j, hlast, hindex⟩
  · obtain ⟨i, hi⟩ := exists_hasIdAt h
    exact absurd hi (hnone i)
  · rwa [activeIndex, hindex, Nat.zero_add]

/-! ## The marks -/

/-- The row at an index is marked as that of the active profile. -/
def IsMarkedAt (profiles : List Profile) (activeId : String) (i : Nat) : Prop :=
  ∃ row, (rows profiles activeId)[i]? = some row ∧ row[2]? = some (boolText true)

example : columns[2]?.map Column.title = some "Active" := rfl

/-- The third cell of a row tells whether the profile is the active one; the offer has nothing there. -/
theorem row_getElem?_two (p : Profile) (activeId : String) :
    (p.row activeId)[2]? = some (if p.id = newId then "" else boolText (p.id = activeId)) := by
  unfold row
  dsimp only
  by_cases hdefault : p.id = defaultId
  · rw [if_pos hdefault, if_neg (by rw [hdefault]; decide)]
    rfl
  · rw [if_neg hdefault]
    split <;> rfl

theorem isMarkedAt_iff : IsMarkedAt profiles id i ↔ HasIdAt profiles id i ∧ id ≠ newId := by
  simp only [IsMarkedAt, HasIdAt, rows, List.getElem?_map, Option.map_eq_some_iff]
  constructor
  · rintro ⟨_, ⟨p, hp, rfl⟩, hmark⟩
    rw [row_getElem?_two, Option.some.injEq] at hmark
    by_cases hnew : p.id = newId
    · rw [if_pos hnew] at hmark
      exact absurd hmark (by decide)
    · rw [if_neg hnew] at hmark
      have hid : p.id = id := by
        by_contra hother
        rw [decide_eq_false hother] at hmark
        exact absurd hmark (by decide)
      exact ⟨⟨p, hp, hid⟩, hid ▸ hnew⟩
  · rintro ⟨⟨p, hp, hid⟩, hnew⟩
    refine ⟨_, ⟨p, hp, rfl⟩, ?_⟩
    rw [row_getElem?_two, if_neg (hid ▸ hnew), decide_eq_true hid]

theorem isMarkedAt_iff_of_ne (hnew : id ≠ newId) : IsMarkedAt profiles id i ↔ HasIdAt profiles id i :=
  isMarkedAt_iff.trans (and_iff_left hnew)

end Profile

namespace Config

open Profile

variable {c : Config}

/-- The search of the configuration stops at the first profile with the active id. -/
theorem isLeast_active (h : ∃ p ∈ c.profiles, p.id = c.activeId) :
    ∃ i p, IsLeast {i | HasIdAt c.profiles c.activeId i} i ∧ c.profiles[i]? = some p ∧ c.active = .ok p := by
  cases hget : c.get? c.activeId with
  | none =>
    obtain ⟨p, hp, hid⟩ := h
    exact absurd hid (id_ne_of_get?_isNone hget p hp)
  | some p =>
    obtain ⟨hid, i, hi, hp, hbefore⟩ := List.find?_eq_some_iff_getElem.mp hget
    have hentry : c.profiles[i]? = some p := List.getElem?_eq_some_iff.mpr ⟨hi, hp⟩
    refine ⟨i, p, ⟨⟨p, hentry, of_decide_eq_true hid⟩, ?_⟩, hentry, by rw [active, hget]⟩
    rintro j ⟨q, hq, hother⟩
    by_contra hlt
    obtain ⟨hj, rfl⟩ := List.getElem?_eq_some_iff.mp hq
    simpa [hother] using hbefore j (by omega)

/-- The table marks one row only, its cursor starts there, and this is the row of the profile that the configuration
takes. -/
structure AgreesOnActive (c : Config) : Prop where
  marks_one : ∃! i, IsMarkedAt c.profiles c.activeId i
  marks_index : IsMarkedAt c.profiles c.activeId (activeIndex c.profiles c.activeId)
  active_at : ∃ p, c.profiles[activeIndex c.profiles c.activeId]? = some p ∧ c.active = .ok p

theorem agreesOnActive_of_existsUnique (hnew : c.activeId ≠ newId)
    (hone : ∃! i, HasIdAt c.profiles c.activeId i) : c.AgreesOnActive := by
  have hactive : ∃ p ∈ c.profiles, p.id = c.activeId := by
    obtain ⟨i, ⟨p, hp, hid⟩, -⟩ := hone
    exact ⟨p, List.mem_of_getElem? hp, hid⟩
  have hindex := (isGreatest_activeIndex hactive).1
  obtain ⟨first, p, hfirst, hp, hget⟩ := isLeast_active hactive
  -- the first and the last profile with the id are the same
  have hsame : first = activeIndex c.profiles c.activeId := hone.unique hfirst.1 hindex
  exact ⟨by simpa only [isMarkedAt_iff_of_ne hnew] using hone, (isMarkedAt_iff_of_ne hnew).mpr hindex, p,
    hsame ▸ hp, hget⟩

/-- Where ids tell profiles apart, the table and the configuration agree. -/
theorem Sound.agreesOnActive (h : c.Sound) : c.AgreesOnActive := by
  obtain ⟨p, hp, hid⟩ := h.active
  refine agreesOnActive_of_existsUnique (hid ▸ (h.id_ne p hp).2) ?_
  obtain ⟨i, hi⟩ := exists_hasIdAt h.active
  refine ⟨i, hi, fun j hj => ?_⟩
  have hids : ∀ {k}, HasIdAt c.profiles c.activeId k → (c.profiles.map (·.id))[k]? = some c.activeId := by
    rintro k ⟨q, hq, hother⟩
    rw [List.getElem?_map, hq, Option.map_some, hother]
  exact (List.getElem?_inj (List.getElem?_eq_some_iff.mp (hids hj)).1 h.nodup).mp ((hids hj).trans (hids hi).symm)

/-- The configuration takes the first profile with the active id, the cursor starts at the last one, and each of them
is marked, unless the id is that of the offer. So the table and the configuration agree on the active profile if and
only if the id is another one and a single profile has it. -/
theorem agreesOnActive_iff (hactive : ∃ p ∈ c.profiles, p.id = c.activeId) :
    (∃ i p, IsLeast {i | HasIdAt c.profiles c.activeId i} i ∧ c.profiles[i]? = some p ∧
        c.active = .ok p) ∧
      IsGreatest {i | HasIdAt c.profiles c.activeId i} (activeIndex c.profiles c.activeId) ∧
      (∀ i, IsMarkedAt c.profiles c.activeId i ↔
        HasIdAt c.profiles c.activeId i ∧ c.activeId ≠ newId) ∧
      (c.AgreesOnActive ↔ c.activeId ≠ newId ∧ ∃! i, HasIdAt c.profiles c.activeId i) := by
  refine ⟨isLeast_active hactive, isGreatest_activeIndex hactive, fun i => isMarkedAt_iff, ?_⟩
  constructor
  · intro h
    have hnew := (isMarkedAt_iff.mp h.marks_index).2
    exact ⟨hnew, by simpa only [isMarkedAt_iff_of_ne hnew] using h.marks_one⟩
  · rintro ⟨hnew, hone⟩
    exact agreesOnActive_of_existsUnique hnew hone

/-- The last of three profiles is the active one, and the only one of its id. -/
theorem agreesOnActive_iff_of_third :
    let profile (id : String) : Profile := ⟨id, "n", "h", 22, ⟨"u", none, none⟩, ""⟩
    let c : Config := ⟨"b", [Profile.builtIn, profile "a", profile "b"]⟩
    (∃ p ∈ c.profiles, p.id = c.activeId) ∧ c.AgreesOnActive := by
  intro profile c
  have hactive : ∃ p ∈ c.profiles, p.id = c.activeId := by decide
  have hone : ∃! i, HasIdAt c.profiles c.activeId i := by
    refine ⟨2, ⟨profile "b", rfl, rfl⟩, ?_⟩
    rintro (_ | _ | _ | i) ⟨p, hp, hid⟩
    · cases hp
      exact absurd hid (by decide)
    · cases hp
      exact absurd hid (by decide)
    · rfl
    · cases hp
  exact ⟨hactive, (agreesOnActive_iff hactive).2.2.2.mpr ⟨by decide, hone⟩⟩

/-- Two profiles of a configuration that is loaded share the active id: both are marked, the cursor starts at the
second one, and the configuration takes the first. -/
theorem active_disagrees_of_shared_id :
    let profile (name : String) : Profile := ⟨"a", name, "", 0, ⟨"", none, none⟩, ""⟩
    let c : Config := ⟨"a", [Profile.builtIn, profile "x", profile "y"]⟩
    (∀ room, Store.load room [(["config.json"], .file (Store.contents c))] ⟨"", []⟩ = .ok c) ∧
      (∃ p ∈ c.profiles, p.id = c.activeId) ∧
      c.active = .ok (profile "x") ∧ activeIndex c.profiles c.activeId = 2 ∧
      IsMarkedAt c.profiles c.activeId 1 ∧ IsMarkedAt c.profiles c.activeId 2 ∧
      ¬ c.AgreesOnActive := by
  intro profile c
  have hlasting : c.Lasting := by
    refine ⟨⟨_, List.mem_cons_self, rfl⟩, by decide, fun p hp => ?_⟩
    have hport : p.port.natAbs < 10 ^ 4 := by
      revert p
      decide
    exact Json.lt_limit hport (by decide)
  have hfirst : IsMarkedAt c.profiles c.activeId 1 := ⟨_, rfl, rfl⟩
  have hsecond : IsMarkedAt c.profiles c.activeId 2 := ⟨_, rfl, rfl⟩
  refine ⟨fun room => Store.load_of_read hlasting
    (Disk.read_single (by decide) (by decide) (by decide) _), by decide, rfl, rfl, hfirst, hsecond, fun h => ?_⟩
  exact absurd (h.marks_one.unique hfirst hsecond) (by decide)

end Config

end WorkspaceDesk

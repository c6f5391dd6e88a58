import Mathlib.Data.List.Forall2
import WorkspaceDesk.Profile.Rows

/-!
# Rows of profiles

A row has a cell for every column and begins with the id of its profile. Of a password it shows at most the
number of characters: profiles that agree in everything else have the same row (`SameButSecret.row_eq`).
-/

namespace WorkspaceDesk

open Table

namespace Profile

theorem head?_row (p : Profile) (activeId : String) : (p.row activeId).head? = some p.id := by
  unfold row
  dsimp only
  split
  · rfl
  split <;> rfl

/-! ## Passwords -/

/-- The profile with another password, or with none. -/
def withPassword (p : Profile) (password : Option String) : Profile :=
  { p with auth := { p.auth with password } }

/-- The row of the profile has no cell for its password: it shows a key, or the profile is the built-in one or
the offer to create one. -/
def HidesPassword (p : Profile) : Prop :=
  p.auth.privateKeyPath.isSome = true ∨ p.id = defaultId ∨ p.id = newId

/-- The profiles agree in everything but their passwords, and these have equally many characters unless they
are hidden. -/
def SameButSecret (p q : Profile) : Prop :=
  ∃ password, q = p.withPassword password ∧
    (p.HidesPassword ∨ password.map String.length = p.auth.password.map String.length)

variable {p q : Profile} {profiles others : List Profile}

theorem maskSecret_eq {secret other mark : String} (h : secret.length = other.length) :
    maskSecret secret mark = maskSecret other mark := by
  rw [maskSecret, h, maskSecret]

/-- A key hides the password, and a password shows only how long it is. -/
theorem secretCells_eq {auth : Auth} {password : Option String}
    (h : auth.privateKeyPath.isSome = true ∨
      password.map String.length = auth.password.map String.length) :
    secretCells { auth with password } = secretCells auth := by
  cases hkey : auth.privateKeyPath with
  | some path => simp only [secretCells, hkey]
  | none =>
    have hlength := h.resolve_left (by simp [hkey])
    cases hsecret : auth.password with
    | none =>
      rw [hsecret, Option.map_none, Option.map_eq_none_iff] at hlength
      simp only [secretCells, hkey, hsecret, hlength]
    | some secret =>
      rw [hsecret, Option.map_some, Option.map_eq_some_iff] at hlength
      obtain ⟨other, rfl, hlength⟩ := hlength
      simp only [secretCells, hkey, hsecret, maskSecret_eq hlength]

theorem SameButSecret.id_eq (h : p.SameButSecret q) : q.id = p.id := by
  obtain ⟨password, rfl, -⟩ := h
  rfl

theorem SameButSecret.refl (p : Profile) : p.SameButSecret p :=
  ⟨p.auth.password, rfl, .inr rfl⟩

theorem SameButSecret.row_eq (h : p.SameButSecret q) (activeId : String) :
    q.row activeId = p.row activeId := by
  obtain ⟨password, rfl, hsecret⟩ := h
  by_cases hdefault : p.id = defaultId
  · simp only [row, withPassword, hdefault, ↓reduceIte]
  by_cases hnew : p.id = newId
  · simp only [row, withPassword, hnew, ↓reduceIte]
  · have hshown : p.auth.privateKeyPath.isSome = true ∨
        password.map String.length = p.auth.password.map String.length := by
      rcases hsecret with (hkey | hid | hid) | hlength
      · exact .inl hkey
      · exact absurd hid hdefault
      · exact absurd hid hnew
      · exact .inr hlength
    have hcells := secretCells_eq hshown
    simp only [row, withPassword, hdefault, hnew, ↓reduceIte, hcells]
    rfl

theorem rows_eq (h : List.Forall₂ SameButSecret profiles others) (activeId : String) :
    rows others activeId = rows profiles activeId := by
  induction h with
  | nil => rfl
  | cons hfirst _ ih =>
    rw [rows, List.map_cons, hfirst.row_eq activeId]
    exact congrArg _ ih

theorem activeIndexFrom_eq (h : List.Forall₂ SameButSecret profiles others) (activeId : String)
    (index found : Nat) :
    activeIndexFrom activeId index found others = activeIndexFrom activeId index found profiles := by
  induction h generalizing index found with
  | nil => rfl
  | cons hfirst _ ih => rw [activeIndexFrom, hfirst.id_eq, ih, activeIndexFrom]

theorem activeIndex_eq (h : List.Forall₂ SameButSecret profiles others) (activeId : String) :
    activeIndex others activeId = activeIndex profiles activeId :=
  activeIndexFrom_eq h activeId 0 0

end Profile

end WorkspaceDesk

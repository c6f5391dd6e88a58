import WorkspaceDesk.Proofs.Profile.Config

/-!
# Sound configurations

A configuration is sound when it has the built-in profile at its head, other profiles with ids of their own
behind it, and an active one among them. The initial configuration is sound, and no change that is allowed
makes it unsound.
-/

namespace WorkspaceDesk.Config

variable {c c' : Config} {id : String} {p : Profile}

/-- The built-in profile stands first, ids tell profiles apart and may be used as such, no profile has two
secrets, and one is active. -/
structure Sound (c : Config) : Prop where
  head : c.profiles.head? = some Profile.builtIn
  nodup : (c.profiles.map (·.id)).Nodup
  id_ne : ∀ p ∈ c.profiles, p.id ≠ "" ∧ p.id ≠ Profile.newId
  secrets : ∀ p ∈ c.profiles, p.auth.password = none ∨ p.auth.privateKeyPath = none
  active : ∃ p ∈ c.profiles, p.id = c.activeId
  ports : ∀ p ∈ c.profiles, p.port.natAbs < 10 ^ Text.maxDigits

theorem sound_initial : initial.Sound where
  head := rfl
  nodup := by decide
  id_ne := by decide
  secrets := by decide
  active := ⟨Profile.builtIn, List.mem_cons_self, rfl⟩
  ports := lasting_initial.ports

theorem Sound.builtIn_mem (h : c.Sound) : Profile.builtIn ∈ c.profiles :=
  List.mem_of_head? h.head

theorem Sound.lasting (h : c.Sound) : c.Lasting where
  builtIn := ⟨Profile.builtIn, h.builtIn_mem, rfl⟩
  active := by
    obtain ⟨p, hp, hid⟩ := h.active
    exact hid ▸ (h.id_ne p hp).1
  ports := h.ports

theorem Sound.exists_rest (h : c.Sound) : ∃ rest, c.profiles = Profile.builtIn :: rest :=
  List.head?_eq_some_iff.mp h.head

/-- No other profile has the id of the built-in one. -/
theorem Sound.filter_eq (h : c.Sound) :
    c.profiles.filter (·.id = Profile.defaultId) = [Profile.builtIn] := by
  obtain ⟨rest, hrest⟩ := h.exists_rest
  have hnodup := h.nodup
  rw [hrest, List.map_cons, List.nodup_cons] at hnodup
  have hother : rest.filter (·.id = Profile.defaultId) = [] := by
    apply List.filter_eq_nil_iff.mpr
    intro p hp hid
    exact hnodup.1 (List.mem_map.mpr ⟨p, hp, of_decide_eq_true hid⟩)
  rw [hrest, List.filter_cons_of_pos (by decide), hother]

/-! ## Looking up profiles -/

theorem mem_of_get? (h : c.get? id = some p) : p ∈ c.profiles ∧ p.id = id := by
  have hid := List.find?_some h
  exact ⟨List.mem_of_find?_eq_some h, of_decide_eq_true hid⟩

theorem id_ne_of_get?_isNone (h : c.get? id = none) : ∀ p ∈ c.profiles, p.id ≠ id := by
  intro p hp hid
  exact List.find?_eq_none.mp h p hp (decide_eq_true hid)

/-- The active profile is found. -/
theorem Sound.exists_active (h : c.Sound) :
    ∃ p ∈ c.profiles, p.id = c.activeId ∧ c.active = .ok p := by
  obtain ⟨p, hp, hid⟩ := h.active
  cases hget : c.get? c.activeId with
  | none => exact absurd hid (id_ne_of_get?_isNone hget p hp)
  | some q =>
    have hq := mem_of_get? hget
    exact ⟨q, hq.1, hq.2, by rw [Config.active, hget]⟩

/-! ## Changes -/

/-- Only a profile that is there becomes the active one. -/
theorem Sound.use (h : c.Sound) (huse : c.use id = .ok c') : c'.Sound := by
  rw [Config.use] at huse
  split at huse
  · rename_i hsome
    cases huse
    obtain ⟨p, hget⟩ := Option.isSome_iff_exists.mp hsome
    exact { h with active := ⟨p, mem_of_get? hget⟩ }
  · cases huse

/-- A profile is added whose id may be used and is not in use, with one secret at most. -/
theorem Sound.add (h : c.Sound) (hport : p.port.natAbs < 10 ^ Text.maxDigits)
    (hadd : c.add p = .ok c') : c'.Sound := by
  rw [Config.add] at hadd
  split at hadd
  · cases hadd
  rename_i hid
  split at hadd
  · cases hadd
  rename_i hfree
  split at hadd
  · cases hadd
  rename_i hsecrets
  cases hadd
  have hnew : ∀ q ∈ c.profiles, q.id ≠ p.id := id_ne_of_get?_isNone (by simpa using hfree)
  rw [not_or, not_or] at hid
  obtain ⟨rest, hrest⟩ := h.exists_rest
  obtain ⟨active, hactive, hactiveId⟩ := h.active
  refine ⟨?_, ?_, ?_, ?_, ?_, ?_⟩
  · rw [hrest]
    rfl
  · rw [List.map_append]
    refine List.nodup_append.mpr ⟨h.nodup, by simp, ?_⟩
    intro i hi j hj
    obtain ⟨q, hq, rfl⟩ := List.mem_map.mp hi
    rw [List.mem_singleton.mp hj]
    exact hnew q hq
  · exact List.forall_mem_append.mpr
      ⟨h.id_ne, List.forall_mem_singleton.mpr ⟨hid.1, hid.2.2⟩⟩
  · have hone : p.auth.password = none ∨ p.auth.privateKeyPath = none := by
      cases hpassword : p.auth.password with
      | none => exact .inl rfl
      | some => exact .inr (by simpa [hpassword] using hsecrets)
    exact List.forall_mem_append.mpr ⟨h.secrets, List.forall_mem_singleton.mpr hone⟩
  · exact ⟨active, List.mem_append_left _ hactive, hactiveId⟩
  · exact List.forall_mem_append.mpr ⟨h.ports, List.forall_mem_singleton.mpr hport⟩

/-- The built-in profile stays, and becomes the active one in the place of the one that is removed. -/
theorem Sound.remove (h : c.Sound) (hremove : c.remove id = .ok c') : c'.Sound := by
  rw [Config.remove] at hremove
  split at hremove
  · cases hremove
  rename_i hid
  split at hremove
  · cases hremove
  cases hremove
  have hkept : ∀ q, q ∈ c.profiles.filter (·.id ≠ id) → q ∈ c.profiles :=
    fun q hq => (List.mem_filter.mp hq).1
  have hbuiltIn : Profile.builtIn.id ≠ id := fun heq => hid heq.symm
  obtain ⟨rest, hrest⟩ := h.exists_rest
  refine ⟨?_, ?_, fun q hq => h.id_ne q (hkept q hq), fun q hq => h.secrets q (hkept q hq), ?_,
    fun q hq => h.ports q (hkept q hq)⟩
  · dsimp only
    rw [hrest, List.filter_cons_of_pos (by simpa using hbuiltIn), List.head?_cons]
  · exact h.nodup.sublist (List.Sublist.map _ (List.filter_sublist))
  · dsimp only
    split
    · exact ⟨Profile.builtIn, List.mem_filter.mpr ⟨h.builtIn_mem, decide_eq_true hbuiltIn⟩, rfl⟩
    · rename_i hother
      obtain ⟨active, hactive, hactiveId⟩ := h.active
      refine ⟨active, List.mem_filter.mpr ⟨hactive, decide_eq_true ?_⟩, hactiveId⟩
      rwa [hactiveId]

end WorkspaceDesk.Config

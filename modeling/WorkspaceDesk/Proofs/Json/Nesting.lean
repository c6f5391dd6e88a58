import WorkspaceDesk.Proofs.Json.Values

/-!
# The limit of nesting

The limit on nested containers does nothing but refuse: a text that is not refused is read as it
would be with any higher limit (`agree_document`), and with a high enough limit no text is refused
(`not_refused_document`). So a text is refused just where a higher limit would matter
(`nestsBeyond_iff`).
-/

namespace WorkspaceDesk.Json

variable {α : Type} {fuel room more : Nat}

/-- The text would be read differently if more containers could be nested. -/
def NestsBeyond (levels : Nat) (text : List Char) : Prop :=
  ∃ more, levels ≤ more ∧ readWithin more text ≠ readWithin levels text

/-- The reading ends at a container that stands too deep. -/
def Refused (r : Except Fault α) : Prop :=
  ∃ c remaining, r = .error ⟨.tooDeep c, remaining⟩

/-- Two readings give the same, unless the first is refused. -/
def AgreeOrRefused (r r' : Except Fault α) : Prop :=
  r = r' ∨ Refused r

/-! ## Readings that nest nothing -/

theorem not_refused_ok (a : α) : ¬ Refused (.ok a : Except Fault α) := by
  rintro ⟨c, n, h⟩
  cases h

theorem not_refused_escape (opening : Nat) (s : List Char) : ¬ Refused (escape opening s) := by
  rintro ⟨c, n, h⟩
  unfold escape at h
  repeat' split at h
  all_goals cases h

theorem not_refused_stringBody (opening skip : Nat) (s : List Char) :
    ¬ Refused (stringBody opening skip s) := by
  rintro ⟨c, n, h⟩
  induction s generalizing skip n with
  | nil =>
    cases skip <;> cases h
  | cons d s ih =>
    cases skip with
    | succ skip => exact ih skip n h
    | zero =>
      rw [stringBody] at h
      split at h
      · cases h
      split at h
      · split at h
        · rename_i e he
          cases h
          exact not_refused_escape opening s ⟨c, n, he⟩
        · split at h
          · rename_i hbody
            cases h
            exact ih _ _ hbody
          · cases h
      split at h
      · cases h
      split at h
      · rename_i hbody
        cases h
        exact ih _ _ hbody
      · cases h

theorem not_refused_string (s : List Char) : ¬ Refused (string s) := by
  rintro ⟨c, n, h⟩
  unfold string at h
  split at h
  · rename_i hbody
    cases h
    exact not_refused_stringBody _ _ s ⟨c, n, hbody⟩
  · cases h

theorem not_refused_number (s : List Char) : ¬ Refused (number s) := by
  rintro ⟨c, n, h⟩
  unfold number at h
  split at h
  all_goals
    dsimp only at h
    split at h
    · cases h
    split at h
    · split at h <;> cases h
    · cases h

theorem not_refused_atom (s : List Char) : ¬ Refused (atom s) := by
  unfold atom
  split
  · exact not_refused_ok _
  · exact not_refused_number s

/-! ## A higher limit -/

/-- A higher limit changes nothing in what is read with some fuel, unless it is refused. -/
structure Indifferent (fuel : Nat) : Prop where
  value : ∀ {room more s}, room ≤ more → AgreeOrRefused (value fuel room s) (value fuel more s)
  items : ∀ {room more s}, room ≤ more → AgreeOrRefused (items fuel room s) (items fuel more s)
  members : ∀ {room more s}, room ≤ more →
    AgreeOrRefused (members fuel room s) (members fuel more s)

theorem agree_items_succ (ih : Indifferent fuel) (h : room ≤ more) (s : List Char) :
    AgreeOrRefused (items (fuel + 1) room s) (items (fuel + 1) more s) := by
  rw [items, items]
  rcases ih.value (s := s) h with hvalue | ⟨c, n, hvalue⟩
  · rw [hvalue]
    split
    · exact .inl rfl
    · split
      · exact .inl rfl
      · rename_i after _
        rcases ih.items (s := skipSpace after) h with hitems | ⟨c, n, hitems⟩
        · rw [hitems]
          exact .inl rfl
        · rw [hitems]
          exact .inr ⟨c, n, rfl⟩
      · exact .inl rfl
  · rw [hvalue]
    exact .inr ⟨c, n, rfl⟩

theorem agree_members_succ (ih : Indifferent fuel) (h : room ≤ more) (s : List Char) :
    AgreeOrRefused (members (fuel + 1) room s) (members (fuel + 1) more s) := by
  unfold members
  split
  · split
    · exact .inl rfl
    split
    · rename_i rest _
      rcases ih.value (s := skipSpace rest) h with hvalue | ⟨c, n, hvalue⟩
      · rw [hvalue]
        split
        · exact .inl rfl
        split
        · exact .inl rfl
        · rename_i after _
          rcases ih.members (s := skipSpace after) h with hmembers | ⟨c, n, hmembers⟩
          · rw [hmembers]
            exact .inl rfl
          · rw [hmembers]
            exact .inr ⟨c, n, rfl⟩
        · exact .inl rfl
      · rw [hvalue]
        exact .inr ⟨c, n, rfl⟩
    · exact .inl rfl
  · exact .inl rfl

theorem value_quote (fuel room : Nat) (s : List Char) :
    value (fuel + 1) room ('"' :: s) = (string s).map fun r => (.str r.1, r.2) := by
  cases room with
  | zero =>
    rw [value, if_pos rfl]
    cases string s <;> rfl
  | succ room =>
    rw [value, if_pos rfl]
    cases string s <;> rfl

theorem value_brace (fuel room : Nat) (s : List Char) :
    value (fuel + 1) (room + 1) ('\x7b' :: s) =
      match skipSpace s with
      | '\x7d' :: after => .ok (.obj [], after)
      | body => (members fuel room body).map fun r => (.obj (Fields.ofPairs r.1), r.2) := by
  rw [value, if_neg (by decide), if_pos rfl]
  -- what follows is nothing, the end of the container, or anything else
  rcases skipSpace s with _ | ⟨c, after⟩
  · cases h : members fuel room [] <;> simp [h, Except.map]
  by_cases hc : c = '\x7d'
  · subst hc
    rfl
  · cases h : members fuel room (c :: after) <;> simp [hc, h, Except.map]

theorem value_bracket (fuel room : Nat) (s : List Char) :
    value (fuel + 1) (room + 1) ('[' :: s) =
      match skipSpace s with
      | ']' :: after => .ok (.arr [], after)
      | body => (items fuel room body).map fun r => (.arr r.1, r.2) := by
  rw [value, if_neg (by decide), if_neg (by decide), if_pos rfl]
  -- what follows is nothing, the end of the container, or anything else
  rcases skipSpace s with _ | ⟨c, after⟩
  · cases h : items fuel room [] <;> simp [h, Except.map]
  by_cases hc : c = ']'
  · subst hc
    rfl
  · cases h : items fuel room (c :: after) <;> simp [hc, h, Except.map]

theorem agree_map {β : Type} {r r' : Except Fault α} (h : AgreeOrRefused r r') (f : α → β) :
    AgreeOrRefused (r.map f) (r'.map f) := by
  rcases h with rfl | ⟨c, n, rfl⟩
  · exact .inl rfl
  · exact .inr ⟨c, n, rfl⟩

theorem agree_value_succ (ih : Indifferent fuel) (h : room ≤ more) (s : List Char) :
    AgreeOrRefused (value (fuel + 1) room s) (value (fuel + 1) more s) := by
  cases s with
  | nil => exact .inl rfl
  | cons c s =>
    by_cases hquote : c = '"'
    · rw [hquote, value_quote, value_quote]
      exact .inl rfl
    by_cases hbrace : c = '\x7b'
    · subst hbrace
      cases room with
      | zero => exact .inr ⟨.object, _, rfl⟩
      | succ room =>
        obtain ⟨more, rfl⟩ := Nat.exists_eq_add_one_of_ne_zero (Nat.ne_zero_of_lt h)
        rw [value_brace, value_brace]
        split
        · exact .inl rfl
        · exact agree_map (ih.members (Nat.le_of_succ_le_succ h)) _
    by_cases hbracket : c = '['
    · subst hbracket
      cases room with
      | zero => exact .inr ⟨.list, _, rfl⟩
      | succ room =>
        obtain ⟨more, rfl⟩ := Nat.exists_eq_add_one_of_ne_zero (Nat.ne_zero_of_lt h)
        rw [value_bracket, value_bracket]
        split
        · exact .inl rfl
        · exact agree_map (ih.items (Nat.le_of_succ_le_succ h)) _
    · rw [value_eq_atom hquote hbrace hbracket, value_eq_atom hquote hbrace hbracket]
      exact .inl rfl

/-- The three readers call each other with less fuel, so that one induction serves all. -/
theorem indifferent (fuel : Nat) : Indifferent fuel := by
  induction fuel with
  | zero =>
    constructor
    · intro room more s _
      exact .inl rfl
    · intro room more s _
      exact .inl rfl
    · intro room more s _
      exact .inl rfl
  | succ fuel ih =>
    constructor
    · intro room more s h
      exact agree_value_succ ih h s
    · intro room more s h
      exact agree_items_succ ih h s
    · intro room more s h
      exact agree_members_succ ih h s

/-! ## A high limit -/

/-- What is read with some fuel is not refused where as many containers may be nested. -/
structure Admitted (fuel : Nat) : Prop where
  value : ∀ {room s}, fuel ≤ room → ¬ Refused (value fuel room s)
  items : ∀ {room s}, fuel ≤ room → ¬ Refused (items fuel room s)
  members : ∀ {room s}, fuel ≤ room → ¬ Refused (members fuel room s)

theorem not_refused_map {β : Type} {r : Except Fault α} (h : ¬ Refused r) (f : α → β) :
    ¬ Refused (r.map f) := by
  rintro ⟨c, n, hr⟩
  cases r with
  | error e => exact h ⟨c, n, congrArg Except.error (Except.error.inj hr)⟩
  | ok a => cases hr

theorem admitted_value_succ (ih : Admitted fuel) (h : fuel + 1 ≤ room) (s : List Char) :
    ¬ Refused (value (fuel + 1) room s) := by
  obtain ⟨room, rfl⟩ := Nat.exists_eq_add_one_of_ne_zero (Nat.ne_zero_of_lt h)
  have hroom : fuel ≤ room := Nat.le_of_succ_le_succ h
  cases s with
  | nil =>
    rintro ⟨c, n, hr⟩
    cases hr
  | cons c s =>
    by_cases hquote : c = '"'
    · rw [hquote, value_quote]
      exact not_refused_map (not_refused_string s) _
    by_cases hbrace : c = '\x7b'
    · rw [hbrace, value_brace]
      split
      · exact not_refused_ok _
      · exact not_refused_map (ih.members hroom) _
    by_cases hbracket : c = '['
    · rw [hbracket, value_bracket]
      split
      · exact not_refused_ok _
      · exact not_refused_map (ih.items hroom) _
    · rw [value_eq_atom hquote hbrace hbracket]
      exact not_refused_atom _

theorem admitted_items_succ (ih : Admitted fuel) (h : fuel ≤ room) (s : List Char) :
    ¬ Refused (items (fuel + 1) room s) := by
  rintro ⟨c, n, hr⟩
  rw [items] at hr
  split at hr
  · rename_i hvalue
    cases hr
    exact ih.value h ⟨c, n, hvalue⟩
  split at hr
  · cases hr
  · split at hr
    · rename_i hitems
      cases hr
      exact ih.items h ⟨c, n, hitems⟩
    · cases hr
  · cases hr

theorem admitted_members_succ (ih : Admitted fuel) (h : fuel ≤ room) (s : List Char) :
    ¬ Refused (members (fuel + 1) room s) := by
  rintro ⟨c, n, hr⟩
  unfold members at hr
  split at hr
  · split at hr
    · rename_i hstring
      cases hr
      exact not_refused_string _ ⟨c, n, hstring⟩
    split at hr
    · split at hr
      · rename_i hvalue
        cases hr
        exact ih.value h ⟨c, n, hvalue⟩
      split at hr
      · cases hr
      · split at hr
        · rename_i hmembers
          cases hr
          exact ih.members h ⟨c, n, hmembers⟩
        · cases hr
      · cases hr
    · cases hr
  · cases hr

theorem admitted (fuel : Nat) : Admitted fuel := by
  induction fuel with
  | zero =>
    constructor <;>
    · rintro room s _ ⟨c, n, hr⟩
      cases hr
  | succ fuel ih =>
    constructor
    · intro room s h
      exact admitted_value_succ ih h s
    · intro room s h
      exact admitted_items_succ ih (Nat.le_of_succ_le h) s
    · intro room s h
      exact admitted_members_succ ih (Nat.le_of_succ_le h) s

/-! ## Whole texts -/

variable {levels : Nat} {text : List Char}

theorem agree_document (h : levels ≤ more) (text : List Char) :
    AgreeOrRefused (document levels text) (document more text) := by
  unfold document
  split
  · exact .inl rfl
  · rcases (indifferent (2 * text.length + 2)).value (s := skipSpace text) h with heq | ⟨c, n, hr⟩
    · rw [heq]
      exact .inl rfl
    · rw [hr]
      exact .inr ⟨c, n, rfl⟩

theorem not_refused_document (h : 2 * text.length + 2 ≤ levels) :
    ¬ Refused (document levels text) := by
  rintro ⟨c, n, hr⟩
  unfold document at hr
  split at hr
  · cases hr
  split at hr
  · rename_i hvalue
    cases hr
    exact (admitted _).value h ⟨c, n, hvalue⟩
  split at hr <;> cases hr

theorem refused_document_iff :
    Refused (document levels text) ↔
      ∃ e c, readWithin levels text = .error e ∧ e.problem = .tooDeep c := by
  unfold readWithin
  constructor
  · rintro ⟨c, n, hr⟩
    rw [hr]
    exact ⟨_, c, rfl, rfl⟩
  · rintro ⟨e, c, hread, hproblem⟩
    cases hdocument : document levels text with
    | ok v =>
      rw [hdocument] at hread
      cases hread
    | error f =>
      rw [hdocument] at hread
      cases hread
      have hf : f.problem = .tooDeep c := hproblem
      exact ⟨c, f.remaining, by rw [← hf]⟩

/-- A text is refused for its nesting just where a higher limit would matter. -/
theorem nestsBeyond_iff :
    NestsBeyond levels text ↔
      ∃ e c, readWithin levels text = .error e ∧ e.problem = .tooDeep c := by
  rw [← refused_document_iff]
  constructor
  · rintro ⟨more, hmore, hne⟩
    rcases agree_document hmore text with heq | hrefused
    · refine absurd ?_ hne
      rw [readWithin, readWithin, heq]
    · exact hrefused
  · intro hrefused
    have hmore : levels ≤ max levels (2 * text.length + 2) := Nat.le_max_left _ _
    refine ⟨max levels (2 * text.length + 2), hmore, fun heq => ?_⟩
    have hother := refused_document_iff.mp hrefused
    rw [← heq] at hother
    exact not_refused_document (Nat.le_max_right _ _) (refused_document_iff.mpr hother)

end WorkspaceDesk.Json

import Mathlib.Data.List.TakeDrop
import Mathlib.Data.List.TakeWhile
import WorkspaceDesk.Json.Field
import WorkspaceDesk.Json.Reader
import WorkspaceDesk.Proofs.Decimal.Binary64

/-!
# The size of numbers that are read

Whatever text is read, its whole numbers have no more digits than are read, and its binary numbers are not
beyond what decimal numbers are rounded to. So a field that is read as a whole number has no more digits
than are read, in whichever way it is written (`natAbs_int_lt`).
-/

namespace WorkspaceDesk.Json

open Text Decimal

/-! ## Bounded values -/

/-- All numbers in the value are of a size that is read. -/
inductive Bounded : Value → Prop
  | null : Bounded .null
  | bool (b : Bool) : Bounded (.bool b)
  | int {n : Int} (h : n.natAbs < 10 ^ maxDigits) : Bounded (.int n)
  | finite {negative : Bool} {m : Nat} {e : Int} (h : Binary64.wholePart m e ≤ Binary64.wholeBound) :
    Bounded (.float (.finite negative m e))
  | infinite (negative : Bool) : Bounded (.float (.infinite negative))
  | nan : Bounded (.float .nan)
  | str (s : String) : Bounded (.str s)
  | arr {items : List Value} (h : ∀ v ∈ items, Bounded v) : Bounded (.arr items)
  | obj {fields : Fields} (h : ∀ f ∈ fields, Bounded f.2) : Bounded (.obj fields)

theorem Bounded.of_mem_arr {items : List Value} {v : Value} (h : Bounded (.arr items))
    (hv : v ∈ items) : Bounded v := by
  cases h with
  | arr h => exact h v hv

theorem Bounded.of_mem_obj {fields : Fields} {f : String × Value} (h : Bounded (.obj fields))
    (hf : f ∈ fields) : Bounded f.2 := by
  cases h with
  | obj h => exact h f hf

/-! ## Digits -/

/-- Digits behind a number have no more places than they are. -/
theorem foldl_digits_lt {digits : List Nat} (h : ∀ d ∈ digits, d < 10) (n : Nat) :
    digits.foldl (fun n d => 10 * n + d) n < (n + 1) * 10 ^ digits.length := by
  induction digits generalizing n with
  | nil =>
    rw [List.foldl_nil, List.length_nil, Nat.pow_zero]
    omega
  | cons d digits ih =>
    have hd : 10 * n + d + 1 ≤ 10 * (n + 1) := by
      have := h d List.mem_cons_self
      omega
    have hrest := ih (fun e he => h e (List.mem_cons_of_mem d he)) (10 * n + d)
    calc (d :: digits).foldl (fun n d => 10 * n + d) n
        < (10 * n + d + 1) * 10 ^ digits.length := hrest
      _ ≤ 10 * (n + 1) * 10 ^ digits.length := Nat.mul_le_mul_right _ hd
      _ = (n + 1) * 10 ^ (d :: digits).length := by
        rw [List.length_cons, Nat.pow_succ, Nat.mul_comm 10, Nat.mul_assoc, Nat.mul_comm 10]

theorem ofDigits_lt {digits : List Nat} (h : ∀ d ∈ digits, d < 10) :
    ofDigits digits < 10 ^ digits.length := by
  have hlt := foldl_digits_lt h 0
  rwa [Nat.zero_add, Nat.one_mul] at hlt

/-- A number of so many digits is below the limit if these digits are not too many. -/
theorem lt_limit {n length : Nat} (h : n < 10 ^ length) (hlength : ¬ maxDigits < length) :
    n < 10 ^ maxDigits :=
  Nat.lt_of_lt_of_le h (Nat.pow_le_pow_right (by decide) (Nat.not_lt.mp hlength))

theorem natAbs_signed (negative : Bool) (n : Nat) : (signed negative n).natAbs = n := by
  cases negative with
  | true =>
    rw [signed, if_pos rfl]
    omega
  | false =>
    rw [signed, if_neg Bool.false_ne_true]
    omega

theorem digitsValue_lt {digits : List Char} (h : ∀ c ∈ digits, c.isDigit = true) :
    digitsValue digits < 10 ^ digits.length := by
  have hvalue : ∀ d ∈ digits.map fun c => c.toNat - 0x30, d < 10 := by
    intro d hd
    obtain ⟨c, hc, rfl⟩ := List.mem_map.mp hd
    have hdigit := h c hc
    rw [Char.isDigit, Bool.and_eq_true, decide_eq_true_eq, decide_eq_true_eq] at hdigit
    have hle : c.toNat ≤ 57 := hdigit.2
    omega
  have hlt := ofDigits_lt hvalue
  rwa [List.length_map] at hlt

theorem decimalValue?_lt {c : Char} {d : Nat} (h : decimalValue? c = some d) : d < 10 := by
  unfold decimalValue? at h
  obtain ⟨z, hz, rfl⟩ := Option.map_eq_some_iff.mp h
  have hrange := List.find?_some hz
  rw [Bool.and_eq_true, decide_eq_true_eq, decide_eq_true_eq] at hrange
  omega

theorem lt_of_digitRun? {after : Bool} {s rest : List Char} {digits : List Nat}
    (h : digitRun? after s = some (digits, rest)) : ∀ d ∈ digits, d < 10 := by
  induction s generalizing after digits with
  | nil =>
    cases h
    simp
  | cons c s ih =>
    rw [digitRun?] at h
    split at h
    · rename_i d hd
      obtain ⟨⟨tail, r⟩, htail, heq⟩ := Option.map_eq_some_iff.mp h
      cases heq
      intro e he
      rcases List.mem_cons.mp he with rfl | he
      · exact decimalValue?_lt hd
      · exact ih htail e he
    · -- a single underscore may stand between digits
      split at h
      · split at h
        · exact ih h
        · cases h
      · cases h
        simp

/-- A numeral has no more digits than are read. -/
theorem natAbs_parseInt_lt {text : List Char} {n : Int} (h : parseInt text = .ok n) :
    n.natAbs < 10 ^ maxDigits := by
  unfold parseInt at h
  dsimp only at h
  split at h
  · cases h
  rename_i digits rest hrun
  split at h
  · cases h
  split at h
  · cases h
  rename_i hlength
  split at h
  · cases h
    rw [natAbs_signed]
    exact lt_limit (ofDigits_lt (lt_of_digitRun? hrun)) hlength
  · cases h

/-- The whole part of a binary number has far fewer digits than are read. -/
theorem wholeBound_lt : Binary64.wholeBound < 10 ^ maxDigits := by
  decide +kernel

/-! ## What is read -/

theorem takeWhile_isDigit (s : List Char) : ∀ c ∈ s.takeWhile Char.isDigit, c.isDigit = true :=
  fun _ hc => List.mem_takeWhile_imp hc

theorem isDigit_of_wholeDigits (s : List Char) : ∀ c ∈ (wholeDigits s).1, c.isDigit = true := by
  cases s with
  | nil => simp [wholeDigits]
  | cons c s =>
    rw [wholeDigits]
    split
    · intro d hd
      rw [List.mem_singleton.mp hd]
      rfl
    split
    · rw [List.span_eq_takeWhile_dropWhile]
      exact takeWhile_isDigit (c :: s)
    · simp

theorem bounded_ofDecimal (negative : Bool) (digits : Nat) (power : Int) :
    Bounded (.float (.ofDecimal negative digits power)) := by
  cases h : Binary64.ofDecimal negative digits power with
  | finite s m e => exact .finite (Binary64.wholePart_ofDecimal_le h)
  | infinite s => exact .infinite s
  | nan => exact .nan

theorem bounded_wholeDigits (negative : Bool) {body : List Char}
    (h : ¬ maxDigits < (wholeDigits body).1.length) :
    Bounded (.int (signed negative (digitsValue (wholeDigits body).1))) := by
  apply Bounded.int
  rw [natAbs_signed]
  exact lt_limit (digitsValue_lt (isDigit_of_wholeDigits body)) h

theorem bounded_number {s rest : List Char} {v : Value} (h : number s = .ok (v, rest)) :
    Bounded v := by
  unfold number at h
  -- with a sign and without one alike
  split at h
  all_goals
    dsimp only at h
    split at h
    · cases h
    split at h
    · split at h
      · cases h
      · rename_i hlength
        cases h
        exact bounded_wholeDigits _ hlength
    · cases h
      exact bounded_ofDecimal _ _ _

theorem bounded_words : ∀ w ∈ words, Bounded w.2 := by
  intro w hw
  simp only [words, List.mem_cons, List.not_mem_nil, or_false] at hw
  rcases hw with rfl | rfl | rfl | rfl | rfl | rfl
  · exact .null
  · exact .bool true
  · exact .bool false
  · exact .nan
  · exact .infinite false
  · exact .infinite true

theorem bounded_atom {s rest : List Char} {v : Value} (h : atom s = .ok (v, rest)) : Bounded v := by
  unfold atom at h
  split at h
  · rename_i r hr
    obtain ⟨w, hw, hmap⟩ := List.exists_of_findSome?_eq_some hr
    obtain ⟨t, -, rfl⟩ := Option.map_eq_some_iff.mp hmap
    cases h
    exact bounded_words w hw
  · exact bounded_number h

theorem bounded_set {fields : Fields} {v : Value} (h : ∀ f ∈ fields, Bounded f.2) (hv : Bounded v)
    (name : String) : ∀ f ∈ Fields.set fields name v, Bounded f.2 := by
  induction fields with
  | nil =>
    intro f hf
    rw [Fields.set, List.mem_singleton] at hf
    rwa [hf]
  | cons g fields ih =>
    obtain ⟨n, w⟩ := g
    have hrest := ih fun f hf => h f (List.mem_cons_of_mem _ hf)
    rw [Fields.set]
    split
    · intro f hf
      rcases List.mem_cons.mp hf with rfl | hf
      · exact hv
      · exact h f (List.mem_cons_of_mem _ hf)
    · intro f hf
      rcases List.mem_cons.mp hf with rfl | hf
      · exact h _ List.mem_cons_self
      · exact hrest f hf

theorem bounded_ofPairs {pairs : List (String × Value)} (h : ∀ p ∈ pairs, Bounded p.2) :
    ∀ f ∈ Fields.ofPairs pairs, Bounded f.2 := by
  -- the fields that are there already vary from step to step
  have hfrom : ∀ fields : Fields, (∀ f ∈ fields, Bounded f.2) →
      ∀ f ∈ pairs.foldl (fun fields p => Fields.set fields p.1 p.2) fields, Bounded f.2 := by
    induction pairs with
    | nil => exact fun fields hfields => hfields
    | cons p pairs ih =>
      intro fields hfields
      apply ih fun q hq => h q (List.mem_cons_of_mem p hq)
      exact bounded_set hfields (h p List.mem_cons_self) p.1
  exact hfrom [] (by simp)

section Reading

variable {fuel : Nat}

/-- What is read with some fuel is bounded: values, items of lists and fields of objects. -/
structure ReadsBounded (fuel : Nat) : Prop where
  value : ∀ {room s v rest}, value fuel room s = .ok (v, rest) → Bounded v
  items : ∀ {room s vs rest}, items fuel room s = .ok (vs, rest) → ∀ v ∈ vs, Bounded v
  members : ∀ {room s pairs rest}, members fuel room s = .ok (pairs, rest) →
    ∀ p ∈ pairs, Bounded p.2

theorem bounded_value_succ (ih : ReadsBounded fuel) {room : Nat} {s rest : List Char} {v : Value}
    (h : value (fuel + 1) room s = .ok (v, rest)) : Bounded v := by
  cases s with
  | nil =>
    rw [value] at h
    cases h
  | cons c s =>
    cases room with
    | zero =>
      -- a container is refused, all else is read
      rw [value] at h
      split at h
      · split at h <;> cases h
        exact .str _
      split at h
      · cases h
      split at h
      · cases h
      · exact bounded_atom h
    | succ room =>
      rw [value] at h
      split at h
      · split at h <;> cases h
        exact .str _
      split at h
      · split at h
        · cases h
          exact .obj (by simp)
        · split at h
          · cases h
          · rename_i hmembers
            cases h
            exact .obj (bounded_ofPairs (ih.members hmembers))
      split at h
      · split at h
        · cases h
          exact .arr (by simp)
        · split at h
          · cases h
          · rename_i hitems
            cases h
            exact .arr (ih.items hitems)
      · exact bounded_atom h

theorem bounded_items_succ (ih : ReadsBounded fuel) {room : Nat} {s rest : List Char}
    {vs : List Value} (h : items (fuel + 1) room s = .ok (vs, rest)) : ∀ v ∈ vs, Bounded v := by
  rw [items] at h
  split at h
  · cases h
  rename_i v r hvalue
  have hv := ih.value hvalue
  split at h
  · cases h
    simpa using hv
  · split at h
    · cases h
    · rename_i hitems
      cases h
      intro w hw
      rcases List.mem_cons.mp hw with rfl | hw
      · exact hv
      · exact ih.items hitems w hw
  · cases h

theorem bounded_members_succ (ih : ReadsBounded fuel) {room : Nat} {s rest : List Char}
    {pairs : List (String × Value)} (h : members (fuel + 1) room s = .ok (pairs, rest)) :
    ∀ p ∈ pairs, Bounded p.2 := by
  unfold members at h
  split at h
  · split at h
    · cases h
    split at h
    · split at h
      · cases h
      rename_i v r hvalue
      have hv := ih.value hvalue
      split at h
      · cases h
        simpa using hv
      · split at h
        · cases h
        · rename_i hmembers
          cases h
          intro p hp
          rcases List.mem_cons.mp hp with rfl | hp
          · exact hv
          · exact ih.members hmembers p hp
      · cases h
    · cases h
  · cases h

/-- The three readers call each other with less fuel, so that one induction serves all. -/
theorem readsBounded (fuel : Nat) : ReadsBounded fuel := by
  induction fuel with
  | zero =>
    constructor
    · intro room s v rest h
      rw [value] at h
      cases h
    · intro room s vs rest h
      rw [items] at h
      cases h
    · intro room s pairs rest h
      rw [members] at h
      cases h
  | succ fuel ih => exact ⟨bounded_value_succ ih, bounded_items_succ ih, bounded_members_succ ih⟩

/-- The numbers of a text are of a size that is read. -/
theorem bounded_readWithin {levels : Nat} {text : List Char} {v : Value}
    (h : readWithin levels text = .ok v) : Bounded v := by
  unfold readWithin document at h
  split at h
  · cases h
  split at h
  · cases h
  · rename_i hvalue
    split at h
    · cases h
      exact (readsBounded _).value hvalue
    · cases h

end Reading

/-! ## Fields -/

theorem bounded_get? {fields : Fields} {name : String} {v : Value} (h : Bounded (.obj fields))
    (hget : fields.get? name = some v) : Bounded v := by
  obtain ⟨before, after, rfl, -⟩ := List.lookup_eq_some_iff.mp hget
  exact h.of_mem_obj (f := (name, v)) (by simp)

theorem bounded_truthy? {fields : Fields} {name : String} {v : Value} (h : Bounded (.obj fields))
    (hget : fields.truthy? name = some v) : Bounded v :=
  bounded_get? h (Option.filter_eq_some_iff.mp hget).1

/-- A value that is read as a whole number has no more digits than are read. -/
theorem natAbs_toInt_lt {v : Value} {n : Int} (hv : Bounded v) (h : v.toInt = .ok n) :
    n.natAbs < 10 ^ maxDigits := by
  cases hv with
  | null => cases h
  | bool b =>
    cases h
    have hpos : 1 < 10 ^ maxDigits := Nat.one_lt_pow (by decide) (by decide)
    cases b with
    | true => exact hpos
    | false => exact Nat.lt_of_succ_lt hpos
  | int hn =>
    cases h
    exact hn
  | finite hle =>
    cases h
    rw [natAbs_signed]
    exact Nat.lt_of_le_of_lt hle wholeBound_lt
  | infinite negative => cases h
  | nan => cases h
  | str s =>
    cases hparse : parseInt s.toList with
    | error e =>
      rw [Value.toInt, hparse] at h
      cases h
    | ok m =>
      rw [Value.toInt, hparse] at h
      cases h
      exact natAbs_parseInt_lt hparse
  | arr _ => cases h
  | obj _ => cases h

/-- A field that is read as a whole number has no more digits than are read. -/
theorem natAbs_int_lt {fields : Fields} {name : String} {n : Int} (hfields : Bounded (.obj fields))
    (h : fields.int name = .ok n) : n.natAbs < 10 ^ maxDigits := by
  unfold Fields.int at h
  split at h
  · rename_i hget
    exact natAbs_toInt_lt (bounded_truthy? hfields hget) h
  · cases h
    exact Nat.pow_pos (by decide)

/-- The parts of a field are of the same size as the field. -/
theorem bounded_parts {fields : Fields} {name : String} {values : List Value}
    (hfields : Bounded (.obj fields)) (h : fields.parts name = .ok values) :
    ∀ v ∈ values, Bounded v := by
  unfold Fields.parts at h
  split at h
  · rename_i v hget
    have hv := bounded_truthy? hfields hget
    cases v with
    | arr items =>
      cases h
      exact fun w hw => hv.of_mem_arr hw
    | obj pairs =>
      cases h
      intro w hw
      obtain ⟨f, -, rfl⟩ := List.mem_map.mp hw
      exact .str f.1
    | str s =>
      cases h
      intro w hw
      obtain ⟨c, -, rfl⟩ := List.mem_map.mp hw
      exact .str _
    | _ => cases h
  · cases h
    simp

end WorkspaceDesk.Json

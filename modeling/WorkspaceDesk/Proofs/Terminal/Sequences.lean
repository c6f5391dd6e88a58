import WorkspaceDesk.Proofs.Terminal.Tokens

/-!
# Control sequences of any kind

A control sequence may have more in it than digits and semicolons: other parameters, such as a question mark,
and intermediate characters, such as a blank. The decoder takes the first of these for the end of the sequence,
and what stands behind it for keys of its own (`decodeKeys_controlSequence`). So a sequence is taken as a whole
exactly where it has no such character.
-/

namespace WorkspaceDesk.Terminal

open Table Text

/-! ## Control sequences -/

/-- A control sequence: parameters, intermediate characters and a final character behind an escape and a
bracket. -/
structure ControlSequence where
  parameters : List Char
  intermediates : List Char
  final : Char
  parameters_range : ∀ c ∈ parameters, 0x30 ≤ c.toNat ∧ c.toNat ≤ 0x3f
  intermediates_range : ∀ c ∈ intermediates, 0x20 ≤ c.toNat ∧ c.toNat ≤ 0x2f
  final_range : 0x40 ≤ final.toNat ∧ final.toNat ≤ 0x7e

namespace ControlSequence

/-- What stands behind the bracket. -/
def body (s : ControlSequence) : List Char :=
  s.parameters ++ s.intermediates ++ [s.final]

/-- The characters of a sequence. -/
def text (s : ControlSequence) : List Char :=
  escapeChar :: '[' :: s.body

/-- The sequence has digits and semicolons only before its final character. -/
structure IsSimple (s : ControlSequence) : Prop where
  parameters_ascii : ∀ c ∈ s.parameters, c.isDigit = true ∨ c = ';'
  no_intermediates : s.intermediates = []

/-- The digits before the first semicolon. -/
def number (s : ControlSequence) : List Char :=
  s.parameters.takeWhile (· ≠ ';')

/-- What stands behind the first character that is neither a digit nor a semicolon. -/
def leftOver (s : ControlSequence) : List Char :=
  (s.body.dropWhile isParameter).drop 1

variable {s : ControlSequence}

theorem isParameter_of_le {c : Char} (h : c.toNat ≤ 0x7e) :
    isParameter c = (c.isDigit || c = ';') := by
  have hascii : ∀ n ≤ 0x7e, isParameter (Char.ofNat n) =
      ((Char.ofNat n).isDigit || decide (Char.ofNat n = ';')) := by decide
  simpa [Char.ofNat_toNat] using hascii c.toNat h

theorem isParameter_final (s : ControlSequence) : isParameter s.final = false := by
  have hrange := s.final_range
  rw [isParameter_of_le hrange.2, Bool.or_eq_false_iff, decide_eq_false_iff_not]
  refine ⟨Bool.eq_false_iff.mpr fun hdigit => ?_, ?_⟩
  · have := toNat_of_isDigit hdigit
    omega
  · rintro h
    rw [h] at hrange
    exact absurd hrange.1 (by decide)

/-- An intermediate character is no parameter. -/
theorem isParameter_intermediate {c : Char} (hc : c ∈ s.intermediates) : isParameter c = false := by
  have hrange := s.intermediates_range c hc
  rw [isParameter_of_le (by omega), Bool.or_eq_false_iff, decide_eq_false_iff_not]
  refine ⟨Bool.eq_false_iff.mpr fun hdigit => ?_, ?_⟩
  · have := toNat_of_isDigit hdigit
    omega
  · rintro rfl
    exact absurd hrange.2 (by decide)

/-- Up to their end, the characters of a sequence are printable. -/
theorem range_of_mem_body {c : Char} (hc : c ∈ s.body) : 0x20 ≤ c.toNat ∧ c.toNat ≤ 0x7e := by
  rw [body, List.mem_append, List.mem_append, List.mem_singleton] at hc
  rcases hc with (hc | hc) | rfl
  · have := s.parameters_range c hc
    omega
  · have := s.intermediates_range c hc
    omega
  · have := s.final_range
    omega

/-- In a simple sequence the first other character is the final one. -/
theorem leftOver_of_isSimple (h : s.IsSimple) :
    (∀ c ∈ s.parameters, isParameter c = true) ∧ s.body = s.parameters ++ [s.final] :=
  ⟨fun c hc => isParameter_of_ascii (h.parameters_ascii c hc),
    by rw [body, h.no_intermediates, List.append_nil]⟩

/-- In any other sequence the first other character comes before the final one. -/
theorem exists_end_of_not_isSimple (h : ¬ s.IsSimple) : ∃ p x,
    (∀ c ∈ p, isParameter c = true) ∧ isParameter x = false ∧ x.toNat ≤ 0x3f ∧
      s.body = p ++ x :: s.leftOver ∧ s.final ∈ s.leftOver := by
  have hne : (s.parameters ++ s.intermediates).dropWhile isParameter ≠ [] := by
    intro hnil
    rw [List.dropWhile_eq_nil_iff] at hnil
    refine h ⟨fun c hc => ?_, List.eq_nil_iff_forall_not_mem.mpr fun c hc => ?_⟩
    · have hrange := s.parameters_range c hc
      have hparameter := hnil c (List.mem_append_left _ hc)
      rw [isParameter_of_le (by omega)] at hparameter
      simpa using hparameter
    · have hparameter := hnil c (List.mem_append_right _ hc)
      rw [isParameter_intermediate hc] at hparameter
      cases hparameter
  obtain ⟨x, tail, hx⟩ := List.exists_cons_of_ne_nil hne
  have hdrop : s.body.dropWhile isParameter = x :: (tail ++ [s.final]) := by
    rw [body, List.dropWhile_append, hx]
    rfl
  have hhead := List.head?_dropWhile_not isParameter (s.parameters ++ s.intermediates)
  rw [hx] at hhead
  have hmem : x ∈ s.parameters ++ s.intermediates :=
    (List.dropWhile_suffix isParameter).subset (hx ▸ List.mem_cons_self)
  have hleft : s.leftOver = tail ++ [s.final] := by rw [leftOver, hdrop, List.drop_one, List.tail_cons]
  refine ⟨s.body.takeWhile isParameter, x,
    fun c hc => List.all_eq_true.mp List.all_takeWhile c hc, hhead, ?_, ?_, by simp [hleft]⟩
  · rcases List.mem_append.mp hmem with hmem | hmem
    · exact (s.parameters_range x hmem).2
    · have := s.intermediates_range x hmem
      omega
  · rw [hleft, ← hdrop, List.takeWhile_append_dropWhile]

end ControlSequence

/-! ## What the decoder takes -/

/-- Characters other than the escape character are keys of their own. -/
theorem decodeKeys_plain {t : List Char} (h : escapeChar ∉ t) (rest : List Char) :
    decodeKeys (t ++ rest) = (decodeKeys rest).map (t.map plainKey ++ ·) := by
  induction t with
  | nil => cases hrest : decodeKeys rest <;> simp [Except.map, hrest]
  | cons c t ih =>
    rw [List.mem_cons, not_or] at h
    have hc := decodeKeys_token (.plain c (Ne.symm h.1)) (t ++ rest)
    rw [Token.text, List.singleton_append] at hc
    rw [List.cons_append, hc, ih h.2]
    cases decodeKeys rest <;> rfl

/-! ## Keys that sequences name -/

/-- The keys that sequences name. -/
def sequenceKeys : List Key :=
  [.up, .down, .right, .left, .home, .endKey, .insert, .delete, .pageUp, .pageDown]

theorem mem_of_finalKey? {final : Char} {k : Key} (h : finalKey? final = some k) :
    k ∈ sequenceKeys := by
  unfold finalKey? at h
  split_ifs at h <;> cases h <;> decide

theorem mem_of_numberedKey? {n : Int} {k : Key} (h : numberedKey? n = some k) : k ∈ sequenceKeys := by
  unfold numberedKey? at h
  split_ifs at h <;> cases h <;> decide

theorem mem_of_controlSequenceKey {parameters : List Char} {final : Char} {k : Key}
    (h : controlSequenceKey parameters final = .ok (some k)) : k ∈ sequenceKeys := by
  unfold controlSequenceKey at h
  split at h
  · rename_i hfinal
    cases h
    exact mem_of_finalKey? hfinal
  · dsimp only at h
    split at h
    · cases h
    · obtain ⟨n, -, hn⟩ := exists_of_map_eq_ok h
      exact mem_of_numberedKey? hn

theorem plainKey_not_mem (c : Char) : plainKey c ∉ sequenceKeys := by
  unfold plainKey
  split_ifs <;> simp [sequenceKeys]

/-- A character on its own is a key that no sequence names. -/
theorem exists_decodeKeys_singleton (c : Char) :
    ∃ k, decodeKeys [c] = .ok [k] ∧ k ∉ sequenceKeys := by
  by_cases hc : c = escapeChar
  · exact ⟨.escape, by rw [hc]; rfl, by decide⟩
  · refine ⟨plainKey c, ?_, plainKey_not_mem c⟩
    rw [decodeKeys, keysFrom, if_neg hc]
    rfl

/-! ## Simple sequences -/

namespace ControlSequence

variable {s : ControlSequence}

theorem isDigit_of_mem_number (h : s.IsSimple) {c : Char} (hc : c ∈ s.number) : c.isDigit = true := by
  have hne : c ≠ ';' := by
    simpa using List.all_eq_true.mp List.all_takeWhile c hc
  exact (h.parameters_ascii c (List.takeWhile_subset _ hc)).resolve_right hne

/-- Only a number that is too long keeps a simple sequence from being read. -/
theorem controlSequenceKey_cases (h : s.IsSimple) :
    (∃ key, controlSequenceKey s.parameters s.final = .ok key ∧
      (s.final = '~' → s.number.length ≤ maxDigits)) ∨
    s.final = '~' ∧ maxDigits < s.number.length ∧
      controlSequenceKey s.parameters s.final = .error (.tooLong s.number.length) := by
  have hnumber : s.number = s.parameters.takeWhile (· ≠ ';') := rfl
  unfold controlSequenceKey
  rw [← hnumber]
  by_cases htilde : s.final = '~'
  · rw [htilde, show finalKey? '~' = none from rfl]
    dsimp only
    by_cases hne : s.number = []
    · rw [hne]
      exact .inl ⟨none, rfl, fun _ => Nat.zero_le _⟩
    · rw [if_neg (by simpa using hne), parseInt_of_isDigit hne fun _ => isDigit_of_mem_number h]
      by_cases hlong : maxDigits < s.number.length
      · rw [if_pos hlong]
        exact .inr ⟨rfl, hlong, rfl⟩
      · rw [if_neg hlong]
        exact .inl ⟨_, rfl, fun _ => Nat.le_of_not_lt hlong⟩
  · cases hkey : finalKey? s.final with
    | some k => exact .inl ⟨some k, rfl, fun h => absurd h htilde⟩
    | none => exact .inl ⟨none, if_pos (.inl htilde), fun h => absurd h htilde⟩

/-! ## Sequences before a text -/

/-- A simple sequence gives the key that it names, if any, before the keys of the text. -/
theorem decodeKeys_of_isSimple (h : s.IsSimple) (rest : List Char) :
    decodeKeys (s.text ++ rest) = (controlSequenceKey s.parameters s.final).bind fun key =>
      (decodeKeys rest).map (key.toList ++ ·) := by
  obtain ⟨hparameters, hbody⟩ := leftOver_of_isSimple h
  rw [text, hbody]
  simpa using decodeKeys_control hparameters (isParameter_final s) rest

/-- Any other sequence gives keys of its own for what is left over of it. -/
theorem decodeKeys_of_not_isSimple (h : ¬ s.IsSimple) (rest : List Char) :
    s.final ∈ s.leftOver ∧
      decodeKeys (s.text ++ rest) = (decodeKeys rest).map (s.leftOver.map plainKey ++ ·) := by
  obtain ⟨p, x, hp, hx, hle, hbody, hfinal⟩ := exists_end_of_not_isSimple h
  refine ⟨hfinal, ?_⟩
  -- the character that ends what is taken is no end of a known sequence
  have hkey : controlSequenceKey p x = .ok none := by
    have hnone : ∀ n ≤ 0x3f, finalKey? (Char.ofNat n) = none ∧ Char.ofNat n ≠ '~' := by decide
    have hx := hnone x.toNat hle
    rw [Char.ofNat_toNat] at hx
    rw [controlSequenceKey, hx.1]
    exact if_pos (.inl hx.2)
  have hescape : escapeChar ∉ s.leftOver := fun hmem => by
    have hrange := range_of_mem_body (s := s) (c := escapeChar) (by rw [hbody]; simp [hmem])
    exact absurd hrange.1 (by decide)
  have hcontrol := decodeKeys_control hp hx (s.leftOver ++ rest)
  rw [text, hbody]
  rw [hkey, decodeKeys_plain hescape] at hcontrol
  simp only [List.cons_append, List.append_assoc]
  rw [hcontrol]
  cases decodeKeys rest <;> rfl

variable {rest : List Char} {keys : List Key}

/-- The sequence gives one key at most before those of the text, and none of its characters is a key of its
own. -/
def TakenWhole (s : ControlSequence) (rest : List Char) (keys : List Key) : Prop :=
  ∃ key : Option Key, decodeKeys (s.text ++ rest) = .ok (key.toList ++ keys) ∧
    ∀ c ∈ s.text, decodeKeys [c] ≠ .ok key.toList

/-- What is left over of a sequence that is not simple cannot be one key that is not its final character. -/
theorem not_takenWhole (h : ¬ s.IsSimple) (hrest : decodeKeys rest = .ok keys) :
    ¬ s.TakenWhole rest keys := by
  rintro ⟨key, hdecode, hown⟩
  obtain ⟨hfinal, hleft⟩ := decodeKeys_of_not_isSimple h rest
  rw [hleft, hrest] at hdecode
  have hkeys : s.leftOver.map plainKey = key.toList :=
    List.append_cancel_right (Except.ok.inj hdecode)
  have hmem := List.mem_map_of_mem (f := plainKey) hfinal
  rw [hkeys, Option.mem_toList] at hmem
  obtain rfl : key = some (plainKey s.final) := hmem
  have hescape : escapeChar ∉ [s.final] := fun hescape => by
    have hrange := s.final_range
    rw [← List.mem_singleton.mp hescape] at hrange
    exact absurd hrange.1 (by decide)
  exact hown s.final (by simp [text, body]) (decodeKeys_plain hescape [])

/-- A simple sequence whose number is read is taken as a whole. -/
theorem takenWhole (h : s.IsSimple) {key : Option Key}
    (hkey : controlSequenceKey s.parameters s.final = .ok key) (hrest : decodeKeys rest = .ok keys) :
    s.TakenWhole rest keys := by
  refine ⟨key, by rw [decodeKeys_of_isSimple h, hkey, hrest]; rfl, fun c _ hc => ?_⟩
  obtain ⟨k, hk, hnot⟩ := exists_decodeKeys_singleton c
  rw [hk] at hc
  obtain rfl : key = some k := by simpa using (Except.ok.inj hc).symm
  exact hnot (mem_of_controlSequenceKey hkey)

end ControlSequence

/-- A control sequence is taken as a whole if and only if there are only digits and semicolons before its final
character and its number is not too long. Otherwise what stands behind the first other character, with the
final one, is taken for keys of its own, or the number is refused. -/
theorem decodeKeys_controlSequence (s : ControlSequence) {rest : List Char} {keys : List Key}
    (hrest : decodeKeys rest = .ok keys) :
    (s.TakenWhole rest keys ↔ s.IsSimple ∧ (s.final = '~' → s.number.length ≤ maxDigits)) ∧
    (¬ s.IsSimple → s.final ∈ s.leftOver ∧
      decodeKeys (s.text ++ rest) = .ok (s.leftOver.map plainKey ++ keys)) ∧
    (s.IsSimple → s.final = '~' → maxDigits < s.number.length →
      decodeKeys (s.text ++ rest) = .error (.tooLong s.number.length)) := by
  have hlong : s.IsSimple → s.final = '~' → maxDigits < s.number.length →
      decodeKeys (s.text ++ rest) = .error (.tooLong s.number.length) := by
    intro h htilde hlong
    rcases ControlSequence.controlSequenceKey_cases h with ⟨_, -, hshort⟩ | ⟨-, -, herror⟩
    · exact absurd (hshort htilde) (Nat.not_le_of_lt hlong)
    · rw [ControlSequence.decodeKeys_of_isSimple h, herror]
      rfl
  refine ⟨⟨fun hwhole => ?_, fun ⟨h, hshort⟩ => ?_⟩, fun h => ?_, hlong⟩
  · have h : s.IsSimple := Classical.not_not.mp fun h => ControlSequence.not_takenWhole h hrest hwhole
    refine ⟨h, fun htilde => Nat.le_of_not_lt fun hmore => ?_⟩
    obtain ⟨key, hdecode, -⟩ := hwhole
    rw [hlong h htilde hmore] at hdecode
    cases hdecode
  · rcases ControlSequence.controlSequenceKey_cases h with ⟨key, hkey, -⟩ | ⟨htilde, hmore, -⟩
    · exact ControlSequence.takenWhole h hkey hrest
    · exact absurd (hshort htilde) (Nat.not_le_of_lt hmore)
  · have hother := ControlSequence.decodeKeys_of_not_isSimple h rest
    rwa [hrest] at hother

/-- The sequence for a page key with a modifier is taken as a whole before a letter. The one that asks for
another shape of the cursor has a blank in it: the letter that ends it is taken for the key that quits. -/
theorem decodeKeys_controlSequence_of_cursor_shape :
    decodeKeys ['j'] = .ok [.char 'j'] ∧ ∃ page shape : ControlSequence,
      page.text = "\x1b[5;2~".toList ∧ page.TakenWhole ['j'] [.char 'j'] ∧
      shape.text = "\x1b[1 q".toList ∧ ¬ shape.TakenWhole ['j'] [.char 'j'] ∧
      decodeKeys (shape.text ++ ['j']) = .ok [.char 'q', .char 'j'] := by
  have hrest : decodeKeys ['j'] = .ok [.char 'j'] := rfl
  let page : ControlSequence := ⟨['5', ';', '2'], [], '~', by simp, by simp, by simp⟩
  let shape : ControlSequence := ⟨['1'], [' '], 'q', by simp, by simp, by simp⟩
  have hpage : page.IsSimple := ⟨by simp [page], rfl⟩
  have hshape : ¬ shape.IsSimple := fun h => absurd h.no_intermediates (by decide)
  obtain ⟨hwhole, -, -⟩ := decodeKeys_controlSequence page hrest
  obtain ⟨hwhole', hleft, -⟩ := decodeKeys_controlSequence shape hrest
  refine ⟨hrest, page, shape, rfl, ?_, rfl, fun h => hshape (hwhole'.mp h).1, (hleft hshape).2⟩
  exact hwhole.mpr ⟨hpage, fun _ => by decide +kernel⟩

/-- The letter and the digits of the sequence that shows the cursor are taken for keys. -/
theorem decodeKeys_leaks_letter :
    decodeKeys [] = .ok [] ∧ ∃ s : ControlSequence, s.text = "\x1b[?25h".toList ∧
      decodeKeys s.text = .ok [.char '2', .char '5', .char 'h'] ∧ ¬ s.TakenWhole [] [] := by
  refine ⟨rfl, ⟨['?', '2', '5'], [], 'h', by simp, by simp, by simp⟩, rfl, rfl, ?_⟩
  rintro ⟨key, hkey, -⟩
  have hlength := congrArg List.length (Except.ok.inj hkey)
  cases key <;> simp at hlength

end WorkspaceDesk.Terminal

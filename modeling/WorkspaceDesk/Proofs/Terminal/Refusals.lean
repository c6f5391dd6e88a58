import WorkspaceDesk.Proofs.Terminal.Sequences
import WorkspaceDesk.Proofs.Text.Utf8
import WorkspaceDesk.Terminal.Link

/-!
# Texts that are refused

Two notions of digit meet in a sequence: any digit is one of its parameters, but only decimal digits have a place
in its number. So a text is refused where a sequence with a digit of another kind in its number begins in it, such
as a superscript. Every other text that a read can yield gives keys, at most as many as it has characters
(`decodeKeys_read`).
-/

namespace WorkspaceDesk.Terminal

open Table Text

variable {text rest place parameters : List Char} {keys : List Key}

/-! ## Where keys begin -/

/-- An escape character before the text begins no sequence: there is no letter O with a character behind it, and
no bracket with an end behind it. -/
structure LoneEscape (rest : List Char) : Prop where
  no_single : ∀ final others, rest ≠ 'O' :: final :: others
  no_control : ∀ others, rest = '[' :: others → ∀ c ∈ others, isParameter c = true

/-- A key of the text, or a sequence, begins at the place. -/
inductive Begins : (text place : List Char) → Prop
  | here (text : List Char) : Begins text text
  | plain {c : Char} {rest place : List Char} (hc : c ≠ escapeChar) (h : Begins rest place) :
    Begins (c :: rest) place
  | lone {rest place : List Char} (hlone : LoneEscape rest) (h : Begins rest place) :
    Begins (escapeChar :: rest) place
  | single {final : Char} {rest place : List Char} (h : Begins rest place) :
    Begins (escapeChar :: 'O' :: final :: rest) place
  | control {parameters : List Char} {final : Char} {rest place : List Char}
      (hparameters : ∀ c ∈ parameters, isParameter c = true) (hfinal : isParameter final = false)
      (h : Begins rest place) :
    Begins (escapeChar :: '[' :: (parameters ++ final :: rest)) place

/-- What an escape character begins. -/
theorem escape_cases (rest : List Char) : LoneEscape rest ∨
    (∃ final others, rest = 'O' :: final :: others) ∨
    ∃ parameters final others, (∀ c ∈ parameters, isParameter c = true) ∧ isParameter final = false ∧
      rest = '[' :: (parameters ++ final :: others) := by
  by_cases hsingle : ∃ final others, rest = 'O' :: final :: others
  · exact .inr (.inl hsingle)
  by_cases hcontrol : ∀ others, rest = '[' :: others → ∀ c ∈ others, isParameter c = true
  · exact .inl ⟨fun final others h => hsingle ⟨final, others, h⟩, hcontrol⟩
  · simp only [Classical.not_forall] at hcontrol
    obtain ⟨others, rfl, c, hc, hnot⟩ := hcontrol
    have hne : others.dropWhile isParameter ≠ [] := fun hnil =>
      hnot (List.dropWhile_eq_nil_iff.mp hnil c hc)
    obtain ⟨final, after, hafter⟩ := List.exists_cons_of_ne_nil hne
    have hfinal := List.head?_dropWhile_not isParameter others
    rw [hafter] at hfinal
    refine .inr (.inr ⟨others.takeWhile isParameter, final, after,
      fun d hd => List.all_eq_true.mp List.all_takeWhile d hd, hfinal, ?_⟩)
    rw [← hafter, List.takeWhile_append_dropWhile]

theorem decodeKeys_lone (h : LoneEscape rest) :
    decodeKeys (escapeChar :: rest) = (decodeKeys rest).map (.escape :: ·) := by
  have hsequence : escapeSequence rest = .ok (some .escape, 0) := by
    unfold escapeSequence
    split
    · rename_i others
      have hall := h.no_control others rfl
      simp only [List.takeWhile_eq_self_iff.mpr hall, List.drop_length]
    · rename_i final others
      exact absurd rfl (h.no_single final others)
    · rfl
  rw [decodeKeys, keysFrom, if_pos rfl, hsequence]
  rfl

/-- Where a text is decoded, so is what stands from a key on. -/
theorem Begins.decodes (h : Begins text place) (hkeys : decodeKeys text = .ok keys) :
    ∃ others, decodeKeys place = .ok others := by
  induction h generalizing keys with
  | here text => exact ⟨keys, hkeys⟩
  | @plain c rest place hc _ ih =>
    rw [show c :: rest = (Token.plain c hc).text ++ rest from rfl, decodeKeys_token] at hkeys
    obtain ⟨others, hothers, -⟩ := exists_of_map_eq_ok hkeys
    exact ih hothers
  | lone hlone _ ih =>
    rw [decodeKeys_lone hlone] at hkeys
    obtain ⟨others, hothers, -⟩ := exists_of_map_eq_ok hkeys
    exact ih hothers
  | @single final rest place _ ih =>
    rw [show escapeChar :: 'O' :: final :: rest = (Token.single final).text ++ rest from rfl,
      decodeKeys_token] at hkeys
    obtain ⟨others, hothers, -⟩ := exists_of_map_eq_ok hkeys
    exact ih hothers
  | control hparameters hfinal _ ih =>
    rw [decodeKeys_control hparameters hfinal] at hkeys
    obtain ⟨key, -, hkeys⟩ := exists_of_bind_eq_ok hkeys
    obtain ⟨others, hothers, -⟩ := exists_of_map_eq_ok hkeys
    exact ih hothers

/-! ## Numbers that are refused -/

/-- A sequence that ends with a tilde begins in the text; its number is this one, and not all of the digits in it
are decimal digits. -/
def RefusedNumber (text number : List Char) : Prop :=
  ∃ parameters rest, Begins text (escapeChar :: '[' :: (parameters ++ '~' :: rest)) ∧
    (∀ c ∈ parameters, isParameter c = true) ∧ parameters.takeWhile (· ≠ ';') = number ∧
    ∃ c ∈ number, isDecimal c = false

theorem isDigit_of_mem_takeWhile (h : ∀ c ∈ parameters, isParameter c = true) {c : Char}
    (hc : c ∈ parameters.takeWhile (· ≠ ';')) : isDigit c = true := by
  have hne : c ≠ ';' := by
    simpa using List.all_eq_true.mp List.all_takeWhile c hc
  simpa [isParameter, hne] using h c (List.takeWhile_subset _ hc)

theorem controlSequenceKey_tilde (h : parameters.takeWhile (· ≠ ';') ≠ []) :
    controlSequenceKey parameters '~' =
      (parseInt (parameters.takeWhile (· ≠ ';'))).map numberedKey? := by
  rw [controlSequenceKey, show finalKey? '~' = none from rfl]
  exact if_neg (by simpa using h)

/-- A number with a digit that is not decimal is refused. -/
theorem controlSequenceKey_of_not_decimal (h : ∀ c ∈ parameters, isParameter c = true) {c : Char}
    (hc : c ∈ parameters.takeWhile (· ≠ ';')) (hnot : isDecimal c = false) :
    ∃ e, controlSequenceKey parameters '~' = .error e := by
  have hne := List.ne_nil_of_mem hc
  have hall : ¬ (parameters.takeWhile (· ≠ ';')).all isDecimal = true := fun hall => by
    have hdecimal := List.all_eq_true.mp hall c hc
    rw [hnot] at hdecimal
    cases hdecimal
  rw [controlSequenceKey_tilde hne, parseInt_digits hne fun _ => isDigit_of_mem_takeWhile h,
    if_neg hall]
  split <;> exact ⟨_, rfl⟩

/-- If the number of a sequence is refused and not too long, it has a digit that is not decimal. -/
theorem of_controlSequenceKey_eq_error (h : ∀ c ∈ parameters, isParameter c = true)
    (hlength : parameters.length ≤ maxDigits) {final : Char} {e : NumeralError}
    (herror : controlSequenceKey parameters final = .error e) :
    final = '~' ∧ (∃ c ∈ parameters.takeWhile (· ≠ ';'), isDecimal c = false) ∧
      e = .malformed (parameters.takeWhile (· ≠ ';')) := by
  by_cases htilde : final = '~'
  · subst htilde
    refine ⟨rfl, ?_⟩
    by_cases hne : parameters.takeWhile (· ≠ ';') = []
    · rw [controlSequenceKey, show finalKey? '~' = none from rfl] at herror
      dsimp only at herror
      rw [if_pos (.inr (by simpa using hne))] at herror
      cases herror
    · have hshort : ¬ maxDigits <
          ((parameters.takeWhile (· ≠ ';')).takeWhile isDecimal).length := by
        have := (List.takeWhile_prefix (l := parameters.takeWhile (· ≠ ';')) isDecimal).length_le
        have := (List.takeWhile_prefix (l := parameters) (· ≠ ';')).length_le
        omega
      rw [controlSequenceKey_tilde hne, parseInt_digits hne fun _ => isDigit_of_mem_takeWhile h,
        if_neg hshort] at herror
      split at herror
      · cases herror
      · rename_i hall
        cases herror
        exact ⟨by simpa using hall, rfl⟩
  · rw [controlSequenceKey] at herror
    split at herror
    · cases herror
    · dsimp only at herror
      rw [if_pos (.inl htilde)] at herror
      cases herror

/-- A text gives keys, or the first of its numbers that is refused is the error. -/
theorem decodeKeys_cases (text : List Char) (hlength : text.length ≤ maxDigits) :
    (∃ keys, decodeKeys text = .ok keys) ∨
      ∃ number, RefusedNumber text number ∧ decodeKeys text = .error (.malformed number) := by
  -- on the length, key after key
  induction hn : text.length using Nat.strongRecOn generalizing text with
  | ind n ih =>
    have hpass : ∀ (rest : List Char) (f : List Key → List Key), rest.length < n →
        decodeKeys text = (decodeKeys rest).map f →
        (∀ place, Begins rest place → Begins text place) →
        (∃ keys, decodeKeys text = .ok keys) ∨
          ∃ number, RefusedNumber text number ∧ decodeKeys text = .error (.malformed number) := by
      intro rest f hlt htext hbegins
      rw [htext]
      rcases ih _ hlt rest (by omega) rfl with ⟨keys, hkeys⟩ | ⟨number, hrefused, herror⟩
      · exact .inl ⟨f keys, by rw [hkeys]; rfl⟩
      · obtain ⟨parameters, others, hplace, hnumber⟩ := hrefused
        exact .inr ⟨number, ⟨parameters, others, hbegins _ hplace, hnumber⟩, by rw [herror]; rfl⟩
    cases text with
    | nil => exact .inl ⟨[], rfl⟩
    | cons c rest =>
      rw [List.length_cons] at hn hlength
      by_cases hc : c = escapeChar
      · subst hc
        rcases escape_cases rest with hlone | ⟨final, others, rfl⟩ |
          ⟨parameters, final, others, hparameters, hfinal, rfl⟩
        · exact hpass rest _ (by omega) (decodeKeys_lone hlone) fun _ h => .lone hlone h
        · rw [List.length_cons, List.length_cons] at hn
          exact hpass others _ (by omega) (decodeKeys_token (.single final) others)
            fun _ h => .single h
        · rw [List.length_cons, List.length_append, List.length_cons] at hn hlength
          have hdecode := decodeKeys_control hparameters hfinal others
          cases hkey : controlSequenceKey parameters final with
          | ok key =>
            rw [hkey] at hdecode
            exact hpass others _ (by omega) hdecode fun _ h => .control hparameters hfinal h
          | error e =>
            obtain ⟨rfl, hnot, rfl⟩ := of_controlSequenceKey_eq_error hparameters (by omega) hkey
            rw [hkey] at hdecode
            exact .inr ⟨_, ⟨parameters, others, .here _, hparameters, rfl, hnot⟩, hdecode⟩
      · exact hpass rest _ (by omega) (decodeKeys_token (.plain c hc) rest) fun _ h => .plain hc h

theorem RefusedNumber.not_decoded {number : List Char} (h : RefusedNumber text number) :
    ¬ ∃ keys, decodeKeys text = .ok keys := by
  rintro ⟨keys, hkeys⟩
  obtain ⟨parameters, rest, hbegins, hparameters, rfl, c, hc, hnot⟩ := h
  obtain ⟨others, hothers⟩ := hbegins.decodes hkeys
  obtain ⟨e, he⟩ := controlSequenceKey_of_not_decimal hparameters hc hnot
  rw [decodeKeys_control hparameters (by decide), he] at hothers
  cases hothers

/-! ## The keys of a text -/

/-- There are at most as many keys as characters. -/
theorem length_le_of_keysFrom {skip : Nat} (h : keysFrom skip text = .ok keys) :
    keys.length ≤ text.length := by
  induction text generalizing skip keys with
  | nil =>
    cases skip <;> cases h <;> exact Nat.zero_le _
  | cons c rest ih =>
    rw [List.length_cons]
    cases skip with
    | succ skip => exact Nat.le_succ_of_le (ih h)
    | zero =>
      rw [keysFrom] at h
      split at h
      · split at h
        · cases h
        · rename_i key used _
          obtain ⟨others, hothers, rfl⟩ := exists_of_map_eq_ok h
          have hrest := ih hothers
          cases key <;> simp only [Option.toList, List.nil_append, List.singleton_append,
            List.length_cons] <;> omega
      · obtain ⟨others, hothers, rfl⟩ := exists_of_map_eq_ok h
        exact Nat.succ_le_succ (ih hothers)

theorem name_ne_empty_of_mem {k : Key} (h : k ∈ sequenceKeys) : k.name ≠ "" := by
  have hall : ∀ k ∈ sequenceKeys, k.name ≠ "" := by decide
  exact hall k h

/-- The key of a token has a name. -/
theorem Token.name_ne_empty {t : Token} {k : Key} (h : t.key? = some k) : k.name ≠ "" := by
  cases t with
  | plain c hc =>
    cases h
    unfold plainKey
    split_ifs <;> simp [Key.name]
  | control parameters final =>
    rw [Token.key?] at h
    split at h
    · obtain ⟨n, -, hn⟩ := Option.bind_eq_some_iff.mp h
      exact name_ne_empty_of_mem (mem_of_numberedKey? hn)
    · exact name_ne_empty_of_mem (mem_of_finalKey? h)
  | single final => exact name_ne_empty_of_mem (mem_of_finalKey? h)

theorem name_ne_empty_of_decodeKeys (h : decodeKeys text = .ok keys) {k : Key} (hk : k ∈ keys) :
    k.name ≠ "" := by
  by_cases hescape : k = .escape
  · rw [hescape]
    decide
  · obtain ⟨t, ht⟩ := exists_token_of_mem h hk hescape
    exact Token.name_ne_empty ht

/-! ## Reads -/

/-- The text gives keys, at most as many as it has characters, and each of them has a name. -/
def GivesKeys (text : List Char) : Prop :=
  ∃ keys, decodeKeys text = .ok keys ∧ keys.length ≤ text.length ∧ ∀ k ∈ keys, k.name ≠ ""

/-- The text of a read gives keys if and only if no sequence begins in it that has a digit in its number that is
no decimal one. Otherwise the first such number is refused as malformed. -/
theorem decodeKeys_read {bytes : Bytes} (hbytes : bytes.length ≤ readSize) :
    let text := Utf8.decodeLenient bytes
    (GivesKeys text ↔ ¬ ∃ number, RefusedNumber text number) ∧
      (GivesKeys text ∨
        ∃ number, RefusedNumber text number ∧ decodeKeys text = .error (.malformed number)) := by
  intro text
  -- a read is too short for a number with too many digits
  have hlength : text.length ≤ maxDigits :=
    (Utf8.length_decodeLenient_le bytes).trans (hbytes.trans (by decide))
  have hcases : GivesKeys text ∨
      ∃ number, RefusedNumber text number ∧ decodeKeys text = .error (.malformed number) := by
    refine (decodeKeys_cases text hlength).imp_left fun ⟨keys, hkeys⟩ => ?_
    exact ⟨keys, hkeys, length_le_of_keysFrom hkeys, fun _ => name_ne_empty_of_decodeKeys hkeys⟩
  refine ⟨⟨?_, fun hnone => ?_⟩, hcases⟩
  · rintro ⟨keys, hkeys, -⟩ ⟨number, hrefused⟩
    exact hrefused.not_decoded ⟨keys, hkeys⟩
  · exact hcases.resolve_right fun ⟨number, hrefused, _⟩ => hnone ⟨number, hrefused⟩

/-- A superscript does no harm behind a semicolon, nor bytes that form no character; a circled digit behind the
digit of a number makes it malformed. -/
theorem decodeKeys_read_of_circled_digit :
    let modified : Bytes := Utf8.encode "\x1b[5;²~".toList ++ [0xff, 0x71]
    let circled := Utf8.encode "q\x1b[1①~".toList
    (modified.length ≤ readSize ∧ GivesKeys (Utf8.decodeLenient modified) ∧
        ¬ ∃ number, RefusedNumber (Utf8.decodeLenient modified) number) ∧
      circled.length ≤ readSize ∧ RefusedNumber (Utf8.decodeLenient circled) ['1', '①'] ∧
        ¬ GivesKeys (Utf8.decodeLenient circled) := by
  intro modified circled
  have hmodified : modified.length ≤ readSize := by decide
  have hcircled : circled.length ≤ readSize := by decide
  have hgives : GivesKeys (Utf8.decodeLenient modified) :=
    ⟨[.pageUp, .char '\ufffd', .char 'q'], rfl, by decide, by decide⟩
  have hrefused : RefusedNumber (Utf8.decodeLenient circled) ['1', '①'] :=
    ⟨['1', '①'], [], .plain (by decide) (.here _), by simp; decide, rfl, '①', by decide, by decide⟩
  exact ⟨⟨hmodified, hgives, (decodeKeys_read hmodified).1.mp hgives⟩, hcircled, hrefused,
    fun h => (decodeKeys_read hcircled).1.mp h ⟨_, hrefused⟩⟩

/-- A superscript in the place of a number is refused, though the sequence names no key. -/
theorem decodeKeys_refuses_superscript :
    (Utf8.encode "\x1b[²~".toList).length ≤ readSize ∧
      decodeKeys (Utf8.decodeLenient (Utf8.encode "\x1b[²~".toList)) = .error (.malformed ['²']) ∧
      ¬ GivesKeys (Utf8.decodeLenient (Utf8.encode "\x1b[²~".toList)) := by
  have herror : decodeKeys (Utf8.decodeLenient (Utf8.encode "\x1b[²~".toList)) =
      .error (.malformed ['²']) := by decide
  refine ⟨by decide, herror, ?_⟩
  rintro ⟨keys, hkeys, -⟩
  rw [herror] at hkeys
  cases hkeys

end WorkspaceDesk.Terminal

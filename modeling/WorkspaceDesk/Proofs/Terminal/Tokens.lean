import Mathlib.Data.List.Basic
import Mathlib.Tactic.SplitIfs
import WorkspaceDesk.Proofs.Except
import WorkspaceDesk.Proofs.Text.Numeral
import WorkspaceDesk.Terminal.KeyCode

/-!
# Complete tokens

What a terminal sends for a key is a token: a plain character, a control sequence with its
parameters, or an escape with two characters behind it. Tokens are decoded one after the other and
on their own: a token takes nothing of the text behind it, whatever that is (`decodeKeys_tokens`).
So keys other than the escape key are read back from any tokens that stand for them.
-/

namespace WorkspaceDesk.Terminal

open Table Text

/-! ## Tokens and their keys -/

/-- A token that is complete: what follows it does not belong to it. -/
inductive Token where
  | plain (c : Char) (ne_escape : c ≠ escapeChar)
  /-- A control sequence: digits and semicolons, and a character that is neither. Its digits are not
  too many to be read as a number. -/
  | control (parameters : List Char) (final : Char)
      (parameters_ascii : ∀ c ∈ parameters, c.isDigit = true ∨ c = ';')
      (length_lt : parameters.length < maxDigits)
      (final_ne : final ≠ ';') (final_not_digit : isDigit final = false)
  /-- An escape with the letter O and one more character. -/
  | single (final : Char)

namespace Token

/-- The characters of a token. -/
def text : Token → List Char
  | plain c _ => [c]
  | control parameters final _ _ _ _ => escapeChar :: '[' :: (parameters ++ [final])
  | single final => [escapeChar, 'O', final]

/-- The number before the first semicolon, if there are digits. -/
def leadingNumber? (parameters : List Char) : Option Nat :=
  let digits := parameters.takeWhile (· ≠ ';')
  if digits = [] then none else some (Nat.ofDigitChars 10 digits 0)

/-- The key that a token stands for. A known last character names it; behind a tilde it is the
number of a control sequence that counts. -/
def key? : Token → Option Key
  | plain c _ => some (plainKey c)
  | control parameters final _ _ _ _ =>
    if final = '~' then (leadingNumber? parameters).bind fun n => numberedKey? n else finalKey? final
  | single final => finalKey? final

end Token

variable {parameters rest : List Char} {final : Char}

/-! ## The number of a sequence -/

theorem toNat_of_isDigit {c : Char} (h : c.isDigit = true) : 0x30 ≤ c.toNat ∧ c.toNat ≤ 0x39 := by
  rw [Char.isDigit, Bool.and_eq_true, decide_eq_true_eq, decide_eq_true_eq] at h
  exact h

theorem decimalValue?_of_isDigit {c : Char} (h : c.isDigit = true) :
    decimalValue? c = some (c.toNat - '0'.toNat) := by
  obtain ⟨hlow, hhigh⟩ := toNat_of_isDigit h
  have hfind : (decimalZeros.find? fun z => z ≤ c.toNat && c.toNat ≤ z + 9) = some 0x30 := by
    simp [decimalZeros, hlow, hhigh]
  simp [decimalValue?, hfind]

theorem isDecimal_of_isDigit {c : Char} (h : c.isDigit = true) : isDecimal c = true := by
  rw [isDecimal, decimalValue?_of_isDigit h]
  rfl

/-- Digits are read as the number that they write, unless there are too many. -/
theorem parseInt_of_isDigit {digits : List Char} (hne : digits ≠ [])
    (h : ∀ c ∈ digits, c.isDigit = true) :
    parseInt digits = if maxDigits < digits.length then .error (.tooLong digits.length)
      else .ok (Nat.ofDigitChars 10 digits 0 : Nat) := by
  have hdecimal : ∀ c ∈ digits, isDecimal c = true := fun c hc => isDecimal_of_isDigit (h c hc)
  have hdigit : ∀ c ∈ digits, isDigit c = true := fun c hc => by
    rw [isDigit, ← isDecimal, hdecimal c hc, Bool.true_or]
  have hvalues : digits.filterMap decimalValue? = digits.map fun c => c.toNat - '0'.toNat :=
    List.filterMap_eq_map_iff_forall_eq_some.mpr fun c hc =>
      decimalValue?_of_isDigit (h c hc)
  have hvalue : ofDigits (digits.filterMap decimalValue?) = Nat.ofDigitChars 10 digits 0 := by
    rw [hvalues, ofDigits, List.foldl_map, Nat.ofDigitChars_eq_foldl]
  rw [parseInt_digits hne hdigit, List.takeWhile_eq_self_iff.mpr hdecimal,
    if_pos (List.all_eq_true.mpr hdecimal), hvalue]

/-! ## One token -/

/-- A digit or a semicolon is a parameter. -/
theorem isParameter_of_ascii {c : Char} (h : c.isDigit = true ∨ c = ';') : isParameter c = true := by
  rcases h with h | rfl
  · simp [isParameter, isDigit, decimalValue?_of_isDigit h]
  · rfl

theorem controlSequenceKey_eq (h : ∀ c ∈ parameters, c.isDigit = true ∨ c = ';')
    (hlength : parameters.length < maxDigits) (final : Char) :
    controlSequenceKey parameters final = .ok
      (if final = '~' then (Token.leadingNumber? parameters).bind fun n => numberedKey? n
        else finalKey? final) := by
  unfold controlSequenceKey Token.leadingNumber?
  by_cases htilde : final = '~'
  · rw [if_pos htilde, htilde, show finalKey? '~' = none from rfl]
    dsimp only
    by_cases hhead : parameters.takeWhile (· ≠ ';') = []
    · rw [hhead]
      rfl
    · have hdigits : ∀ c ∈ parameters.takeWhile (· ≠ ';'), c.isDigit = true := by
        intro c hc
        have hne : c ≠ ';' := by
          simpa using List.all_eq_true.mp List.all_takeWhile c hc
        exact (h c (List.takeWhile_subset _ hc)).resolve_right hne
      have hshort : (parameters.takeWhile (· ≠ ';')).length < maxDigits :=
        Nat.lt_of_le_of_lt (List.takeWhile_prefix _).length_le hlength
      rw [if_neg (by simpa using hhead), parseInt_of_isDigit hhead hdigits,
        if_neg (Nat.not_lt_of_lt hshort), if_neg hhead]
      rfl
  · rw [if_neg htilde]
    cases hkey : finalKey? final with
    | some k => rfl
    | none => simp [htilde]

/-- Characters that belong to a sequence are passed over. -/
theorem keysFrom_append (s rest : List Char) : keysFrom s.length (s ++ rest) = keysFrom 0 rest := by
  induction s with
  | nil => rfl
  | cons c s ih => exact ih

/-- Parameters are taken up to the first other character, which ends the sequence. -/
theorem decodeKeys_control (hparameters : ∀ c ∈ parameters, isParameter c = true)
    (hfinal : isParameter final = false) (rest : List Char) :
    decodeKeys (escapeChar :: '[' :: (parameters ++ final :: rest)) =
      (controlSequenceKey parameters final).bind fun key =>
        (decodeKeys rest).map (key.toList ++ ·) := by
  have htake : (parameters ++ final :: rest).takeWhile isParameter = parameters := by
    rw [List.takeWhile_append_of_pos hparameters, List.takeWhile_cons_of_neg (by simp [hfinal]),
      List.append_nil]
  have hsequence : escapeSequence ('[' :: (parameters ++ final :: rest)) =
      (controlSequenceKey parameters final).map (·, ('[' :: (parameters ++ [final])).length) := by
    simp only [escapeSequence, htake, List.drop_left]
    simp
  rw [decodeKeys, keysFrom, if_pos rfl, hsequence]
  cases controlSequenceKey parameters final with
  | error e => rfl
  | ok key =>
    dsimp only [Except.map, Except.bind]
    rw [show '[' :: (parameters ++ final :: rest) = ('[' :: (parameters ++ [final])) ++ rest by simp,
      keysFrom_append]
    rfl

/-- A token is decoded on its own, before what follows it. -/
theorem decodeKeys_token (t : Token) (rest : List Char) :
    decodeKeys (t.text ++ rest) = (decodeKeys rest).map (t.key?.toList ++ ·) := by
  cases t with
  | plain c ne_escape =>
    rw [Token.text, List.singleton_append, decodeKeys, keysFrom, if_neg ne_escape]
    rfl
  | control parameters final hascii hlength hne hdigit =>
    have hparameters : ∀ c ∈ parameters, isParameter c = true := fun c hc =>
      isParameter_of_ascii (hascii c hc)
    have hfinal : isParameter final = false := by simp [isParameter, hdigit, hne]
    have htext : (Token.control parameters final hascii hlength hne hdigit).text ++ rest =
        escapeChar :: '[' :: (parameters ++ final :: rest) := by simp [Token.text]
    rw [htext, decodeKeys_control hparameters hfinal, controlSequenceKey_eq hascii hlength final]
    rfl
  | single final =>
    rw [Token.text, List.cons_append, decodeKeys, keysFrom, if_pos rfl]
    rfl

/-! ## Tokens in a row -/

theorem decodeKeys_flatMap (ts : List Token) (rest : List Char) :
    decodeKeys (ts.flatMap Token.text ++ rest) =
      (decodeKeys rest).map (ts.filterMap Token.key? ++ ·) := by
  induction ts with
  | nil => cases h : decodeKeys rest <;> simp [Except.map, h]
  | cons t ts ih =>
    rw [List.flatMap_cons, List.append_assoc, decodeKeys_token, ih]
    cases decodeKeys rest with
    | error e => rfl
    | ok keys => cases hkey : t.key? <;> simp [Except.map, hkey]

theorem decodeKeys_of_key? {ts : List Token} {keys : List Key}
    (h : ts.map Token.key? = keys.map some) : decodeKeys (ts.flatMap Token.text) = .ok keys := by
  have hkeys : ts.filterMap Token.key? = keys := by
    have hid : (ts.map Token.key?).filterMap id = (keys.map some).filterMap id := by rw [h]
    simpa [List.filterMap_map] using hid
  have hrest := decodeKeys_flatMap ts []
  rw [List.append_nil, hkeys] at hrest
  rw [hrest]
  simp [decodeKeys, keysFrom, Except.map]

/-! ## Keys and their tokens -/

theorem exists_token_of_finalKey? {k : Key} (h : finalKey? final = some k) :
    ∃ t : Token, t.key? = some k :=
  ⟨.single final, h⟩

theorem exists_token_of_numberedKey? {n : Int} {k : Key} (h : numberedKey? n = some k) :
    ∃ t : Token, t.key? = some k := by
  have htoken : ∀ d : Char, d.isDigit = true → d ≠ ';' →
      ∃ t : Token, t.key? = numberedKey? (Nat.ofDigitChars 10 [d] 0 : Nat) := by
    intro d hd hne
    have hlength : [d].length < maxDigits := by simp [maxDigits]
    refine ⟨.control [d] '~' (by simp [hd]) hlength (by decide) (by decide), ?_⟩
    simp [Token.key?, Token.leadingNumber?, hne]
  unfold numberedKey? at h
  split_ifs at h <;> cases h
  · exact htoken '1' rfl (by decide)
  · exact htoken '2' rfl (by decide)
  · exact htoken '3' rfl (by decide)
  · exact htoken '4' rfl (by decide)
  · exact htoken '5' rfl (by decide)
  · exact htoken '6' rfl (by decide)

theorem exists_token_of_controlSequenceKey {k : Key}
    (h : controlSequenceKey parameters final = .ok (some k)) : ∃ t : Token, t.key? = some k := by
  unfold controlSequenceKey at h
  split at h
  · rename_i hfinal
    cases h
    exact exists_token_of_finalKey? hfinal
  · dsimp only at h
    split at h
    · cases h
    · obtain ⟨n, -, hn⟩ := exists_of_map_eq_ok h
      exact exists_token_of_numberedKey? hn

theorem exists_token_of_escapeSequence {s : List Char} {k : Key} {used : Nat}
    (h : escapeSequence s = .ok (some k, used)) (hk : k ≠ .escape) :
    ∃ t : Token, t.key? = some k := by
  unfold escapeSequence at h
  split at h
  · dsimp only at h
    split at h
    · cases h
      exact absurd rfl hk
    · obtain ⟨key, hkey, heq⟩ := exists_of_map_eq_ok h
      cases heq
      exact exists_token_of_controlSequenceKey hkey
  · exact exists_token_of_finalKey? (congrArg Prod.fst (Except.ok.inj h))
  · cases h
    exact absurd rfl hk

/-- Each key that is read, but for the escape key, has a token that stands for it. -/
theorem exists_token_of_mem {skip : Nat} {s : List Char} {keys : List Key}
    (h : keysFrom skip s = .ok keys) {k : Key} (hmem : k ∈ keys) (hk : k ≠ .escape) :
    ∃ t : Token, t.key? = some k := by
  induction s generalizing skip keys with
  | nil => cases skip <;> cases h <;> cases hmem
  | cons c s ih =>
    cases skip with
    | succ skip => exact ih h hmem
    | zero =>
      rw [keysFrom] at h
      split at h
      · split at h
        · cases h
        · rename_i key used hsequence
          obtain ⟨others, hothers, rfl⟩ := exists_of_map_eq_ok h
          rcases List.mem_append.mp hmem with hmem | hmem
          · obtain rfl : key = some k := by simpa using hmem
            exact exists_token_of_escapeSequence hsequence hk
          · exact ih hothers hmem
      · rename_i hc
        obtain ⟨others, hothers, rfl⟩ := exists_of_map_eq_ok h
        rcases List.mem_cons.mp hmem with rfl | hmem
        · exact ⟨.plain c hc, rfl⟩
        · exact ih hothers hmem

/-- Tokens before any text give their keys, in order and before those of the text. So keys are read
from tokens that stand for them, one for each; and every key that is read from a text, but for the
escape key, has such a token. -/
theorem decodeKeys_tokens :
    (∀ (ts : List Token) (rest : List Char), decodeKeys (ts.flatMap Token.text ++ rest) =
      (decodeKeys rest).map (ts.filterMap Token.key? ++ ·)) ∧
    (∀ (keys : List Key) (ts : List Token), ts.map Token.key? = keys.map some →
      decodeKeys (ts.flatMap Token.text) = .ok keys) ∧
    ∀ (text : List Char) (keys : List Key), decodeKeys text = .ok keys →
      ∀ k ∈ keys, k ≠ .escape → ∃ t : Token, t.key? = some k :=
  ⟨decodeKeys_flatMap, fun _ _ h => decodeKeys_of_key? h,
    fun _ _ h _ hmem hk => exists_token_of_mem h hmem hk⟩

/-- A numbered key with a modifier, an unknown sequence, an arrow, a plain character and a named key
are read before a sequence that is not complete, and without it; a numbered key has a token. -/
theorem decodeKeys_tokens_before_incomplete_sequence :
    decodeKeys "\x1b[5;2~\x1b[1;5Z\x1bOAq\x1b[;;H\x1b[5".toList =
        .ok [.pageUp, .up, .char 'q', .home, .escape, .char '[', .char '5'] ∧
      decodeKeys "\x1b[5;2~\x1bOAq".toList = .ok [.pageUp, .up, .char 'q'] ∧
      ∃ t : Token, t.key? = some .pageUp := by
  obtain ⟨hrest, hkeys, htoken⟩ := decodeKeys_tokens
  have hincomplete := hrest
    [.control ['5', ';', '2'] '~' (by simp) (by decide) (by decide) (by decide),
      .control ['1', ';', '5'] 'Z' (by simp) (by decide) (by decide) (by decide), .single 'A',
      .plain 'q' (by decide),
      .control [';', ';'] 'H' (by simp) (by decide) (by decide) (by decide)] "\x1b[5".toList
  have hcomplete := hkeys [.pageUp, .up, .char 'q']
    [.control ['5', ';', '2'] '~' (by simp) (by decide) (by decide) (by decide), .single 'A',
      .plain 'q' (by decide)] rfl
  exact ⟨hincomplete, hcomplete,
    htoken "\x1b[5~".toList [.pageUp] rfl .pageUp List.mem_cons_self (by decide)⟩

end WorkspaceDesk.Terminal

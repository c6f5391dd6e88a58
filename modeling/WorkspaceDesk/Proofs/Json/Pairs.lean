import WorkspaceDesk.Proofs.Except
import WorkspaceDesk.Proofs.Json.Values
import WorkspaceDesk.Proofs.Text.Utf8

/-!
# Escapes of surrogates in pairs

An escape of half a surrogate pair names no character, and the replacement character is read for it. A text without
such an escape (`Paired`) holds characters alone: what is written is such a text (`paired_write`), and nothing is
replaced where its strings are read (`paired_of_stringBody`).
-/

namespace WorkspaceDesk.Json

open Text

variable {room level : Nat} {rest : List Char}

/-- Each escape in the text is whole, and no surrogate is escaped but in a pair. -/
inductive Paired : List Char → Prop
  | nil : Paired []
  | plain {c : Char} {rest : List Char} (hc : c ≠ '\\') (h : Paired rest) : Paired (c :: rest)
  | short {c : Char} {rest : List Char} (hc : c ≠ 'u') (h : Paired rest) : Paired ('\\' :: c :: rest)
  | unit {digits rest : List Char} {n : Nat} (hn : IsUnit digits n) (hhigh : isHighSurrogate n = false)
    (hlow : isLowSurrogate n = false) (h : Paired rest) : Paired ('\\' :: 'u' :: digits ++ rest)
  | pair {first second rest : List Char} {high low : Nat} (hfirst : IsUnit first high)
    (hhigh : isHighSurrogate high = true) (hsecond : IsUnit second low)
    (hlow : isLowSurrogate low = true) (h : Paired rest) :
    Paired ('\\' :: 'u' :: first ++ '\\' :: 'u' :: second ++ rest)

/-! ## Texts without escapes -/

theorem Paired.append_of_not_mem {s : List Char} (hs : '\\' ∉ s) (h : Paired rest) :
    Paired (s ++ rest) := by
  induction s with
  | nil => exact h
  | cons c s ih =>
    rw [List.mem_cons, not_or] at hs
    exact .plain (Ne.symm hs.1) (ih hs.2)

theorem Paired.newline (h : Paired rest) (level : Nat) : Paired (newline level ++ rest) := by
  refine .append_of_not_mem ?_ h
  simp [Json.newline, List.mem_replicate]

/-! ## Strings -/

/-- A character is written as itself, as a short escape, as its code unit or as a pair. -/
theorem Paired.writeChar (h : Paired rest) (c : Char) : Paired (writeChar c ++ rest) := by
  unfold Json.writeChar
  split
  · exact .short (by decide) h
  split
  · exact .short (by decide) h
  split
  · exact .short (by decide) h
  split
  · exact .short (by decide) h
  split
  · exact .short (by decide) h
  split
  · exact .short (by decide) h
  split
  · exact .short (by decide) h
  split
  · rename_i hslash _ _ _ _ _ _
    exact .plain hslash h
  split
  · rename_i hbasic
    exact .unit (isUnit_hexDigits hbasic) (not_surrogate c).1 (not_surrogate c).2 h
  · have hhigh := isHighSurrogate_upper c
    have hlow := isLowSurrogate_lower c
    rw [List.append_assoc]
    exact .pair (isUnit_hexDigits (lt_of_isHighSurrogate hhigh)) hhigh
      (isUnit_hexDigits (lt_of_isLowSurrogate hlow)) hlow h

theorem Paired.writeString (h : Paired rest) (s : String) : Paired (writeString s ++ rest) := by
  rw [writeString_append]
  refine .plain (by decide) ?_
  -- character by character, from the closing quote on
  induction s.toList with
  | nil => exact .plain (by decide) h
  | cons c cs ih =>
    rw [List.flatMap_cons, List.append_assoc]
    exact ih.writeChar c

/-! ## Values -/

/-- Before a text of pairs, the value is written as such a text. -/
def WritesPairs (level : Nat) (v : Value) : Prop :=
  ∀ rest, Paired rest → Paired (write level v ++ rest)

theorem Paired.items {vs : List Value} (hvs : ∀ v ∈ vs, WritesPairs level v) (h : Paired rest) :
    Paired (writeItems level vs ++ rest) := by
  induction vs with
  | nil => exact h
  | cons v vs ih =>
    have hrest := ih fun w hw => hvs w (List.mem_cons_of_mem v hw)
    rw [writeItems, List.append_assoc, List.append_assoc]
    exact .plain (by decide) (.newline (hvs v List.mem_cons_self _ hrest) level)

theorem Paired.fields {fields : Fields} (hfields : ∀ f ∈ fields, WritesPairs level f.2)
    (h : Paired rest) : Paired (writeFields level fields ++ rest) := by
  induction fields with
  | nil => exact h
  | cons f fields ih =>
    obtain ⟨name, v⟩ := f
    have hrest := ih fun g hg => hfields g (List.mem_cons_of_mem _ hg)
    have hvalue := hfields (name, v) List.mem_cons_self _ hrest
    rw [writeFields]
    simp only [List.cons_append, List.append_assoc]
    exact .plain (by decide) (.newline (.writeString (.plain (by decide) (.plain (by decide) hvalue)) name)
      level)

/-- A value is written as a text of pairs. -/
theorem writesPairs_of_readable {v : Value} (h : Readable room v) (level : Nat) :
    WritesPairs level v := by
  intro rest hrest
  induction h generalizing level rest with
  | null =>
    rw [write]
    exact .append_of_not_mem (by decide) hrest
  | bool b =>
    rw [write]
    refine .append_of_not_mem ?_ hrest
    cases b <;> decide
  | int _ =>
    rw [write]
    refine .append_of_not_mem ?_ hrest
    rw [toList_toString]
    have hdigits : ∀ n, '\\' ∉ Nat.toDigits 10 n := fun n hmem =>
      absurd (isDigit_of_mem hmem) (by decide)
    split <;> simp [hdigits]
  | str s =>
    rw [write_str]
    exact .writeString hrest s
  | @arr _ items _ ih =>
    cases items with
    | nil =>
      rw [write]
      exact .append_of_not_mem (by decide) hrest
    | cons v vs =>
      have hclose := (hrest.plain (c := ']') (by decide)).newline level
      have hitems := Paired.items (fun w hw => ih w (List.mem_cons_of_mem v hw) (level + 1)) hclose
      have hvalue := ih v List.mem_cons_self (level + 1) _ hitems
      rw [write]
      simpa only [List.cons_append, List.append_assoc, List.nil_append] using
        (hvalue.newline (level + 1)).plain (c := '[') (by decide)
  | @obj _ fields _ _ ih =>
    cases fields with
    | nil =>
      rw [write]
      exact .append_of_not_mem (by decide) hrest
    | cons f fields =>
      obtain ⟨name, v⟩ := f
      have hclose := (hrest.plain (c := '\x7d') (by decide)).newline level
      have hfields := Paired.fields (fun g hg => ih g (List.mem_cons_of_mem _ hg) (level + 1)) hclose
      have hvalue := ih (name, v) List.mem_cons_self (level + 1) _ hfields
      have hcolon := (hvalue.plain (c := ' ') (by decide)).plain (c := ':') (by decide)
      rw [write]
      simpa only [List.cons_append, List.append_assoc, List.nil_append] using
        ((hcolon.writeString name).newline (level + 1)).plain (c := '\x7b') (by decide)

/-- A written value is a text of pairs. -/
theorem paired_write {v : Value} (h : Readable room v) : Paired (v.write ++ ['\n']) :=
  writesPairs_of_readable h 0 _ (.plain (by decide) .nil)

/-! ## Reading -/

/-- The replacement character stands in the text, as itself or as its escape. -/
def ShowsReplacement (s : List Char) : Prop :=
  '\ufffd' ∈ s ∨ ∃ digits, IsUnit digits 0xfffd ∧ '\\' :: 'u' :: digits <:+: s

theorem ShowsReplacement.of_suffix {s t : List Char} (h : ShowsReplacement s) (hst : s <:+ t) :
    ShowsReplacement t :=
  h.imp (fun hmem => hst.subset hmem) fun ⟨digits, hunit, hinfix⟩ =>
    ⟨digits, hunit, hinfix.trans hst.isInfix⟩

/-- A number whose character is the replacement character is that of this character. -/
theorem eq_of_ofNat_eq_replacement {n : Nat} (h : Char.ofNat n = '\ufffd') : n = 0xfffd := by
  by_cases hn : n.isValidChar
  · rw [← Utf8.toNat_ofNat hn, h]
    rfl
  · rw [Char.ofNat, dif_neg hn] at h
    cases h

/-- A short escape takes one character, and names no replacement character. -/
theorem short_of_escape {opening used : Nat} {c d : Char} (hc : c ≠ 'u')
    (h : escape opening (c :: rest) = .ok (d, used)) : used = 1 ∧ d ≠ '\ufffd' := by
  rw [escape] at h
  split at h
  · rename_i hself
    cases h
    refine ⟨rfl, ?_⟩
    rcases hself with rfl | rfl | rfl <;> decide
  -- the letters that stand for control characters
  iterate 5
    split at h
    · cases h
      exact ⟨rfl, by decide⟩
  cases h

/-- The digits of an escape are not read where the text ends with them. -/
theorem IsUnit.codeUnit?_eq_none {digits : List Char} {n : Nat} (h : IsUnit digits n) :
    codeUnit? digits = none := by
  match digits, h.length with
  | [_, _, _, _], _ => rfl

/-- A string is read past a backslash only if there is an escape. -/
theorem exists_escape_of_stringBody {opening : Nat} {s body after : List Char}
    (h : stringBody opening 0 ('\\' :: s) = .ok (body, after)) :
    ∃ c used, escape opening s = .ok (c, used) := by
  rw [stringBody] at h
  simp only [Char.reduceEq, ↓reduceIte] at h
  cases hescape : escape opening s with
  | error e =>
    rw [hescape] at h
    cases h
  | ok named => exact ⟨named.1, named.2, rfl⟩

/-- Where the next character of a string has been read, the rest of the string follows it. -/
theorem exists_of_stringBody_cons {opening : Nat} {c : Char} {s body after : List Char}
    (hnext : stringBody opening 0 s =
      (stringBody opening 0 rest).map fun read => (c :: read.1, read.2))
    (hread : stringBody opening 0 s = .ok (body, after)) :
    ∃ body', stringBody opening 0 rest = .ok (body', after) ∧ body = c :: body' := by
  obtain ⟨⟨body', after'⟩, hrest, heq⟩ := exists_of_map_eq_ok (hnext.symm.trans hread)
  cases heq
  exact ⟨body', hrest, rfl⟩

/-- A string does not end with the digits of an escape. -/
theorem ne_nil_of_stringBody {opening n : Nat} {digits body after : List Char} (hn : IsUnit digits n)
    (h : stringBody opening 0 ('\\' :: 'u' :: digits ++ rest) = .ok (body, after)) : rest ≠ [] := by
  rintro rfl
  rw [List.append_nil] at h
  obtain ⟨c, used, hescape⟩ := exists_escape_of_stringBody h
  rw [escape, hn.codeUnit?_eq_none] at hescape
  simp only [Char.reduceEq, or_self, ↓reduceIte] at hescape
  cases hescape

/-- Nor does it end with those of a second escape, for which there is no room; the first is read alone then. -/
theorem ne_nil_of_stringBody_pair {opening high low : Nat} {first second body after : List Char}
    (hfirst : IsUnit first high) (hsecond : IsUnit second low)
    (h : stringBody opening 0 ('\\' :: 'u' :: first ++ '\\' :: 'u' :: second ++ rest) = .ok (body, after)) :
    rest ≠ [] := by
  rintro rfl
  rw [List.append_assoc] at h
  have hroom : secondEscape? ('\\' :: 'u' :: second ++ []) = none := by
    rw [List.append_nil, secondEscape?, if_neg (by rw [hsecond.length]; decide)]
  have hescape : escape opening ('u' :: first ++ ('\\' :: 'u' :: second ++ [])) =
      .ok (unitChar high, ('u' :: first).length) := by
    rw [List.length_cons, hfirst.length]
    exact escape_alone hfirst (fun _ => hroom) (by simp)
  obtain ⟨body', hrest, -⟩ := exists_of_stringBody_cons (stringBody_escape _ hescape) h
  exact ne_nil_of_stringBody hsecond hrest rfl

/-- Nothing is replaced where a string is read in a text of pairs: the replacement character is read only if it
stands there, and a text of pairs follows the string. -/
theorem paired_of_stringBody {opening : Nat} {s body after : List Char} (h : Paired s)
    (hread : stringBody opening 0 s = .ok (body, after)) :
    Paired after ∧ ('\ufffd' ∈ body → ShowsReplacement s) := by
  induction h generalizing body with
  | nil => cases hread
  | @plain c rest hc h ih =>
    by_cases hquote : c = '"'
    · rw [stringBody, if_pos hquote] at hread
      cases hread
      exact ⟨h, fun hmem => absurd hmem List.not_mem_nil⟩
    by_cases hcontrol : c.toNat < 0x20
    · rw [stringBody, if_neg hquote, if_neg hc, if_pos hcontrol] at hread
      cases hread
    obtain ⟨body', hrest, rfl⟩ := exists_of_stringBody_cons (stringBody_plain hquote hc hcontrol) hread
    obtain ⟨hafter, hshows⟩ := ih hrest
    refine ⟨hafter, fun hmem => ?_⟩
    rcases List.mem_cons.mp hmem with rfl | hmem
    · exact .inl List.mem_cons_self
    · exact (hshows hmem).of_suffix (List.suffix_cons c rest)
  | @short c rest hc h ih =>
    obtain ⟨d, used, hescape⟩ := exists_escape_of_stringBody hread
    obtain ⟨rfl, hd⟩ := short_of_escape hc hescape
    obtain ⟨body', hrest, rfl⟩ := exists_of_stringBody_cons (stringBody_escape [c] hescape) hread
    obtain ⟨hafter, hshows⟩ := ih hrest
    refine ⟨hafter, fun hmem => (hshows ?_).of_suffix (List.suffix_append ['\\', c] rest)⟩
    exact (List.mem_cons.mp hmem).resolve_left hd.symm
  | @unit digits rest n hn hhigh hlow h ih =>
    have hne := ne_nil_of_stringBody hn hread
    have hescape : escape opening ('u' :: digits ++ rest) =
        .ok (Char.ofNat n, ('u' :: digits).length) := by
      rw [List.length_cons, hn.length]
      exact escape_isUnit hn hhigh hlow hne
    obtain ⟨body', hrest, rfl⟩ := exists_of_stringBody_cons (stringBody_escape _ hescape) hread
    obtain ⟨hafter, hshows⟩ := ih hrest
    refine ⟨hafter, fun hmem => ?_⟩
    rcases List.mem_cons.mp hmem with heq | hmem
    · obtain rfl := eq_of_ofNat_eq_replacement heq.symm
      exact .inr ⟨digits, hn, (List.prefix_append _ rest).isInfix⟩
    · exact (hshows hmem).of_suffix (List.suffix_append ('\\' :: 'u' :: digits) rest)
  | @pair first second rest high low hfirst hhigh hsecond hlow h ih =>
    have hne := ne_nil_of_stringBody_pair hfirst hsecond hread
    have hescape : escape opening ('u' :: first ++ '\\' :: 'u' :: second ++ rest) =
        .ok (Char.ofNat (0x10000 + (high - 0xd800) * 0x400 + (low - 0xdc00)),
          ('u' :: first ++ '\\' :: 'u' :: second).length) := by
      rw [List.length_append, List.length_cons, List.length_cons, List.length_cons, hfirst.length,
        hsecond.length, List.append_assoc]
      exact escape_surrogates hfirst hhigh hsecond hlow hne
    obtain ⟨body', hrest, rfl⟩ := exists_of_stringBody_cons (stringBody_escape _ hescape) hread
    obtain ⟨hafter, hshows⟩ := ih hrest
    refine ⟨hafter, fun hmem => (hshows ?_).of_suffix (List.suffix_append _ rest)⟩
    refine (List.mem_cons.mp hmem).resolve_left fun heq => ?_
    have := eq_of_ofNat_eq_replacement heq.symm
    omega

end WorkspaceDesk.Json

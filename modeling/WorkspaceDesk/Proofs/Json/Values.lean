import WorkspaceDesk.Proofs.Json.Numbers
import WorkspaceDesk.Proofs.Json.Strings

/-!
# Values back from their written form

A value that holds no binary number, no whole number with too many digits and no name twice in an object
is read back from what it is written as, if it is not nested too deeply (`readWithin_write`).
-/

namespace WorkspaceDesk.Json

open Text

/-! ## Values that can be read back -/

/-- The value is read back where containers may be nested `room` deep. -/
inductive Readable : (room : Nat) → Value → Prop
  | null {room : Nat} : Readable room .null
  | bool {room : Nat} (b : Bool) : Readable room (.bool b)
  | int {room : Nat} {n : Int} (h : n.natAbs < 10 ^ maxDigits) : Readable room (.int n)
  | str {room : Nat} (s : String) : Readable room (.str s)
  | arr {room : Nat} {items : List Value} (h : ∀ v ∈ items, Readable room v) :
    Readable (room + 1) (.arr items)
  | obj {room : Nat} {fields : Fields} (hnames : (fields.map Prod.fst).Nodup)
    (h : ∀ f ∈ fields, Readable room f.2) : Readable (room + 1) (.obj fields)

/-! ## Blanks -/

theorem skipSpace_newline (level : Nat) (s : List Char) :
    skipSpace (newline level ++ s) = skipSpace s := by
  have hblank : ∀ c ∈ newline level, isSpace c = true := by
    intro c hc
    rcases List.mem_cons.mp hc with rfl | hc
    · rfl
    · rw [List.eq_of_mem_replicate hc]
      rfl
  exact List.dropWhile_append_of_pos hblank

/-- The text begins with a character that is neither a blank, nor the end of a list, nor a mark of the
byte order. -/
def Starts (s : List Char) : Prop :=
  ∃ c t, s = c :: t ∧ isSpace c = false ∧ c ≠ ']' ∧ c ≠ '\ufeff'

theorem skipSpace_of_starts {s : List Char} (h : Starts s) (rest : List Char) :
    skipSpace (s ++ rest) = s ++ rest := by
  obtain ⟨c, t, rfl, hc, -, -⟩ := h
  exact List.dropWhile_cons_of_neg (by rw [hc]; exact Bool.false_ne_true)

/-- Blanks before a text that begins with none are skipped, and nothing else. -/
theorem skipSpace_newline_of_starts {s : List Char} (h : Starts s) (level : Nat) (rest : List Char) :
    skipSpace (newline level ++ (s ++ rest)) = s ++ rest := by
  rw [skipSpace_newline, skipSpace_of_starts h]

theorem skipSpace_newline_writeString (level : Nat) (name : String) (rest : List Char) :
    skipSpace (newline level ++ (writeString name ++ rest)) = writeString name ++ rest := by
  rw [skipSpace_newline]
  rfl

theorem starts_write {room : Nat} {v : Value} (h : Readable room v) (level : Nat) :
    Starts (write level v) := by
  cases h with
  | null => exact ⟨'n', _, by rw [write]; rfl, rfl, by decide, by decide⟩
  | bool b =>
    cases b with
    | true => exact ⟨'t', _, by rw [write]; rfl, rfl, by decide, by decide⟩
    | false => exact ⟨'f', _, by rw [write]; rfl, rfl, by decide, by decide⟩
  | @int _ n _ =>
    obtain ⟨c, t, hct, hc⟩ := toString_head n
    refine ⟨c, t, by rw [write, hct], ?_⟩
    rcases hc with hc | ⟨rfl, -⟩
    · have hne : ∀ d : Char, d.isDigit = false → c ≠ d := by
        rintro d hd rfl
        rw [hd] at hc
        cases hc
      simp [isSpace, hne]
    · decide
  | str s => exact ⟨'"', _, by rw [write_str]; rfl, rfl, by decide, by decide⟩
  | @arr _ items _ =>
    cases items with
    | nil => exact ⟨'[', _, by rw [write], rfl, by decide, by decide⟩
    | cons v rest => exact ⟨'[', _, by rw [write]; rfl, rfl, by decide, by decide⟩
  | @obj _ fields _ _ =>
    cases fields with
    | nil => exact ⟨'\x7b', _, by rw [write], rfl, by decide, by decide⟩
    | cons f rest => exact ⟨'\x7b', _, by rw [write]; rfl, rfl, by decide, by decide⟩

/-! ## Fields -/

theorem set_of_not_mem {fields : Fields} {name : String} (h : name ∉ fields.map Prod.fst)
    (v : Value) : Fields.set fields name v = fields ++ [(name, v)] := by
  induction fields with
  | nil => rfl
  | cons f fields ih =>
    obtain ⟨n, w⟩ := f
    rw [List.map_cons, List.mem_cons, not_or] at h
    rw [Fields.set, if_neg (Ne.symm h.1), ih h.2, List.cons_append]

/-- Pairs with different names are fields as they are. -/
theorem ofPairs_of_nodup {pairs : List (String × Value)} (h : (pairs.map Prod.fst).Nodup) :
    Fields.ofPairs pairs = pairs := by
  -- the fields that are there already vary from step to step
  have hfrom : ∀ fields : Fields, ((fields ++ pairs).map Prod.fst).Nodup →
      pairs.foldl (fun fields p => Fields.set fields p.1 p.2) fields = fields ++ pairs := by
    clear h
    induction pairs with
    | nil =>
      intro fields _
      exact (List.append_nil fields).symm
    | cons p pairs ih =>
      intro fields hnodup
      have hnot : p.1 ∉ fields.map Prod.fst := by
        rw [List.map_append, List.nodup_append] at hnodup
        exact fun hmem => hnodup.2.2 _ hmem _ List.mem_cons_self rfl
      rw [List.foldl_cons, set_of_not_mem hnot, ih, List.append_assoc, List.singleton_append]
      rwa [List.append_assoc, List.singleton_append]
  exact hfrom [] h

/-! ## Items and fields one after another -/

variable {level close room fuel : Nat} {rest : List Char}

/-- The value is read from its written form, with what follows. -/
def ReadsBack (level room : Nat) (v : Value) : Prop :=
  ∀ fuel rest, (write level v).length ≤ fuel → Follows rest →
    value fuel room (write level v ++ rest) = .ok (v, rest)

theorem follows_newline (level : Nat) (rest : List Char) : Follows (newline level ++ rest) :=
  follows_feed _

theorem length_newline (level : Nat) : (newline level).length = 2 * level + 1 := by
  rw [newline, List.length_cons, List.length_replicate]

theorem follows_items (level close : Nat) (vs : List Value) (rest : List Char) :
    Follows (writeItems level vs ++ (newline close ++ rest)) := by
  cases vs with
  | nil => exact follows_newline close rest
  | cons v vs =>
    rw [writeItems]
    exact follows_comma _

theorem follows_fields (level close : Nat) (fields : List (String × Value)) (rest : List Char) :
    Follows (writeFields level fields ++ (newline close ++ rest)) := by
  cases fields with
  | nil => exact follows_newline close rest
  | cons f fields =>
    rw [writeFields]
    exact follows_comma _

/-- The items of a list are read up to its bracket. -/
theorem items_write {v : Value} {vs : List Value}
    (hstarts : ∀ w ∈ v :: vs, Starts (write level w))
    (hreads : ∀ w ∈ v :: vs, ReadsBack level room w)
    (hfuel : (write level v ++ writeItems level vs).length < fuel) :
    items fuel room (write level v ++ (writeItems level vs ++ (newline close ++ ']' :: rest))) =
      .ok (v :: vs, rest) := by
  -- on the items behind the first one; each step takes a value and what separates it from the next
  induction vs generalizing v fuel with
  | nil =>
    obtain ⟨fuel, rfl⟩ := Nat.exists_eq_add_one_of_ne_zero (Nat.ne_zero_of_lt hfuel)
    rw [writeItems, List.append_nil] at hfuel
    have hvalue := hreads v List.mem_cons_self fuel _ (Nat.le_of_lt_succ hfuel)
      (follows_items level close [] (']' :: rest))
    have hskip : skipSpace (writeItems level [] ++ (newline close ++ ']' :: rest)) = ']' :: rest := by
      rw [writeItems, List.nil_append, skipSpace_newline]
      rfl
    rw [items, hvalue]
    simp only [hskip]
  | cons w ws ih =>
    obtain ⟨fuel, rfl⟩ := Nat.exists_eq_add_one_of_ne_zero (Nat.ne_zero_of_lt hfuel)
    rw [writeItems, List.length_append, List.length_append, List.length_append,
      List.length_cons, length_newline] at hfuel
    have hvalue := hreads v List.mem_cons_self fuel _ (by omega)
      (follows_items level close (w :: ws) (']' :: rest))
    have hshorter : (write level w ++ writeItems level ws).length < fuel := by
      rw [List.length_append]
      omega
    have hrest := ih (fun u hu => hstarts u (List.mem_cons_of_mem v hu))
      (fun u hu => hreads u (List.mem_cons_of_mem v hu)) hshorter
    have hcomma : skipSpace (writeItems level (w :: ws) ++ (newline close ++ ']' :: rest)) =
        ',' :: (newline level ++
          (write level w ++ (writeItems level ws ++ (newline close ++ ']' :: rest)))) := by
      rw [writeItems]
      simp only [List.cons_append, List.append_assoc]
      rfl
    have hskip := skipSpace_newline_of_starts (hstarts w (by simp)) level
    rw [items, hvalue]
    simp only [hcomma, hskip, hrest]

theorem writeString_append (s : String) (rest : List Char) :
    writeString s ++ rest = '"' :: (s.toList.flatMap writeChar ++ '"' :: rest) := by
  rw [writeString]
  simp only [List.cons_append, List.append_assoc, List.nil_append]

theorem skipSpace_colon {v : Value} (hstarts : Starts (write level v)) (after : List Char) :
    skipSpace (':' :: ' ' :: (write level v ++ after)) = ':' :: ' ' :: (write level v ++ after) ∧
      skipSpace (' ' :: (write level v ++ after)) = write level v ++ after :=
  ⟨rfl, skipSpace_of_starts hstarts after⟩

/-- A field before the brace is the last one. -/
theorem members_last {name : String} {v : Value} {after : List Char}
    (hstarts : Starts (write level v)) (hreads : ReadsBack level room v) (hafter : Follows after)
    (hfuel : (write level v).length ≤ fuel) (hend : skipSpace after = '\x7d' :: rest) :
    members (fuel + 1) room (writeString name ++ (':' :: ' ' :: (write level v ++ after))) =
      .ok ([(name, v)], rest) := by
  obtain ⟨hcolon, hskip⟩ := skipSpace_colon hstarts after
  rw [writeString_append, members]
  simp only [string_writeString, hcolon, hskip, hreads fuel after hfuel hafter, hend]

/-- A field before a comma comes before other fields. -/
theorem members_more {name : String} {v : Value} {after next : List Char}
    {pairs : List (String × Value)} (hstarts : Starts (write level v))
    (hreads : ReadsBack level room v) (hafter : Follows after)
    (hfuel : (write level v).length ≤ fuel) (hcomma : skipSpace after = ',' :: next)
    (hnext : members fuel room (skipSpace next) = .ok (pairs, rest)) :
    members (fuel + 1) room (writeString name ++ (':' :: ' ' :: (write level v ++ after))) =
      .ok ((name, v) :: pairs, rest) := by
  obtain ⟨hcolon, hskip⟩ := skipSpace_colon hstarts after
  rw [writeString_append, members]
  simp only [string_writeString, hcolon, hskip, hreads fuel after hfuel hafter, hcomma, hnext]

/-- The fields of an object are read up to its brace. -/
theorem members_write {name : String} {v : Value} {fields : List (String × Value)}
    (hstarts : ∀ f ∈ (name, v) :: fields, Starts (write level f.2))
    (hreads : ∀ f ∈ (name, v) :: fields, ReadsBack level room f.2)
    (hfuel : (write level v ++ writeFields level fields).length < fuel) :
    members fuel room (writeString name ++ (':' :: ' ' :: (write level v ++
        (writeFields level fields ++ (newline close ++ '\x7d' :: rest))))) =
      .ok ((name, v) :: fields, rest) := by
  induction fields generalizing name v fuel with
  | nil =>
    obtain ⟨fuel, rfl⟩ := Nat.exists_eq_add_one_of_ne_zero (Nat.ne_zero_of_lt hfuel)
    rw [writeFields, List.append_nil] at hfuel
    have hskip : skipSpace (writeFields level [] ++ (newline close ++ '\x7d' :: rest)) =
        '\x7d' :: rest := by
      rw [writeFields, List.nil_append, skipSpace_newline]
      rfl
    exact members_last (hstarts (name, v) List.mem_cons_self) (hreads (name, v) List.mem_cons_self)
      (follows_fields level close [] _) (Nat.le_of_lt_succ hfuel) hskip
  | cons f fields ih =>
    obtain ⟨n, w⟩ := f
    obtain ⟨fuel, rfl⟩ := Nat.exists_eq_add_one_of_ne_zero (Nat.ne_zero_of_lt hfuel)
    rw [writeFields] at hfuel
    simp only [List.length_append, List.length_cons, length_newline] at hfuel
    have hlong : (write level v).length ≤ fuel := by omega
    have hshorter : (write level w ++ writeFields level fields).length < fuel := by
      rw [List.length_append]
      omega
    have hrest := ih (fun u (hu : u ∈ (n, w) :: fields) => hstarts u (List.mem_cons_of_mem _ hu))
      (fun u hu => hreads u (List.mem_cons_of_mem _ hu)) hshorter
    have hcomma : skipSpace (writeFields level ((n, w) :: fields) ++
        (newline close ++ '\x7d' :: rest)) = ',' :: (newline level ++ (writeString n ++
          (':' :: ' ' :: (write level w ++
            (writeFields level fields ++ (newline close ++ '\x7d' :: rest)))))) := by
      rw [writeFields]
      simp only [List.cons_append, List.append_assoc]
      rfl
    apply members_more (hstarts (name, v) List.mem_cons_self)
      (hreads (name, v) List.mem_cons_self) (follows_fields level close _ _) hlong hcomma
    rw [skipSpace_newline_writeString]
    exact hrest

/-! ## Whole values -/

/-- A value that begins with no quote, brace or bracket is a word or number. -/
theorem value_eq_atom {c : Char} (hquote : c ≠ '"') (hbrace : c ≠ '\x7b') (hbracket : c ≠ '[')
    (fuel room : Nat) (rest : List Char) : value (fuel + 1) room (c :: rest) = atom (c :: rest) := by
  cases room with
  | zero => rw [value, if_neg hquote, if_neg hbrace, if_neg hbracket]
  | succ room => rw [value, if_neg hquote, if_neg hbrace, if_neg hbracket]

/-- A written value is not empty, so that there is fuel for it. -/
theorem exists_fuel {s : List Char} (h : s.length ≤ fuel) (hs : s ≠ []) : ∃ f, fuel = f + 1 := by
  have := List.length_pos_iff.mpr hs
  exact Nat.exists_eq_add_one_of_ne_zero (by omega)

theorem readsBack_atom {v : Value} {c : Char} {t : List Char} (hwrite : write level v = c :: t)
    (hquote : c ≠ '"') (hbrace : c ≠ '\x7b') (hbracket : c ≠ '[')
    (hatom : ∀ rest, Follows rest → atom (c :: t ++ rest) = .ok (v, rest)) :
    ReadsBack level room v := by
  intro fuel rest hfuel hrest
  rw [hwrite] at hfuel ⊢
  obtain ⟨f, rfl⟩ := exists_fuel hfuel (List.cons_ne_nil c t)
  rw [List.cons_append, value_eq_atom hquote hbrace hbracket]
  exact hatom rest hrest

theorem readsBack_int {n : Int} (h : n.natAbs < 10 ^ maxDigits) :
    ReadsBack level room (.int n) := by
  obtain ⟨c, t, hct, hc⟩ := toString_head n
  have hne : ∀ d : Char, d.isDigit = false → d ≠ '-' → c ≠ d := by
    rintro d hd hminus rfl
    rcases hc with hc | ⟨hc, -⟩
    · rw [hd] at hc
      cases hc
    · exact hminus hc
  have hwrite : write level (.int n) = c :: t := by rw [write, hct]
  apply readsBack_atom hwrite (hne _ rfl (by decide)) (hne _ rfl (by decide)) (hne _ rfl (by decide))
  intro rest hrest
  rw [← hct]
  exact atom_toString h hrest

theorem readsBack_str (level room : Nat) (s : String) : ReadsBack level room (.str s) := by
  intro fuel rest hfuel _
  rw [write_str, writeString] at hfuel ⊢
  obtain ⟨f, rfl⟩ := exists_fuel hfuel (by simp)
  rw [List.cons_append, List.cons_append, List.append_assoc, List.singleton_append]
  cases room with
  | zero => rw [value, if_pos rfl, string_writeString]
  | succ room => rw [value, if_pos rfl, string_writeString]

theorem readsBack_arr {vs : List Value} (hstarts : ∀ v ∈ vs, Starts (write (level + 1) v))
    (hreads : ∀ v ∈ vs, ReadsBack (level + 1) room v) : ReadsBack level (room + 1) (.arr vs) := by
  intro fuel rest hfuel _
  cases vs with
  | nil =>
    rw [write] at hfuel ⊢
    obtain ⟨f, rfl⟩ := exists_fuel hfuel (by simp)
    rw [List.cons_append, value]
    rfl
  | cons v vs =>
    rw [write] at hfuel ⊢
    obtain ⟨f, rfl⟩ := exists_fuel hfuel (by simp)
    have hlength : (write (level + 1) v ++ writeItems (level + 1) vs).length < f := by
      simp only [List.length_append, List.length_cons, length_newline] at hfuel ⊢
      omega
    have hitems : items f room (write (level + 1) v ++
        (writeItems (level + 1) vs ++ (newline level ++ ']' :: rest))) = .ok (v :: vs, rest) :=
      items_write hstarts hreads hlength
    have hskip := skipSpace_newline_of_starts (hstarts v List.mem_cons_self) (level + 1)
    obtain ⟨c, t, hct, -, hc, -⟩ := hstarts v List.mem_cons_self
    simp only [List.cons_append, List.append_assoc, List.nil_append]
    rw [value, if_neg (by decide), if_neg (by decide), if_pos rfl, hskip]
    rw [hct, List.cons_append] at hitems ⊢
    -- the list is not empty, since its first item does not begin with the bracket that ends it
    split
    · rename_i hclosed
      exact absurd (List.cons.inj hclosed).1 hc
    · rw [hitems]

theorem readsBack_obj {fields : Fields} (hnames : (fields.map Prod.fst).Nodup)
    (hstarts : ∀ f ∈ fields, Starts (write (level + 1) f.2))
    (hreads : ∀ f ∈ fields, ReadsBack (level + 1) room f.2) :
    ReadsBack level (room + 1) (.obj fields) := by
  intro fuel rest hfuel _
  cases fields with
  | nil =>
    rw [write] at hfuel ⊢
    obtain ⟨f, rfl⟩ := exists_fuel hfuel (by simp)
    rw [List.cons_append, value]
    rfl
  | cons field fields =>
    obtain ⟨name, v⟩ := field
    rw [write] at hfuel ⊢
    obtain ⟨f, rfl⟩ := exists_fuel hfuel (by simp)
    have hlength : (write (level + 1) v ++ writeFields (level + 1) fields).length < f := by
      simp only [List.length_append, List.length_cons, length_newline] at hfuel ⊢
      omega
    have hmembers : members f room (writeString name ++ (':' :: ' ' :: (write (level + 1) v ++
        (writeFields (level + 1) fields ++ (newline level ++ '\x7d' :: rest))))) =
          .ok ((name, v) :: fields, rest) :=
      members_write hstarts hreads hlength
    simp only [List.cons_append, List.append_assoc, List.nil_append]
    rw [value, if_neg (by decide), if_pos rfl, skipSpace_newline_writeString]
    rw [writeString, List.cons_append, List.cons_append] at hmembers ⊢
    -- the object is not empty, since its first name begins with a quote
    split
    · rename_i hclosed
      exact absurd (List.cons.inj hclosed).1 (by decide)
    · rw [hmembers]
      simp only [ofPairs_of_nodup hnames]

/-- A value is read back from its written form. -/
theorem readsBack_of_readable {v : Value} (h : Readable room v) (level : Nat) :
    ReadsBack level room v := by
  induction h generalizing level with
  | null =>
    exact readsBack_atom (c := 'n') (by rw [write]; rfl) (by decide) (by decide) (by decide)
      fun rest _ => rfl
  | bool b =>
    cases b with
    | true =>
      exact readsBack_atom (c := 't') (by rw [write]; rfl) (by decide) (by decide) (by decide)
        fun rest _ => rfl
    | false =>
      exact readsBack_atom (c := 'f') (by rw [write]; rfl) (by decide) (by decide) (by decide)
        fun rest _ => rfl
  | int h => exact readsBack_int h
  | str s => exact readsBack_str level _ s
  | arr h ih =>
    exact readsBack_arr (fun v hv => starts_write (h v hv) (level + 1))
      fun v hv => ih v hv (level + 1)
  | obj hnames h ih =>
    exact readsBack_obj hnames (fun f hf => starts_write (h f hf) (level + 1))
      fun f hf => ih f hf (level + 1)

/-! ## Whole texts -/

/-- A written value is a text, with a line feed behind it. -/
theorem readWithin_write {v : Value} (h : Readable room v) :
    readWithin room (v.write ++ ['\n']) = .ok v := by
  have hstarts := starts_write h 0
  have hskip : skipSpace (v.write ++ ['\n']) = v.write ++ ['\n'] :=
    skipSpace_of_starts hstarts ['\n']
  -- a text has more fuel than characters
  have hvalue : value (2 * (v.write ++ ['\n']).length + 2) room (v.write ++ ['\n']) =
      .ok (v, ['\n']) := by
    apply readsBack_of_readable h 0
    · rw [List.length_append]
      unfold Value.write
      omega
    · exact follows_feed []
  -- a written value does not begin with a mark of the byte order, which is refused
  have hmark : ∀ t, v.write ++ ['\n'] ≠ '\ufeff' :: t := by
    intro t ht
    obtain ⟨c, u, hcu, -, -, hc⟩ := hstarts
    unfold Value.write at ht
    rw [hcu, List.cons_append] at ht
    exact hc (List.cons.inj ht).1
  unfold readWithin document
  split
  · rename_i t ht
    exact absurd ht (hmark t)
  · rw [hskip, hvalue]
    rfl

/-! ## Carriage returns -/

theorem return_not_mem_newline (level : Nat) : '\r' ∉ newline level := by
  simp [newline, List.mem_replicate]

theorem return_not_mem_unitEscape (n : Nat) : '\r' ∉ unitEscape n := by
  have hdigit : ∀ m < 16, hexDigit m ≠ '\r' := by decide
  have hne : ∀ m, '\r' ≠ hexDigit (m % 16) := fun m =>
    Ne.symm (hdigit _ (Nat.mod_lt m (by decide)))
  rw [unitEscape, hexDigits_four]
  simp [hne]

theorem return_not_mem_writeChar (c : Char) : '\r' ∉ writeChar c := by
  unfold writeChar
  repeat' split
  -- short escapes are texts of two characters
  all_goals try decide
  · rename_i hprintable
    rw [List.mem_singleton]
    rintro rfl
    exact absurd hprintable (by decide)
  · exact return_not_mem_unitEscape _
  · rw [List.mem_append, not_or]
    exact ⟨return_not_mem_unitEscape _, return_not_mem_unitEscape _⟩

theorem return_not_mem_writeString (s : String) : '\r' ∉ writeString s := by
  have hbody : '\r' ∉ s.toList.flatMap writeChar := by
    rw [List.mem_flatMap]
    rintro ⟨c, -, hc⟩
    exact return_not_mem_writeChar c hc
  simp [writeString, hbody]

theorem return_not_mem_items {vs : List Value} (h : ∀ v ∈ vs, '\r' ∉ write level v) :
    '\r' ∉ writeItems level vs := by
  induction vs with
  | nil => simp [writeItems]
  | cons v vs ih =>
    have hv := h v List.mem_cons_self
    have hvs := ih fun w hw => h w (List.mem_cons_of_mem v hw)
    simp [writeItems, return_not_mem_newline, hv, hvs]

theorem return_not_mem_fields {fields : Fields} (h : ∀ f ∈ fields, '\r' ∉ write level f.2) :
    '\r' ∉ writeFields level fields := by
  induction fields with
  | nil => simp [writeFields]
  | cons f fields ih =>
    obtain ⟨name, v⟩ := f
    have hv := h (name, v) List.mem_cons_self
    have hfields := ih fun g hg => h g (List.mem_cons_of_mem _ hg)
    simp [writeFields, return_not_mem_newline, return_not_mem_writeString, hv, hfields]

/-- A written value has no carriage return, whatever its strings hold. -/
theorem return_not_mem_write {v : Value} (h : Readable room v) (level : Nat) :
    '\r' ∉ write level v := by
  induction h generalizing level with
  | null => simp [write]
  | bool b => cases b <;> simp [write]
  | @int _ n _ =>
    rw [write, toList_toString]
    have hdigits : '\r' ∉ Nat.toDigits 10 n.natAbs := by
      intro hmem
      exact absurd (isDigit_of_mem hmem) (by decide)
    split
    · simp [hdigits]
    · exact hdigits
  | str s =>
    rw [write_str]
    exact return_not_mem_writeString s
  | @arr _ items h ih =>
    cases items with
    | nil => simp [write]
    | cons v vs =>
      have hv := ih v List.mem_cons_self (level + 1)
      have hvs := return_not_mem_items fun w hw => ih w (List.mem_cons_of_mem v hw) (level + 1)
      simp [write, return_not_mem_newline, hv, hvs]
  | @obj _ fields _ h ih =>
    cases fields with
    | nil => simp [write]
    | cons f fields =>
      obtain ⟨name, v⟩ := f
      have hv := ih (name, v) List.mem_cons_self (level + 1)
      have hfields := return_not_mem_fields fun g hg => ih g (List.mem_cons_of_mem _ hg) (level + 1)
      simp [write, return_not_mem_newline, return_not_mem_writeString, hv, hfields]

end WorkspaceDesk.Json

import Portcullis.Document.Json
import Portcullis.Proofs.Document.Plain

/-!
# JSON that is read back

A plain document is what the reader makes of its JSON text. What follows a value matters for a number only, which would
take in further digits.
-/

namespace Portcullis.Document.Json

/-! ## Strings -/

theorem unit?_control {n : Nat} (h : n < 32) (rest : List Char) :
    unit? ('0' :: '0' :: Ascii.lowerHexDigit (n / 16) :: Ascii.lowerHexDigit (n % 16) :: rest) = some (n, rest) := by
  have hdigits : ∀ n < 32,
      Ascii.ofDigits? 16 ['0', '0', Ascii.lowerHexDigit (n / 16), Ascii.lowerHexDigit (n % 16)] = some n := by
    decide
  rw [unit?, hdigits n h]
  rfl

theorem string?_escape (fuel : Nat) (acc : List Char) (c : Char) (rest : List Char) :
    string? (fuel + 1) acc (escape c ++ rest) = string? fuel (c :: acc) rest := by
  fun_cases escape c
  case case8 hcontrol =>
    have hchar : escaped? ('0' :: '0' :: Ascii.lowerHexDigit (c.toNat / 16) ::
        Ascii.lowerHexDigit (c.toNat % 16) :: rest) = some (c, rest) := by
      have hlow : c.toNat < 0xD800 := by omega
      simp [escaped?, unit?_control hcontrol, hlow]
    simp [string?, hchar]
  case case9 hquote hslash _ _ _ _ _ hplain =>
    rw [List.singleton_append, string?, if_neg hplain]
    · exact hquote
    · exact fun _ h => (hslash h).elim
    · exact fun _ _ h => (hslash h).elim
  all_goals rfl

theorem escape_ne_nil (c : Char) : escape c ≠ [] := by
  fun_cases escape c <;> exact List.cons_ne_nil _ _

theorem length_le_flatMap_escape (cs : List Char) : cs.length ≤ (cs.flatMap escape).length := by
  induction cs with
  | nil => exact Nat.le_refl 0
  | cons c cs ih =>
    have hpos := List.length_pos_iff.mpr (escape_ne_nil c)
    simp only [List.flatMap_cons, List.length_append, List.length_cons]
    omega

theorem string?_flatMap_escape {fuel : Nat} {cs : List Char} (h : cs.length < fuel) (acc rest : List Char) :
    string? fuel acc (cs.flatMap escape ++ '"' :: rest) = some (acc.reverse ++ cs, rest) := by
  induction cs generalizing fuel acc with
  | nil =>
    obtain ⟨fuel, rfl⟩ := Nat.exists_eq_add_of_lt h
    simp [string?]
  | cons c cs ih =>
    obtain ⟨fuel, rfl⟩ := Nat.exists_eq_add_of_lt h
    rw [List.flatMap_cons, List.append_assoc, string?_escape, ih (by simp; omega)]
    simp

theorem toList_quote (s : String) : (quote s).toList = '"' :: (s.toList.flatMap escape ++ ['"']) := by
  simp [quote]

theorem string?_quote (s : String) (rest : List Char) :
    string? ((s.toList.flatMap escape ++ '"' :: rest).length + 1) [] (s.toList.flatMap escape ++ '"' :: rest) =
      some (s.toList, rest) := by
  have hlength := length_le_flatMap_escape s.toList
  rw [string?_flatMap_escape (by simp only [List.length_append, List.length_cons]; omega)]
  rfl

/-! ## Numbers -/

/-- What follows a value: nothing, or a mark of the list or record around it. -/
def Ends (rest : List Char) : Prop :=
  ∀ c, rest.head? = some c → c = ',' ∨ c = ']' ∨ c = '\x7d'

theorem hexValue?_digitChar : ∀ n < 10, Ascii.hexValue? (Nat.digitChar n) = some n := by
  decide

theorem ofDigits?_toDigits (n : Nat) : Ascii.ofDigits? 10 (Nat.toDigits 10 n) = some n := by
  induction n using Nat.strongRecOn with
  | _ n ih =>
    by_cases h : n < 10
    · simp [Nat.toDigits_of_lt_base h, Ascii.ofDigits?, hexValue?_digitChar n h, h]
    · have hlow : n % 10 < 10 := Nat.mod_lt n (by decide)
      have hhigh := ih (n / 10) (by omega)
      rw [Ascii.ofDigits?] at hhigh
      rw [Nat.toDigits_of_base_le (by decide) (by omega), Ascii.ofDigits?, List.foldlM_append, hhigh]
      simp [hexValue?_digitChar _ hlow, hlow, Nat.div_add_mod]

theorem head?_toDigits {n : Nat} (h : n ≠ 0) : (Nat.toDigits 10 n).head? ≠ some '0' := by
  induction n using Nat.strongRecOn with
  | _ n ih =>
    by_cases hlt : n < 10
    · have hdigit : ∀ n < 10, n ≠ 0 → Nat.digitChar n ≠ '0' := by decide
      simpa [Nat.toDigits_of_lt_base hlt] using hdigit n hlt h
    · rw [Nat.toDigits_of_base_le (by decide) (by omega), List.head?_append_of_ne_nil _ Nat.toDigits_ne_nil]
      exact ih (n / 10) (by omega) (by omega)

theorem takeWhile_toDigits {rest : List Char} (hrest : Ends rest) (n : Nat) :
    (Nat.toDigits 10 n ++ rest).takeWhile Char.isDigit = Nat.toDigits 10 n ∧
      (Nat.toDigits 10 n ++ rest).dropWhile Char.isDigit = rest := by
  have hdigits : ∀ c ∈ Nat.toDigits 10 n, Char.isDigit c = true := fun c hc =>
    Nat.isDigit_of_mem_toDigits (by decide) (by decide) hc
  rw [List.takeWhile_append_of_pos hdigits, List.dropWhile_append_of_pos hdigits]
  cases rest with
  | nil => simp
  | cons c rest =>
    have hc : Char.isDigit c = false := by rcases hrest c rfl with rfl | rfl | rfl <;> decide
    simp [hc]

/-- No zero stands in front of further digits. -/
theorem head?_toDigits_of_length {n : Nat} (h : (Nat.toDigits 10 n).length ≠ 1) :
    (Nat.toDigits 10 n).head? ≠ some '0' := by
  refine head?_toDigits fun hzero => h ?_
  rw [hzero]
  rfl

theorem toDigits_append_ne (n : Nat) (rest more : List Char) : Nat.toDigits 10 n ++ rest ≠ '-' :: more := by
  intro h
  cases hdigits : Nat.toDigits 10 n with
  | nil => exact Nat.toDigits_ne_nil hdigits
  | cons c cs =>
    rw [hdigits] at h
    cases h
    have hdigit := Nat.isDigit_of_mem_toDigits (by decide) (by decide) (hdigits ▸ List.mem_cons_self)
    exact absurd hdigit (by decide)

theorem number?_toDigits {rest : List Char} (hrest : Ends rest) {neg : Bool} {n : Nat} (hzero : neg = true → n ≠ 0)
    (hfits : fits (if neg then -(n : Int) else n) = true) :
    number? ((if neg then ['-'] else []) ++ (Nat.toDigits 10 n ++ rest)) =
      some (.int (if neg then -(n : Int) else n), rest) := by
  obtain ⟨htake, hdrop⟩ := takeWhile_toDigits hrest n
  have hhead := head?_toDigits_of_length (n := n)
  have hmarks : ∀ c more, rest = c :: more → c ≠ '.' ∧ c ≠ 'e' ∧ c ≠ 'E' := by
    rintro c more rfl
    rcases hrest c rfl with rfl | rfl | rfl <;> decide
  unfold number?
  split
  rename_i neg' digits hneg
  -- the sign is taken off before any digit is looked at
  have hsign : neg' = neg ∧ digits = Nat.toDigits 10 n ++ rest := by
    cases neg with
    | true =>
      cases hneg
      exact ⟨rfl, rfl⟩
    | false =>
      split at hneg
      · exact absurd ‹_› (toDigits_append_ne n rest _)
      · cases hneg
        exact ⟨rfl, rfl⟩
  obtain ⟨rfl, rfl⟩ := hsign
  simp only [htake, hdrop, ofDigits?_toDigits, Option.getD_some]
  cases rest with
  | nil => simpa [hfits, Nat.toDigits_ne_nil] using And.intro hhead hzero
  | cons c rest =>
    obtain ⟨hpoint, hlower, hupper⟩ := hmarks c rest rfl
    simpa [hfits, hpoint, hlower, hupper, Nat.toDigits_ne_nil] using And.intro hhead hzero

theorem exists_toDigits (i : Int) : ∃ (neg : Bool) (n : Nat), (neg = true → n ≠ 0) ∧ i = (if neg then -(n : Int) else n) ∧
    (toString i).toList = (if neg then ['-'] else []) ++ Nat.toDigits 10 n := by
  cases i with
  | ofNat n =>
    refine ⟨false, n, nofun, rfl, ?_⟩
    show (toString n).toList = _
    rw [Nat.toString_eq_ofList_toDigits, String.toList_ofList]
    rfl
  | negSucc n =>
    refine ⟨true, n + 1, fun _ => Nat.succ_ne_zero n, rfl, ?_⟩
    show ("-" ++ toString (n + 1)).toList = _
    simp

theorem number?_toString {i : Int} (hfits : fits i = true) {rest : List Char} (hrest : Ends rest) :
    number? ((toString i).toList ++ rest) = some (.int i, rest) := by
  obtain ⟨neg, n, hzero, rfl, hwritten⟩ := exists_toDigits i
  rw [hwritten, List.append_assoc, number?_toDigits hrest hzero hfits]

/-! ## Values -/

/-- A document that is read back from its text, whatever follows it. -/
def ReadsBack (depth : Nat) (d : Datum) : Prop :=
  ∀ fuel rest, (render d).toList.length ≤ fuel → Ends rest →
    value? fuel depth ((render d).toList ++ rest) = some (d, rest)

theorem word?_append (w : String) (d : Datum) (rest : List Char) : word? w d (w.toList ++ rest) = some (d, rest) := by
  have hdrop : (w.toList ++ rest).drop w.length = rest := by rw [← String.length_toList, List.drop_left]
  simp [word?, hdrop]

theorem value?_null (fuel depth : Nat) (rest : List Char) :
    value? (fuel + 1) depth ("null".toList ++ rest) = some (.null, rest) :=
  word?_append "null" .null rest

theorem value?_bool (fuel depth : Nat) (b : Bool) (rest : List Char) :
    value? (fuel + 1) depth ((render (.bool b)).toList ++ rest) = some (.bool b, rest) := by
  cases b with
  | true => exact word?_append "true" (.bool true) rest
  | false => exact word?_append "false" (.bool false) rest

theorem value?_quote (fuel depth : Nat) (s : String) (rest : List Char) :
    value? (fuel + 1) depth ((quote s).toList ++ rest) = some (.text s, rest) := by
  rw [toList_quote, List.cons_append, List.append_assoc, List.singleton_append, value?, string?_quote]
  simp

theorem exists_toList_toString (i : Int) :
    ∃ c more, (toString i).toList = c :: more ∧ (Char.isDigit c = true ∨ c = '-') := by
  obtain ⟨neg, n, -, -, hwritten⟩ := exists_toDigits i
  cases neg with
  | true => exact ⟨'-', _, hwritten, .inr rfl⟩
  | false =>
    cases hdigits : Nat.toDigits 10 n with
    | nil => exact absurd hdigits Nat.toDigits_ne_nil
    | cons c more =>
      have hdigit := Nat.isDigit_of_mem_toDigits (by decide) (by decide) (hdigits ▸ List.mem_cons_self)
      exact ⟨c, more, by rw [hwritten, hdigits]; rfl, .inl hdigit⟩

theorem value?_int (fuel depth : Nat) {i : Int} (hfits : fits i = true) {rest : List Char} (hrest : Ends rest) :
    value? (fuel + 1) depth ((toString i).toList ++ rest) = some (.int i, rest) := by
  have hnumber := number?_toString hfits hrest
  obtain ⟨c, more, hc, hhead⟩ := exists_toList_toString i
  rw [hc, List.cons_append] at hnumber ⊢
  rw [value?, hnumber]
  all_goals
    rintro _ h
    cases h
    exact absurd hhead (by decide)

/-! ## Lists and records -/

theorem skip_cons {c : Char} (h : isSpace c = false) (rest : List Char) : skip (c :: rest) = c :: rest := by
  simp [skip, h]

theorem toList_render_ofList (items : List Datum) :
    (render (.ofList items)).toList = '[' :: ((renderItems items).toList ++ [']']) := by
  simp [Datum.ofList, render]

/-- The entry of a record under a text key. -/
def textField (e : String × Datum) : Key × Datum :=
  (.text e.1, e.2)

theorem ofFields_eq (entries : List (String × Datum)) : Datum.ofFields entries = .record none (entries.map textField) :=
  rfl

theorem toList_render_ofFields (entries : List (String × Datum)) :
    (render (.ofFields entries)).toList = '\x7b' :: ((renderFields (entries.map textField)).toList ++ ['\x7d']) := by
  simp [ofFields_eq, render]

/-- The text of a document begins neither with a blank nor with the end of a list. -/
theorem exists_toList_render {depth : Nat} {d : Datum} (h : d.Plain depth) :
    ∃ c more, (render d).toList = c :: more ∧ isSpace c = false ∧ c ≠ ']' := by
  cases h with
  | null => exact ⟨'n', _, rfl, by decide, by decide⟩
  | bool b =>
    cases b with
    | true => exact ⟨'t', _, rfl, by decide, by decide⟩
    | false => exact ⟨'f', _, rfl, by decide, by decide⟩
  | @int _ i =>
    obtain ⟨c, more, hc, hhead⟩ := exists_toList_toString i
    refine ⟨c, more, hc, ?_, ?_⟩
    · refine Bool.eq_false_iff.mpr fun hspace => ?_
      simp only [isSpace, Bool.or_eq_true, beq_iff_eq] at hspace
      rcases hspace with ((rfl | rfl) | rfl) | rfl <;> exact absurd hhead (by decide)
    · rintro rfl
      exact absurd hhead (by decide)
  | text s => exact ⟨'"', _, toList_quote s, by decide, by decide⟩
  | @list _ items => exact ⟨'[', _, toList_render_ofList items, by decide, by decide⟩
  | @fields _ entries => exact ⟨'\x7b', _, toList_render_ofFields entries, by decide, by decide⟩

theorem skip_render {depth : Nat} {d : Datum} (h : d.Plain depth) (rest : List Char) :
    skip ((render d).toList ++ rest) = (render d).toList ++ rest := by
  obtain ⟨c, more, hc, hspace, -⟩ := exists_toList_render h
  rw [hc, List.cons_append, skip_cons hspace]

theorem items?_renderItems {depth : Nat} {items : List Datum} (hne : items ≠ []) (hplain : ∀ d ∈ items, d.Plain depth)
    (h : ∀ d ∈ items, ReadsBack depth d) {fuel : Nat} (hfuel : (renderItems items).toList.length < fuel)
    (acc : List Datum) (rest : List Char) :
    items? fuel depth acc ((renderItems items).toList ++ ']' :: rest) = some (acc.reverse ++ items, rest) := by
  induction items generalizing fuel acc with
  | nil => exact absurd rfl hne
  | cons d more ih =>
    obtain ⟨fuel, rfl⟩ := Nat.exists_eq_add_one_of_ne_zero (Nat.ne_zero_of_lt hfuel)
    rw [List.forall_mem_cons] at hplain h
    cases more with
    | nil =>
      rw [renderItems] at hfuel ⊢
      rw [items?, skip_render hplain.1, h.1 _ _ (by omega) (by simp [Ends])]
      simp [skip_cons (show isSpace ']' = false by decide)]
    | cons e more =>
      have hrender : (renderItems (d :: e :: more)).toList =
          (render d).toList ++ ',' :: (renderItems (e :: more)).toList := by
        simp [renderItems]
      rw [hrender, List.length_append, List.length_cons] at hfuel
      rw [hrender, List.append_assoc, items?, skip_render hplain.1, h.1 _ _ (by omega) (by simp [Ends]), List.cons_append]
      simp only [skip_cons (show isSpace ',' = false by decide)]
      rw [ih (List.cons_ne_nil e more) hplain.2 h.2 (by omega)]
      simp

theorem lastOfEach_of_nodup {entries : List (Key × Datum)} (h : (entries.map (·.1)).Nodup) :
    lastOfEach entries = entries.reverse := by
  have hfold : ∀ kept : List (Key × Datum), (∀ e ∈ entries, ∀ k ∈ kept, k.1 ≠ e.1) →
      entries.foldl (fun kept e => if kept.any (·.1 == e.1) then kept else e :: kept) kept = entries.reverse ++ kept := by
    induction entries with
    | nil => exact fun _ _ => rfl
    | cons e rest ih =>
      intro kept hkept
      rw [List.map_cons, List.nodup_cons] at h
      rw [List.forall_mem_cons] at hkept
      have hnew : kept.any (·.1 == e.1) = false := by simpa using hkept.1
      rw [List.foldl_cons, hnew, if_neg Bool.false_ne_true, ih h.2]
      · simp
      · intro f hf k hk
        rcases List.mem_cons.mp hk with rfl | hk
        · exact fun heq => h.1 (heq ▸ List.mem_map_of_mem hf)
        · exact hkept.2 f hf k hk
  rw [lastOfEach, hfold [] (by simp), List.append_nil]

def entryText (k : String) (d : Datum) : List Char :=
  (quote k).toList ++ ':' :: (render d).toList

theorem length_render_le (k : String) (d : Datum) : (render d).toList.length ≤ (entryText k d).length := by
  simp only [entryText, List.length_append, List.length_cons]
  omega

section Entry

variable {depth fuel : Nat} {k : String} {d : Datum} (hplain : d.Plain depth) (h : ReadsBack depth d)
  (hfuel : (entryText k d).length ≤ fuel) (acc : List (Key × Datum)) (rest : List Char)
include hplain h hfuel

theorem fields?_more : fields? (fuel + 1) depth acc (entryText k d ++ ',' :: rest) =
    fields? fuel depth ((.text k, d) :: acc) rest := by
  have hvalue := h fuel (',' :: rest) (Nat.le_trans (length_render_le k d) hfuel) (by simp [Ends])
  rw [entryText, toList_quote, List.append_assoc, List.cons_append, List.append_assoc, List.singleton_append,
    List.cons_append, fields?, skip_cons (by decide)]
  simp only [string?_quote, skip_cons (show isSpace ':' = false by decide), skip_render hplain, hvalue,
    skip_cons (show isSpace ',' = false by decide), String.ofList_toList]

theorem fields?_last : fields? (fuel + 1) depth acc (entryText k d ++ '\x7d' :: rest) =
    some (lastOfEach ((.text k, d) :: acc), rest) := by
  have hvalue := h fuel ('\x7d' :: rest) (Nat.le_trans (length_render_le k d) hfuel) (by simp [Ends])
  rw [entryText, toList_quote, List.append_assoc, List.cons_append, List.append_assoc, List.singleton_append,
    List.cons_append, fields?, skip_cons (by decide)]
  simp only [string?_quote, skip_cons (show isSpace ':' = false by decide), skip_render hplain, hvalue,
    skip_cons (show isSpace '\x7d' = false by decide), String.ofList_toList]

end Entry

theorem fields?_renderFields {depth : Nat} {entries : List (String × Datum)} (hne : entries ≠ [])
    (hplain : ∀ e ∈ entries, e.2.Plain depth) (h : ∀ e ∈ entries, ReadsBack depth e.2) {fuel : Nat}
    (hfuel : (renderFields (entries.map textField)).toList.length < fuel) (acc : List (Key × Datum))
    (rest : List Char) :
    fields? fuel depth acc ((renderFields (entries.map textField)).toList ++ '\x7d' :: rest) =
      some (lastOfEach ((entries.map textField).reverse ++ acc), rest) := by
  induction entries generalizing fuel acc with
  | nil => exact absurd rfl hne
  | cons e more ih =>
    obtain ⟨k, d⟩ := e
    obtain ⟨fuel, rfl⟩ := Nat.exists_eq_add_one_of_ne_zero (Nat.ne_zero_of_lt hfuel)
    rw [List.forall_mem_cons] at hplain h
    cases more with
    | nil =>
      have hrender : (renderFields ([(k, d)].map textField)).toList = entryText k d := by
        simp [renderFields, textField, Key.name?, entryText]
      rw [hrender] at hfuel ⊢
      rw [fields?_last hplain.1 h.1 (Nat.le_of_lt_succ hfuel)]
      rfl
    | cons e more =>
      have hrender : (renderFields (((k, d) :: e :: more).map textField)).toList =
          entryText k d ++ ',' :: (renderFields ((e :: more).map textField)).toList := by
        simp [renderFields, textField, Key.name?, entryText]
      rw [hrender, List.length_append, List.length_cons] at hfuel
      have hentry : (entryText k d).length ≤ fuel := by omega
      rw [hrender, List.append_assoc, List.cons_append, fields?_more hplain.1 h.1 hentry,
        ih (List.cons_ne_nil e more) hplain.2 h.2 (by omega)]
      simp [textField]

theorem exists_fuel {depth fuel : Nat} {d : Datum} (hplain : d.Plain depth) (hfuel : (render d).toList.length ≤ fuel) :
    ∃ below, fuel = below + 1 := by
  obtain ⟨c, more, hc, -⟩ := exists_toList_render hplain
  rw [hc, List.length_cons] at hfuel
  exact Nat.exists_eq_add_one_of_ne_zero (Nat.ne_zero_of_lt hfuel)

theorem exists_toList_renderItems {depth : Nat} {items : List Datum} (hne : items ≠ [])
    (hplain : ∀ d ∈ items, d.Plain depth) (rest : List Char) :
    ∃ c more, (renderItems items).toList ++ rest = c :: more ∧ isSpace c = false ∧ c ≠ ']' := by
  cases items with
  | nil => exact absurd rfl hne
  | cons d tail =>
    obtain ⟨c, more, hc, hspace, hclose⟩ := exists_toList_render (hplain d List.mem_cons_self)
    obtain ⟨after, hafter⟩ : ∃ after, (renderItems (d :: tail)).toList = (render d).toList ++ after := by
      cases tail <;> simp [renderItems]
    exact ⟨c, more ++ after ++ rest, by rw [hafter, hc]; rfl, hspace, hclose⟩

theorem readsBack_ofList {depth : Nat} {items : List Datum} (hplain : ∀ d ∈ items, d.Plain depth)
    (h : ∀ d ∈ items, ReadsBack depth d) : ReadsBack (depth + 1) (.ofList items) := by
  intro fuel rest hfuel _
  obtain ⟨fuel, rfl⟩ := exists_fuel (.list hplain) hfuel
  rw [toList_render_ofList, List.length_cons, List.length_append, List.length_singleton] at hfuel
  rw [toList_render_ofList, List.cons_append, List.append_assoc, List.singleton_append, value?,
    if_neg (Nat.succ_ne_zero depth)]
  by_cases hne : items = []
  · subst hne
    simp [renderItems, skip_cons (show isSpace ']' = false by decide)]
  · have hitems := items?_renderItems hne hplain h (show _ < fuel by omega) [] rest
    obtain ⟨c, more, hc, hspace, hclose⟩ := exists_toList_renderItems hne hplain (']' :: rest)
    rw [hc] at hitems ⊢
    rw [skip_cons hspace]
    split
    · rename_i heq
      cases heq
      exact absurd rfl hclose
    · simp [hitems]

theorem exists_toList_renderFields {entries : List (String × Datum)} (hne : entries ≠ []) :
    ∃ more, (renderFields (entries.map textField)).toList = '"' :: more := by
  cases entries with
  | nil => exact absurd rfl hne
  | cons e tail =>
    cases tail <;> simp [renderFields, textField, Key.name?, toList_quote]

theorem readsBack_ofFields {depth : Nat} {entries : List (String × Datum)} (hplain : ∀ e ∈ entries, e.2.Plain depth)
    (hnodup : (entries.map (·.1)).Nodup) (h : ∀ e ∈ entries, ReadsBack depth e.2) :
    ReadsBack (depth + 1) (.ofFields entries) := by
  intro fuel rest hfuel _
  obtain ⟨fuel, rfl⟩ := exists_fuel (.fields hplain hnodup) hfuel
  rw [toList_render_ofFields, List.length_cons, List.length_append, List.length_singleton] at hfuel
  rw [toList_render_ofFields, List.cons_append, List.append_assoc, List.singleton_append, value?,
    if_neg (Nat.succ_ne_zero depth)]
  by_cases hne : entries = []
  · subst hne
    simp [renderFields, Datum.ofFields, skip_cons (show isSpace '\x7d' = false by decide)]
  · have hfields := fields?_renderFields hne hplain h (show _ < fuel by omega) [] rest
    have hkeys : ((entries.map textField).reverse.map (·.1)).Nodup := by
      rw [List.map_reverse, List.nodup_reverse, List.map_map]
      have hinj : Function.Injective Key.text := fun _ _ h => Key.text.inj h
      simpa [Function.comp_def, textField] using hnodup.map hinj
    obtain ⟨more, hc⟩ := exists_toList_renderFields hne
    rw [List.append_nil, lastOfEach_of_nodup hkeys, List.reverse_reverse, hc, List.cons_append] at hfields
    rw [hc, List.cons_append, skip_cons (by decide)]
    simp [hfields, ofFields_eq]

theorem readsBack_of_plain {depth : Nat} {d : Datum} (h : d.Plain depth) : ReadsBack depth d := by
  -- on how the document is built, since a reader of a list takes its items with what stands behind them
  induction h with
  | list hplain ih => exact readsBack_ofList hplain ih
  | fields hplain hnodup ih => exact readsBack_ofFields hplain hnodup ih
  | @null depth =>
    intro fuel rest hfuel _
    obtain ⟨fuel, rfl⟩ := exists_fuel (.null (n := depth)) hfuel
    exact value?_null fuel depth rest
  | @bool depth b =>
    intro fuel rest hfuel _
    obtain ⟨fuel, rfl⟩ := exists_fuel (.bool b (n := depth)) hfuel
    exact value?_bool fuel depth b rest
  | @int depth i hfits =>
    intro fuel rest hfuel hrest
    obtain ⟨fuel, rfl⟩ := exists_fuel (.int hfits (n := depth)) hfuel
    exact value?_int fuel depth hfits hrest
  | @text depth s =>
    intro fuel rest hfuel _
    obtain ⟨fuel, rfl⟩ := exists_fuel (.text s (n := depth)) hfuel
    exact value?_quote fuel depth s rest

/-- The reader takes back what was written of a plain document. -/
theorem parse?_render {d : Datum} (h : d.Plain maxDepth) : parse? (render d) = some d := by
  have hread := readsBack_of_plain h (2 * (render d).toList.length + 2) [] (by omega) (by simp [Ends])
  rw [List.append_nil] at hread
  have hskip := skip_render h []
  rw [List.append_nil] at hskip
  simp only [parse?, hskip, hread]
  rfl

end Portcullis.Document.Json

import Portcullis.Proofs.Results
import Portcullis.Proofs.Text.Blank
import Portcullis.Url.Domain

/-!
# Characters that a name keeps

The ASCII form of a name has the asterisks of the name, no more and no less. A name with a blank or a control in it
has no ASCII form.
-/

namespace Portcullis.Url

/-! ## Labels beyond ASCII -/

namespace Punycode

theorem ofNat_ne {c : Char} (hc : c ≠ '\x00') {n : Nat} (h : n ≠ c.toNat) : Char.ofNat n ≠ c := by
  intro hchar
  by_cases hvalid : n.isValidChar
  · rw [Char.ofNat, dif_pos hvalid] at hchar
    exact h (congrArg Char.toNat hchar)
  · rw [Char.ofNat, dif_neg hvalid] at hchar
    exact hc hchar.symm

theorem digit_ne_asterisk (n : Nat) : digit n ≠ '*' := by
  have hcode : '*'.toNat = 42 := rfl
  rw [digit]
  split <;> exact ofNat_ne (by decide) (by omega)

theorem digit_ne_stop (n : Nat) : digit n ≠ '.' := by
  have hcode : '.'.toNat = 46 := rfl
  rw [digit]
  split <;> exact ofNat_ne (by decide) (by omega)

section
variable {c : Char} (hc : ∀ n, digit n ≠ c)
include hc

theorem count_writeNumber (bias fuel k q : Nat) : (writeNumber bias fuel k q).count c = 0 := by
  induction fuel generalizing k q with
  | zero => simp [writeNumber, hc]
  | succ fuel ih =>
    rw [writeNumber]
    split
    · simp [hc]
    · rw [List.count_cons_of_ne (hc _), ih]

theorem count_writePlaces (n basic : Nat) (p : Progress) (cs : List Char) :
    (writePlaces n basic p cs).out.count c = p.out.count c := by
  unfold writePlaces
  induction cs generalizing p with
  | nil => rfl
  | cons x rest ih =>
    rw [List.foldl_cons, ih]
    split
    · rfl
    · split
      · rw [List.count_append, count_writeNumber hc, Nat.add_zero]
      · rfl

theorem count_writeFrom (basic : Nat) (cs : List Char) (fuel n : Nat) (p : Progress) :
    (writeFrom basic cs fuel n p).count c = p.out.count c := by
  induction fuel generalizing n p with
  | zero => rfl
  | succ fuel ih =>
    rw [writeFrom]
    split
    · rfl
    · rw [ih, count_writePlaces hc]

/-- What is written in place of a character beyond ASCII is digits. -/
theorem count_encode (hascii : c.toNat < 0x80) (hhyphen : c ≠ '-') (cs : List Char) :
    (encode cs).count c = cs.count c := by
  have hplain : (cs.filter (·.toNat < 0x80)).count c = cs.count c := List.count_filter (by simpa using hascii)
  rw [encode, count_writeFrom hc, ← hplain]
  dsimp only
  split
  · rename_i hnil
    rw [List.isEmpty_iff.mp hnil]
  · rw [List.count_append, List.count_cons_of_ne hhyphen.symm]
    rfl

end

theorem mem_insertAll {fuel n i bias : Nat} {out res : List Char} {digits : List Nat}
    (h : insertAll fuel n i bias out digits = some res) {c : Char} (hc : c ∈ out) : c ∈ res := by
  induction fuel generalizing n i bias out digits with
  | zero => cases h
  | succ fuel ih =>
    cases digits with
    | nil =>
      cases h
      exact hc
    | cons d digits =>
      simp only [insertAll] at h
      split at h
      · cases h
      · rename_i delta rest _
        split at h
        · refine ih h ?_
          rw [← List.take_append_drop ((i + delta) % (out.length + 1)) out] at hc
          rcases List.mem_append.mp hc with hc | hc
          · exact List.mem_append_left _ hc
          · exact List.mem_append_right _ (.tail _ hc)
        · cases h

/-- A character that is no digit stands for itself. -/
theorem mem_decode? {cs res : List Char} (h : decode? cs = some res) {c : Char} (hc : c ∈ cs)
    (hdigit : digitValue? c = none) (hhyphen : c ≠ '-') : c ∈ res := by
  unfold decode? at h
  by_cases hmark : '-' ∈ cs
  · obtain ⟨front, behind, rfl, hbehind⟩ := Text.exists_last hmark
    rw [Text.behind_last hbehind] at h
    dsimp only at h
    rw [if_pos (by simp), Text.before_last] at h
    obtain ⟨digits, hdigits, h⟩ := Option.bind_eq_some_iff.mp h
    rcases List.mem_append.mp hc with hc | hc
    · exact mem_insertAll h hc
    · rcases List.mem_cons.mp hc with rfl | hc
      · exact absurd rfl hhyphen
      · rw [mapM_eq_none hc hdigit] at hdigits
        cases hdigits
  · have hne : ∀ x ∈ cs.reverse, (x != '-') = true := fun x hx => by
      rw [bne_iff_ne]
      rintro rfl
      exact hmark (List.mem_reverse.mp hx)
    have hall : (cs.reverse ++ []).takeWhile (· != '-') = cs.reverse ++ List.takeWhile (· != '-') [] :=
      List.takeWhile_append_of_pos hne
    rw [List.append_nil, List.takeWhile_nil, List.append_nil] at hall
    rw [hall, List.reverse_reverse] at h
    dsimp only at h
    rw [mapM_eq_none hc hdigit] at h
    cases h

end Punycode

/-! ## Names -/

namespace Domain

theorem count_asciiLabel? {c : Char} (hc : ∀ n, Punycode.digit n ≠ c) (hascii : c.toNat < 0x80)
    (hmark : c ∉ encodedMark) {cs label : List Char} (h : asciiLabel? cs = some label) : label.count c = cs.count c := by
  unfold asciiLabel? at h
  split at h
  · split at h
    · split at h
      · cases h
        rfl
      · cases h
    · cases h
  · split at h
    · split at h
      · cases h
      · cases h
        rfl
    · split at h
      · have hhyphen : c ≠ '-' := by
          rintro rfl
          exact hmark (by decide)
        cases h
        rw [List.count_append, Punycode.count_encode hc hascii hhyphen, List.count_eq_zero.mpr hmark, Nat.zero_add]
      · cases h

/-- A character that no name has, apart from the full stop and what is written in Punycode. -/
structure Unnameable (c : Char) : Prop where
  ascii : c.toNat < 0x80
  forbidden : isForbidden c = true
  digit : Punycode.digitValue? c = none
  hyphen : c ≠ '-'

theorem not_isLabel_of_mem {cs : List Char} {c : Char} (h : Unnameable c) (hc : c ∈ cs) : isLabel cs = false := by
  have hallowed : isAllowed c = false := by rw [isAllowed, if_pos h.ascii, h.forbidden]; rfl
  have hall : cs.all isAllowed = false := List.all_eq_false.mpr ⟨c, hc, by simp [hallowed]⟩
  rw [isLabel, hall]
  rfl

theorem asciiLabel?_eq_none {cs : List Char} {c : Char} (h : Unnameable c) (hc : c ∈ cs) : asciiLabel? cs = none := by
  unfold asciiLabel?
  split
  · rename_i hmark
    split
    · rename_i decoded hdecoded
      have hdrop : c ∈ cs.drop 4 := by
        obtain ⟨rest, rfl⟩ := List.isPrefixOf_iff_prefix.mp hmark
        rcases List.mem_append.mp hc with hc | hc
        · obtain rfl | rfl | rfl : c = 'x' ∨ c = 'n' ∨ c = '-' := by simpa [encodedMark] using hc
          · exact absurd h.digit (by decide)
          · exact absurd h.digit (by decide)
          · exact absurd rfl h.hyphen
        · exact hc
      have hdecoded := Punycode.mem_decode? hdecoded hdrop h.digit h.hyphen
      rw [not_isLabel_of_mem h hdecoded]
      simp
    · rfl
  · split
    · rw [if_pos (List.any_eq_true.mpr ⟨c, hc, h.forbidden⟩)]
    · rw [not_isLabel_of_mem h hc]
      rfl

theorem mem_intercalate {labels : List (List Char)} {c : Char} (h : c ∈ ['.'].intercalate labels) :
    c = '.' ∨ ∃ label ∈ labels, c ∈ label := by
  induction labels with
  | nil => cases h
  | cons label rest ih =>
    cases rest with
    | nil => exact .inr ⟨label, List.mem_cons_self, by simpa using h⟩
    | cons next rest =>
      rw [List.intercalate_cons_cons, List.append_assoc] at h
      rcases List.mem_append.mp h with h | h
      · exact .inr ⟨label, List.mem_cons_self, h⟩
      · rcases List.mem_append.mp h with h | h
        · exact .inl (List.mem_singleton.mp h)
        · rcases ih h with hstop | ⟨label', hmem, hc⟩
          · exact .inl hstop
          · exact .inr ⟨label', .tail _ hmem, hc⟩

theorem count_intercalate (labels : List (List Char)) :
    (['.'].intercalate labels).count '*' = labels.flatten.count '*' := by
  induction labels with
  | nil => rfl
  | cons label rest ih =>
    cases rest with
    | nil => simp
    | cons next rest =>
      have hstop : ['.'].count '*' = 0 := rfl
      rw [List.intercalate_cons_cons, List.count_append, List.count_append, hstop, Nat.add_zero, ih]
      exact List.count_append.symm

theorem count_flatten {parts labels : List (List Char)}
    (h : List.Forall₂ (fun part label => asciiLabel? part = some label) parts labels) :
    labels.flatten.count '*' = parts.flatten.count '*' := by
  induction h with
  | nil => rfl
  | cons hlabel _ ih => rw [List.flatten_cons, List.flatten_cons, List.count_append, List.count_append,
      count_asciiLabel? Punycode.digit_ne_asterisk (by decide) (by decide) hlabel, ih]

/-- The ASCII form of a name has the asterisks of the name. -/
theorem count_ascii? {cs name : List Char} (h : ascii? cs = some name) :
    name.count '*' = (cs.flatMap fold).count '*' := by
  obtain ⟨labels, hlabels, rfl⟩ := Option.map_eq_some_iff.mp h
  rw [count_intercalate, count_flatten (mapM_eq_some.mp hlabels), ← count_intercalate, List.intercalate_splitOn]

/-- A name with a character that names do not have has no ASCII form. -/
theorem ascii?_eq_none {cs : List Char} {c : Char} (h : Unnameable c) (hfold : fold c = [c]) (hc : c ∈ cs) :
    ascii? cs = none := by
  have hstop : c ≠ '.' := by
    rintro rfl
    exact absurd h.forbidden (by decide)
  have hmem : c ∈ cs.flatMap fold := List.mem_flatMap.mpr ⟨c, hc, by rw [hfold]; exact List.mem_singleton_self c⟩
  have hsplit : ['.'].intercalate ((cs.flatMap fold).splitOn '.') = cs.flatMap fold := List.intercalate_splitOn '.'
  obtain ⟨label, hlabel, hc⟩ := (mem_intercalate (hsplit ▸ hmem)).resolve_left hstop
  rw [ascii?, mapM_eq_none hlabel (asciiLabel?_eq_none h hc)]
  rfl

end Domain

end Portcullis.Url

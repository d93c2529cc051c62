import Portcullis.Http.Escape
import Portcullis.Proofs.Text.Slice

/-!
# One pass over the escapes

The slices that decoding takes between the percent signs of a path are all there, and put together they are what one
pass from left to right reads.
-/

namespace Portcullis.Http
open Text

/-- Reads a path from left to right: where an escaped unreserved character is next it is written plainly, and any other
character is copied. -/
def scanUnreserved : List Char → List Char
  | '%' :: h :: l :: rest =>
    match (Ascii.hexByte? h l).filter isUnreserved with
    | some b => Char.ofNat b.toNat :: scanUnreserved rest
    | none => '%' :: scanUnreserved (h :: l :: rest)
  | c :: rest => c :: scanUnreserved rest
  | [] => []

theorem scanUnreserved_cons {c : Char} (h : c ≠ '%') (rest : List Char) :
    scanUnreserved (c :: rest) = c :: scanUnreserved rest := by
  rw [scanUnreserved]
  intro high low tail hc
  exact absurd hc h

/-! ## Digits -/

/-- What holds of the digits in ASCII holds of all digits. -/
theorem forall_of_isHex {P : Char → Prop} (h : ∀ n < 128, Ascii.isHex (Char.ofNat n) = true → P (Char.ofNat n))
    {c : Char} (hc : Ascii.isHex c = true) : P c := by
  have hlt : c.toNat < 128 := by
    rw [Ascii.isHex, Ascii.hexValue?] at hc
    have hle : ∀ {a : Char}, c ≤ a → a.toNat < 128 → c.toNat < 128 := fun hc ha =>
      Nat.lt_of_le_of_lt (UInt32.le_iff_toNat_le.mp hc) ha
    split at hc
    · exact hle (‹_ ∧ _›).2 (by decide)
    · split at hc
      · exact hle (‹_ ∧ _›).2 (by decide)
      · split at hc
        · exact hle (‹_ ∧ _›).2 (by decide)
        · cases hc
  rw [← Char.ofNat_toNat c] at hc ⊢
  exact h c.toNat hlt hc

theorem utf8Size_of_isHex {c : Char} (hc : Ascii.isHex c = true) : c.utf8Size = 1 :=
  forall_of_isHex (P := fun c => c.utf8Size = 1) (by decide +kernel) hc

theorem ne_of_isHex {c : Char} (hc : Ascii.isHex c = true) : c ≠ '%' ∧ c ≠ '+' :=
  forall_of_isHex (P := fun c => c ≠ '%' ∧ c ≠ '+') (by decide +kernel) hc

theorem exists_of_isHex {c : Char} (hc : Ascii.isHex c = true) : ∃ n < 16, Ascii.hexValue? c = some n := by
  obtain ⟨n, hn⟩ := Option.isSome_iff_exists.mp hc
  have hlt := forall_of_isHex (P := fun c => (Ascii.hexValue? c).getD 0 < 16) (by decide +kernel) hc
  rw [hn] at hlt
  exact ⟨n, hlt, hn⟩

theorem isHex_of_hexByte? {h l : Char} {b : UInt8} (hb : Ascii.hexByte? h l = some b) :
    Ascii.isHex h = true ∧ Ascii.isHex l = true := by
  rw [Ascii.hexByte?] at hb
  split at hb
  · simp [Ascii.isHex, *]
  · cases hb

theorem byteOfHex?_pair {h l : Char} (hh : Ascii.isHex h = true) (hl : Ascii.isHex l = true) :
    Ascii.byteOfHex? [h, l] = Ascii.hexByte? h l := by
  obtain ⟨m, hm, hhigh⟩ := exists_of_isHex hh
  obtain ⟨n, hn, hlow⟩ := exists_of_isHex hl
  have hdigits : Ascii.ofDigits? 16 [h, l] = some (16 * m + n) := by
    simp [Ascii.ofDigits?, hhigh, hlow, hm, hn]
  have hlt : 16 * m + n < 256 := by omega
  have hplus : (some h == some '+') = false := by simp [(ne_of_isHex hh).2]
  rw [Ascii.byteOfHex?, Ascii.hexByte?, hhigh, hlow]
  simp only [List.head?_cons, hplus, Bool.false_eq_true, if_false, List.isEmpty_cons, hdigits, Option.filter_some, hlt,
    decide_true, if_true, Option.map_some]

/-! ## Escapes -/

/-- A text of digits has as many characters as bytes. -/
theorem length_of_isHex {cs : List Char} (h : ∀ c ∈ cs, Ascii.isHex c = true) : cs.length = byteLength cs := by
  induction cs with
  | nil => rfl
  | cons c rest ih =>
    rw [List.forall_mem_cons] at h
    rw [List.length_cons, byteLength_cons, utf8Size_of_isHex h.1, ih h.2, Nat.add_comm]

theorem escapedByte?_eq_some {path front rest : List Char} {n : Nat} {b : UInt8}
    (hcut : CutAt path n front ('%' :: rest)) : escapedByte? path n = some b ↔
      ∃ h l more, rest = h :: l :: more ∧ Ascii.hexByte? h l = some b := by
  have hbehind : CutAt path (n + 1) (front ++ ['%']) rest := hcut.copy
  simp only [escapedByte?, Option.bind_eq_some_iff, Option.filter_eq_some_iff, slice?_eq_some, List.all_eq_true]
  constructor
  · rintro ⟨digits, ⟨⟨front', back, hstart, hend⟩, hhex⟩, hbyte⟩
    obtain ⟨rfl, hrest⟩ := hbehind.unique hstart
    have htwo : digits.length = 2 := by
      have hlength := hend.length
      rw [byteLength_append, hstart.length] at hlength
      rw [length_of_isHex hhex]
      omega
    match digits, htwo with
    | [h, l], _ =>
      rw [byteOfHex?_pair (hhex h (by simp)) (hhex l (by simp))] at hbyte
      exact ⟨h, l, back, hrest, hbyte⟩
  · rintro ⟨h, l, more, rfl, hbyte⟩
    obtain ⟨hh, hl⟩ := isHex_of_hexByte? hbyte
    have hend := hbehind.copy.copy
    rw [utf8Size_of_isHex hh, utf8Size_of_isHex hl] at hend
    refine ⟨[h, l], ⟨⟨front ++ ['%'], more, hbehind, ?_⟩, ?_⟩, ?_⟩
    · simpa using hend
    · simp [hh, hl]
    · rw [byteOfHex?_pair hh hl, hbyte]

/-! ## The loop over the percent signs -/

namespace Decoding

variable {path text rest : List Char} {s : Decoding} {n : Nat}

/-- The loop is before the rest of the path, at the byte offset `n`: what it has decoded so far is in the state, but for
what stands behind the last escape, which is still to be copied. -/
def At (path : List Char) (s : Decoding) (n : Nat) (text rest : List Char) : Prop :=
  ∃ front pending, CutAt path s.copied front (pending ++ rest) ∧ CutAt path n (front ++ pending) rest ∧
    text = s.decoded ++ pending

theorem at_start (path : List Char) : At path {} 0 [] path :=
  ⟨[], [], ⟨rfl, rfl⟩, ⟨rfl, rfl⟩, rfl⟩

/-- A character that is copied is pending. -/
theorem At.pass {c : Char} (h : At path s n text (c :: rest)) : At path s (n + c.utf8Size) (text ++ [c]) rest := by
  obtain ⟨front, pending, hcopied, hn, rfl⟩ := h
  refine ⟨front, pending ++ [c], ?_, ?_, List.append_assoc ..⟩
  · simpa using hcopied
  · simpa using hn.copy

theorem At.finish (h : At path s n text []) : Decoding.finish path s = some text := by
  obtain ⟨front, pending, hcopied, -, rfl⟩ := h
  rw [List.append_nil] at hcopied
  rw [Decoding.finish, dropBytes?_eq_some.mpr ⟨front, hcopied⟩]
  rfl

/-- Where no escape of an unreserved character begins, the loop stays as it is. -/
theorem At.step_kept (hat : At path s n text ('%' :: rest)) (hnone : ∀ h l more, rest = h :: l :: more →
    (Ascii.hexByte? h l).filter isUnreserved = none) : step path s n = some s := by
  obtain ⟨front, pending, -, hn, -⟩ := hat
  have hkept : (escapedByte? path n).filter isUnreserved = none := by
    rw [Option.filter_eq_none_iff]
    intro b hb
    obtain ⟨h, l, more, hrest, hbyte⟩ := (escapedByte?_eq_some hn).mp hb
    exact Option.filter_eq_none_iff.mp (hnone h l more hrest) b hbyte
  rw [step, hkept]
  split <;> rfl

/-- Behind the escape of an unreserved character nothing is pending. -/
theorem At.step_read {h l : Char} {b : UInt8} (hat : At path s n text ('%' :: h :: l :: rest))
    (hbyte : Ascii.hexByte? h l = some b) (hb : isUnreserved b = true) :
    ∃ t, step path s n = some t ∧ At path t (n + 3) (text ++ [Char.ofNat b.toNat]) rest := by
  obtain ⟨front, pending, hcopied, hn, rfl⟩ := hat
  have hle : s.copied ≤ n := by
    rw [← hcopied.length, ← hn.length, byteLength_append]
    exact Nat.le_add_right ..
  have hread : (escapedByte? path n).filter isUnreserved = some b :=
    Option.filter_eq_some_iff.mpr ⟨(escapedByte?_eq_some hn).mpr ⟨h, l, rest, rfl, hbyte⟩, hb⟩
  have hslice : slice? path s.copied n = some pending := slice?_eq_some.mpr ⟨front, _, hcopied, hn⟩
  refine ⟨_, by rw [step, if_neg (Nat.not_lt.mpr hle), hread, hslice]; rfl, ?_⟩
  obtain ⟨hh, hl⟩ := isHex_of_hexByte? hbyte
  have hbehind : CutAt path (n + 1 + h.utf8Size + l.utf8Size) _ rest := hn.copy.copy.copy
  rw [utf8Size_of_isHex hh, utf8Size_of_isHex hl] at hbehind
  exact ⟨_, [], hbehind, by simpa using hbehind, by simp⟩

theorem offsets_percent (n : Nat) (rest : List Char) : offsets '%' n ('%' :: rest) = n :: offsets '%' (n + 1) rest :=
  rfl

theorem offsets_of_ne {c : Char} (hc : c ≠ '%') (n : Nat) (rest : List Char) :
    offsets '%' n (c :: rest) = offsets '%' (n + c.utf8Size) rest := by
  rw [offsets, if_neg (by simpa using hc)]

theorem offsets_escape {h l : Char} {b : UInt8} (hbyte : Ascii.hexByte? h l = some b) (n : Nat) (rest : List Char) :
    offsets '%' n ('%' :: h :: l :: rest) = n :: offsets '%' (n + 3) rest := by
  obtain ⟨hh, hl⟩ := isHex_of_hexByte? hbyte
  rw [offsets_percent, offsets_of_ne (ne_of_isHex hh).1, offsets_of_ne (ne_of_isHex hl).1, utf8Size_of_isHex hh,
    utf8Size_of_isHex hl]

/-- From any place on, the loop adds what one pass over the rest of the path reads. -/
theorem At.run (hat : At path s n text rest) :
    ((offsets '%' n rest).foldlM (step path) s).bind (Decoding.finish path) = some (text ++ scanUnreserved rest) := by
  fun_induction scanUnreserved rest generalizing s n text with
  | case1 h l rest b hb ih =>
    obtain ⟨hbyte, hu⟩ := Option.filter_eq_some_iff.mp hb
    obtain ⟨t, ht, hnext⟩ := hat.step_read hbyte hu
    rw [offsets_escape hbyte, List.foldlM_cons, ht, List.append_cons]
    exact ih hnext
  | case2 h l rest hb ih =>
    have hkept : step path s n = some s := hat.step_kept fun h' l' more heq => by
      cases heq
      exact hb
    rw [offsets_percent, List.foldlM_cons, hkept, List.append_cons]
    exact ih hat.pass
  | case3 c rest hshape ih =>
    rw [List.append_cons]
    by_cases hc : c = '%'
    · subst hc
      -- fewer than two characters are left, too few for an escape
      have hkept : step path s n = some s := hat.step_kept fun h' l' more heq => absurd heq (hshape h' l' more rfl)
      rw [offsets_percent, List.foldlM_cons, hkept]
      exact ih hat.pass
    · rw [offsets_of_ne hc]
      exact ih hat.pass
  | case4 =>
    rw [offsets, List.append_nil]
    exact hat.finish

end Decoding

theorem decodeUnreserved?_eq_scan (path : List Char) : decodeUnreserved? path = some (scanUnreserved path) :=
  (Decoding.at_start path).run

theorem isSome_decodeUnreserved? (path : List Char) : (decodeUnreserved? path).isSome = true := by
  rw [decodeUnreserved?_eq_scan]
  rfl

end Portcullis.Http

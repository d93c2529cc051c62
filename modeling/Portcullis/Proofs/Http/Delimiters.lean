import Portcullis.Proofs.Http.Stable

/-!
# Delimiters in escapes

Of the characters that are not unreserved, decoding drops none but percent signs, and it writes none. So the delimiters
of a path stay in order, and its segments are decoded one by one.
-/

namespace Portcullis.Http

/-- The characters that delimit the parts of an address. -/
def isReserved (c : Char) : Bool :=
  ":/?#[]@!$&'()*+,;=".toList.contains c

theorem not_isReserved_of_isUnreserved {b : UInt8} (hb : isUnreserved b = true) :
    isReserved (Char.ofNat b.toNat) = false := by
  have hall : ∀ n < 256, isUnreserved (UInt8.ofNat n) = true → isReserved (Char.ofNat n) = false := by decide +kernel
  exact hall b.toNat b.toNat_lt (by rwa [UInt8.ofNat_toNat])

/-! ## Characters that are not unreserved -/

/-- Digits are unreserved. -/
theorem exists_unreserved_of_isHex {c : Char} (hc : Ascii.isHex c = true) :
    ∃ b, isUnreserved b = true ∧ Char.ofNat b.toNat = c :=
  ⟨UInt8.ofNat c.toNat, forall_of_isHex (P := fun c => isUnreserved (UInt8.ofNat c.toNat) = true ∧
    Char.ofNat (UInt8.ofNat c.toNat).toNat = c) (by decide +kernel) hc⟩

theorem sublist_filter_cons {P : Char → Bool} (c : Char) {xs ys : List Char}
    (h : (xs.filter P).Sublist (ys.filter P)) : ((c :: xs).filter P).Sublist ((c :: ys).filter P) := by
  rw [List.filter_cons, List.filter_cons]
  split
  · exact h.cons_cons c
  · exact h

section
variable {P : Char → Bool} (hP : ∀ b, isUnreserved b = true → P (Char.ofNat b.toNat) = false)
include hP

/-- None of these characters is written that is not in the text, and they stay in order. -/
theorem sublist_decodeUnreserved (cs : List Char) : ((decodeUnreserved cs).filter P).Sublist (cs.filter P) := by
  induction cs using escape_induction with
  | nil => exact List.Sublist.refl _
  | char hc ih =>
    rw [decodeUnreserved_cons hc]
    exact sublist_filter_cons _ ih
  | @escape h l b rest hbyte ih =>
    cases hb : isUnreserved b with
    | true =>
      rw [decodeUnreserved_read hbyte hb, List.filter_cons_of_neg (by simp [hP b hb])]
      exact ih.trans ((List.sublist_append_right ['%', h, l] rest).filter P)
    | false =>
      rw [decodeUnreserved_kept hbyte hb]
      exact sublist_filter_cons _ (sublist_filter_cons _ (sublist_filter_cons _ ih))
  | stray hnone ih =>
    rw [decodeUnreserved_stray hnone]
    exact sublist_filter_cons _ ih

/-- If the percent sign is none of them, they all stay. -/
theorem filter_decodeUnreserved (hpercent : P '%' = false) (cs : List Char) :
    (decodeUnreserved cs).filter P = cs.filter P := by
  induction cs using escape_induction with
  | nil => rfl
  | char hc ih => rw [decodeUnreserved_cons hc, List.filter_cons, List.filter_cons, ih]
  | @escape h l b rest hbyte ih =>
    have hdigit : ∀ {c : Char}, Ascii.isHex c = true → P c = false := fun hc => by
      obtain ⟨b, hb, rfl⟩ := exists_unreserved_of_isHex hc
      exact hP b hb
    obtain ⟨hh, hl⟩ := isHex_of_hexByte? hbyte
    have hdrop : ('%' :: h :: l :: rest).filter P = rest.filter P := by simp [hpercent, hdigit hh, hdigit hl]
    cases hb : isUnreserved b with
    | true => rw [decodeUnreserved_read hbyte hb, List.filter_cons_of_neg (by simp [hP b hb]), ih, hdrop]
    | false =>
      rw [decodeUnreserved_kept hbyte hb, hdrop, ← ih]
      simp [hpercent, hdigit hh, hdigit hl]
  | stray hnone ih => rw [decodeUnreserved_stray hnone, List.filter_cons, List.filter_cons, ih]

end

/-! ## Segments -/

theorem decodeUnreserved_intercalate (ss : List (List Char)) :
    decodeUnreserved (['/'].intercalate ss) = ['/'].intercalate (ss.map decodeUnreserved) := by
  induction ss with
  | nil => rfl
  | cons s rest ih =>
    cases rest with
    | nil => rw [List.map_singleton, List.intercalate_singleton, List.intercalate_singleton]
    | cons t more =>
      -- the slash between two segments is no digit, so that no escape reaches over it
      rw [List.map_cons, List.map_cons, List.intercalate_cons_cons, List.intercalate_cons_cons, ← List.map_cons, ← ih,
        List.append_assoc, List.append_assoc, List.singleton_append, List.singleton_append,
        decodeUnreserved_append (by decide), decodeUnreserved_cons (by decide)]

theorem slash_notMem_decodeUnreserved {s : List Char} (h : '/' ∉ s) : '/' ∉ decodeUnreserved s := by
  intro hmem
  rcases mem_decodeUnreserved hmem with hmem | ⟨b, hb, hslash⟩
  · exact h hmem
  · have hnot := not_isReserved_of_isUnreserved hb
    rw [← hslash] at hnot
    exact absurd hnot (by decide)

/-- The segments of a path are decoded one by one. -/
theorem splitOn_decodeUnreserved (cs : List Char) :
    (decodeUnreserved cs).splitOn '/' = (cs.splitOn '/').map decodeUnreserved := by
  have hjoin : ['/'].intercalate (cs.splitOn '/') = cs := List.intercalate_splitOn '/'
  have hnone : ∀ s ∈ (cs.splitOn '/').map decodeUnreserved, '/' ∉ s := by
    intro s hs
    obtain ⟨raw, hraw, rfl⟩ := List.mem_map.mp hs
    refine slash_notMem_decodeUnreserved fun hslash => ?_
    have hcut := (Url.mem_of_mem_splitOnP hraw '/' hslash).2
    exact absurd hcut (by decide)
  calc (decodeUnreserved cs).splitOn '/'
      = (['/'].intercalate ((cs.splitOn '/').map decodeUnreserved)).splitOn '/' := by
        rw [← decodeUnreserved_intercalate, hjoin]
    _ = (cs.splitOn '/').map decodeUnreserved :=
        List.splitOn_intercalate '/' hnone (by simp [List.splitOn_ne_nil])

/-- Every slice that decoding takes is there, and the result is what one pass from left to right reads. The slashes stay
where they are between the segments, the delimiters all stay in order, and no percent sign comes in. -/
theorem decodeUnreserved_one_pass (p : String) :
    decodeUnreserved? p.toList = some (scanUnreserved p.toList) ∧
    decodeUnreserved p.toList = scanUnreserved p.toList ∧
    (decodeUnreserved p.toList).count '/' = p.toList.count '/' ∧
    (decodeUnreserved p.toList).splitOn '/' = (p.toList.splitOn '/').map decodeUnreserved ∧
    (decodeUnreserved p.toList).filter isReserved = p.toList.filter isReserved ∧
    ((decodeUnreserved p.toList).filter fun c => c == '%' || isReserved c).Sublist
      (p.toList.filter fun c => c == '%' || isReserved c) := by
  have hreserved : (decodeUnreserved p.toList).filter isReserved = p.toList.filter isReserved :=
    filter_decodeUnreserved (fun _ hb => not_isReserved_of_isUnreserved hb) (by decide) _
  refine ⟨decodeUnreserved?_eq_scan _, decodeUnreserved_eq_scan _, ?_, splitOn_decodeUnreserved _, hreserved, ?_⟩
  · have hslash := congrArg (List.count '/') hreserved
    rwa [List.count_filter (by decide), List.count_filter (by decide)] at hslash
  · refine sublist_decodeUnreserved (fun b hb => ?_) _
    rw [not_isReserved_of_isUnreserved hb, beq_eq_false_iff_ne.mpr (pathSet_of_isUnreserved hb).1]
    rfl

-- a percent sign before an escape, one before a character of two bytes, an escaped delimiter and an escape cut off
example : decodeUnreserved? "/%%41é%é41%2F%4".toList = some "/%Aé%é41%2F%4".toList := by
  decide

end Portcullis.Http

import Mathlib.Data.List.TakeWhile
import Portcullis.Text.Blank

/-!
# Ends of texts

Blanks at the ends of a text do not count, nor do they at the ends of its parts.
-/

namespace Portcullis.Text

variable {p : Char → Bool} {cs : List Char}

theorem dropEndWhile_append (p : Char → Bool) (cs : List Char) :
    ∃ gone, cs = dropEndWhile p cs ++ gone ∧ ∀ c ∈ gone, p c = true := by
  refine ⟨(cs.reverse.takeWhile p).reverse, ?_, ?_⟩
  · rw [dropEndWhile, ← List.reverse_append, List.takeWhile_append_dropWhile, List.reverse_reverse]
  · intro c hc
    exact List.all_eq_true.mp List.all_takeWhile c (List.mem_reverse.mp hc)

theorem dropEndWhile_append_of_forall {gone : List Char} (h : ∀ c ∈ gone, p c = true) :
    dropEndWhile p (cs ++ gone) = dropEndWhile p cs := by
  rw [dropEndWhile, List.reverse_append, List.dropWhile_append_of_pos fun c hc => h c (List.mem_reverse.mp hc)]
  rfl

theorem dropEndWhile_of_last {c : Char} (h : p c = false) : dropEndWhile p (cs ++ [c]) = cs ++ [c] := by
  rw [dropEndWhile, List.reverse_append, List.reverse_singleton, List.singleton_append,
    List.dropWhile_cons_of_neg (by simp [h]), List.reverse_cons, List.reverse_reverse]

theorem dropEndWhile_append_right (cs : List Char) {rest : List Char} (hne : rest ≠ []) (h : ∀ c ∈ rest, p c = false) :
    dropEndWhile p (cs ++ rest) = cs ++ rest := by
  obtain ⟨front, last, rfl⟩ := List.eq_nil_or_concat rest |>.resolve_left hne
  rw [List.concat_eq_append] at h
  rw [List.concat_eq_append, ← List.append_assoc]
  exact dropEndWhile_of_last (h last (List.mem_append_right _ List.mem_cons_self))

theorem dropEndWhile_eq_nil_or (p : Char → Bool) (cs : List Char) :
    dropEndWhile p cs = [] ∨ ∃ front c, dropEndWhile p cs = front ++ [c] ∧ p c = false := by
  unfold dropEndWhile
  cases hrest : cs.reverse.dropWhile p with
  | nil => exact .inl rfl
  | cons c rest =>
    refine .inr ⟨rest.reverse, c, List.reverse_cons, ?_⟩
    have hhead := List.head?_dropWhile_not p cs.reverse
    rw [hrest] at hhead
    exact hhead

/-- What stays of the end of a text stays of the whole of it. -/
theorem dropEndWhile_append_of_exists (cs : List Char) {rest : List Char} (h : ∃ c ∈ rest, p c = false) :
    dropEndWhile p (cs ++ rest) = cs ++ dropEndWhile p rest := by
  obtain ⟨gone, hsplit, hgone⟩ := dropEndWhile_append p rest
  rcases dropEndWhile_eq_nil_or p rest with hnil | ⟨front, c, hkept, hc⟩
  · obtain ⟨c, hmem, hc⟩ := h
    rw [hnil, List.nil_append] at hsplit
    rw [hgone c (hsplit ▸ hmem)] at hc
    cases hc
  · rw [hkept] at hsplit
    rw [hkept, hsplit, ← List.append_assoc, dropEndWhile_append_of_forall hgone, ← List.append_assoc,
      dropEndWhile_of_last hc]

/-- A text is cut at the last place of a character in it. -/
theorem exists_last {a : Char} (h : a ∈ cs) : ∃ front behind, cs = front ++ a :: behind ∧ a ∉ behind := by
  obtain ⟨behind, front, hsplit, hbehind⟩ := List.eq_append_cons_of_mem (List.mem_reverse.mpr h)
  refine ⟨front.reverse, behind.reverse, ?_, by simpa using hbehind⟩
  rw [← List.reverse_reverse cs, hsplit]
  simp

theorem behind_last {a : Char} {front behind : List Char} (h : a ∉ behind) :
    ((front ++ a :: behind).reverse.takeWhile (· != a)).reverse = behind := by
  have hne : ∀ c ∈ behind.reverse, (c != a) = true := fun c hc => by
    rw [bne_iff_ne]
    rintro rfl
    exact h (List.mem_reverse.mp hc)
  rw [List.reverse_append, List.reverse_cons, List.append_assoc, List.singleton_append,
    List.takeWhile_append_of_pos hne, List.takeWhile_cons_of_neg (by simp), List.append_nil, List.reverse_reverse]

theorem before_last (a : Char) (front behind : List Char) :
    (front ++ a :: behind).take ((front ++ a :: behind).length - behind.length - 1) = front := by
  have hlen : (front ++ a :: behind).length - behind.length - 1 = front.length := by
    rw [List.length_append, List.length_cons]
    omega
  rw [hlen, List.take_left]

theorem mem_of_mem_dropEndWhile {c : Char} (h : c ∈ dropEndWhile p cs) : c ∈ cs := by
  obtain ⟨gone, hcs, _⟩ := dropEndWhile_append p cs
  rw [hcs]
  exact List.mem_append_left _ h

theorem mem_dropEndWhile {c : Char} (hc : c ∈ cs) (h : p c = false) : c ∈ dropEndWhile p cs := by
  obtain ⟨gone, hcs, hgone⟩ := dropEndWhile_append p cs
  rw [hcs] at hc
  refine (List.mem_append.mp hc).resolve_right fun hmem => ?_
  rw [hgone c hmem] at h
  cases h

/-! ## Parts between marks -/

theorem trim_cons {c : Char} (h : isBlank c = true) (cs : List Char) : trim (c :: cs) = trim cs := by
  rw [trim, trim, List.dropWhile_cons_of_pos h]

theorem trim_append {gone : List Char} (h : ∀ c ∈ gone, isBlank c = true) (cs : List Char) :
    trim (cs ++ gone) = trim cs := by
  rw [trim, trim, List.dropWhile_append]
  split
  · rename_i hcs
    rw [List.dropWhile_eq_nil_iff.mpr h, List.isEmpty_iff.mp hcs]
  · exact dropEndWhile_append_of_forall h

theorem trim_append_cons {c : Char} (h : isBlank c = false) (cs rest : List Char) :
    trim (cs ++ c :: rest) = cs.dropWhile isBlank ++ trimEnd (c :: rest) := by
  have hexists : ∃ x ∈ c :: rest, isBlank x = false := ⟨c, List.mem_cons_self, h⟩
  have hkept : (c :: rest).dropWhile isBlank = c :: rest := List.dropWhile_cons_of_neg (by simp [h])
  rw [trim, List.dropWhile_append]
  split
  · rename_i hcs
    rw [List.isEmpty_iff.mp hcs, hkept, List.nil_append]
  · exact dropEndWhile_append_of_exists _ hexists

theorem splitOn_of_notMem {a : Char} (h : a ∉ cs) : cs.splitOn a = [cs] :=
  List.splitOnP_eq_singleton fun x hx => by
    rw [beq_eq_false_iff_ne]
    rintro rfl
    exact h hx

theorem splitOn_append_cons (a : Char) (front rest : List Char) :
    (front ++ a :: rest).splitOn a = front.splitOn a ++ rest.splitOn a :=
  List.splitOnP_append_cons front rest (beq_self_eq_true a)

/-- Blanks before a text belong to its first part. -/
theorem map_trim_splitOn_dropWhile {a : Char} (ha : isBlank a = false) (cs : List Char) :
    ((cs.dropWhile isBlank).splitOn a).map trim = (cs.splitOn a).map trim := by
  induction cs with
  | nil => rfl
  | cons c rest ih =>
    by_cases hc : isBlank c = true
    · have hne : ¬(c == a) = true := by
        rw [beq_iff_eq]
        rintro rfl
        rw [ha] at hc
        cases hc
      rw [List.dropWhile_cons_of_pos hc, ih, List.splitOn_cons_eq_if_modifyHead, if_neg hne]
      cases hsplit : rest.splitOn a with
      | nil => rfl
      | cons first others => rw [List.modifyHead_cons, List.map_cons, List.map_cons, trim_cons hc]
    · rw [List.dropWhile_cons_of_neg hc]

/-- Blanks behind a text belong to its last part. -/
theorem map_trim_splitOn_append {a : Char} (ha : isBlank a = false) {gone : List Char}
    (h : ∀ c ∈ gone, isBlank c = true) (cs : List Char) :
    ((cs ++ gone).splitOn a).map trim = (cs.splitOn a).map trim := by
  have hgone : a ∉ gone := fun hm => by
    rw [h a hm] at ha
    cases ha
  by_cases hcs : a ∈ cs
  · obtain ⟨front, behind, rfl, hbehind⟩ := exists_last hcs
    have happend : a ∉ behind ++ gone := fun hm => (List.mem_append.mp hm).elim hbehind hgone
    rw [List.append_assoc, List.cons_append, splitOn_append_cons, splitOn_append_cons, splitOn_of_notMem happend,
      splitOn_of_notMem hbehind, List.map_append, List.map_append, List.map_singleton, List.map_singleton,
      trim_append h]
  · have happend : a ∉ cs ++ gone := fun hm => (List.mem_append.mp hm).elim hcs hgone
    rw [splitOn_of_notMem happend, splitOn_of_notMem hcs, List.map_singleton, List.map_singleton, trim_append h]

/-- The trimmed parts of a text are those of the trimmed text. -/
theorem map_trim_splitOn_trim {a : Char} (ha : isBlank a = false) (cs : List Char) :
    ((trim cs).splitOn a).map trim = (cs.splitOn a).map trim := by
  obtain ⟨gone, hgone, hblank⟩ := dropEndWhile_append isBlank (cs.dropWhile isBlank)
  rw [← map_trim_splitOn_dropWhile ha cs, hgone, map_trim_splitOn_append ha hblank]
  rfl

end Portcullis.Text

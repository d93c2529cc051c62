import Portcullis.Http.Path
import Portcullis.Proofs.Url.Written

/-!
# Normal forms of paths

A path is settled if reading it as the path of a URL first does not change its normal form.
-/

namespace Portcullis.Http
open Url

/-- What normalisation leaves alone has nothing to escape in it, and what it rewrites has the same normal form once it
was read as the path of a URL. The latter holds if no segment climbs over one in which an escape hides a dot segment or
a drive letter. -/
def Settled (path : List Char) : Prop :=
  if isPlain path = true then ∀ c ∈ path, c ≠ '\\' ∧ pathSet c = false
  else parsePath (decodeUnreserved (parsePath path)) = parsePath (decodeUnreserved path)

instance (path : List Char) : Decidable (Settled path) :=
  if h : isPlain path = true then
    decidable_of_iff ((path.all fun c => c != '\\' && !pathSet c) = true) (by simp [Settled, h])
  else
    decidable_of_iff (parsePath (decodeUnreserved (parsePath path)) = parsePath (decodeUnreserved path))
      (by simp [Settled, h])

/-! ## Escapes of unreserved characters -/

theorem decodeUnreserved_eq_scan (cs : List Char) : decodeUnreserved cs = scanUnreserved cs :=
  Option.get_of_eq_some _ (decodeUnreserved?_eq_scan cs)

theorem decodeUnreserved_cons {c : Char} (h : c ≠ '%') (rest : List Char) :
    decodeUnreserved (c :: rest) = c :: decodeUnreserved rest := by
  rw [decodeUnreserved_eq_scan, decodeUnreserved_eq_scan, scanUnreserved_cons h]

theorem decodeUnreserved_of_no_percent {cs : List Char} (h : '%' ∉ cs) : decodeUnreserved cs = cs := by
  induction cs with
  | nil => rfl
  | cons c rest ih =>
    rw [List.mem_cons, not_or] at h
    rw [decodeUnreserved_cons (fun hc => h.1 hc.symm), ih h.2]

/-- Escapes are read on both sides of a character that is no digit as if on their own. -/
theorem decodeUnreserved_append {c : Char} (hc : Ascii.hexValue? c = none) (cs rest : List Char) :
    decodeUnreserved (cs ++ c :: rest) = decodeUnreserved cs ++ decodeUnreserved (c :: rest) := by
  have hlow : ∀ h, Ascii.hexByte? h c = none := fun h => by
    unfold Ascii.hexByte?
    rw [hc]
    split <;> simp_all
  have hhigh : ∀ l, Ascii.hexByte? c l = none := fun l => by
    unfold Ascii.hexByte?
    rw [hc]
  simp only [decodeUnreserved_eq_scan]
  fun_induction scanUnreserved cs with
  | case1 h l tail b hb ih =>
    rw [List.cons_append, List.cons_append, List.cons_append, scanUnreserved, hb]
    exact congrArg _ ih
  | case2 h l tail hb ih =>
    rw [List.cons_append, List.cons_append, List.cons_append, scanUnreserved, hb]
    exact congrArg _ ih
  | case3 d tail hshape ih =>
    rw [List.cons_append]
    by_cases hd : d = '%'
    · subst hd
      -- fewer than two characters follow the percent sign, so that `c` is one of the two that it would need
      obtain _ | ⟨e, _ | ⟨f, tail⟩⟩ := tail
      · cases rest with
        | nil => simp [scanUnreserved]
        | cons r rest => simp [scanUnreserved, hhigh]
      · rw [List.cons_append, List.nil_append, scanUnreserved, hlow]
        exact congrArg _ ih
      · exact absurd rfl (hshape e f tail rfl)
    · rw [scanUnreserved_cons hd, ih, List.cons_append]
  | case4 => rfl

/-! ## Paths that normalisation leaves alone -/

theorem isPlain_iff {path : List Char} :
    isPlain path = true ↔ '%' ∉ path ∧ ∀ s ∈ path.splitOn '/', s ≠ ['.'] ∧ s ≠ ['.', '.'] := by
  simp [isPlain]

theorem normalize_of_isPlain {path : List Char} (h : isPlain path = true) : normalize path = path := by
  rw [normalize, if_pos h]

/-- The normal form of a written path is in the reading of it without the escapes. -/
theorem normalize_parsePath (path : List Char) :
    normalize (parsePath path) = parsePath (decodeUnreserved (parsePath path)) := by
  unfold normalize
  split
  · rename_i hplain
    rw [decodeUnreserved_of_no_percent (isPlain_iff.mp hplain).1, (written_parsePath path).parsePath]
  · rfl

theorem plainDots_of_no_percent {s : Segment} (h : '%' ∉ s) : plainDots s = s := by
  induction s with
  | nil => rfl
  | cons c rest ih =>
    rw [List.mem_cons, not_or] at h
    rw [plainDots, ih h.2]
    · rintro tail rfl
      exact absurd rfl h.1
    · rintro tail rfl
      exact absurd rfl h.1

theorem splitOn_slash {cs : List Char} (h : '\\' ∉ cs) : cs.splitOn '/' = cs.splitOnP isSlash := by
  induction cs with
  | nil => rfl
  | cons c rest ih =>
    rw [List.mem_cons, not_or] at h
    have hc : isSlash c = (c == '/') := by simp [isSlash, Ne.symm h.1]
    rw [List.splitOn_cons_eq_if_modifyHead, List.splitOnP_cons_eq_if_modifyHead, ih h.2, hc]

theorem joinSegments_splitOnP {cs : List Char} (h : '\\' ∉ cs) : joinSegments (cs.splitOnP isSlash) = '/' :: cs := by
  induction cs with
  | nil => rfl
  | cons c rest ih =>
    rw [List.mem_cons, not_or] at h
    rw [List.splitOnP_cons_eq_if_modifyHead]
    split
    · rename_i hc
      have hslash : c = '/' := by simpa [isSlash, Ne.symm h.1] using hc
      rw [joinSegments_cons, ih h.2, hslash]
      rfl
    · cases hsplit : rest.splitOnP isSlash with
      | nil => exact absurd hsplit (List.splitOnP_ne_nil isSlash rest)
      | cons first others =>
        have hrest := ih h.2
        rw [hsplit, joinSegments_cons, List.cons.injEq] at hrest
        rw [List.modifyHead_cons, joinSegments_cons, List.cons_append, hrest.2]

/-- Without a backslash and without a character to escape, a plain path is written as it is. -/
theorem written_of_isPlain {cs : List Char} (hplain : isPlain ('/' :: cs) = true)
    (h : ∀ c ∈ '/' :: cs, c ≠ '\\' ∧ pathSet c = false) : Written ('/' :: cs) := by
  have hback : '\\' ∉ cs := fun hc => (h _ (List.mem_cons_of_mem _ hc)).1 rfl
  obtain ⟨hpercent, hdots⟩ := isPlain_iff.mp hplain
  rw [List.splitOn_cons_eq_if_modifyHead, if_pos (by decide)] at hdots
  refine ⟨cs.splitOnP isSlash, List.splitOnP_ne_nil isSlash cs, ?_, (joinSegments_splitOnP hback).symm⟩
  intro s hs
  have hmem := mem_of_mem_splitOnP hs
  have hno : '%' ∉ s := fun hc => hpercent (List.mem_cons_of_mem _ (hmem _ hc).1)
  obtain ⟨h1, h2⟩ := hdots s (List.mem_cons_of_mem _ (splitOn_slash hback ▸ hs))
  constructor
  · simp [isPlainSegment, isSingleDot, isDoubleDot, plainDots_of_no_percent hno, h1, h2]
  · intro c hc
    exact isSafe_iff.mpr ⟨(hmem c hc).2, (h c (List.mem_cons_of_mem _ (hmem c hc).1)).2⟩

theorem settled_iff (cs : List Char) :
    Settled ('/' :: cs) ↔ normalize (parsePath ('/' :: cs)) = normalize ('/' :: cs) := by
  unfold Settled
  split
  · rename_i hplain
    rw [normalize_of_isPlain hplain]
    constructor
    · intro h
      rw [(written_of_isPlain hplain h).parsePath, normalize_of_isPlain hplain]
    · intro h c hc
      rw [normalize_parsePath] at h
      rw [← h] at hc
      exact (written_parsePath _).not_mem hc
  · rename_i hplain
    rw [normalize_parsePath, normalize, if_neg hplain]

end Portcullis.Http

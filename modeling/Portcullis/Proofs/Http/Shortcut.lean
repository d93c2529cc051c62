import Portcullis.Proofs.Http.Target

/-!
# Paths that are left as they are

Normalisation leaves a path without a percent sign and without a plain dot segment as it is. A URL would hold the same
path, unless there is a backslash or a character to escape in it.
-/

namespace Portcullis.Http
open Url

theorem normalize_eq_parsePath_iff (cs : List Char) :
    normalize ('/' :: cs) = parsePath (decodeUnreserved ('/' :: cs)) ↔
      (isPlain ('/' :: cs) = true → ∀ c ∈ '/' :: cs, c ≠ '\\' ∧ pathSet c = false) := by
  by_cases hplain : isPlain ('/' :: cs) = true
  · rw [normalize_of_isPlain hplain, decodeUnreserved_of_no_percent (isPlain_iff.mp hplain).1]
    constructor
    · intro heq _ c hc
      rw [heq] at hc
      exact (written_parsePath _).not_mem hc
    · intro hsafe
      exact (written_of_isPlain hplain (hsafe hplain)).parsePath.symm
  · rw [normalize, if_neg hplain]
    exact iff_of_true rfl fun h => absurd h hplain

namespace Uri

/-- Characters that a target may hold in its path, and a URL does not hold in its own. -/
def isForeign (c : Char) : Bool :=
  c == '\\' || c == '"' || c == '{' || c == '}' || c.toNat > 0x7E

theorem isForeign_eq_false_iff {c : Char} (h : isPathChar c = true) :
    isForeign c = false ↔ c ≠ '\\' ∧ pathSet c = false := by
  have hne : ∀ {d : Char}, isPathChar d = false → c ≠ d := by
    rintro d hd rfl
    rw [h] at hd
    cases hd
  have hlow : ¬c.toNat < 0x20 := by
    simp only [isPathChar, Bool.or_eq_true, Bool.and_eq_true, beq_iff_eq, decide_eq_true_eq] at h
    omega
  have hspace : c ≠ ' ' := hne (by decide)
  have hless : c ≠ '<' := hne (by decide)
  have hgreater : c ≠ '>' := hne (by decide)
  have hgrave : c ≠ '`' := hne (by decide)
  have hhash : c ≠ '#' := hne (by decide)
  have hquestion : c ≠ '?' := hne (by decide)
  simp only [isForeign, pathSet, fragmentSet, controlSet, hlow, hspace, hless, hgreater, hgrave, hhash, hquestion,
    Bool.or_eq_false_iff, beq_eq_false_iff_ne, decide_eq_false_iff_not, ne_eq, not_false_eq_true, and_true, true_and]
  constructor
  · rintro ⟨⟨⟨⟨hback, hquote⟩, hopen⟩, hclose⟩, hhigh⟩
    exact ⟨hback, ⟨⟨hhigh, hquote⟩, hopen⟩, hclose⟩
  · rintro ⟨hback, ⟨⟨hhigh, hquote⟩, hopen⟩, hclose⟩
    exact ⟨⟨⟨⟨hback, hquote⟩, hopen⟩, hclose⟩, hhigh⟩

theorem WellFormed.isPathChar_of_path {uri : Uri} (h : uri.WellFormed) : ∀ c ∈ uri.path.toList, isPathChar c = true := by
  intro c hc
  unfold Uri.path at hc
  split at hc
  · obtain rfl := List.mem_singleton.mp hc
    decide
  · exact h.path c hc

/-- The normal form of the path of a target is the one that a URL has for it, read without the escapes of unreserved
characters, exactly if the path is not left as it is or has no foreign character in it. -/
theorem normalizePath_eq_parsePath_iff {uri : Uri} (h : uri.Rooted) :
    normalizePath uri.path = String.ofList (parsePath (decodeUnreserved uri.path.toList)) ↔
      (isPlain uri.path.toList = true → ∀ c ∈ uri.path.toList, isForeign c = false) := by
  have hchars := h.wellFormed.isPathChar_of_path
  obtain ⟨cs, hcs⟩ := List.head?_eq_some_iff.mp h.slash
  rw [normalizePath, String.ofList_inj, hcs, normalize_eq_parsePath_iff, ← hcs]
  refine imp_congr_right fun _ => forall₂_congr fun c hc => ?_
  exact (isForeign_eq_false_iff (hchars c hc)).symm

/-- A target with foreign characters in its path, and a climb for which it is rewritten. -/
def braced : Uri :=
  { rawPath := "/a/../{b}\\c" }

theorem braced_normalizePath : braced.Rooted ∧
    normalizePath braced.path = String.ofList (parsePath (decodeUnreserved braced.path.toList)) := by
  have hrooted : braced.Rooted := ⟨⟨"/a/../{b}\\c", by decide⟩, by decide⟩
  have hplain : isPlain braced.path.toList = false := by decide
  refine ⟨hrooted, (normalizePath_eq_parsePath_iff hrooted).mpr fun h => ?_⟩
  rw [hplain] at h
  cases h

/-- A backslash alone does not make a path one to rewrite, and a URL has a slash in its place. -/
theorem backslash_kept : ∃ uri : Uri, parse? "/a\\b" = some uri ∧ uri.Rooted ∧ normalizePath uri.path = "/a\\b" ∧
    String.ofList (parsePath (decodeUnreserved uri.path.toList)) = "/a/b" ∧
    normalizePath uri.path ≠ String.ofList (parsePath (decodeUnreserved uri.path.toList)) :=
  ⟨{ rawPath := "/a\\b" }, by decide, ⟨⟨"/a\\b", by decide⟩, by decide⟩, by decide, by decide, by decide⟩

end Uri

end Portcullis.Http

import Portcullis.Proofs.Http.Shortcut
import Portcullis.Proofs.Http.Stable

/-!
# Spellings of paths

A path of slashes and unreserved characters has one normal form, however many of these characters are escaped.
-/

namespace Portcullis.Http
open Url

/-- The text is the path, of slashes and unreserved characters, with some of the latter escaped. -/
inductive Spells : List Char → List Char → Prop where
  | nil : Spells [] []
  | slash {text path : List Char} : Spells text path → Spells ('/' :: text) ('/' :: path)
  | plain {b : UInt8} {text path : List Char} : isUnreserved b = true → Spells text path →
      Spells (Char.ofNat b.toNat :: text) (Char.ofNat b.toNat :: path)
  | escaped {h l : Char} {b : UInt8} {text path : List Char} : Ascii.hexByte? h l = some b → isUnreserved b = true →
      Spells text path → Spells ('%' :: h :: l :: text) (Char.ofNat b.toNat :: path)

namespace Spells

variable {text path : List Char}

theorem decodeUnreserved (h : Spells text path) : Http.decodeUnreserved text = path := by
  induction h with
  | nil => rfl
  | slash _ ih => rw [decodeUnreserved_cons (by decide), ih]
  | plain hb _ ih => rw [decodeUnreserved_cons (pathSet_of_isUnreserved hb).1, ih]
  | escaped hbyte hb _ ih => rw [decodeUnreserved_read hbyte hb, ih]

/-- A path is one of its own spellings. -/
theorem self (h : Spells text path) : Spells path path := by
  induction h with
  | nil => exact .nil
  | slash _ ih => exact .slash ih
  | plain hb _ ih => exact .plain hb ih
  | escaped _ hb _ ih => exact .plain hb ih

theorem safe (h : Spells text path) : ∀ c ∈ text, c ≠ '\\' ∧ pathSet c = false := by
  induction h with
  | nil => exact fun _ h => absurd h List.not_mem_nil
  | slash _ ih => exact List.forall_mem_cons.mpr ⟨by decide, ih⟩
  | plain hb _ ih => exact List.forall_mem_cons.mpr ⟨(pathSet_of_isUnreserved hb).2, ih⟩
  | escaped hbyte _ _ ih =>
    obtain ⟨⟨-, hh⟩, -, hl⟩ := isSafe_of_hexByte? hbyte
    intro c hc
    rcases List.mem_cons.mp hc with rfl | hc
    · decide
    · rcases List.mem_cons.mp hc with rfl | hc
      · exact kept_of_isSafe hh
      · rcases List.mem_cons.mp hc with rfl | hc
        · exact kept_of_isSafe hl
        · exact ih c hc

/-- A slash is not unreserved, so that it stands as it is in every spelling. -/
theorem head (h : Spells text path) (hslash : path.head? = some '/') : ∃ rest, text = '/' :: rest := by
  have hne : ∀ {b : UInt8}, isUnreserved b = true → Char.ofNat b.toNat ≠ '/' := by
    intro b hb heq
    rw [isUnreserved, heq] at hb
    cases hb
  cases h with
  | nil => cases hslash
  | @slash rest _ _ => exact ⟨rest, rfl⟩
  | plain hb _ => exact absurd (Option.some.inj hslash) (hne hb)
  | escaped _ hb _ => exact absurd (Option.some.inj hslash) (hne hb)

theorem normalize_eq (h : Spells text path) (hslash : path.head? = some '/') : normalize text = parsePath path := by
  obtain ⟨rest, rfl⟩ := h.head hslash
  rw [(normalize_eq_parsePath_iff rest).mpr fun _ => h.safe, h.decodeUnreserved]

theorem normalizePath_eq {text path : String} (h : Spells text.toList path.toList)
    (hslash : path.toList.head? = some '/') : normalizePath text = normalizePath path := by
  rw [normalizePath, h.normalize_eq hslash, normalizePath, h.self.normalize_eq hslash]

end Spells

end Portcullis.Http

import Mathlib.Data.List.Forall2
import Portcullis.Form
import Portcullis.Http.Uri
import Portcullis.Proofs.Url.Server

/-!
# Queries of forms

A list of keys and values has many queries: a byte stands as it is or as an escape, and a blank as a plus sign. All of
them are read as the same list.
-/

namespace Portcullis.Form
open Url

/-! ## Encodings -/

/-- The bytes that a key or a value may hold as they are: those of a query that neither join nor escape anything. -/
def isLiteral (b : UInt8) : Bool :=
  Http.Uri.isQueryChar (Char.ofNat b.toNat) && b != 0x26 && b != 0x3D && b != 0x2B && b != 0x25

/-- The text stands for the bytes of a key or a value. -/
inductive Spells : Bytes → Bytes → Prop where
  | nil : Spells [] []
  | literal {b : UInt8} {text bs : Bytes} : isLiteral b = true → Spells text bs → Spells (b :: text) (b :: bs)
  | plus {text bs : Bytes} : Spells text bs → Spells (0x2B :: text) (0x20 :: bs)
  | escaped {h l b : UInt8} {text bs : Bytes} : Ascii.hexByte? (Char.ofNat h.toNat) (Char.ofNat l.toNat) = some b →
      Spells text bs → Spells (0x25 :: h :: l :: text) (b :: bs)

/-- The text is a key and a value with an equals sign between them. -/
def SpellsPair (pair : Bytes × Bytes) (text : Bytes) : Prop :=
  ∃ key value, Spells key pair.1 ∧ Spells value pair.2 ∧ text = key ++ 0x3D :: value

/-- The query is the pairs with ampersands between them. -/
def Encodes (query : Bytes) (pairs : List (Bytes × Bytes)) : Prop :=
  ∃ parts, List.Forall₂ SpellsPair pairs parts ∧ query = [0x26].intercalate parts

/-! ## Keys and values -/

theorem ne_of_hexByte? {h l b x : UInt8} (hbyte : Ascii.hexByte? (Char.ofNat h.toNat) (Char.ofNat l.toNat) = some b)
    (hx : Ascii.hexValue? (Char.ofNat x.toNat) = none) : h ≠ x ∧ l ≠ x := by
  constructor
  · rintro rfl
    rw [hexByte?_eq_none (.inl hx)] at hbyte
    cases hbyte
  · rintro rfl
    rw [hexByte?_eq_none (.inr hx)] at hbyte
    cases hbyte

namespace Spells

variable {text bs : Bytes}

/-- Neither of the two marks that join a query stands in a key or a value. -/
theorem notMem (h : Spells text bs) : 0x26 ∉ text ∧ 0x3D ∉ text := by
  induction h with
  | nil => exact ⟨List.not_mem_nil, List.not_mem_nil⟩
  | @literal b _ _ hb _ ih =>
    simp only [isLiteral, Bool.and_eq_true, bne_iff_ne] at hb
    obtain ⟨⟨⟨⟨-, hand⟩, hequals⟩, -⟩, -⟩ := hb
    exact ⟨List.not_mem_cons_of_ne_of_not_mem hand.symm ih.1, List.not_mem_cons_of_ne_of_not_mem hequals.symm ih.2⟩
  | plus _ ih =>
    exact ⟨List.not_mem_cons_of_ne_of_not_mem (by decide) ih.1, List.not_mem_cons_of_ne_of_not_mem (by decide) ih.2⟩
  | escaped hbyte _ ih =>
    have hand := ne_of_hexByte? (x := 0x26) hbyte (by decide)
    have hequals := ne_of_hexByte? (x := 0x3D) hbyte (by decide)
    simp only [List.mem_cons, not_or]
    exact ⟨⟨by decide, hand.1.symm, hand.2.symm, ih.1⟩, by decide, hequals.1.symm, hequals.2.symm, ih.2⟩

theorem unplus_of_ne {b : UInt8} (h : b ≠ 0x2B) : unplus b = b :=
  if_neg h

theorem percentDecode (h : Spells text bs) : Url.percentDecode (text.map unplus) = bs := by
  induction h with
  | nil => rfl
  | @literal b _ _ hb _ ih =>
    simp only [isLiteral, Bool.and_eq_true, bne_iff_ne] at hb
    obtain ⟨⟨-, hplus⟩, hpercent⟩ := hb
    rw [List.map_cons, unplus_of_ne hplus, percentDecode_cons fun h => absurd h hpercent, ih]
  | @plus text _ _ ih =>
    have hblank : unplus 0x2B = 0x20 := rfl
    rw [List.map_cons, hblank, percentDecode_cons fun h => absurd h (by decide), ih]
  | @escaped high low b text _ hbyte _ ih =>
    have hplus := ne_of_hexByte? (x := 0x2B) hbyte (by decide)
    have hpercent : unplus 0x25 = 0x25 := rfl
    rw [List.map_cons, List.map_cons, List.map_cons, hpercent, unplus_of_ne hplus.1, unplus_of_ne hplus.2]
    simp only [Url.percentDecode, hbyte, ih]

theorem decode (h : Spells text bs) : Form.decode text = Utf8.lossy bs := by
  rw [Form.decode, h.percentDecode]

end Spells

/-! ## Pairs -/

/-- What is read of a key and a value: their text, with broken runs of bytes replaced. -/
def texts (pair : Bytes × Bytes) : List Char × List Char :=
  (Utf8.lossy pair.1, Utf8.lossy pair.2)

namespace SpellsPair

variable {p : Bytes × Bytes} {text : Bytes}

theorem ne_nil (h : SpellsPair p text) : text ≠ [] := by
  obtain ⟨key, value, -, -, rfl⟩ := h
  simp

theorem notMem (h : SpellsPair p text) : 0x26 ∉ text := by
  obtain ⟨key, value, hkey, hvalue, rfl⟩ := h
  simp [hkey.notMem.1, hvalue.notMem.1]

theorem pair (h : SpellsPair p text) : Form.pair text = texts p := by
  obtain ⟨key, value, hkey, hvalue, rfl⟩ := h
  have hnot : ∀ b ∈ key, (b != 0x3D) = true := fun b hb => by
    rw [bne_iff_ne]
    rintro rfl
    exact hkey.notMem.2 hb
  rw [Form.pair, List.takeWhile_append_of_pos hnot, List.dropWhile_append_of_pos hnot]
  simp [texts, hkey.decode, hvalue.decode]

end SpellsPair

namespace Encodes

variable {query : Bytes} {pairs : List (Bytes × Bytes)} {parts : List Bytes}

theorem forall_parts (h : List.Forall₂ SpellsPair pairs parts) : ∀ part ∈ parts, 0x26 ∉ part ∧ part ≠ [] := by
  induction h with
  | nil => exact fun _ h => absurd h List.not_mem_nil
  | cons hpair _ ih => exact List.forall_mem_cons.mpr ⟨⟨hpair.notMem, hpair.ne_nil⟩, ih⟩

theorem map_pair (h : List.Forall₂ SpellsPair pairs parts) : parts.map Form.pair = pairs.map texts := by
  induction h with
  | nil => rfl
  | cons hpair _ ih => rw [List.map_cons, List.map_cons, hpair.pair, ih]

/-- Every query of a list of pairs is read as that list. -/
theorem parse (h : Encodes query pairs) : Form.parse query = pairs.map texts := by
  obtain ⟨parts, hparts, rfl⟩ := h
  have hall := forall_parts hparts
  rw [← map_pair hparts, Form.parse]
  rcases eq_or_ne parts [] with rfl | hne
  · rfl
  · rw [List.splitOn_intercalate 0x26 (fun part hpart => (hall part hpart).1) hne,
      List.filter_eq_self.mpr fun part hpart => by simp [(hall part hpart).2]]

end Encodes

end Portcullis.Form

import Mathlib.Data.List.Forall2
import Portcullis.Proofs.Http.Dots
import Portcullis.Proofs.Http.Stable

/-!
# The case of digits in escapes

The digits of an escape may be written in either case. Normalisation reads both and keeps the case in the escapes that
it keeps.
-/

namespace Portcullis.Http
open Url

/-- The texts are the same but for the case of digits in escapes of bytes that `P` holds of. -/
inductive Recased (P : UInt8 → Prop) : List Char → List Char → Prop where
  | nil : Recased P [] []
  | char (c : Char) {cs ds : List Char} : Recased P cs ds → Recased P (c :: cs) (c :: ds)
  | escape {h l h' l' : Char} {b : UInt8} {cs ds : List Char} : Ascii.hexByte? h l = some b →
      Ascii.sameLetters [h, l] [h', l'] = true → P b → Recased P cs ds →
      Recased P ('%' :: h :: l :: cs) ('%' :: h' :: l' :: ds)

theorem hexValue?_toLower (c : Char) : Ascii.hexValue? c.toLower = Ascii.hexValue? c := by
  by_cases hc : c.toNat < 128
  · have hall : ∀ n < 128, Ascii.hexValue? (Char.ofNat n).toLower = Ascii.hexValue? (Char.ofNat n) := by decide +kernel
    have hthis := hall c.toNat hc
    rwa [Char.ofNat_toNat] at hthis
  · have hlower : c.toLower = c := by
      refine dif_neg ?_
      rintro ⟨-, hle⟩
      have hnat := UInt32.le_iff_toNat_le.mp hle
      exact hc (Nat.lt_of_le_of_lt hnat (by decide))
    rw [hlower]

theorem hexByte?_of_sameLetters {h l h' l' : Char} (hsame : Ascii.sameLetters [h, l] [h', l'] = true) :
    Ascii.hexByte? h' l' = Ascii.hexByte? h l := by
  simp only [Ascii.sameLetters, List.map_cons, List.map_nil, beq_iff_eq, List.cons.injEq, and_true] at hsame
  rw [Ascii.hexByte?, ← hexValue?_toLower h', ← hexValue?_toLower l', ← hsame.1, ← hsame.2, hexValue?_toLower,
    hexValue?_toLower, ← Ascii.hexByte?]

namespace Recased

variable {P : UInt8 → Prop} {cs ds : List Char} {c : Char}

theorem refl (cs : List Char) : Recased P cs cs := by
  induction cs with
  | nil => exact .nil
  | cons c rest ih => exact .char c ih

theorem symm (h : Recased P cs ds) : Recased P ds cs := by
  induction h with
  | nil => exact .nil
  | char c _ ih => exact .char c ih
  | escape hbyte hsame hb _ ih =>
    refine .escape ((hexByte?_of_sameLetters hsame).trans hbyte) ?_ hb ih
    rw [Ascii.sameLetters, beq_iff_eq] at hsame ⊢
    exact hsame.symm

theorem append {cs' ds' : List Char} (h : Recased P cs ds) (h' : Recased P cs' ds') :
    Recased P (cs ++ cs') (ds ++ ds') := by
  induction h with
  | nil => exact h'
  | char c _ ih => exact .char c ih
  | escape hbyte hsame hb _ ih => exact .escape hbyte hsame hb ih

theorem eq_nil (h : Recased P [] ds) : ds = [] := by
  cases h
  rfl

theorem tail (hc : c ≠ '%') (h : Recased P (c :: cs) ds) : ∃ ds', ds = c :: ds' ∧ Recased P cs ds' := by
  cases h with
  | char _ h => exact ⟨_, rfl, h⟩
  | escape => exact absurd rfl hc

/-- An escape stands against an escape, of which the digits may be others only where the case of digits may. -/
theorem escaped {h l : Char} {b : UInt8} (hbyte : Ascii.hexByte? h l = some b)
    (hre : Recased P ('%' :: h :: l :: cs) ds) : ∃ h' l' ds', ds = '%' :: h' :: l' :: ds' ∧
      Ascii.sameLetters [h, l] [h', l'] = true ∧ (P b ∨ h' = h ∧ l' = l) ∧ Recased P cs ds' := by
  cases hre with
  | char _ hre =>
    obtain ⟨⟨hh, -⟩, hl, -⟩ := isSafe_of_hexByte? hbyte
    obtain ⟨_, rfl, hlow⟩ := hre.tail hh
    obtain ⟨_, rfl, hrest⟩ := hlow.tail hl
    exact ⟨h, l, _, rfl, by rw [Ascii.sameLetters, beq_iff_eq], .inr ⟨rfl, rfl⟩, hrest⟩
  | escape hbyte' hsame hb hre =>
    obtain rfl := Option.some.inj (hbyte.symm.trans hbyte')
    exact ⟨_, _, _, rfl, hsame, .inl hb, hre⟩

theorem eq_of_percent_notMem (h : Recased P cs ds) (hno : '%' ∉ cs) : ds = cs := by
  induction h with
  | nil => rfl
  | char c _ ih => rw [ih fun hmem => hno (.tail _ hmem)]
  | escape => exact absurd List.mem_cons_self hno

theorem eq_of_forall_not (hP : ∀ b, ¬P b) (h : Recased P cs ds) : ds = cs := by
  induction h with
  | nil => rfl
  | char c _ ih => rw [ih]
  | escape _ _ hb => exact absurd hb (hP _)

/-- Against a text that does not go on as an escape stands one that does not. -/
theorem noDigits (h : Recased P cs ds) (hnone : NoDigits cs) : NoDigits ds := by
  rintro high low more rfl
  cases hbyte : Ascii.hexByte? high low with
  | none => rfl
  | some b =>
    obtain ⟨⟨hh, -⟩, hl, -⟩ := isSafe_of_hexByte? hbyte
    obtain ⟨_, rfl, hlow⟩ := h.symm.tail hh
    obtain ⟨_, rfl, -⟩ := hlow.tail hl
    have hcontra := hnone high low _ rfl
    rw [hbyte] at hcontra
    cases hcontra

/-- One pass leaves the case of digits to differ only in the escapes that stay. -/
theorem decodeUnreserved (h : Recased P cs ds) :
    Recased (fun b => P b ∧ isUnreserved b = false) (Http.decodeUnreserved cs) (Http.decodeUnreserved ds) := by
  induction cs using escape_induction generalizing ds with
  | nil =>
    obtain rfl := h.eq_nil
    exact .nil
  | char hc ih =>
    obtain ⟨_, rfl, hrest⟩ := h.tail hc
    rw [decodeUnreserved_cons hc, decodeUnreserved_cons hc]
    exact .char _ (ih hrest)
  | @escape _ _ b _ hbyte ih =>
    obtain ⟨_, _, _, rfl, hsame, hor, hrest⟩ := h.escaped hbyte
    have hbyte' := (hexByte?_of_sameLetters hsame).trans hbyte
    cases hb : isUnreserved b with
    | true =>
      rw [decodeUnreserved_read hbyte hb, decodeUnreserved_read hbyte' hb]
      exact .char _ (ih hrest)
    | false =>
      rw [decodeUnreserved_kept hbyte hb, decodeUnreserved_kept hbyte' hb]
      rcases hor with hP | ⟨rfl, rfl⟩
      · exact .escape hbyte hsame ⟨hP, hb⟩ (ih hrest)
      · exact .char _ (.char _ (.char _ (ih hrest)))
  | stray hnone ih =>
    cases h with
    | char _ hrest =>
      rw [decodeUnreserved_stray hnone, decodeUnreserved_stray (hrest.noDigits hnone)]
      exact .char _ (ih hrest)
    | escape hbyte =>
      have hcontra := hnone _ _ _ rfl
      rw [hbyte] at hcontra
      cases hcontra

/-! ## The path of a URL -/

theorem filter (h : Recased P cs ds) : Recased P (cs.filter (!isSkipped ·)) (ds.filter (!isSkipped ·)) := by
  induction h with
  | nil => exact .nil
  | char c _ ih =>
    cases hs : isSkipped c with
    | true => rwa [List.filter_cons_of_neg (by simp [hs]), List.filter_cons_of_neg (by simp [hs])]
    | false =>
      rw [List.filter_cons_of_pos (by simp [hs]), List.filter_cons_of_pos (by simp [hs])]
      exact .char c ih
  | escape hbyte hsame hb _ ih =>
    rw [filter_escape hbyte, filter_escape ((hexByte?_of_sameLetters hsame).trans hbyte)]
    exact .escape hbyte hsame hb ih

theorem modifyHead {f g : List Char → List Char} (hfg : ∀ {s t}, Recased P s t → Recased P (f s) (g t))
    {ss ts : List (List Char)} (h : List.Forall₂ (Recased P) ss ts) :
    List.Forall₂ (Recased P) (ss.modifyHead f) (ts.modifyHead g) := by
  cases h with
  | nil => exact .nil
  | cons hs hrest => exact .cons (hfg hs) hrest

theorem splitOnP (h : Recased P cs ds) : List.Forall₂ (Recased P) (cs.splitOnP isSlash) (ds.splitOnP isSlash) := by
  induction h with
  | nil =>
    rw [List.splitOnP_nil]
    exact .cons .nil .nil
  | char c _ ih =>
    rw [List.splitOnP_cons_eq_if_modifyHead, List.splitOnP_cons_eq_if_modifyHead]
    split
    · exact .cons .nil ih
    · exact modifyHead (.char c) ih
  | escape hbyte hsame hb _ ih =>
    rw [splitOnP_escape hbyte, splitOnP_escape ((hexByte?_of_sameLetters hsame).trans hbyte)]
    exact modifyHead (.escape hbyte hsame hb) ih

theorem percentEncode (h : Recased P cs ds) : Recased P (percentEncode pathSet cs) (percentEncode pathSet ds) := by
  induction h with
  | nil => exact .nil
  | @char c cs ds _ ih =>
    have hcs := percentEncode_append pathSet [c] cs
    have hds := percentEncode_append pathSet [c] ds
    rw [List.singleton_append] at hcs hds
    rw [hcs, hds]
    exact (refl _).append ih
  | escape hbyte hsame hb _ ih =>
    rw [percentEncode_escape hbyte, percentEncode_escape ((hexByte?_of_sameLetters hsame).trans hbyte)]
    exact .escape hbyte hsame hb ih

theorem body (h : Recased P cs ds) : Recased P (body cs) (body ds) := by
  have hfilter := h.filter
  unfold Url.body
  generalize cs.filter (!isSkipped ·) = kept, ds.filter (!isSkipped ·) = kept' at hfilter
  cases hfilter with
  | nil => exact .nil
  | char c hrest =>
    dsimp only
    split
    · exact hrest
    · exact .char c hrest
  | escape hbyte hsame hb hrest => exact .escape hbyte hsame hb hrest

theorem segments (h : Recased P cs ds) : List.Forall₂ (Recased P) (segments cs) (segments ds) := by
  rw [Url.segments, Url.segments, List.forall₂_map_left_iff, List.forall₂_map_right_iff]
  exact h.splitOnP.imp fun _ _ h => h.percentEncode

theorem joinSegments {ss ts : List Segment} (h : List.Forall₂ (Recased P) ss ts) :
    Recased P (joinSegments ss) (joinSegments ts) := by
  induction h with
  | nil => exact .nil
  | cons hs _ ih =>
    rw [joinSegments_cons, joinSegments_cons]
    exact .char '/' (hs.append ih)

/-! ### Resolution -/

/-- Where a full stop is not recased, each of its spellings stays as it is. -/
theorem of_fullStop (hdot : ¬P 0x2E) {a : List Char} (ha : a ∈ fullStops) (h : Recased P (a ++ cs) ds) :
    ∃ ds', ds = a ++ ds' ∧ Recased P cs ds' := by
  simp only [fullStops, List.mem_cons, List.not_mem_nil, or_false] at ha
  obtain rfl | rfl | rfl := ha
  · exact h.tail (by decide)
  · obtain ⟨_, _, ds', rfl, -, hor, hrest⟩ := h.escaped (b := 0x2E) (by decide)
    obtain ⟨rfl, rfl⟩ := hor.resolve_left hdot
    exact ⟨ds', rfl, hrest⟩
  · obtain ⟨_, _, ds', rfl, -, hor, hrest⟩ := h.escaped (b := 0x2E) (by decide)
    obtain ⟨rfl, rfl⟩ := hor.resolve_left hdot
    exact ⟨ds', rfl, hrest⟩

theorem eq_of_fullStop (hdot : ¬P 0x2E) {a : List Char} (ha : a ∈ fullStops) (h : Recased P a ds) : ds = a := by
  rw [← List.append_nil a] at h
  obtain ⟨_, rfl, hnil⟩ := h.of_fullStop hdot ha
  rw [hnil.eq_nil, List.append_nil]

variable {s t : Segment}

theorem isSingleDot (hdot : ¬P 0x2E) (h : Recased P s t) (hs : isSingleDot s = true) : Url.isSingleDot t = true := by
  rw [isSingleDot_iff] at hs ⊢
  rwa [h.eq_of_fullStop hdot hs]

theorem isDoubleDot (hdot : ¬P 0x2E) (h : Recased P s t) (hs : isDoubleDot s = true) : Url.isDoubleDot t = true := by
  obtain ⟨a, ha, b, hb, rfl⟩ := isDoubleDot_iff.mp hs
  obtain ⟨_, rfl, hrest⟩ := h.of_fullStop hdot ha
  rw [hrest.eq_of_fullStop hdot hb]
  exact isDoubleDot_iff.mpr ⟨a, ha, b, hb, rfl⟩

theorem isDriveLetter (h : Recased P s t) (hs : isDriveLetter s = true) : Url.isDriveLetter t = true := by
  rwa [h.eq_of_percent_notMem (percent_notMem_of_isDriveLetter hs)]

theorem isSingleDot_eq (hdot : ¬P 0x2E) (h : Recased P s t) : Url.isSingleDot s = Url.isSingleDot t :=
  Bool.eq_iff_iff.mpr ⟨h.isSingleDot hdot, h.symm.isSingleDot hdot⟩

theorem isDoubleDot_eq (hdot : ¬P 0x2E) (h : Recased P s t) : Url.isDoubleDot s = Url.isDoubleDot t :=
  Bool.eq_iff_iff.mpr ⟨h.isDoubleDot hdot, h.symm.isDoubleDot hdot⟩

theorem isDriveLetter_eq (h : Recased P s t) : Url.isDriveLetter s = Url.isDriveLetter t :=
  Bool.eq_iff_iff.mpr ⟨h.isDriveLetter, h.symm.isDriveLetter⟩

variable {done done' : List Segment}

theorem climb (hdone : List.Forall₂ (Recased P) done done') : List.Forall₂ (Recased P) (climb done) (climb done') := by
  cases hdone with
  | nil => exact .nil
  | cons hs houter =>
    rw [Url.climb, Url.climb, hs.isDriveLetter_eq]
    split
    · exact .cons hs houter
    · exact houter

theorem settle (hdot : ¬P 0x2E) (hdone : List.Forall₂ (Recased P) done done') (hs : Recased P s t) :
    List.Forall₂ (Recased P) (settle done s) (settle done' t) := by
  rw [Url.settle, Url.settle, hs.isDoubleDot_eq hdot, hs.isSingleDot_eq hdot]
  split
  · exact climb hdone
  · split
    · exact hdone
    · exact .cons hs hdone

theorem resolve (hdot : ¬P 0x2E) {ss ts : List Segment} (hdone : List.Forall₂ (Recased P) done done')
    (h : List.Forall₂ (Recased P) ss ts) : List.Forall₂ (Recased P) (resolve done ss) (resolve done' ts) := by
  induction h generalizing done done' with
  | nil => exact hdone
  | cons hs hrest ih =>
    cases hrest with
    | nil =>
      rw [resolve_singleton, resolve_singleton, isPlainSegment, hs.isDoubleDot_eq hdot, hs.isSingleDot_eq hdot,
        ← isPlainSegment]
      split
      · exact .cons hs hdone
      · exact .cons .nil (settle hdot hdone hs)
    | cons ht hmore =>
      rw [resolve_cons _ _ (List.cons_ne_nil _ _), resolve_cons _ _ (List.cons_ne_nil _ _)]
      exact ih (settle hdot hdone hs)

theorem parsePath (hdot : ¬P 0x2E) (h : Recased P cs ds) : Recased P (parsePath cs) (parsePath ds) := by
  rw [parsePath_eq, parsePath_eq]
  exact joinSegments (List.forall₂_reverse_iff.mpr (resolve hdot .nil h.body.segments))

/-! ## Normal forms -/

theorem normalize (h : Recased P cs ds) :
    Recased (fun b => P b ∧ isUnreserved b = false) (normalize cs) (normalize ds) := by
  by_cases hcs : isPlain cs = true
  · rw [h.eq_of_percent_notMem (isPlain_iff.mp hcs).1]
    exact refl _
  · have hds : ¬isPlain ds = true := fun hplain => by
      rw [h.symm.eq_of_percent_notMem (isPlain_iff.mp hplain).1] at hcs
      exact hcs hplain
    have hdot : ¬(P 0x2E ∧ isUnreserved 0x2E = false) := fun hb => absurd hb.2 (by decide)
    rw [Http.normalize, if_neg hcs, Http.normalize, if_neg hds]
    exact h.decodeUnreserved.parsePath hdot

end Recased

end Portcullis.Http

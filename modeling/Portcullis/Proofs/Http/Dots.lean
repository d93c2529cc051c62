import Portcullis.Proofs.Http.Normal
import Portcullis.Proofs.Text.Blank

/-!
# Dot segments

A normal form has none, in whatever spelling.
-/

namespace Portcullis.Url

/-- The spellings of a full stop. -/
def fullStops : List (List Char) :=
  [['.'], ['%', '2', 'e'], ['%', '2', 'E']]

/-- The segment is one full stop, or two of them, each in any spelling. -/
def IsDots (s : Segment) : Prop :=
  s ∈ fullStops ∨ ∃ a ∈ fullStops, ∃ b ∈ fullStops, s = a ++ b

instance (s : Segment) : Decidable (IsDots s) :=
  inferInstanceAs (Decidable (s ∈ fullStops ∨ ∃ a ∈ fullStops, ∃ b ∈ fullStops, s = a ++ b))

theorem plainDots_eq_nil {s : Segment} : plainDots s = [] ↔ s = [] := by
  unfold plainDots
  split <;> simp

theorem plainDots_eq_cons {s rest : List Char} :
    plainDots s = '.' :: rest ↔ ∃ a ∈ fullStops, ∃ t, s = a ++ t ∧ plainDots t = rest := by
  constructor
  · intro h
    unfold plainDots at h
    split at h
    · rename_i t
      exact ⟨_, .tail _ (.head _), t, rfl, (List.cons.inj h).2⟩
    · rename_i t
      exact ⟨_, .tail _ (.tail _ (.head _)), t, rfl, (List.cons.inj h).2⟩
    · rename_i c t hsmall hlarge
      obtain ⟨rfl, ht⟩ := List.cons.inj h
      exact ⟨_, .head _, t, rfl, ht⟩
    · cases h
  · rintro ⟨a, ha, t, rfl, rfl⟩
    simp only [fullStops, List.mem_cons, List.not_mem_nil, or_false] at ha
    obtain rfl | rfl | rfl := ha
    · rfl
    · rfl
    · rfl

theorem isSingleDot_iff {s : Segment} : isSingleDot s = true ↔ s ∈ fullStops := by
  rw [isSingleDot, beq_iff_eq, plainDots_eq_cons]
  constructor
  · rintro ⟨a, ha, t, rfl, ht⟩
    rwa [plainDots_eq_nil.mp ht, List.append_nil]
  · intro hs
    exact ⟨s, hs, [], (List.append_nil s).symm, rfl⟩

theorem isDoubleDot_iff {s : Segment} : isDoubleDot s = true ↔ ∃ a ∈ fullStops, ∃ b ∈ fullStops, s = a ++ b := by
  rw [isDoubleDot, beq_iff_eq, plainDots_eq_cons]
  constructor
  · rintro ⟨a, ha, t, rfl, ht⟩
    exact ⟨a, ha, t, isSingleDot_iff.mp (beq_iff_eq.mpr ht), rfl⟩
  · rintro ⟨a, ha, b, hb, rfl⟩
    exact ⟨a, ha, b, rfl, beq_iff_eq.mp (isSingleDot_iff.mpr hb)⟩

theorem isPlainSegment_iff {s : Segment} : isPlainSegment s = true ↔ ¬IsDots s := by
  rw [isPlainSegment, IsDots, ← isSingleDot_iff, ← isDoubleDot_iff]
  simp [and_comm]

/-! ## Segments of normal forms -/

theorem splitOn_joinSegments {s : Segment} {ss : List Segment} (h : ∀ t ∈ s :: ss, '/' ∉ t) :
    (s ++ joinSegments ss).splitOn '/' = s :: ss := by
  induction ss generalizing s with
  | nil => rw [joinSegments, List.flatMap_nil, List.append_nil, Text.splitOn_of_notMem (h s List.mem_cons_self)]
  | cons t rest ih =>
    rw [joinSegments_cons, Text.splitOn_append_cons, Text.splitOn_of_notMem (h s List.mem_cons_self),
      ih fun u hu => h u (.tail _ hu)]
    rfl

theorem Clean.slash_notMem {s : Segment} (h : Clean s) : '/' ∉ s := by
  intro hs
  have hslash := h.no_slash '/' hs
  cases hslash

theorem Written.not_isDots {path : List Char} (h : Written path) : ∀ s ∈ path.splitOn '/', ¬IsDots s := by
  obtain ⟨ss, -, hclean, rfl⟩ := h
  have hsplit : (joinSegments ss).splitOn '/' = [] :: ss :=
    splitOn_joinSegments (List.forall_mem_cons.mpr ⟨List.not_mem_nil, fun s hs => (hclean s hs).slash_notMem⟩)
  rw [hsplit]
  intro s hs
  rcases List.mem_cons.mp hs with rfl | hs
  · exact isPlainSegment_iff.mp clean_nil.plain
  · exact isPlainSegment_iff.mp (hclean s hs).plain

end Portcullis.Url

namespace Portcullis.Http
open Url

theorem not_isDots_of_isPlain {path : List Char} (h : isPlain path = true) : ∀ s ∈ path.splitOn '/', ¬IsDots s := by
  intro s hs
  obtain ⟨hpercent, hdots⟩ := isPlain_iff.mp h
  obtain ⟨hsingle, hdouble⟩ := hdots s hs
  have hno : '%' ∉ s := fun hc => hpercent (mem_of_mem_splitOnP hs '%' hc).1
  refine isPlainSegment_iff.mp ?_
  simp [isPlainSegment, isSingleDot, isDoubleDot, plainDots_of_no_percent hno, hsingle, hdouble]

/-- No segment of a normal form is a dot segment, in whatever spelling, and the normal form of a path that starts with a
slash starts with one. -/
theorem normalizePath_not_isDots (p : String) :
    (∀ s ∈ (normalizePath p).toList.splitOn '/', ¬IsDots s) ∧
    (p.toList.head? = some '/' → (normalizePath p).toList.head? = some '/') := by
  rw [normalizePath, String.toList_ofList]
  by_cases hplain : isPlain p.toList = true
  · rw [normalize_of_isPlain hplain]
    exact ⟨not_isDots_of_isPlain hplain, id⟩
  · have hwritten := written_parsePath (decodeUnreserved p.toList)
    rw [normalize, if_neg hplain]
    refine ⟨hwritten.not_isDots, fun _ => ?_⟩
    obtain ⟨rest, hrest⟩ := hwritten.head
    rw [hrest]
    rfl

end Portcullis.Http

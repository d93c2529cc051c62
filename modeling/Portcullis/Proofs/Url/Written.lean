import Portcullis.Proofs.Url.Segments

/-!
# Written paths

What the reader of paths puts out is in written form, and reading it once more leaves it as it is.
-/

namespace Portcullis.Url

/-- A segment with nothing left to escape or to resolve. -/
structure Clean (s : Segment) : Prop where
  plain : isPlainSegment s = true
  safe : ∀ c ∈ s, isSafe c = true

def Written (path : List Char) : Prop :=
  ∃ ss : List Segment, ss ≠ [] ∧ (∀ s ∈ ss, Clean s) ∧ path = joinSegments ss

/-- What is left of a path to cut: no skipped characters, and no slash before the first segment. -/
def body (cs : List Char) : List Char :=
  match cs.filter (!isSkipped ·) with
  | c :: rest => if isSlash c then rest else c :: rest
  | [] => []

theorem parsePath_eq (cs : List Char) : parsePath cs = joinSegments (resolve [] (segments (body cs))).reverse :=
  rfl

theorem clean_nil : Clean [] :=
  ⟨by decide, fun _ h => absurd h List.not_mem_nil⟩

theorem clean_of_mem_resolve {cs : List Char} : ∀ s ∈ resolve [] (segments cs), Clean s :=
  resolve_forall clean_nil (fun _ h => absurd h List.not_mem_nil) fun _ hs hp => ⟨hp, isSafe_of_mem_segments hs⟩

theorem written_parsePath (cs : List Char) : Written (parsePath cs) := by
  refine ⟨(resolve [] (segments (body cs))).reverse, ?_, ?_, parsePath_eq cs⟩
  · exact fun h => resolve_ne_nil [] (segments_ne_nil _) (List.reverse_eq_nil_iff.mp h)
  · exact fun s hs => clean_of_mem_resolve s (List.mem_reverse.mp hs)

/-! ## Characters -/

theorem isSafe_iff {c : Char} : isSafe c = true ↔ isSlash c = false ∧ pathSet c = false := by
  simp [isSafe]

theorem kept_of_isSafe {c : Char} (h : isSafe c = true) : c ≠ '\\' ∧ pathSet c = false := by
  obtain ⟨hslash, hset⟩ := isSafe_iff.mp h
  refine ⟨?_, hset⟩
  rintro rfl
  cases hslash

theorem not_skipped_of_pathSet {c : Char} (h : pathSet c = false) : isSkipped c = false := by
  cases hs : isSkipped c with
  | false => rfl
  | true =>
    simp only [isSkipped, Bool.or_eq_true, beq_iff_eq] at hs
    obtain (rfl | rfl) | rfl := hs <;> exact absurd h (by decide)

theorem isSafe_or_slash_of_mem_joinSegments {ss : List Segment} (h : ∀ s ∈ ss, ∀ c ∈ s, isSafe c = true) {c : Char}
    (hc : c ∈ joinSegments ss) : c = '/' ∨ isSafe c = true := by
  obtain ⟨s, hs, hc⟩ := List.mem_flatMap.mp hc
  obtain rfl | hc := List.mem_cons.mp hc
  · exact .inl rfl
  · exact .inr (h s hs c hc)

theorem Written.not_mem {path : List Char} (h : Written path) {c : Char} (hc : c ∈ path) :
    c ≠ '\\' ∧ pathSet c = false := by
  obtain ⟨ss, _, hclean, rfl⟩ := h
  obtain rfl | hs := isSafe_or_slash_of_mem_joinSegments (fun s hs => (hclean s hs).safe) hc
  · decide
  · exact kept_of_isSafe hs

theorem filter_skipped {cs : List Char} (h : ∀ c ∈ cs, isSkipped c = false) : cs.filter (!isSkipped ·) = cs := by
  rw [List.filter_eq_self]
  intro c hc
  simp [h c hc]

/-! ## Reading a written path -/

theorem joinSegments_cons (s : Segment) (ss : List Segment) : joinSegments (s :: ss) = '/' :: (s ++ joinSegments ss) :=
  rfl

theorem Clean.no_slash {s : Segment} (h : Clean s) : ∀ c ∈ s, isSlash c = false :=
  fun c hc => (isSafe_iff.mp (h.safe c hc)).1

theorem Clean.percentEncode {s : Segment} (h : Clean s) : percentEncode pathSet s = s :=
  percentEncode_of_safe fun c hc => (isSafe_iff.mp (h.safe c hc)).2

theorem segments_of_safe {s : Segment} (h : ∀ c ∈ s, isSafe c = true) : segments s = [s] := by
  rw [segments_of_no_slash fun c hc => (isSafe_iff.mp (h c hc)).1,
    percentEncode_of_safe fun c hc => (isSafe_iff.mp (h c hc)).2]

theorem segments_joinSegments {s : Segment} {ss : List Segment} (h : ∀ t ∈ s :: ss, ∀ c ∈ t, isSafe c = true) :
    segments (s ++ joinSegments ss) = s :: ss := by
  have hs := h s List.mem_cons_self
  induction ss generalizing s with
  | nil => rw [joinSegments, List.flatMap_nil, List.append_nil, segments_of_safe hs]
  | cons t rest ih =>
    have hrest : ∀ u ∈ t :: rest, ∀ c ∈ u, isSafe c = true := fun u hu => h u (List.mem_cons_of_mem _ hu)
    rw [joinSegments_cons, segments_append s _ (by decide), ih hrest (hrest t List.mem_cons_self), segments_of_safe hs]
    rfl

/-- Segments with nothing to escape are read as they are, and resolved. -/
theorem parsePath_joinSegments {ss : List Segment} (hne : ss ≠ []) (h : ∀ s ∈ ss, ∀ c ∈ s, isSafe c = true) :
    parsePath (joinSegments ss) = joinSegments (resolve [] ss).reverse := by
  have hfilter : (joinSegments ss).filter (!isSkipped ·) = joinSegments ss := by
    refine filter_skipped fun c hc => ?_
    obtain rfl | hsafe := isSafe_or_slash_of_mem_joinSegments h hc
    · decide
    · exact not_skipped_of_pathSet (isSafe_iff.mp hsafe).2
  obtain ⟨s, rest, rfl⟩ := List.exists_cons_of_ne_nil hne
  have hbody : body (joinSegments (s :: rest)) = s ++ joinSegments rest := by
    simp only [body, hfilter]
    rfl
  rw [parsePath_eq, hbody, segments_joinSegments h]

theorem Written.parsePath {path : List Char} (h : Written path) : Url.parsePath path = path := by
  obtain ⟨ss, hne, hclean, rfl⟩ := h
  rw [parsePath_joinSegments hne fun s hs => (hclean s hs).safe, resolve_of_plain fun s hs => (hclean s hs).plain,
    List.append_nil, List.reverse_reverse]

theorem Written.head {path : List Char} (h : Written path) : ∃ rest, path = '/' :: rest := by
  obtain ⟨ss, hne, _, rfl⟩ := h
  cases ss with
  | nil => exact absurd rfl hne
  | cons s rest => exact ⟨_, joinSegments_cons s rest⟩

end Portcullis.Url

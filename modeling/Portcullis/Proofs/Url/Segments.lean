import Portcullis.Url.Path

/-!
# Segments of paths

Resolution takes the segments of a path onto a stack. What is on the stack before does not matter to segments that
do not climb out of their own part of it.
-/

namespace Portcullis.Url

/-- The escaped segments of what follows the first slash of a path. -/
def segments (cs : List Char) : List Segment :=
  (cs.splitOnP isSlash).map (percentEncode pathSet)

/-- A segment that stands for itself. -/
def isPlainSegment (s : Segment) : Bool :=
  !isDoubleDot s && !isSingleDot s

/-- One segment that is not the last one. -/
def settle (done : List Segment) (s : Segment) : List Segment :=
  if isDoubleDot s then climb done else if isSingleDot s then done else s :: done

/-- No segment climbs out of the root. -/
def Inside : List Segment → List Segment → Prop
  | _, [] => True
  | done, s :: rest => (isDoubleDot s = true → done ≠ []) ∧ Inside (settle done s) rest

def decideInside : ∀ done segs : List Segment, Decidable (Inside done segs)
  | _, [] => .isTrue trivial
  | done, s :: rest =>
    haveI := decideInside (settle done s) rest
    inferInstanceAs (Decidable ((isDoubleDot s = true → done ≠ []) ∧ Inside (settle done s) rest))

instance (done segs : List Segment) : Decidable (Inside done segs) :=
  decideInside done segs

/-! ## Resolution -/

theorem resolve_cons (done : List Segment) (s : Segment) {rest : List Segment} (h : rest ≠ []) :
    resolve done (s :: rest) = resolve (settle done s) rest := by
  cases rest with
  | nil => exact absurd rfl h
  | cons t rest =>
    simp only [resolve, settle]
    split
    · rfl
    · split <;> rfl

theorem isPlainSegment_eq_false {s : Segment} :
    isPlainSegment s = false ↔ isDoubleDot s = true ∨ isSingleDot s = true := by
  cases h : isDoubleDot s <;> simp [isPlainSegment, h]

theorem settle_of_plain {s : Segment} (h : isPlainSegment s = true) (done : List Segment) :
    settle done s = s :: done := by
  simp only [isPlainSegment, Bool.and_eq_true, Bool.not_eq_true'] at h
  simp only [settle, h.1, h.2, Bool.false_eq_true, if_false]

theorem settle_of_doubleDot {s : Segment} (h : isDoubleDot s = true) (done : List Segment) :
    settle done s = climb done := by
  rw [settle, if_pos h]

theorem settle_of_singleDot {s : Segment} (h : isSingleDot s = true) (done : List Segment) : settle done s = done := by
  have hdouble : isDoubleDot s = false := by
    rw [isSingleDot, beq_iff_eq] at h
    rw [isDoubleDot, h]
    rfl
  rw [settle, hdouble, h, if_neg Bool.false_ne_true, if_pos rfl]

/-- A dot segment at the end leaves an empty segment behind. -/
theorem resolve_singleton (done : List Segment) (s : Segment) :
    resolve done [s] = if isPlainSegment s then s :: done else [] :: settle done s := by
  cases hdouble : isDoubleDot s <;> cases hsingle : isSingleDot s <;>
    simp [resolve, settle, isPlainSegment, hdouble, hsingle]

theorem isDriveLetter_iff {s : Segment} :
    isDriveLetter s = true ↔ ∃ c d, s = [c, d] ∧ c.isAlpha = true ∧ (d = ':' ∨ d = '|') := by
  constructor
  · intro h
    obtain _ | ⟨c, _ | ⟨d, _ | _⟩⟩ := s
    · cases h
    · cases h
    · exact ⟨c, d, rfl, by simpa [isDriveLetter] using h⟩
    · cases h
  · rintro ⟨c, d, rfl, h⟩
    simpa [isDriveLetter] using h

theorem percent_notMem_of_isDriveLetter {s : Segment} (h : isDriveLetter s = true) : '%' ∉ s := by
  obtain ⟨c, d, rfl, hc, hd⟩ := isDriveLetter_iff.mp h
  simp only [List.mem_cons, List.not_mem_nil, or_false, not_or]
  constructor
  · rintro rfl
    exact absurd hc (by decide)
  · rintro rfl
    exact absurd hd (by decide)

theorem resolve_append (done as : List Segment) {bs : List Segment} (h : bs ≠ []) :
    resolve done (as ++ bs) = resolve (as.foldl settle done) bs := by
  induction as generalizing done with
  | nil => rfl
  | cons a as ih =>
    have hne : as ++ bs ≠ [] := List.append_ne_nil_of_right_ne_nil _ h
    rw [List.cons_append, resolve_cons done a hne, ih, List.foldl_cons]

theorem climb_append {done : List Segment} (h : done ≠ []) (base : List Segment) :
    climb (done ++ base) = climb done ++ base := by
  cases done with
  | nil => exact absurd rfl h
  | cons s outer =>
    simp only [List.cons_append, climb]
    split <;> rfl

theorem settle_append {done : List Segment} {s : Segment} (h : isDoubleDot s = true → done ≠ [])
    (base : List Segment) : settle (done ++ base) s = settle done s ++ base := by
  simp only [settle]
  split
  · rename_i hd
    exact climb_append (h hd) base
  · split <;> rfl

/-- Segments that stay inside leave alone what was on the stack before. -/
theorem resolve_of_inside {done segs : List Segment} (h : Inside done segs) (base : List Segment) :
    resolve (done ++ base) segs = resolve done segs ++ base := by
  induction segs generalizing done with
  | nil => rfl
  | cons s rest ih =>
    cases rest with
    | nil =>
      rw [resolve_singleton, resolve_singleton, settle_append h.1]
      split <;> rfl
    | cons t rest =>
      rw [resolve_cons _ s (List.cons_ne_nil t rest), resolve_cons _ s (List.cons_ne_nil t rest),
        settle_append h.1, ih h.2]

theorem resolve_of_plain {segs : List Segment} (h : ∀ s ∈ segs, isPlainSegment s = true) (done : List Segment) :
    resolve done segs = segs.reverse ++ done := by
  induction segs generalizing done with
  | nil => rfl
  | cons s rest ih =>
    have hs := h s List.mem_cons_self
    cases rest with
    | nil =>
      rw [resolve_singleton, if_pos hs]
      rfl
    | cons t rest =>
      rw [resolve_cons done s (List.cons_ne_nil t rest), ih fun u hu => h u (List.mem_cons_of_mem _ hu),
        settle_of_plain hs]
      simp

theorem mem_climb {done : List Segment} {s : Segment} (h : s ∈ climb done) : s ∈ done := by
  cases done with
  | nil => exact h
  | cons t outer =>
    simp only [climb] at h
    split at h
    · exact h
    · exact List.mem_cons_of_mem _ h

theorem settle_forall {P : Segment → Prop} {done : List Segment} {s : Segment} (hd : ∀ t ∈ done, P t)
    (hs : isPlainSegment s = true → P s) : ∀ t ∈ settle done s, P t := by
  cases hplain : isPlainSegment s with
  | true =>
    rw [settle_of_plain hplain]
    exact List.forall_mem_cons.mpr ⟨hs hplain, hd⟩
  | false =>
    rcases isPlainSegment_eq_false.mp hplain with hdouble | hsingle
    · rw [settle_of_doubleDot hdouble]
      exact fun t ht => hd t (mem_climb ht)
    · rwa [settle_of_singleDot hsingle]

/-- What comes out of resolution was on the stack, stands for itself, or is empty. -/
theorem resolve_forall {P : Segment → Prop} (hnil : P []) {done segs : List Segment} (hd : ∀ s ∈ done, P s)
    (hs : ∀ s ∈ segs, isPlainSegment s = true → P s) : ∀ s ∈ resolve done segs, P s := by
  induction segs generalizing done with
  | nil => exact hd
  | cons t rest ih =>
    have ht := hs t List.mem_cons_self
    cases rest with
    | nil =>
      rw [resolve_singleton]
      split
      · exact List.forall_mem_cons.mpr ⟨ht ‹_›, hd⟩
      · exact List.forall_mem_cons.mpr ⟨hnil, settle_forall hd ht⟩
    | cons u rest =>
      rw [resolve_cons done t (List.cons_ne_nil u rest)]
      exact ih (settle_forall hd ht) fun s h => hs s (List.mem_cons_of_mem _ h)

theorem resolve_ne_nil (done : List Segment) {segs : List Segment} (h : segs ≠ []) : resolve done segs ≠ [] := by
  induction segs generalizing done with
  | nil => exact absurd rfl h
  | cons s rest ih =>
    cases rest with
    | nil =>
      rw [resolve_singleton]
      split <;> exact List.cons_ne_nil _ _
    | cons t rest =>
      rw [resolve_cons done s (List.cons_ne_nil t rest)]
      exact ih _ (List.cons_ne_nil t rest)

/-- A climb out of the root of a path takes what was below it, and nothing is left of that. -/
theorem resolve_of_not_inside {base : Segment} (hb : isDriveLetter base = false) {done segs : List Segment}
    (h : ¬Inside done segs) : resolve (done ++ [base]) segs = resolve done segs := by
  induction segs generalizing done with
  | nil => exact absurd trivial h
  | cons s rest ih =>
    by_cases hs : isDoubleDot s = true → done ≠ []
    · have hrest : ¬Inside (settle done s) rest := fun hr => h ⟨hs, hr⟩
      have hne : rest ≠ [] := by
        rintro rfl
        exact hrest trivial
      rw [resolve_cons _ s hne, resolve_cons _ s hne, settle_append hs, ih hrest]
    · obtain ⟨hd, hnil⟩ := Classical.not_imp.mp hs
      obtain rfl : done = [] := Classical.not_not.mp hnil
      -- the first climb out of the root empties the stack, whether `base` was on it or not
      have hsettle : settle ([] ++ [base]) s = settle [] s := by
        rw [settle_of_doubleDot hd, settle_of_doubleDot hd]
        simp [climb, hb]
      cases rest with
      | nil =>
        rw [resolve_singleton, resolve_singleton, isPlainSegment_eq_false.mpr (.inl hd), hsettle]
        rfl
      | cons t rest =>
        rw [resolve_cons _ s (List.cons_ne_nil t rest), resolve_cons _ s (List.cons_ne_nil t rest), hsettle]

/-! ## Segments of a text -/

theorem segments_ne_nil (cs : List Char) : segments cs ≠ [] :=
  fun h => List.splitOnP_ne_nil isSlash cs (List.map_eq_nil_iff.mp h)

theorem segments_append (cs rest : List Char) {c : Char} (h : isSlash c = true) :
    segments (cs ++ c :: rest) = segments cs ++ segments rest := by
  rw [segments, List.splitOnP_append_cons cs rest h, List.map_append]
  rfl

theorem segments_of_no_slash {cs : List Char} (h : ∀ c ∈ cs, isSlash c = false) :
    segments cs = [percentEncode pathSet cs] := by
  rw [segments, List.splitOnP_eq_singleton h, List.map_singleton]

theorem joinSegments_append (ss ts : List Segment) :
    joinSegments (ss ++ ts) = joinSegments ss ++ joinSegments ts :=
  List.flatMap_append

/-! ## Escapes -/

theorem percentEncode_append (set : Char → Bool) (cs rest : List Char) :
    percentEncode set (cs ++ rest) = percentEncode set cs ++ percentEncode set rest :=
  List.flatMap_append

theorem percentEncode_of_safe {set : Char → Bool} {cs : List Char} (h : ∀ c ∈ cs, set c = false) :
    percentEncode set cs = cs := by
  induction cs with
  | nil => rfl
  | cons c rest ih =>
    rw [List.forall_mem_cons] at h
    simp only [percentEncode, List.flatMap_cons, h.1, Bool.false_eq_true, if_false, List.singleton_append]
    exact congrArg (c :: ·) (ih h.2)

/-- No character of a segment is a slash or is still to be escaped. -/
def isSafe (c : Char) : Bool :=
  !isSlash c && !pathSet c

theorem isSafe_upperHexDigit {n : Nat} (h : n < 16) : isSafe (Ascii.upperHexDigit n) = true := by
  revert h
  revert n
  decide

theorem isSafe_escape (b : UInt8) {c : Char} (h : c ∈ escape b) : isSafe c = true := by
  have hb : b.toNat < 256 := b.toNat_lt
  simp only [escape, List.mem_cons, List.not_mem_nil, or_false] at h
  obtain rfl | rfl | rfl := h
  · decide
  · exact isSafe_upperHexDigit (by omega)
  · exact isSafe_upperHexDigit (by omega)

theorem isSafe_percentEncode {cs : List Char} (h : ∀ c ∈ cs, isSlash c = false) :
    ∀ c ∈ percentEncode pathSet cs, isSafe c = true := by
  intro c hc
  obtain ⟨d, hd, hc⟩ := List.mem_flatMap.mp hc
  split at hc
  · obtain ⟨b, _, hb⟩ := List.mem_flatMap.mp hc
    exact isSafe_escape b hb
  · rename_i hset
    obtain rfl := List.mem_singleton.mp hc
    simp [isSafe, h _ hd, hset]

theorem mem_of_mem_splitOnP {p : Char → Bool} {cs s : List Char} (h : s ∈ cs.splitOnP p) :
    ∀ c ∈ s, c ∈ cs ∧ p c = false := by
  induction cs generalizing s with
  | nil =>
    rw [List.splitOnP_nil, List.mem_singleton] at h
    subst h
    intro c hc
    exact absurd hc List.not_mem_nil
  | cons d rest ih =>
    have step : ∀ {u : List Char}, u ∈ rest.splitOnP p → ∀ c ∈ u, c ∈ d :: rest ∧ p c = false :=
      fun hu c hc => ⟨List.mem_cons_of_mem d (ih hu c hc).1, (ih hu c hc).2⟩
    rw [List.splitOnP_cons_eq_if_modifyHead] at h
    split at h
    · obtain rfl | h := List.mem_cons.mp h
      · intro c hc
        exact absurd hc List.not_mem_nil
      · exact step h
    · rename_i hd
      cases hsplit : rest.splitOnP p with
      | nil => exact absurd hsplit (List.splitOnP_ne_nil p rest)
      | cons first others =>
        rw [hsplit, List.modifyHead_cons] at h
        rw [hsplit] at step
        obtain rfl | h := List.mem_cons.mp h
        · exact List.forall_mem_cons.mpr ⟨⟨List.mem_cons_self, by simpa using hd⟩, step List.mem_cons_self⟩
        · exact step (List.mem_cons_of_mem _ h)

theorem isSafe_of_mem_segments {cs : List Char} {s : Segment} (h : s ∈ segments cs) : ∀ c ∈ s, isSafe c = true := by
  obtain ⟨written, hw, rfl⟩ := List.mem_map.mp h
  exact isSafe_percentEncode fun c hc => (mem_of_mem_splitOnP hw c hc).2

end Portcullis.Url

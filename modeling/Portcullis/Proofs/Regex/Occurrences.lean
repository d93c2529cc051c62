import Portcullis.Proofs.Regex.Whole

/-!
# Occurrences

A search only goes forward, and finds the first position that a match begins at. So the matches that are replaced stand
one behind the other, none is left out between them, and a template that stands for the match itself writes back what
was there.
-/

namespace Portcullis

namespace Regex

variable {h : Haystack} {e : Expr} {text : Bool}

/-! ## Positions only grow -/

theorem Haystack.le_of_complete? {owed i c j : Nat} {p : Utf8.Partial} (hc : h.complete? owed p i = some (c, j)) :
    i ≤ j := by
  induction owed generalizing p i with
  | zero =>
    simp only [Haystack.complete?, Option.some.injEq, Prod.mk.injEq] at hc
    exact Nat.le_of_eq hc.2
  | succ owed ih =>
    simp only [Haystack.complete?, Option.bind_eq_bind, Option.bind_eq_some_iff] at hc
    obtain ⟨b, -, p', -, hc⟩ := hc
    exact Nat.le_of_succ_le (ih hc)

theorem Haystack.le_of_scalarAt? {i c j : Nat} (hs : h.scalarAt? i = some (c, j)) : i ≤ j := by
  simp only [Haystack.scalarAt?, Option.bind_eq_bind, Option.bind_eq_some_iff] at hs
  obtain ⟨b, -, hs⟩ := hs
  split at hs
  · simp only [Option.some.injEq, Prod.mk.injEq] at hs
    omega
  · exact Nat.le_of_succ_le (Haystack.le_of_complete? hs)
  · cases hs

theorem Inst.le_pos_of_mem_targets {i : Inst} {p q : Place} (hq : q ∈ i.targets h p) : p.2 ≤ q.2 := by
  cases i with
  | scalar s =>
    obtain ⟨-, c, hc, -⟩ := mem_targets_scalar.mp hq
    exact Haystack.le_of_scalarAt? hc
  | byte s =>
    obtain ⟨-, b, -, -, hpos⟩ := mem_targets_byte.mp hq
    omega
  | look l => exact Nat.le_of_eq (mem_targets_look.mp hq).2.2
  | save k => exact Nat.le_of_eq (mem_targets_save.mp hq).2
  | jump t => exact Nat.le_of_eq (mem_targets_jump.mp hq ▸ rfl)
  | split a b => rcases mem_targets_split.mp hq with rfl | rfl <;> exact Nat.le_refl _
  | accept => cases hq

theorem Reaches.bounds {program : Code} {p q : Place} (hr : Reaches program h p q) :
    p.2 ≤ q.2 ∧ (p.2 ≤ h.size → q.2 ≤ h.size) := by
  induction hr with
  | refl => exact ⟨Nat.le_refl _, id⟩
  | tail _ hstep ih =>
    obtain ⟨i, -, hq⟩ := hstep
    exact ⟨ih.1.trans (Inst.le_pos_of_mem_targets hq), fun hp => Inst.pos_le_of_mem_targets hq (ih.2 hp)⟩

theorem Expr.Matches.bounds {i j : Nat} (hm : e.Matches h i j) : i ≤ j ∧ (i ≤ h.size → j ≤ h.size) := by
  obtain ⟨pc, hr, -⟩ := Expr.reaches_accept.mpr hm
  exact hr.bounds

/-! ## What a search finds -/

/-- A match of the expression begins at the position. -/
def StartsAt (e : Expr) (text : Bool) (h : Haystack) (k : Nat) : Prop :=
  k ≤ h.size ∧ (text = true → h.isBoundary k = true) ∧ ∃ j, e.Matches h k j

/-- The match is one of the expression, and the first that begins at a position or behind it. -/
structure Match.FirstFrom (m : Match) (e : Expr) (text : Bool) (h : Haystack) (i : Nat) : Prop where
  behind : i ≤ m.start
  begins : StartsAt e text h m.start
  spans : e.Matches h m.start m.stop
  first : ∀ k, i ≤ k → k < m.start → ¬StartsAt e text h k

theorem searchFrom_some {count i : Nat} {tried : Tried} {m : Match}
    (hs : searchFrom e.program text h count i tried = some m) :
    i ≤ m.start ∧ m.start < i + count ∧ (text = true → h.isBoundary m.start = true) ∧ e.Matches h m.start m.stop ∧
      searchFrom e.program text h (m.start - i) i tried = none := by
  induction count generalizing i tried with
  | zero => cases hs
  | succ count ih =>
    -- a position that is passed over is passed over as well if the search ends before the match
    have hpass : ∀ {tried' : Tried}, searchFrom e.program text h count (i + 1) tried' = some m →
        (∀ n, searchFrom e.program text h (n + 1) i tried = searchFrom e.program text h n (i + 1) tried') →
        i ≤ m.start ∧ m.start < i + (count + 1) ∧ (text = true → h.isBoundary m.start = true) ∧
          e.Matches h m.start m.stop ∧ searchFrom e.program text h (m.start - i) i tried = none := by
      intro tried' hrest hskip
      obtain ⟨h₁, h₂, hb, hm, hnone⟩ := ih hrest
      refine ⟨by omega, by omega, hb, hm, ?_⟩
      rw [show m.start - i = m.start - (i + 1) + 1 by omega, hskip, hnone]
    simp only [searchFrom] at hs
    split at hs
    · rename_i hskip
      exact hpass hs fun n => by rw [searchFrom, if_pos hskip]
    · rename_i hskip
      split at hs
      · rename_i found tried' he
        cases hs
        rw [Expr.program] at he
        obtain ⟨j, hj, hr, hacc⟩ := explore_some he
        obtain rfl := List.mem_singleton.mp hj
        refine ⟨Nat.le_refl i, Nat.lt_add_of_pos_right (Nat.succ_pos count), by simpa using hskip,
          Expr.reaches_accept.mp ⟨found.pc, hr, hacc⟩, ?_⟩
        rw [Nat.sub_self, searchFrom]
      · rename_i tried' he
        exact hpass hs fun n => by simp only [searchFrom, if_neg hskip, he]

theorem search_some {i : Nat} {m : Match} (hs : search e.program text h i = some m) : m.FirstFrom e text h i := by
  obtain ⟨h₁, h₂, hb, hm, hnone⟩ := searchFrom_some hs
  refine ⟨h₁, ⟨by omega, hb, _, hm⟩, hm, fun k hk hlt hstarts => ?_⟩
  obtain ⟨-, hbk, j, hj⟩ := hstarts
  obtain ⟨pc, hr⟩ := Expr.reaches_accept.mpr hj
  have hcount : i + (m.start - i) ≤ h.size + 1 := by omega
  rw [Expr.program] at hnone
  have hsome := (searchFrom_isSome Tried.closed_empty hcount).mpr ⟨k, hk, by omega, hbk, (pc, j), hr⟩
  rw [hnone] at hsome
  cases hsome

theorem search_none {i : Nat} (hs : search e.program text h i = none) : ∀ k, i ≤ k → ¬StartsAt e text h k := by
  rintro k hk ⟨hsize, hb, j, hm⟩
  have hsome := search_isSome.mpr ⟨k, j, hk, hsize, hb, hm⟩
  rw [hs] at hsome
  cases hsome

/-! ## Successive matches -/

/-- The matches from a position on, one behind the other: between two of them no other one begins. Where a match has
just ended, an empty one does not count, and then no other one is looked for at that position. -/
inductive Successive (e : Expr) (text : Bool) (h : Haystack) : Nat → Bool → List Match → Prop where
  | done {i : Nat} {fresh : Bool} (bound : i ≤ h.size)
    (gap : ∀ k, i ≤ k → (k = i → fresh = true) → ¬StartsAt e text h k) : Successive e text h i fresh []
  | next {i : Nat} {fresh : Bool} {m : Match} {rest : List Match} (behind : i ≤ m.start)
    (begins : StartsAt e text h m.start) (spans : e.Matches h m.start m.stop)
    (gap : ∀ k, i ≤ k → k < m.start → (k = i → fresh = true) → ¬StartsAt e text h k)
    (more : Successive e text h m.stop false rest) : Successive e text h i fresh (m :: rest)

theorem Match.FirstFrom.next {m : Match} {i j : Nat} {fresh : Bool} {rest : List Match} (hm : m.FirstFrom e text h j)
    (hij : i ≤ j) (hgap : ∀ k, i ≤ k → k < j → k = i ∧ fresh = false)
    (hrest : Successive e text h m.stop false rest) : Successive e text h i fresh (m :: rest) := by
  refine .next (hij.trans hm.behind) hm.begins hm.spans (fun k hk hlt hfresh => ?_) hrest
  by_cases hj : j ≤ k
  · exact hm.first k hj hlt
  · obtain ⟨hki, hnot⟩ := hgap k hk (by omega)
    rw [hfresh hki] at hnot
    cases hnot

/-- Behind a match every further one ends behind it, so that there are no more of them than positions. -/
theorem successive_matchesFrom {fuel i : Nat} (hi : i ≤ h.size) (hfuel : h.size + 1 ≤ fuel + i) :
    Successive e text h i false (matchesFrom e.program text h fuel i (some i)) := by
  induction fuel generalizing i with
  | zero => omega
  | succ fuel ih =>
    simp only [matchesFrom]
    split
    · rename_i hnone
      exact .done hi fun k hk _ => search_none hnone k hk
    · rename_i m hsome
      have hm := search_some hsome
      have hbounds := hm.spans.bounds
      split
      · -- a match has just ended here, and the empty one does not count
        rename_i hempty
        simp only [Option.some.injEq] at hempty
        split
        · rename_i hnone
          refine .done hi fun k hk hfresh => search_none hnone k ?_
          by_contra hlt
          cases hfresh (by omega)
        · rename_i m' hsome'
          have hm' := search_some hsome'
          have hbounds' := hm'.spans.bounds
          have hbehind := hm'.behind
          exact hm'.next (by omega) (fun k hk hlt => ⟨by omega, rfl⟩)
            (ih (hbounds'.2 hm'.begins.1) (by omega))
      · -- the match ends behind the one before it, which pays for the step
        rename_i hmore
        have hlt : i < m.stop := by
          have hbehind := hm.behind
          by_contra hle
          exact hmore ⟨by omega, congrArg some (by omega)⟩
        exact hm.next (Nat.le_refl i) (fun k hk hlt => by omega) (ih (hbounds.2 hm.begins.1) (by omega))

theorem successive_allMatches (e : Expr) (text : Bool) (h : Haystack) :
    Successive e text h 0 true (allMatches e.program text h) := by
  rw [allMatches, matchesFrom]
  split
  · rename_i hnone
    exact .done (Nat.zero_le _) fun k hk _ => search_none hnone k hk
  · rename_i m hsome
    have hm := search_some hsome
    rw [if_neg (by simp)]
    exact hm.next (Nat.le_refl 0) (fun k hk hlt => by omega)
      (successive_matchesFrom (hm.spans.bounds.2 hm.begins.1) (by omega))

theorem allMatches_eq_nil : allMatches e.program text h = [] ↔ ∀ k, ¬StartsAt e text h k := by
  have hall := successive_allMatches e text h
  constructor
  · intro hnil k
    rw [hnil] at hall
    cases hall with
    | done bound gap => exact gap k (Nat.zero_le k) fun _ => rfl
  · intro hnone
    cases hms : allMatches e.program text h with
    | nil => rfl
    | cons m rest =>
      rw [hms] at hall
      cases hall with
      | next behind begins spans gap more => exact absurd begins (hnone _)

/-! ## Substitution -/

theorem Haystack.slice_append (h : Haystack) {i j k : Nat} (hij : i ≤ j) (hjk : j ≤ k) :
    h.slice i j ++ h.slice j k = h.slice i k := by
  simp only [Haystack.slice, ByteArray.data_extract]
  rw [← Array.toList_append, Array.extract_append_extract, Nat.min_eq_left hij, Nat.max_eq_right hjk]

theorem Haystack.slice_ofBytes (bs : Bytes) : (Haystack.ofBytes bs).slice 0 bs.length = bs := by
  simp [Haystack.slice, Haystack.ofBytes]

/-- A template that stands for the match itself writes back what was there. -/
theorem substitute_self (names : List (String × Nat)) {i : Nat} {fresh : Bool} {ms : List Match}
    (hs : Successive e text h i fresh ms) : substitute names [.group 0] h i ms = h.slice i h.size := by
  induction hs with
  | done => rfl
  | next behind begins spans gap more ih =>
    have hbounds := spans.bounds
    have hexpand : ∀ m : Match, expand names h m [.group 0] = h.slice m.start m.stop := fun m => by
      simp [expand, Match.group]
    rw [substitute, ih, hexpand, h.slice_append hbounds.1 (hbounds.2 begins.1),
      h.slice_append behind begins.1]

end Regex

/-! ## Patterns -/

namespace Regex

/-- The pattern matches somewhere. -/
def Occurs (r : Regex) (bs : Bytes) : Prop :=
  ∃ k, StartsAt r.expr (r.subject == .text) (.ofBytes bs) k

/-- The second text is the first one with each of its matches replaced by what the template gives for it. -/
def Replaced (r : Regex) (replacement : List Piece) (bs new : Bytes) : Prop :=
  ∃ ms, Successive r.expr (r.subject == .text) (.ofBytes bs) 0 true ms ∧
    new = substitute r.expr.names replacement (.ofBytes bs) 0 ms

variable {source : String} {r : Regex}

theorem replaceAll?_eq_none_iff (hr : ofText? source = some r) (replacement : List Piece) (bs : Bytes) :
    r.replaceAll? replacement bs = none ↔ ¬r.Occurs bs := by
  obtain ⟨a, e, -, -, -, rfl⟩ := compile?_eq_some hr
  have hnil : allMatches e.program (Subject.text == .text) (.ofBytes bs) = [] ↔ _ := allMatches_eq_nil
  rw [Occurs, not_exists, ← hnil, replaceAll?]
  cases allMatches e.program (Subject.text == .text) (.ofBytes bs) <;> simp

theorem replaced_replaceAll? (hr : ofText? source = some r) (replacement : List Piece) (bs : Bytes) :
    r.Replaced replacement bs ((r.replaceAll? replacement bs).getD bs) := by
  obtain ⟨a, e, -, -, -, rfl⟩ := compile?_eq_some hr
  refine ⟨_, successive_allMatches e (Subject.text == .text) (.ofBytes bs), ?_⟩
  rw [replaceAll?]
  cases allMatches e.program (Subject.text == .text) (.ofBytes bs) with
  | nil => exact (Haystack.slice_ofBytes bs).symm
  | cons m rest => rfl

theorem Replaced.eq_of_self {bs new : Bytes} (h : r.Replaced [.group 0] bs new) : new = bs := by
  obtain ⟨ms, hms, rfl⟩ := h
  rw [substitute_self _ hms, Haystack.size_ofBytes, Haystack.slice_ofBytes]

end Regex

end Portcullis

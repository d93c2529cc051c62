import Portcullis.Regex.Search

/-!
# What expressions match

A match is a pair of positions. The order in which alternatives are tried does not matter here.
-/

namespace Portcullis.Regex

/-- A relation between positions, so many times in a row. -/
def Turns (R : Nat → Nat → Prop) : Nat → Nat → Nat → Prop
  | 0, i, j => i = j
  | n + 1, i, j => ∃ k, R i k ∧ Turns R n k j

/-- The bytes stand from one position up to another. -/
def Haystack.Spells (h : Haystack) : Bytes → Nat → Nat → Prop
  | [], i, j => i = j
  | b :: rest, i, j => h.byte? i = some b ∧ h.Spells rest (i + 1) j

/-- The expression matches from one position up to another. A limit below the least number of turns counts as
that number. -/
def Expr.Matches (h : Haystack) : Expr → Nat → Nat → Prop
  | .empty, i, j => i = j
  | .literal bs, i, j => h.Spells bs i j
  | .scalar s, i, j => ∃ c, h.scalarAt? i = some (c, j) ∧ s.contains c = true
  | .byte s, i, j => ∃ b, h.byte? i = some b ∧ s.contains b.toNat = true ∧ j = i + 1
  | .look l, i, j => h.holds i l = true ∧ i = j
  | .capture _ _ body, i, j => body.Matches h i j
  | .repeated least most _ body, i, j =>
    ∃ n, least ≤ n ∧ (∀ m ∈ most, n ≤ max least m) ∧ Turns (body.Matches h) n i j
  | .cat a b, i, j => ∃ k, a.Matches h i k ∧ b.Matches h k j
  | .alt a b, i, j => a.Matches h i j ∨ b.Matches h i j

/-! ## Turns -/

theorem Turns.append {R : Nat → Nat → Prop} {m n i k j : Nat} (h : Turns R m i k) (h' : Turns R n k j) :
    Turns R (m + n) i j := by
  induction m generalizing i with
  | zero =>
    cases h
    simpa using h'
  | succ m ih =>
    obtain ⟨l, hl, h⟩ := h
    rw [Nat.succ_add]
    exact ⟨l, hl, ih h⟩

theorem Turns.split {R : Nat → Nat → Prop} {m n i j : Nat} (h : Turns R (m + n) i j) :
    ∃ k, Turns R m i k ∧ Turns R n k j := by
  induction m generalizing i with
  | zero => exact ⟨i, rfl, by simpa using h⟩
  | succ m ih =>
    rw [Nat.succ_add] at h
    obtain ⟨l, hl, h⟩ := h
    obtain ⟨k, hk, h⟩ := ih h
    exact ⟨k, ⟨l, hl, hk⟩, h⟩

/-! ## Sequences -/

/-- The expressions match one after another. -/
def MatchesAll (h : Haystack) : List Expr → Nat → Nat → Prop
  | [], i, j => i = j
  | e :: rest, i, j => ∃ k, e.Matches h i k ∧ MatchesAll h rest k j

variable {h : Haystack}

theorem matchesAll_append {es fs : List Expr} {i j : Nat} :
    MatchesAll h (es ++ fs) i j ↔ ∃ k, MatchesAll h es i k ∧ MatchesAll h fs k j := by
  induction es generalizing i with
  | nil => simp [MatchesAll]
  | cons e es ih =>
    simp only [List.cons_append, MatchesAll, ih]
    constructor
    · rintro ⟨k, he, l, hl, hf⟩
      exact ⟨l, ⟨k, he, hl⟩, hf⟩
    · rintro ⟨l, ⟨k, he, hl⟩, hf⟩
      exact ⟨k, he, l, hl, hf⟩

theorem Haystack.spells_append {bs cs : Bytes} {i j : Nat} :
    h.Spells (bs ++ cs) i j ↔ ∃ k, h.Spells bs i k ∧ h.Spells cs k j := by
  induction bs generalizing i with
  | nil => simp [Haystack.Spells]
  | cons b bs ih =>
    simp only [List.cons_append, Haystack.Spells, ih]
    constructor
    · rintro ⟨hb, k, hk, hc⟩
      exact ⟨k, ⟨hb, hk⟩, hc⟩
    · rintro ⟨k, ⟨hb, hk⟩, hc⟩
      exact ⟨hb, k, hk, hc⟩

theorem matchesAll_units (e : Expr) {i j : Nat} : MatchesAll h e.units i j ↔ e.Matches h i j := by
  induction e generalizing i j with
  | empty => exact Iff.rfl
  | cat a b iha ihb => simp only [Expr.units, matchesAll_append, iha, ihb, Expr.Matches]
  | _ => simp [Expr.units, MatchesAll]

theorem matchesAll_flatMap_units (es : List Expr) {i j : Nat} :
    MatchesAll h (es.flatMap Expr.units) i j ↔ MatchesAll h es i j := by
  induction es generalizing i with
  | nil => exact Iff.rfl
  | cons e es ih => simp only [List.flatMap_cons, matchesAll_append, matchesAll_units, ih, MatchesAll]

theorem matchesAll_joinLiterals (es : List Expr) {i j : Nat} :
    MatchesAll h (Expr.joinLiterals es) i j ↔ MatchesAll h es i j := by
  induction es generalizing i with
  | nil => exact Iff.rfl
  | cons e es ih =>
    cases e with
    | literal bs =>
      simp only [Expr.joinLiterals, MatchesAll, ← ih]
      split
      · rename_i cs more hj
        simp only [hj, MatchesAll, Expr.Matches, Haystack.spells_append]
        constructor
        · rintro ⟨k, ⟨l, hl, hk⟩, hm⟩
          exact ⟨l, hl, k, hk, hm⟩
        · rintro ⟨l, hl, k, hk, hm⟩
          exact ⟨k, ⟨l, hl, hk⟩, hm⟩
      · exact Iff.rfl
    | _ => simp only [Expr.joinLiterals, MatchesAll, ih]

theorem matches_ofUnits (es : List Expr) {i j : Nat} :
    (Expr.ofUnits es).Matches h i j ↔ MatchesAll h es i j := by
  induction es generalizing i with
  | nil => exact Iff.rfl
  | cons e es ih =>
    cases es with
    | nil => simp [Expr.ofUnits, MatchesAll]
    | cons f fs => simp only [Expr.ofUnits, Expr.Matches, ih, MatchesAll]

theorem matches_concat (es : List Expr) {i j : Nat} :
    (Expr.concat es).Matches h i j ↔ MatchesAll h es i j := by
  rw [Expr.concat, matches_ofUnits, matchesAll_joinLiterals, matchesAll_flatMap_units]

/-! ## Positions -/

theorem Haystack.byte?_lt {i : Nat} {b : UInt8} (hb : h.byte? i = some b) : i < h.size := by
  simp only [Haystack.byte?] at hb
  split at hb
  · assumption
  · cases hb

theorem Haystack.complete?_le {owed i c j : Nat} {p : Utf8.Partial} (hc : h.complete? owed p i = some (c, j))
    (hi : i ≤ h.size) : j ≤ h.size := by
  induction owed generalizing p i with
  | zero =>
    simp only [Haystack.complete?, Option.some.injEq, Prod.mk.injEq] at hc
    exact hc.2 ▸ hi
  | succ owed ih =>
    simp only [Haystack.complete?, Option.bind_eq_bind, Option.bind_eq_some_iff] at hc
    obtain ⟨b, hb, p', -, hc⟩ := hc
    exact ih hc (Haystack.byte?_lt hb)

theorem Haystack.scalarAt?_le {i c j : Nat} (hs : h.scalarAt? i = some (c, j)) : j ≤ h.size := by
  simp only [Haystack.scalarAt?, Option.bind_eq_bind, Option.bind_eq_some_iff] at hs
  obtain ⟨b, hb, hs⟩ := hs
  have hi := Haystack.byte?_lt hb
  split at hs
  · simp only [Option.some.injEq, Prod.mk.injEq] at hs
    exact hs.2 ▸ hi
  · exact Haystack.complete?_le hs hi
  · cases hs

end Portcullis.Regex

import Portcullis.Regex.Elaborate
import Portcullis.Regex.Size

/-!
# The parts of a sequence

An expression that a pattern means has no empty part in a sequence, so its size is the sum of its parts' sizes, and
an expression is no larger than a sequence it is part of.
-/

namespace Portcullis.Regex

/-- No part of a sequence is empty, in any of the alternatives. -/
def Expr.Tidy : Expr → Prop
  | .cat a b => a.Tidy ∧ b.Tidy ∧ a ≠ .empty ∧ b ≠ .empty
  | .alt a b => a.Tidy ∧ b.Tidy
  | _ => True

def Parts (es : List Expr) : Prop :=
  ∀ e ∈ es, e.Tidy ∧ e ≠ .empty

namespace Expr

/-! ## Sequences -/

theorem Tidy.parts {e : Expr} (h : e.Tidy) : Parts e.units := by
  induction e with
  | empty => exact fun e he => absurd he List.not_mem_nil
  | cat a b iha ihb =>
    intro e he
    rcases List.mem_append.mp he with he | he
    · exact iha h.1 e he
    · exact ihb h.2.1 e he
  | _ =>
    intro e he
    obtain rfl := List.mem_singleton.mp he
    exact ⟨h, by simp⟩

def totalSize : List Expr → Nat
  | [] => 0
  | e :: es => e.size + totalSize es

theorem totalSize_append (es fs : List Expr) : totalSize (es ++ fs) = totalSize es + totalSize fs := by
  induction es with
  | nil => exact (Nat.zero_add _).symm
  | cons e es ih => rw [List.cons_append, totalSize, ih, totalSize, Nat.add_assoc]

theorem Tidy.size_eq {e : Expr} (h : e.Tidy) (hne : e ≠ .empty) : e.size = totalSize e.units := by
  induction e with
  | empty => exact absurd rfl hne
  | cat a b iha ihb => rw [size, units, totalSize_append, iha h.1 h.2.2.1, ihb h.2.1 h.2.2.2]
  | _ => simp [units, totalSize]

theorem parts_joinLiterals {es : List Expr} (h : Parts es) : Parts (joinLiterals es) := by
  induction es with
  | nil => exact h
  | cons e es ih =>
    have hes : Parts (joinLiterals es) := ih fun e he => h e (List.mem_cons_of_mem _ he)
    cases e with
    | literal bs =>
      simp only [joinLiterals]
      split
      · rename_i cs more hj
        intro e he
        rcases List.mem_cons.mp he with rfl | he
        · exact ⟨trivial, by simp⟩
        · exact hes e (hj ▸ List.mem_cons_of_mem _ he)
      · intro e he
        rcases List.mem_cons.mp he with rfl | he
        · exact ⟨trivial, by simp⟩
        · exact hes e he
    | _ =>
      intro e he
      rcases List.mem_cons.mp he with rfl | he
      · exact h _ List.mem_cons_self
      · exact hes e he

theorem joinLiterals_ne_nil {e : Expr} {es : List Expr} : joinLiterals (e :: es) ≠ [] := by
  cases e with
  | literal bs =>
    simp only [joinLiterals]
    split <;> exact List.cons_ne_nil _ _
  | _ => exact List.cons_ne_nil _ _

theorem totalSize_joinLiterals (es : List Expr) : totalSize (joinLiterals es) = totalSize es := by
  induction es with
  | nil => rfl
  | cons e es ih =>
    cases e with
    | literal bs =>
      simp only [joinLiterals, totalSize, ← ih]
      split
      · rename_i cs more hj
        simp only [hj, totalSize, size, List.length_append, Nat.mul_add, Nat.add_assoc]
      · rfl
    | _ => simp only [joinLiterals, totalSize, ih]

theorem ofUnits_ne_empty {es : List Expr} (h : Parts es) (hne : es ≠ []) : ofUnits es ≠ .empty := by
  cases es with
  | nil => exact absurd rfl hne
  | cons e es =>
    cases es with
    | nil => exact (h e List.mem_cons_self).2
    | cons f fs => simp [ofUnits]

theorem tidy_ofUnits {es : List Expr} (h : Parts es) : (ofUnits es).Tidy := by
  induction es with
  | nil => trivial
  | cons e es ih =>
    have hes : Parts es := fun f hf => h f (List.mem_cons_of_mem _ hf)
    have he := h e List.mem_cons_self
    cases es with
    | nil => exact he.1
    | cons f fs => exact ⟨he.1, ih hes, he.2, ofUnits_ne_empty hes (List.cons_ne_nil _ _)⟩

theorem size_ofUnits {es : List Expr} (hne : es ≠ []) : (ofUnits es).size = totalSize es := by
  induction es with
  | nil => exact absurd rfl hne
  | cons e es ih =>
    cases es with
    | nil => simp [ofUnits, totalSize]
    | cons f fs => simp only [ofUnits, size, ih (List.cons_ne_nil _ _), totalSize]

theorem tidy_concat {es : List Expr} (h : ∀ e ∈ es, e.Tidy) : (concat es).Tidy := by
  refine tidy_ofUnits (parts_joinLiterals fun e he => ?_)
  obtain ⟨f, hf, he⟩ := List.mem_flatMap.mp he
  exact (h f hf).parts e he

/-! ## Alternatives -/

theorem Tidy.of_mem_branches {e b : Expr} (h : e.Tidy) (hb : b ∈ e.branches) : b.Tidy := by
  induction e with
  | alt x y ihx ihy =>
    rcases List.mem_append.mp hb with hb | hb
    · exact ihx h.1 hb
    · exact ihy h.2 hb
  | _ =>
    obtain rfl := List.mem_singleton.mp hb
    exact h

theorem tidy_ofBranches {es : List Expr} (h : ∀ e ∈ es, e.Tidy) : (ofBranches es).Tidy := by
  induction es with
  | nil => trivial
  | cons e es ih =>
    cases es with
    | nil => exact h e List.mem_cons_self
    | cons f fs => exact ⟨h e List.mem_cons_self, ih fun g hg => h g (List.mem_cons_of_mem _ hg)⟩

theorem tidy_ofScalars (s : CharSet) : (ofScalars s).Tidy := by
  simp only [ofScalars]
  split <;> trivial

theorem tidy_ofBytes (s : CharSet) : (ofBytes s).Tidy := by
  simp only [ofBytes]
  split <;> trivial

theorem tidy_of_ofSets? {es : List Expr} {e : Expr} (h : ofSets? es = some e) : e.Tidy := by
  simp only [ofSets?] at h
  cases hs : es.mapM asScalars? with
  | some sets =>
    rw [hs] at h
    cases h
    exact tidy_ofScalars _
  | none =>
    rw [hs] at h
    cases hb : es.mapM asBytes? with
    | some sets =>
      rw [hb] at h
      cases h
      exact tidy_ofBytes _
    | none =>
      rw [hb] at h
      cases h

theorem tidy_oneOf {es : List Expr} (h : ∀ e ∈ es, e.Tidy) : (oneOf es).Tidy := by
  simp only [oneOf]
  split
  · trivial
  · exact h _ List.mem_cons_self
  · cases hs : ofSets? es with
    | none => exact tidy_ofBranches h
    | some e => exact tidy_of_ofSets? hs

theorem mem_of_mem_commonPrefix {ls : List (List Expr)} {e : Expr} (h : e ∈ commonPrefix ls) : ∃ l ∈ ls, e ∈ l := by
  cases ls with
  | nil => exact absurd h List.not_mem_nil
  | cons l ls =>
    cases ls with
    | nil => exact ⟨l, List.mem_cons_self, h⟩
    | cons l' ls =>
      simp only [commonPrefix, List.mem_map] at h
      obtain ⟨p, hp, rfl⟩ := h
      have hzip := (List.takeWhile_sublist _).subset hp
      exact ⟨l, List.mem_cons_self, (List.of_mem_zip hzip).1⟩

theorem tidy_choice {es : List Expr} (h : ∀ e ∈ es, e.Tidy) : (choice es).Tidy := by
  have hbranches : ∀ b ∈ es.flatMap branches, b.Tidy := by
    intro b hb
    obtain ⟨e, he, hb⟩ := List.mem_flatMap.mp hb
    exact (h e he).of_mem_branches hb
  have hunits : ∀ l ∈ (es.flatMap branches).map units, Parts l := by
    intro l hl
    obtain ⟨b, hb, rfl⟩ := List.mem_map.mp hl
    exact (hbranches b hb).parts
  have hchoice : ∀ shared : List Expr, (∀ e ∈ shared, e.Tidy) → (if shared.isEmpty then oneOf (es.flatMap branches)
      else concat (shared ++ [oneOf ((((es.flatMap branches).map units).map fun l =>
        concat (l.drop shared.length)).flatMap branches)])).Tidy := by
    intro shared hshared
    split
    · exact tidy_oneOf hbranches
    · refine tidy_concat fun e he => ?_
      rcases List.mem_append.mp he with he | he
      · exact hshared e he
      · obtain rfl := List.mem_singleton.mp he
        refine tidy_oneOf fun f hf => ?_
        obtain ⟨g, hg, hf⟩ := List.mem_flatMap.mp hf
        obtain ⟨l, hl, rfl⟩ := List.mem_map.mp hg
        refine Tidy.of_mem_branches (tidy_concat fun u hu => ?_) hf
        exact (hunits l hl u (List.drop_subset _ _ hu)).1
  refine hchoice _ fun e he => ?_
  split at he
  · obtain ⟨l, hl, he⟩ := mem_of_mem_commonPrefix he
    exact (hunits l hl e he).1
  · exact absurd he List.not_mem_nil

theorem tidy_repeats {min : Nat} {max : Option Nat} {greedy : Bool} {e : Expr} (h : e.Tidy) :
    (repeats min max greedy e).Tidy := by
  simp only [repeats]
  generalize (if e.isWidthless = true then _ else _) = limits
  split
  · trivial
  · split
    · exact h
    · trivial

end Expr

/-! ## Patterns -/

theorem tidy_ofSet (f : Flags) (s : CharSet) : (f.ofSet s).Tidy := by
  simp only [Flags.ofSet]
  split
  · exact Expr.tidy_ofScalars s
  · exact Expr.tidy_ofBytes s

theorem tidy_literal? {subject : Subject} {f : Flags} {l : Literal} {e : Expr} (h : f.literal? subject l = some e) :
    e.Tidy := by
  simp only [Flags.literal?, Option.bind_eq_bind, Option.bind_eq_some_iff] at h
  obtain ⟨raw, -, h⟩ := h
  split at h
  · cases h
    trivial
  · split at h
    · cases h
      trivial
    · split at h
      · cases h
        split
        · exact Expr.tidy_ofScalars _
        · trivial
      · cases h
        split
        · exact Expr.tidy_ofBytes _
        · trivial

theorem tidy_dot? {subject : Subject} {f : Flags} {e : Expr} (h : f.dot? subject = some e) : e.Tidy := by
  simp only [Flags.dot?] at h
  split at h
  · cases h
  · cases h
    exact tidy_ofSet _ _

mutual

theorem tidy_expr? {subject : Subject} {f f' : Flags} {e : Expr} :
    (a : Ast) → Flags.expr? subject f a = some (e, f') → e.Tidy
  | .empty, h => by cases h; trivial
  | .flags _, h => by cases h; trivial
  | .literal l, h => by
    simp only [Flags.expr?, Option.map_eq_some_iff] at h
    obtain ⟨e, he, h⟩ := h
    cases h
    exact tidy_literal? he
  | .dot, h => by
    simp only [Flags.expr?, Option.map_eq_some_iff] at h
    obtain ⟨e, he, h⟩ := h
    cases h
    exact tidy_dot? he
  | .anchor _, h => by cases h; trivial
  | .cls _, h => by
    simp only [Flags.expr?, Option.map_eq_some_iff] at h
    obtain ⟨s, -, h⟩ := h
    cases h
    exact tidy_ofSet _ _
  | .bracketed _, h => by
    simp only [Flags.expr?, Option.map_eq_some_iff] at h
    obtain ⟨s, -, h⟩ := h
    cases h
    exact tidy_ofSet _ _
  | .group (.capture _ _) _, h => by
    simp only [Flags.expr?, Option.map_eq_some_iff] at h
    obtain ⟨p, -, h⟩ := h
    cases h
    trivial
  | .group (.plain _) body, h => by
    simp only [Flags.expr?, Option.map_eq_some_iff] at h
    obtain ⟨⟨e, f⟩, hp, h⟩ := h
    cases h
    exact tidy_expr? body hp
  | .repeated _ _ _ body, h => by
    simp only [Flags.expr?, Option.map_eq_some_iff] at h
    obtain ⟨⟨e, f⟩, hp, h⟩ := h
    cases h
    exact Expr.tidy_repeats (tidy_expr? body hp)
  | .concat items, h => by
    simp only [Flags.expr?, Option.map_eq_some_iff] at h
    obtain ⟨⟨es, f⟩, hp, h⟩ := h
    cases h
    exact Expr.tidy_concat (tidy_exprs? items hp)
  | .alt branches, h => by
    simp only [Flags.expr?, Option.map_eq_some_iff] at h
    obtain ⟨⟨es, f⟩, hp, h⟩ := h
    cases h
    exact Expr.tidy_choice (tidy_exprs? branches hp)

theorem tidy_exprs? {subject : Subject} {f f' : Flags} {es : List Expr} :
    (items : List Ast) → Flags.exprs? subject f items = some (es, f') → ∀ e ∈ es, e.Tidy
  | [], h => by
    cases h
    exact fun e he => absurd he List.not_mem_nil
  | a :: rest, h => by
    simp only [Flags.exprs?, Option.bind_eq_bind, Option.bind_eq_some_iff] at h
    obtain ⟨⟨e, g⟩, ha, ⟨es, g'⟩, hrest, h⟩ := h
    cases h
    intro x hx
    rcases List.mem_cons.mp hx with rfl | hx
    · exact tidy_expr? a ha
    · exact tidy_exprs? rest hrest x hx

end

/-- An expression is no larger than a sequence with conditions around it. -/
theorem Expr.Tidy.size_le_concat {e : Expr} (h : e.Tidy) (first last : Look) :
    e.size ≤ (Expr.concat [.look first, e, .look last]).size := by
  have hsize : (Expr.concat [.look first, e, .look last]).size =
      stateBytes + (Expr.totalSize e.units + stateBytes) := by
    have hunits : [Expr.look first, e, .look last].flatMap Expr.units = .look first :: (e.units ++ [.look last]) := by
      simp [Expr.units]
    rw [Expr.concat, hunits, Expr.size_ofUnits Expr.joinLiterals_ne_nil, Expr.totalSize_joinLiterals,
      Expr.totalSize, Expr.totalSize_append]
    rfl
  rw [hsize]
  by_cases hne : e = .empty
  · subst hne
    exact Nat.le_add_right _ _
  · rw [h.size_eq hne]
    omega

end Portcullis.Regex

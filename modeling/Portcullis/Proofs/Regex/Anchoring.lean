import Portcullis.Proofs.Regex.Enclosure
import Portcullis.Policy.Scope

/-!
# Patterns between the ends of a text

A pattern that has to match whole texts is compiled in a group between the two ends. As long as the pattern closes
no group that it did not open, that is the pattern by itself between the two ends.
-/

namespace Portcullis.Regex

variable {cs cs' : List Char} {base : OpenGroup} {s : State}

/-! ## Stray parentheses -/

/-- Reading the text, a closing parenthesis comes up while no group is open. -/
inductive StrayClose : State → List Char → Prop
  | here {s : State} {cs rest : List Char} : skip s.verbose cs = ')' :: rest → s.groups = [] → StrayClose s cs
  | later {s s' : State} {cs rest rest' : List Char} {c : Char} : skip s.verbose cs = c :: rest →
      step? s c rest = some (s', rest') → StrayClose s' rest' → StrayClose s cs

theorem StrayClose.run?_eq_none (h : StrayClose s cs) (fuel : Nat) : run? fuel s cs = none := by
  induction h generalizing fuel with
  | here hskip hg =>
    cases fuel with
    | zero => rfl
    | succ fuel => simp [run?, hskip, step?, State.close?, hg]
  | later hskip hstep _ ih =>
    cases fuel with
    | zero => rfl
    | succ fuel => simp [run?, hskip, hstep, ih]

/-! ## Groups that stay open -/

theorem namedGroup?_groups {s' : State} {rest : List Char} (h : namedGroup? s cs = some (s', rest)) :
    s.groups <:+ s'.groups := by
  simp only [namedGroup?, Option.bind_eq_bind, Option.bind_eq_some_iff] at h
  obtain ⟨⟨name, r⟩, -, h⟩ := h
  split at h
  · cases h
  · cases h
    exact List.suffix_cons _ _

theorem flagGroup?_groups {s' : State} {rest : List Char} (h : flagGroup? s cs = some (s', rest)) :
    s.groups <:+ s'.groups := by
  simp only [flagGroup?, Option.bind_eq_bind, Option.bind_eq_some_iff] at h
  obtain ⟨⟨change, r⟩, -, h⟩ := h
  split at h
  · split at h
    · cases h
    · cases h
      exact List.suffix_refl _
  · cases h
    exact List.suffix_cons _ _
  · cases h

theorem openGroup?_groups {s' : State} {rest : List Char} (h : openGroup? s cs = some (s', rest)) :
    s.groups <:+ s'.groups := by
  simp only [openGroup?] at h
  split at h
  case h_5 | h_6 => exact namedGroup?_groups h
  case h_7 => exact flagGroup?_groups h
  case h_8 =>
    cases h
    exact List.suffix_cons _ _
  all_goals cases h

theorem State.repeat?_groups {s' : State} {min : Nat} {max : Option Nat} {greedy : Bool}
    (h : s.repeat? min max greedy = some s') : s'.groups = s.groups := by
  simp only [State.repeat?] at h
  split at h
  case h_4 =>
    cases h
    rfl
  all_goals cases h

theorem counted?_groups {s' : State} {rest : List Char} (h : counted? s cs = some (s', rest)) :
    s'.groups = s.groups := by
  simp only [counted?_eq, countEnd?, Option.bind_eq_some_iff] at h
  obtain ⟨_, -, low, -, _, -, h⟩ := h
  split at h
  · split at h
    · simp only [Option.bind_eq_bind, Option.bind_eq_some_iff] at h
      obtain ⟨t, ht, h⟩ := h
      cases h
      exact State.repeat?_groups ht
    · cases h
  · cases h

theorem uncounted?_groups {s' : State} {min : Nat} {max : Option Nat} {rest : List Char}
    (h : uncounted? s min max cs = some (s', rest)) : s'.groups = s.groups := by
  simp only [uncounted?, Option.map_eq_some_iff] at h
  obtain ⟨t, ht, h⟩ := h
  cases h
  exact State.repeat?_groups ht

/-- Only a closing parenthesis closes a group. -/
theorem step?_groups {s' : State} {c : Char} {rest : List Char} (h : step? s c cs = some (s', rest)) (hc : c ≠ ')') :
    s.groups <:+ s'.groups := by
  simp only [step?] at h
  split at h
  case h_1 => exact openGroup?_groups h
  case h_2 => exact absurd rfl hc
  case h_4 =>
    simp only [Option.map_eq_some_iff] at h
    obtain ⟨_, -, h⟩ := h
    cases h
    exact List.suffix_refl _
  case h_5 | h_6 | h_7 => exact uncounted?_groups h ▸ List.suffix_refl _
  case h_8 => exact counted?_groups h ▸ List.suffix_refl _
  case h_12 =>
    simp only [Option.map_eq_some_iff] at h
    obtain ⟨⟨p, r⟩, -, h⟩ := h
    cases p <;> cases h <;> exact List.suffix_refl _
  all_goals
    cases h
    exact List.suffix_refl _

theorem run?_nil (fuel : Nat) (s : State) : run? (fuel + 1) s [] = some s := by
  have hskip : skip s.verbose [] = [] := by cases s.verbose <;> rfl
  simp only [run?, hskip]

theorem run?_dollar (fuel : Nat) (s : State) : run? (fuel + 1) s ['$'] = run? fuel (s.push (.anchor .lineEnd)) [] := by
  have hskip : skip s.verbose ['$'] = ['$'] := by cases s.verbose <;> rfl
  simp only [run?, hskip, step?]

/-- What is left of the closing closes no more groups. -/
theorem run?_groups_of_suffix {t : State} {fuel : Nat} (hs : cs <:+ ['$']) (hg : s.groups ≠ [])
    (h : run? fuel s cs = some t) : t.groups ≠ [] := by
  have hnil : ∀ (fuel : Nat) (s : State), s.groups ≠ [] → run? fuel s [] = some t → t.groups ≠ [] := by
    intro fuel s hg h
    cases fuel with
    | zero => cases h
    | succ fuel =>
      rw [run?_nil, Option.some.injEq] at h
      exact h ▸ hg
  rcases List.suffix_cons_iff.mp hs with rfl | hs
  · cases fuel with
    | zero => cases h
    | succ fuel =>
      rw [run?_dollar] at h
      exact hnil fuel (s.push (.anchor .lineEnd)) hg h
  · obtain rfl := List.suffix_nil.mp hs
    exact hnil fuel s hg h

/-! ## Whole patterns -/

/-- The state behind the group and the end of the text, given the state in which the group ended. -/
def State.leave (base : OpenGroup) (t : State) : State :=
  { t with
    level := (base.outer.push (.group base.wrap t.level.body)).push (.anchor .lineEnd)
    groups := []
    verbose := base.verbose }

/-- A run inside of the group that ends outside of all groups is the run by itself, followed by the closing. -/
theorem run?_within {t : State} {fuel fuel' : Nat} (hc : Closes cs cs') (hf : cs.length < fuel)
    (hf' : cs'.length < fuel') (hstray : ¬StrayClose s cs) (hrun : run? fuel' (s.within base) cs' = some t)
    (hg : t.groups = []) : ∃ u, run? fuel s cs = some u ∧ u.groups = [] ∧ t = u.leave base := by
  induction fuel generalizing fuel' s cs cs' with
  | zero => cases hf
  | succ fuel ih =>
    obtain ⟨fuel', rfl⟩ := Nat.exists_eq_add_of_lt (Nat.zero_lt_of_lt hf')
    rw [Nat.zero_add] at hf' hrun
    have hv : (s.within base).verbose = s.verbose := rfl
    have hopen : (s.within base).groups ≠ [] := List.append_ne_nil_of_right_ne_nil _ (List.cons_ne_nil _ _)
    rcases hc.skip_cases s.verbose with ⟨h, h'⟩ | ⟨h, h'⟩ | ⟨c, r, r', h, h', hr, hl, hl'⟩
    · simp only [run?, hv, h', closing, step?] at hrun
      -- the text is at its end, and the closing is read next
      cases hgroups : s.groups with
      | nil =>
        have hlen := length_skip_le s.verbose cs'
        rw [h'] at hlen
        obtain ⟨k, rfl⟩ := Nat.exists_eq_add_of_le (Nat.lt_succ_iff.mp (Nat.lt_of_le_of_lt hlen hf'))
        rw [show closing.length + k = k + 1 + 1 by simp only [closing, List.length_cons, List.length_nil]; omega] at hrun
        simp only [State.close?, State.within, hgroups, List.nil_append, Option.map_some, run?_dollar, run?_nil,
          Option.some.injEq] at hrun
        exact ⟨s, by simp only [run?, h], hgroups, hrun.symm⟩
      | cons g groups =>
        simp only [State.close?, State.within, hgroups, List.cons_append, Option.map_some] at hrun
        exact absurd hg (run?_groups_of_suffix (List.suffix_refl _)
          (List.append_ne_nil_of_right_ne_nil _ (List.cons_ne_nil _ _)) hrun)
    · simp only [run?, hv, h', Option.some.injEq] at hrun
      -- a comment took the closing in, so the group around all others is still open
      exact absurd hg (hrun ▸ hopen)
    · have hclose : c = ')' → s.groups ≠ [] := fun hc hnil => hstray (.here (hc ▸ h) hnil)
      have hstep : Encloses base (· <:+ ['$']) r r' (step? s c r) (step? (s.within base) c r') :=
        step?_encloses hr hclose
      have hgroups : ∀ y m, step? (s.within base) c r' = some (y, m) → step? s c r = none → y.groups ≠ [] := by
        intro y m hy hnone
        by_cases hp : c = ')'
        · subst hp
          cases hg : s.groups with
          | nil => exact absurd hg (hclose rfl)
          | cons g groups => simp [step?, State.close?, hg] at hnone
        · intro hnil
          have := step?_groups hy hp
          rw [hnil, List.suffix_nil] at this
          exact hopen this
      simp only [run?, hv, h'] at hrun
      generalize hb : step? (s.within base) c r' = b at hstep hrun hgroups
      cases ha : step? s c r with
      | none =>
        rw [ha] at hstep
        cases hstep with
        | fails => cases hrun
        | late hs => exact absurd hg (run?_groups_of_suffix hs (hgroups _ _ rfl ha) hrun)
      | some p =>
        obtain ⟨u, m⟩ := p
        rw [ha] at hstep
        cases hstep with
        | both hm h₁ h₂ =>
          obtain ⟨v, hrun', hv⟩ := ih hm (by omega) (by omega) (fun hs => hstray (.later h ha hs)) hrun
          exact ⟨v, by simp only [run?, h, ha]; exact hrun', hv⟩

/-- The group that a whole pattern is read in. -/
def anchorGroup : OpenGroup where
  outer := { items := [.anchor .lineStart] }
  wrap := .plain []
  verbose := false

/-- The pattern between the two ends of the text. -/
def Ast.anchored (a : Ast) : Ast :=
  .concat [.anchor .lineStart, .group (.plain []) a, .anchor .lineEnd]

theorem run?_anchored {fuel : Nat} {p : List Char} :
    run? (fuel + 2) {} ('^' :: '(' :: '?' :: ':' :: p) = run? fuel (State.within anchorGroup {}) p :=
  rfl

/-- If the pattern closes only its own groups, the anchored text writes the pattern between the two ends. -/
theorem parse?_anchored {source : String} {a : Ast} (h : parse? (Policy.WholePattern.anchored source).toList = some a)
    (hstray : ¬StrayClose {} source.toList) : ∃ b, parse? source.toList = some b ∧ a = b.anchored := by
  have htext : (Policy.WholePattern.anchored source).toList = '^' :: '(' :: '?' :: ':' :: (source.toList ++ closing) := by
    simp [Policy.WholePattern.anchored, closing]
  rw [htext] at h
  simp only [parse?, Option.bind_eq_bind, Option.bind_eq_some_iff] at h
  obtain ⟨t, hrun, h⟩ := h
  split at h
  · cases h
  rename_i hgroups
  split at h
  · rename_i hdepth
    simp only [List.length_cons, run?_anchored] at hrun
    obtain ⟨u, hu, hug, rfl⟩ := run?_within (.text source.toList) (Nat.lt_succ_self _) (by omega) hstray hrun
      (by simpa using hgroups)
    cases h
    have hbody : (u.leave anchorGroup).level.body = u.level.body.anchored := rfl
    have hle : u.level.body.depth ≤ u.level.body.anchored.depth := by
      simp only [Ast.anchored, Ast.depth, Ast.depthOf]
      omega
    rw [hbody] at hdepth
    refine ⟨u.level.body, ?_, hbody⟩
    simp [parse?, hu, hug, Nat.le_trans hle hdepth]
  · cases h

end Portcullis.Regex

import Mathlib.Data.Finset.Card
import Portcullis.Proofs.Regex.Code

/-!
# Backtracking

A place is tried once. What was tried is closed under steps up to the jobs that are left, so when no job is left,
acceptance is out of its reach.
-/

namespace Portcullis.Regex

variable {program : Code} {h : Haystack} {tried : Tried}

/-! ## Tried places -/

def Place.number (program : Code) (p : Place) : Nat :=
  p.2 * (program.length + 1) + p.1

theorem Place.number_inj {p q : Place} (hp : p.1 < program.length) (hq : q.1 < program.length)
    (hn : p.number program = q.number program) : p = q := by
  have hdiv : ∀ i pc, pc < program.length → (i * (program.length + 1) + pc) / (program.length + 1) = i := by
    intro i pc hpc
    rw [Nat.mul_comm, Nat.mul_add_div (by omega), Nat.div_eq_of_lt (by omega), Nat.add_zero]
  obtain ⟨pc, i⟩ := p
  obtain ⟨pc', i'⟩ := q
  simp only [Place.number] at hp hq hn
  have hpos : i = i' := by rw [← hdiv i pc hp, hn, hdiv i' pc' hq]
  subst hpos
  rw [Nat.add_left_cancel hn]

theorem Place.number_lt {p : Place} {size : Nat} (hp : p.1 < program.length) (hi : p.2 ≤ size) :
    p.number program < (size + 1) * (program.length + 1) := by
  have := Nat.mul_le_mul_right (program.length + 1) hi
  rw [Place.number, Nat.succ_mul]
  omega

/-- The place was tried, or there is nothing to try. -/
def Tried.Settles (tried : Tried) (program : Code) (p : Place) : Prop :=
  program[p.1]? = none ∨ tried.contains (p.number program) = true

/-- Steps from places that were tried lead to such places again, or to jobs that are left; no such place accepts. -/
def Tried.Closed (tried : Tried) (program : Code) (h : Haystack) (jobs : List Job) : Prop :=
  ∀ (p : Place) (i : Inst), program[p.1]? = some i → tried.contains (p.number program) = true →
    i ≠ .accept ∧ ∀ q ∈ i.targets h p, tried.Settles program q ∨ q ∈ jobs.map Job.place

def Tried.remaining (tried : Tried) (program : Code) (h : Haystack) : Nat :=
  ((Finset.range ((h.size + 1) * (program.length + 1))).filter fun n => tried.contains n = false).card

theorem Tried.closed_empty : Tried.Closed {} program h [] := by
  intro p i _ ht
  simp at ht

theorem Tried.remaining_le : tried.remaining program h ≤ (h.size + 1) * (program.length + 1) :=
  (Finset.card_filter_le _ _).trans_eq (Finset.card_range _)

theorem remaining_insert {n : Nat} (hn : n < (h.size + 1) * (program.length + 1))
    (ht : tried.contains n = false) : Tried.remaining (tried.insert n) program h < tried.remaining program h := by
  refine Finset.card_lt_card ⟨fun m hm => ?_, fun hsub => ?_⟩
  · simp only [Finset.mem_filter, Std.HashSet.contains_insert, Bool.or_eq_false_iff] at hm ⊢
    exact ⟨hm.1, hm.2.2⟩
  · have := hsub (Finset.mem_filter.mpr ⟨Finset.mem_range.mpr hn, ht⟩)
    simp [Std.HashSet.contains_insert] at this

theorem Tried.Settles.insert {n : Nat} {p : Place} (hs : tried.Settles program p) :
    Tried.Settles (tried.insert n) program p := by
  refine hs.imp_right fun ht => ?_
  rw [Std.HashSet.contains_insert, ht, Bool.or_true]

/-- A job that is settled need not be kept. -/
theorem Tried.Closed.drop {j : Job} {rest : List Job} (hc : tried.Closed program h (j :: rest))
    (hs : tried.Settles program j.place) : tried.Closed program h rest := by
  intro p i hp ht
  obtain ⟨hi, hq⟩ := hc p i hp ht
  refine ⟨hi, fun q hmem => ?_⟩
  rcases hq q hmem with hq | hq
  · exact .inl hq
  · rcases List.mem_cons.mp hq with rfl | hq
    · exact .inl hs
    · exact .inr hq

/-- A job that is tried leaves the jobs of its instruction. -/
theorem Tried.Closed.try {j : Job} {rest : List Job} {i : Inst} (hc : tried.Closed program h (j :: rest))
    (hp : program[j.pc]? = some i) (hi : i ≠ .accept) :
    Tried.Closed (tried.insert (j.place.number program)) program h (i.next h j ++ rest) := by
  have hself : Tried.Settles (tried.insert (j.place.number program)) program j.place := by
    refine .inr ?_
    rw [Std.HashSet.contains_insert]
    simp
  intro p i' hp' ht
  rw [Std.HashSet.contains_insert, Bool.or_eq_true, beq_iff_eq] at ht
  rw [List.map_append, Inst.map_place_next]
  by_cases hpj : j.place.number program = p.number program
  · have hlt : j.place.1 < program.length := (List.getElem?_eq_some_iff.mp hp).1
    obtain rfl := Place.number_inj hlt (List.getElem?_eq_some_iff.mp hp').1 hpj
    have hii : i' = i := Option.some.inj (hp'.symm.trans hp)
    subst hii
    exact ⟨hi, fun q hq => .inr (List.mem_append_left _ hq)⟩
  · obtain ⟨hi', hq⟩ := hc p i' hp' (ht.resolve_left hpj)
    refine ⟨hi', fun q hmem => ?_⟩
    rcases hq q hmem with hq | hq
    · exact .inl hq.insert
    · rcases List.mem_cons.mp hq with rfl | hq
      · exact .inl hself
      · exact .inr (List.mem_append_right _ hq)

/-- Acceptance is out of the reach of what is settled when no job is left. -/
theorem Tried.Closed.not_accept {p q : Place} (hc : tried.Closed program h []) (hs : tried.Settles program p)
    (hr : Reaches program h p q) : program[q.1]? ≠ some .accept := by
  have hq : tried.Settles program q := by
    induction hr with
    | refl => exact hs
    | tail _ hstep ih =>
      obtain ⟨i, hi, hq⟩ := hstep
      rcases ih with hnone | ht
      · rw [hi] at hnone
        cases hnone
      · exact ((hc _ i hi ht).2 _ hq).resolve_right List.not_mem_nil
  intro hacc
  rcases hq with hnone | ht
  · rw [hacc] at hnone
    cases hnone
  · exact (hc q .accept hacc ht).1 rfl

/-! ## Exploration -/

theorem Inst.length_next_le (h : Haystack) (j : Job) (i : Inst) : (i.next h j).length ≤ 2 := by
  cases i <;> simp only [Inst.next] <;> (repeat' split) <;> simp

theorem explore_some {fuel : Nat} {jobs : List Job} {found : Job} {tried' : Tried}
    (he : explore program.toArray h fuel jobs tried = (some found, tried')) :
    ∃ j ∈ jobs, Reaches program h j.place found.place ∧ program[found.pc]? = some .accept := by
  induction fuel generalizing jobs tried with
  | zero => cases he
  | succ fuel ih =>
    cases jobs with
    | nil => cases he
    | cons j rest =>
      simp only [explore, List.getElem?_toArray] at he
      split at he
      · obtain ⟨j', hj', hr⟩ := ih he
        exact ⟨j', List.mem_cons_of_mem _ hj', hr⟩
      · split at he
        · rename_i hacc
          simp only [Prod.mk.injEq, Option.some.injEq] at he
          obtain ⟨rfl, -⟩ := he
          exact ⟨_, List.mem_cons_self, .refl, hacc⟩
        · rename_i i _ hi
          obtain ⟨j', hj', hr, hacc⟩ := ih he
          rcases List.mem_append.mp hj' with hj' | hj'
          · refine ⟨j, List.mem_cons_self, .head ⟨i, hi, ?_⟩ hr, hacc⟩
            rw [← Inst.map_place_next]
            exact List.mem_map_of_mem hj'
          · exact ⟨j', List.mem_cons_of_mem _ hj', hr, hacc⟩
        · obtain ⟨j', hj', hr⟩ := ih he
          exact ⟨j', List.mem_cons_of_mem _ hj', hr⟩

/-- Without success, all jobs end up settled. -/
theorem explore_none {fuel : Nat} {jobs : List Job} {tried' : Tried}
    (he : explore program.toArray h fuel jobs tried = (none, tried')) (hc : tried.Closed program h jobs)
    (hpos : ∀ j ∈ jobs, j.pos ≤ h.size) (hfuel : jobs.length + 2 * tried.remaining program h ≤ fuel) :
    tried'.Closed program h [] ∧ (∀ p, tried.Settles program p → tried'.Settles program p) ∧
      ∀ j ∈ jobs, tried'.Settles program j.place := by
  induction fuel generalizing jobs tried with
  | zero =>
    cases he
    cases jobs with
    | nil => exact ⟨hc, fun _ => id, fun _ hj => by cases hj⟩
    | cons j rest => simp at hfuel
  | succ fuel ih =>
    cases jobs with
    | nil =>
      cases he
      exact ⟨hc, fun _ => id, fun _ hj => by cases hj⟩
    | cons j rest =>
      have hrest : ∀ j ∈ rest, j.pos ≤ h.size := fun j hj => hpos j (List.mem_cons_of_mem _ hj)
      -- the search passes over a job whose place is settled
      have hdrop : tried.Settles program j.place → explore program.toArray h fuel rest tried = (none, tried') →
          tried'.Closed program h [] ∧ (∀ p, tried.Settles program p → tried'.Settles program p) ∧
            ∀ j' ∈ j :: rest, tried'.Settles program j'.place := by
        intro hs he
        obtain ⟨hc', hmono, hjobs⟩ := ih he (hc.drop hs) hrest (by simp only [List.length_cons] at hfuel; omega)
        refine ⟨hc', hmono, fun j' hj' => ?_⟩
        rcases List.mem_cons.mp hj' with rfl | hj'
        · exact hmono _ hs
        · exact hjobs j' hj'
      simp only [explore, List.getElem?_toArray, List.size_toArray] at he
      have hnum : j.pos * (program.length + 1) + j.pc = j.place.number program := rfl
      rw [hnum] at he
      split at he
      · rename_i ht
        exact hdrop (.inr ht) he
      · rename_i ht
        split at he
        · cases he
        · rename_i i hne hi
          -- a place that was not tried is used up, which pays for the two jobs that it may leave
          have hlt : j.place.1 < program.length := (List.getElem?_eq_some_iff.mp hi).1
          have hposj : j.place.2 ≤ h.size := hpos j List.mem_cons_self
          have hless := remaining_insert (Place.number_lt hlt hposj)
            (Bool.eq_false_iff.mpr ht)
          have htwo : (i.next h j).length ≤ 2 := i.length_next_le h j
          obtain ⟨hc', hmono, hjobs⟩ := ih he (hc.try hi (by simpa using hne))
            (fun j' hj' => by
              rcases List.mem_append.mp hj' with hj' | hj'
              · refine i.pos_le_of_mem_targets (p := j.place) (q := j'.place) ?_ hposj
                rw [← Inst.map_place_next]
                exact List.mem_map_of_mem hj'
              · exact hrest j' hj')
            (by simp only [List.length_cons, List.length_append] at hfuel ⊢; omega)
          have hself : tried'.Settles program j.place := by
            refine hmono _ (.inr ?_)
            rw [Std.HashSet.contains_insert]
            simp
          refine ⟨hc', fun p hp => hmono p hp.insert, fun j' hj' => ?_⟩
          rcases List.mem_cons.mp hj' with rfl | hj'
          · exact hself
          · exact hjobs j' (List.mem_append_right _ hj')
        · rename_i hnone
          exact hdrop (.inl hnone) he

/-! ## Search -/

/-- A run from the position reaches acceptance. -/
def AcceptsFrom (program : Code) (h : Haystack) (i : Nat) : Prop :=
  ∃ p, Reaches program h (0, i) p ∧ program[p.1]? = some .accept

theorem searchFrom_isSome {text : Bool} {count i : Nat} (hc : tried.Closed program h [])
    (hi : i + count ≤ h.size + 1) :
    (searchFrom program.toArray text h count i tried).isSome ↔
      ∃ k, i ≤ k ∧ k < i + count ∧ (text = true → h.isBoundary k = true) ∧ AcceptsFrom program h k := by
  induction count generalizing i tried with
  | zero =>
    simp only [searchFrom, Option.isSome_none, Bool.false_eq_true, false_iff]
    rintro ⟨k, h₁, h₂, -⟩
    omega
  | succ count ih =>
    -- a position that cannot be the start leaves those behind it
    have hnext : ∀ {tried' : Tried}, tried'.Closed program h [] →
        ¬((text = true → h.isBoundary i = true) ∧ AcceptsFrom program h i) →
        ((searchFrom program.toArray text h count (i + 1) tried').isSome ↔
          ∃ k, i ≤ k ∧ k < i + (count + 1) ∧ (text = true → h.isBoundary k = true) ∧ AcceptsFrom program h k) := by
      intro tried' hc' hno
      rw [ih hc' (by omega)]
      constructor
      · rintro ⟨k, h₁, h₂, hk⟩
        exact ⟨k, by omega, by omega, hk⟩
      · rintro ⟨k, h₁, h₂, hk⟩
        have hne : k ≠ i := fun hki => hno (hki ▸ hk)
        exact ⟨k, by omega, by omega, hk⟩
    simp only [searchFrom]
    split
    · rename_i hskip
      refine hnext hc fun hk => ?_
      simp only [Bool.and_eq_true, Bool.not_eq_true'] at hskip
      rw [hk.1 hskip.1] at hskip
      cases hskip.2
    · rename_i hskip
      have hstart : text = true → h.isBoundary i = true := by simpa using hskip
      split
      · rename_i found tried' he
        obtain ⟨j, hj, hr, hacc⟩ := explore_some he
        obtain rfl := List.mem_singleton.mp hj
        exact iff_of_true rfl ⟨i, Nat.le_refl i, by omega, hstart, found.place, hr, hacc⟩
      · rename_i tried' he
        have hsteps : 1 + 2 * tried.remaining program h ≤ steps program.toArray h := by
          have : tried.remaining program h ≤ (h.size + 1) * (program.length + 1) := Tried.remaining_le
          simp only [steps, List.size_toArray]
          calc 1 + 2 * tried.remaining program h
              ≤ 1 + 2 * ((h.size + 1) * (program.length + 1)) := by omega
            _ ≤ 2 * ((h.size + 2) * (program.length + 1)) + 2 := by
              have : (h.size + 1) * (program.length + 1) ≤ (h.size + 2) * (program.length + 1) :=
                Nat.mul_le_mul_right _ (Nat.le_succ _)
              omega
            _ = 2 * (program.length + 1) * (h.size + 2) + 2 := by
              rw [Nat.mul_assoc, Nat.mul_comm (h.size + 2)]
        have hopen : tried.Closed program h [⟨0, i, []⟩] := by
          intro p i' hp ht
          obtain ⟨hi', hq⟩ := hc p i' hp ht
          exact ⟨hi', fun q hmem => .inl ((hq q hmem).resolve_right List.not_mem_nil)⟩
        obtain ⟨hc', -, hjobs⟩ := explore_none he hopen
          (fun j hj => by
            obtain rfl := List.mem_singleton.mp hj
            exact Nat.le_of_lt_succ (Nat.lt_of_lt_of_le (Nat.lt_add_of_pos_right (Nat.succ_pos count)) hi)) hsteps
        refine hnext hc' fun ⟨_, p, hr, hacc⟩ => ?_
        exact hc'.not_accept (hjobs _ (List.mem_singleton.mpr rfl)) hr hacc

/-- A search succeeds exactly if the expression matches from a position at or behind the start. -/
theorem search_isSome {e : Expr} {text : Bool} {i : Nat} :
    (search e.program text h i).isSome ↔
      ∃ k j, i ≤ k ∧ k ≤ h.size ∧ (text = true → h.isBoundary k = true) ∧ e.Matches h k j := by
  rw [search, Expr.program]
  by_cases hi : i ≤ h.size + 1
  · rw [searchFrom_isSome Tried.closed_empty (by omega)]
    constructor
    · rintro ⟨k, h₁, h₂, hb, ⟨pc, j⟩, hr⟩
      exact ⟨k, j, h₁, by omega, hb, Expr.reaches_accept.mp ⟨pc, hr⟩⟩
    · rintro ⟨k, j, h₁, h₂, hb, hm⟩
      obtain ⟨pc, hr⟩ := Expr.reaches_accept.mpr hm
      exact ⟨k, h₁, by omega, hb, (pc, j), hr⟩
  · rw [Nat.sub_eq_zero_of_le (by omega)]
    simp only [searchFrom, Option.isSome_none, Bool.false_eq_true, false_iff]
    rintro ⟨k, _, h₁, h₂, -⟩
    omega

end Portcullis.Regex

import Portcullis.Policy.Chain

/-!
# Running the rules of a chain

A run is described by the stages between its rules: the buffer and the response below it. The rules that a
run executes are the first ones of the chain, up to and including the first that demands action.
-/

namespace Portcullis.Policy
open Http

/-- The buffer and the response below it, between two rules of a chain. -/
structure Stage where
  buffer : Interceptor
  raw : Response

/-! ## One rule -/

/-- What a rule leaves to the next one. No rule can take the buffer away. -/
def Rule.after (r : Rule) (q : Request) (s : Stage) : Stage :=
  let c := (r.check q ⟨some s.buffer, s.raw⟩).1
  ⟨c.intercepted.getD s.buffer, c.raw⟩

def Rule.ending (r : Rule) (q : Request) (s : Stage) : CheckEnd :=
  (r.check q ⟨some s.buffer, s.raw⟩).2

/-- What a rule writes: to the buffer, and to the response below it. -/
structure Writes where
  buffered : List Write := []
  direct : List Write := []

def Stage.written (s : Stage) (w : Writes) : Stage :=
  ⟨w.buffered.foldl Interceptor.buffer s.buffer, w.direct.foldl (fun raw w => w.applyTo raw) s.raw⟩

def Writes.joined (ws : List Writes) : Writes :=
  ⟨ws.flatMap Writes.buffered, ws.flatMap Writes.direct⟩

theorem Stage.written_joined_cons (s : Stage) (w : Writes) (ws : List Writes) :
    s.written (Writes.joined (w :: ws)) = (s.written w).written (Writes.joined ws) := by
  simp [Stage.written, Writes.joined]

theorem Interceptor.buffer_isFlushed (i : Interceptor) (w : Write) : (i.buffer w).isFlushed = i.isFlushed := by
  cases w <;> rfl

theorem Interceptor.foldl_buffer_isFlushed (ws : List Write) (i : Interceptor) :
    (ws.foldl Interceptor.buffer i).isFlushed = i.isFlushed := by
  induction ws generalizing i with
  | nil => rfl
  | cons w ws ih => rw [List.foldl_cons, ih, i.buffer_isFlushed]

theorem Stage.written_isFlushed (s : Stage) (w : Writes) : (s.written w).buffer.isFlushed = s.buffer.isFlushed :=
  Interceptor.foldl_buffer_isFlushed _ _

/-- On an open buffer the rule does nothing but write; it does not commit the buffer itself. -/
def Rule.OnlyWrites (r : Rule) : Prop :=
  ∀ q s, s.buffer.isFlushed = false → ∃ w, r.after q s = s.written w

/-! ## Rules one after another -/

def Stage.through (s : Stage) (q : Request) (rules : List Rule) : Stage :=
  rules.foldl (fun s r => r.after q s) s

/-- The outcomes of some rules, each run on what those before it left. -/
def Stage.outcomes (q : Request) : Stage → List Rule → List (String × Outcome)
  | _, [] => []
  | s, r :: rest => (r.id, (r.ending q s).outcome) :: outcomes q (r.after q s) rest

/-- The rules that run: all up to and including the first that demands action. -/
def Stage.executed (q : Request) : Stage → List Rule → List Rule
  | _, [] => []
  | s, r :: rest =>
    if (r.ending q s).outcome.demandsAction then [r] else r :: executed q (r.after q s) rest

/-- The disposition that the last outcome leads to. -/
def Disposition.ofLast : Option (String × Outcome) → Disposition
  | some (id, o) => if o.demandsAction then .abort id o else .allow
  | none => .allow

theorem Disposition.ofLast_of_quiet {outcomes : List (String × Outcome)}
    (h : ∀ p ∈ outcomes, p.2.demandsAction = false) : ofLast outcomes.getLast? = .allow := by
  cases hlast : outcomes.getLast? with
  | none => rfl
  | some p => simp [ofLast, h p (List.mem_of_getLast? hlast)]

theorem Stage.outcomes_length (q : Request) (rules : List Rule) (s : Stage) :
    (s.outcomes q rules).length = rules.length := by
  induction rules generalizing s with
  | nil => rfl
  | cons r rest ih => simp [Stage.outcomes, ih]

theorem Stage.outcomes_get? (q : Request) {rules : List Rule} {k : Nat} {r : Rule} (s : Stage)
    (h : rules[k]? = some r) :
    (s.outcomes q rules)[k]? = some (r.id, (r.ending q (s.through q (rules.take k))).outcome) := by
  induction rules generalizing s k with
  | nil => simp at h
  | cons first rest ih =>
    cases k with
    | zero =>
      simp only [List.getElem?_cons_zero, Option.some.injEq] at h
      subst h
      rfl
    | succ k =>
      simp only [List.getElem?_cons_succ] at h
      simpa [Stage.outcomes, Stage.through] using ih (first.after q s) h

theorem Stage.executed_prefix (q : Request) (rules : List Rule) (s : Stage) : s.executed q rules <+: rules := by
  induction rules generalizing s with
  | nil => exact List.prefix_refl _
  | cons r rest ih =>
    simp only [Stage.executed]
    split
    · exact List.prefix_append [r] rest
    · exact (List.prefix_cons_inj r).mpr (ih _)

/-- The rules that run are the first ones of those that the chain was made from. -/
theorem Stage.executed_map {α : Type} (f : α → Rule) (q : Request) (xs : List α) (s : Stage) :
    ∃ ran, ran <+: xs ∧ s.executed q (xs.map f) = ran.map f := by
  have htake := List.prefix_iff_eq_take.mp (s.executed_prefix q (xs.map f))
  exact ⟨xs.take (s.executed q (xs.map f)).length, List.take_prefix _ _, by rw [List.map_take, ← htake]⟩

theorem Stage.executed_quiet (q : Request) (rules : List Rule) (s : Stage) :
    ∀ p ∈ (s.outcomes q (s.executed q rules)).dropLast, p.2.demandsAction = false := by
  induction rules generalizing s with
  | nil => simp [Stage.executed, Stage.outcomes]
  | cons r rest ih =>
    simp only [Stage.executed]
    split
    · simp [Stage.outcomes]
    · rename_i hr
      have hr := Bool.eq_false_iff.mpr hr
      simp only [Stage.outcomes]
      intro p hp
      cases ho : Stage.outcomes q (r.after q s) (Stage.executed q (r.after q s) rest) with
      | nil => simp [ho] at hp
      | cons o os =>
        rw [ho, List.dropLast_cons_cons, List.mem_cons] at hp
        rcases hp with rfl | hp
        · exact hr
        · exact ih (r.after q s) p (by rwa [ho])

theorem Stage.executed_eq_self (q : Request) (rules : List Rule) (s : Stage)
    (h : ∀ p, (s.outcomes q (s.executed q rules)).getLast? = some p → p.2.demandsAction = false) :
    s.executed q rules = rules := by
  induction rules generalizing s with
  | nil => rfl
  | cons r rest ih =>
    simp only [Stage.executed] at h ⊢
    split at h
    · rename_i hr
      have hq := h (r.id, (r.ending q s).outcome) (by simp [Stage.outcomes])
      rw [hr] at hq
      cases hq
    · rename_i hr
      simp only [hr, Bool.false_eq_true, if_false, List.cons.injEq, true_and]
      refine ih _ fun p hp => h p ?_
      simp [Stage.outcomes, hp, List.getLast?_cons]

/-- A rule that ran without demanding action is followed by the next rule of the chain. -/
theorem Stage.executed_next (q : Request) {rules : List Rule} {k : Nat} {r next : Rule} (s : Stage)
    (hr : (s.executed q rules)[k]? = some r)
    (hq : (r.ending q (s.through q ((s.executed q rules).take k))).outcome.demandsAction = false)
    (hn : rules[k + 1]? = some next) : (s.executed q rules)[k + 1]? = some next := by
  induction rules generalizing s k with
  | nil => simp at hn
  | cons first rest ih =>
    simp only [Stage.executed] at hr hq ⊢
    split at hr
    · rename_i hd
      cases k with
      | zero =>
        simp only [List.getElem?_cons_zero, Option.some.injEq] at hr
        subst hr
        simp [Stage.through, hd] at hq
      | succ k => simp at hr
    · rename_i hd
      simp only [hd, Bool.false_eq_true, if_false] at hq ⊢
      cases k with
      | zero =>
        cases rest with
        | nil => simp at hn
        | cons second rest =>
          simp only [Nat.zero_add, List.getElem?_cons_succ, List.getElem?_cons_zero] at hn ⊢
          simp only [Stage.executed]
          split <;> simpa using hn
      | succ k =>
        simp only [List.getElem?_cons_succ, List.take_succ_cons, Stage.through, List.foldl_cons] at hr hq hn ⊢
        exact ih _ hr hq hn

/-- Nothing changes when other rules stand behind the one that stopped the run. -/
theorem Stage.executed_append (q : Request) {rules : List Rule} {p : String × Outcome} (s : Stage)
    (h : (s.outcomes q (s.executed q rules)).getLast? = some p) (hp : p.2.demandsAction = true)
    (rest : List Rule) : s.executed q (s.executed q rules ++ rest) = s.executed q rules := by
  induction rules generalizing s with
  | nil => simp [Stage.executed, Stage.outcomes] at h
  | cons first others ih =>
    simp only [Stage.executed] at h ⊢
    split at h
    · rename_i hd
      simp [hd, Stage.executed]
    · rename_i hd
      simp only [hd, Bool.false_eq_true, if_false, List.cons_append, Stage.executed, List.cons.injEq, true_and]
      refine ih _ ?_
      cases ho : Stage.outcomes q (first.after q s) (Stage.executed q (first.after q s) others) with
      | nil =>
        simp only [Stage.outcomes, ho, List.getLast?_singleton, Option.some.injEq] at h
        subst h
        exact absurd hp hd
      | cons o os => simpa [Stage.outcomes, ho] using h

/-! ## The run of a chain -/

theorem Chain.runRules_eq (q : Request) (rules : List Rule) (s : Stage) :
    Chain.runRules q rules s.buffer s.raw =
      { disposition := .ofLast (s.outcomes q (s.executed q rules)).getLast?
        outcomes := s.outcomes q (s.executed q rules)
        intercepted := (s.through q (s.executed q rules)).buffer
        raw := (s.through q (s.executed q rules)).raw } := by
  induction rules generalizing s with
  | nil => rfl
  | cons r rest ih =>
    simp only [Chain.runRules, Stage.executed]
    by_cases hd : (r.ending q s).outcome.demandsAction = true
    · have hd' : (r.check q ⟨some s.buffer, s.raw⟩).2.outcome.demandsAction = true := hd
      simp [hd', Stage.outcomes, Stage.through, Disposition.ofLast, Rule.after, Rule.ending]
    · have hd' : ¬(r.check q ⟨some s.buffer, s.raw⟩).2.outcome.demandsAction = true := hd
      have hrest := ih (r.after q s)
      simp only [Rule.after] at hrest
      simp only [hd', Bool.false_eq_true, if_false, hrest, Stage.outcomes, Stage.through, List.foldl_cons,
        Rule.ending, Rule.after]
      congr 1
      cases ho : Stage.outcomes q (r.after q s) (Stage.executed q (r.after q s) rest) with
      | nil =>
        simp only [Rule.after] at ho
        simp [ho, Disposition.ofLast, hd']
      | cons o os =>
        simp only [Rule.after] at ho
        simp [ho, List.getLast?_cons_cons]

/-- What a run commits in the end, and onto what response: nothing more where the buffer was committed before. -/
def Stage.commit (s : Stage) : Flushed × Response :=
  if s.buffer.isFlushed then ({}, s.raw) else (s.buffer.committed, s.buffer.commitOnto s.raw)

theorem Chain.evaluateWith_commit (rules : List Rule) (q : Request) (s : Stage) :
    Chain.evaluateWith ⟨rules⟩ q s.buffer s.raw =
      ({ disposition := .ofLast (s.outcomes q (s.executed q rules)).getLast?
         outcomes := s.outcomes q (s.executed q rules)
         flushed := (s.through q (s.executed q rules)).commit.1 },
        (s.through q (s.executed q rules)).commit.2) := by
  simp only [Chain.evaluateWith, Chain.runRules_eq, Interceptor.flush, Stage.commit]
  cases (s.through q (s.executed q rules)).buffer.isFlushed <;> rfl

/-- A chain whose rules leave the buffer open commits what they left. -/
theorem Chain.evaluateWith_eq (rules : List Rule) (q : Request) (s : Stage)
    (hopen : (s.through q (s.executed q rules)).buffer.isFlushed = false) :
    Chain.evaluateWith ⟨rules⟩ q s.buffer s.raw =
      ({ disposition := .ofLast (s.outcomes q (s.executed q rules)).getLast?
         outcomes := s.outcomes q (s.executed q rules)
         flushed := (s.through q (s.executed q rules)).buffer.committed },
        (s.through q (s.executed q rules)).buffer.commitOnto (s.through q (s.executed q rules)).raw) := by
  rw [Chain.evaluateWith_commit]
  simp [Stage.commit, hopen]

end Portcullis.Policy

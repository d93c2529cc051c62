import Portcullis.Proofs.Policy.Compilation
import Portcullis.Proofs.Policy.Plan

/-!
# What a run of a chain owes

The outcomes that a chain reports are those of its first rules, in order, each on the stage that its
predecessors left. Only the last one may demand action; if it does, the chain is aborted by it. However the run
ends, the buffer is committed once, with the writes of the rules that ran and of no others. The rules of policies
only write, so that all this holds of their chains.
-/

namespace Portcullis.Policy
open Http

/-! ## Writing -/

theorem Stage.exists_written_of_writeAll {s : Stage} {ws : List Write} {c : Canvas}
    (h : s.buffer.isFlushed = false) (hc : (⟨some s.buffer, s.raw⟩ : Canvas).writeAll ws = .ok c) :
    ∃ w, (⟨c.intercepted.getD s.buffer, c.raw⟩ : Stage) = s.written w := by
  rw [Canvas.writeAll_open ws s.buffer s.raw h] at hc
  cases hc
  exact ⟨⟨ws, []⟩, rfl⟩

theorem Stage.exists_written_of_self (s : Stage) :
    ∃ w, (⟨(some s.buffer).getD s.buffer, s.raw⟩ : Stage) = s.written w :=
  ⟨{}, rfl⟩

/-- The rules of policies never commit the buffer themselves. -/
theorem BuiltIn.toRule_onlyWrites (b : BuiltIn) : b.toRule.OnlyWrites := by
  intro q s h
  refine ⟨⟨(b.plan q s.buffer.headers s.buffer.body).writes, []⟩, ?_⟩
  simp only [Rule.after, toRule_check, Plan.carryOut_open _ h, Option.getD_some]
  rfl

/-- A rule that makes some writes and then ends in a given way. -/
def Rule.scripted (id : String) (ws : List Write) (e : CheckEnd) : Rule where
  id
  kind := "scripted"
  phase := .outbound
  check _ c :=
    match c.writeAll ws with
    | .ok c => (c, e)
    | .error _ => (c, e)

theorem Rule.scripted_onlyWrites (id : String) (ws : List Write) (e : CheckEnd) :
    (Rule.scripted id ws e).OnlyWrites := by
  intro q s h
  simp only [Rule.after, Rule.scripted]
  split
  · rename_i c hc
    exact s.exists_written_of_writeAll h hc
  · exact s.exists_written_of_self

/-- Rules that only write leave behind the writes of each of them, in order. -/
theorem Stage.exists_writes_through (q : Request) {rules : List Rule} (s : Stage)
    (hw : ∀ r ∈ rules, r.OnlyWrites) (h : s.buffer.isFlushed = false) :
    ∃ ws : List Writes, ws.length = rules.length ∧ s.through q rules = s.written (.joined ws) ∧
      ∀ (k : Nat) (r : Rule) (w : Writes), rules[k]? = some r → ws[k]? = some w →
        r.after q (s.through q (rules.take k)) = (s.through q (rules.take k)).written w := by
  induction rules generalizing s with
  | nil => exact ⟨[], rfl, rfl, by simp⟩
  | cons first rest ih =>
    obtain ⟨w, hfirst⟩ := hw first (by simp) q s h
    have hopen : (first.after q s).buffer.isFlushed = false := by rw [hfirst, s.written_isFlushed, h]
    obtain ⟨ws, hlen, hthrough, heach⟩ := ih (first.after q s) (fun r hr => hw r (by simp [hr])) hopen
    refine ⟨w :: ws, by simp [hlen], ?_, ?_⟩
    · rw [Stage.written_joined_cons, ← hfirst, ← hthrough]
      rfl
    · intro k r w' hr hw'
      cases k with
      | zero =>
        simp only [List.getElem?_cons_zero, Option.some.injEq] at hr hw'
        subst hr hw'
        exact hfirst
      | succ k => exact heach k r w' hr hw'

/-! ## The contract -/

/-- The account of a chain run from a stage: `ran` are the rules that it ran, and `writes` is what each of them
wrote. -/
structure Chain.Account (chain : Chain) (q : Request) (s : Stage) (ran : List Rule) (writes : List Writes)
    (result : ChainResult) (committed : Response) : Prop where
  isPrefix : ran <+: chain.rules
  outcomes_length : result.outcomes.length = ran.length
  outcome : ∀ (k : Nat) (r : Rule), ran[k]? = some r →
    result.outcomes[k]? = some (r.id, (r.ending q (s.through q (ran.take k))).outcome)
  quiet : ∀ p ∈ result.outcomes.dropLast, p.2.demandsAction = false
  aborted : ∀ id o, result.outcomes.getLast? = some (id, o) → o.demandsAction = true →
    result.disposition = .abort id o
  allowed : (∀ p, result.outcomes.getLast? = some p → p.2.demandsAction = false) →
    result.disposition = .allow ∧ ran = chain.rules
  /-- A crash is an anomaly, and the next rule runs. -/
  crashed : ∀ (k : Nat) (r : Rule) (reason : Option String), ran[k]? = some r →
    r.ending q (s.through q (ran.take k)) = .crashed reason →
    result.outcomes[k]? = some (r.id, .anomaly ("rule panicked: " ++ reason.getD "unknown panic")) ∧
      ∀ next, chain.rules[k + 1]? = some next → ran[k + 1]? = some next
  /-- Rules behind an abort have no effect, whatever they are. -/
  skipped : result.disposition ≠ .allow → ∀ rest : List Rule,
    Chain.evaluateWith ⟨ran ++ rest⟩ q s.buffer s.raw = (result, committed)
  writes_length : writes.length = ran.length
  wrote : ∀ (k : Nat) (r : Rule) (w : Writes), ran[k]? = some r → writes[k]? = some w →
    r.after q (s.through q (ran.take k)) = (s.through q (ran.take k)).written w
  /-- The buffer is committed with the writes of the rules that ran. -/
  flushed : (s.written (.joined writes)).buffer.flush (s.written (.joined writes)).raw =
    .ok (result.flushed, { (s.written (.joined writes)).buffer with isFlushed := true }, committed)

/-- A run gives a full account if the rules that it executes only write. -/
theorem Chain.exists_account (chain : Chain) (q : Request) (s : Stage) (hopen : s.buffer.isFlushed = false)
    (hw : ∀ r ∈ s.executed q chain.rules, r.OnlyWrites) :
    ∃ ran writes, chain.Account q s ran writes (chain.evaluateWith q s.buffer s.raw).1
      (chain.evaluateWith q s.buffer s.raw).2 := by
  obtain ⟨writes, hlen, hthrough, heach⟩ := Stage.exists_writes_through q s hw hopen
  have hleft : (s.through q (s.executed q chain.rules)).buffer.isFlushed = false := by
    rw [hthrough, s.written_isFlushed, hopen]
  -- stated for every chain that runs the same rules, as one with other rules behind an abort does
  have hrun : ∀ rules, s.executed q rules = s.executed q chain.rules →
      Chain.evaluateWith ⟨rules⟩ q s.buffer s.raw =
        ({ disposition := .ofLast (s.outcomes q (s.executed q chain.rules)).getLast?
           outcomes := s.outcomes q (s.executed q chain.rules)
           flushed := (s.through q (s.executed q chain.rules)).buffer.committed },
          (s.through q (s.executed q chain.rules)).buffer.commitOnto (s.through q (s.executed q chain.rules)).raw) := by
    intro rules hr
    rw [← hr] at hleft ⊢
    exact Chain.evaluateWith_eq rules q s hleft
  rw [hrun chain.rules rfl]
  exact ⟨_, writes, {
    isPrefix := s.executed_prefix q chain.rules
    outcomes_length := s.outcomes_length q _
    outcome := fun k r hr => s.outcomes_get? q hr
    quiet := s.executed_quiet q chain.rules
    aborted := fun id o ho hd => by simp only [ho, Disposition.ofLast, hd, if_true]
    allowed := fun hq => by
      refine ⟨?_, s.executed_eq_self q chain.rules hq⟩
      cases hl : (s.outcomes q (s.executed q chain.rules)).getLast? with
      | none => rfl
      | some p => simp [Disposition.ofLast, hq p hl]
    crashed := fun k r reason hr he => by
      have he' : r.ending q (s.through q ((s.executed q chain.rules).take k)) = .crashed reason := he
      refine ⟨?_, fun next hn => s.executed_next q hr (by rw [he']; rfl) hn⟩
      rw [s.outcomes_get? q hr, he']
      rfl
    skipped := fun hd rest => by
      refine hrun _ ?_
      cases hl : (s.outcomes q (s.executed q chain.rules)).getLast? with
      | none => simp [hl, Disposition.ofLast] at hd
      | some p =>
        refine s.executed_append q hl ?_ rest
        cases hp : p.2.demandsAction with
        | true => rfl
        | false => simp [hl, Disposition.ofLast, hp] at hd
    writes_length := hlen
    wrote := heach
    flushed := by
      rw [← hthrough]
      simp [Interceptor.flush, hleft] }⟩

/-- Every chain of rules that only write gives a full account of its run over an open buffer. -/
theorem Chain.evaluateWith_account (chain : Chain) (q : Request) (i : Interceptor) (raw : Response)
    (hi : i.isFlushed = false) (hw : ∀ r ∈ chain.rules, r.OnlyWrites) :
    ∃ ran writes, chain.Account q ⟨i, raw⟩ ran writes (chain.evaluateWith q i raw).1
      (chain.evaluateWith q i raw).2 :=
  chain.exists_account q ⟨i, raw⟩ hi fun r hr => hw r ((Stage.executed_prefix q chain.rules ⟨i, raw⟩).subset hr)

/-- A chain with a rule that writes and crashes, one that writes and aborts, and one behind the abort. -/
def Chain.crashThenAbort : Chain :=
  ⟨[.scripted "crash" [.setHeader ⟨"x-a"⟩ ⟨[49]⟩] (.crashed none),
    .scripted "stop" [.appendHeader ⟨"x-a"⟩ ⟨[50]⟩] (.finished (.abort none)),
    .scripted "late" [.removeHeader ⟨"x-a"⟩] (.finished .applied)]⟩

theorem Chain.crashThenAbort_account :
    ({} : Interceptor).isFlushed = false ∧ (∀ r ∈ crashThenAbort.rules, r.OnlyWrites) ∧
      (∃ ran writes, crashThenAbort.Account { uri := {} } ⟨{}, {}⟩ ran writes
        (crashThenAbort.evaluateWith { uri := {} } {} {}).1 (crashThenAbort.evaluateWith { uri := {} } {} {}).2) ∧
      (crashThenAbort.evaluateWith { uri := {} } {} {}).1.disposition = .abort "stop" (.abort none) ∧
      (crashThenAbort.evaluateWith { uri := {} } {} {}).2.headers = ⟨[(⟨"x-a"⟩, ⟨[49]⟩), (⟨"x-a"⟩, ⟨[50]⟩)]⟩ := by
  have hw : ∀ r ∈ crashThenAbort.rules, r.OnlyWrites := by
    intro r hr
    simp only [crashThenAbort, List.mem_cons, List.not_mem_nil, or_false] at hr
    rcases hr with rfl | rfl | rfl <;> exact Rule.scripted_onlyWrites _ _ _
  exact ⟨rfl, hw, evaluateWith_account _ _ _ _ rfl hw, by decide, by decide⟩

/-! ## The chains of a policy -/

/-- The chains of a policy give a full account as well, whatever it was compiled from. -/
theorem PolicyDefinition.compile_account {p : PolicyDefinition} {mode : LoadMode} {e : Engine}
    (h : p.compile mode = .ok e) {chain : Chain} (hc : chain = e.inbound ∨ chain = e.outbound) (q : Request)
    (i : Interceptor) (raw : Response) (hi : i.isFlushed = false) :
    ∃ ran writes, chain.Account q ⟨i, raw⟩ ran writes (chain.evaluateWith q i raw).1
      (chain.evaluateWith q i raw).2 := by
  obtain ⟨built, hholds⟩ := holds_of_compile h
  have hbuilt : chain.rules ⊆ built.map BuiltIn.toRule := by
    rcases hc with rfl | rfl
    · exact hholds.inbound ▸ List.filter_subset_self _
    · exact hholds.outbound ▸ List.filter_subset_self _
  refine chain.exists_account q ⟨i, raw⟩ hi fun r hr => ?_
  obtain ⟨b, -, rfl⟩ := List.mem_map.mp (hbuilt ((Stage.executed_prefix q chain.rules ⟨i, raw⟩).subset hr))
  exact b.toRule_onlyWrites

end Portcullis.Policy

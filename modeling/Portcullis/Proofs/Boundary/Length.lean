import Portcullis.Proofs.Boundary.Page
import Portcullis.Proofs.Policy.Replacing

/-!
# Lengths of bodies

A rule that replaced content drops the length that the response came with, and has it dropped below as well when the
buffer is committed. Only a rule that sets the field brings one back. To the client no length is passed on, whatever
way an exchange takes.
-/

namespace Portcullis.Policy
open Http

/-! ## Dropped lengths -/

namespace BuiltIn

theorem length_rewrite (b : BuiltIn) (q : Request) (r : Response) :
    (b.rewrite q r).headers.getAll .contentLength =
      if (b.fired? (b.outcomeOn q r)).isSome then []
      else ((b.added? q.path .contentLength).map ([·])).getD (r.headers.getAll .contentLength) := by
  cases b.rewriting q r with
  | nothing writes added _ fired =>
    rw [rewrite, writes, fired, added]
    rfl
  | field m v writes added _ fired =>
    rw [rewrite, writes, fired, added]
    simp only [Write.applyAll, List.foldl_cons, List.foldl_nil, Write.applyTo, Headers.getAll_insert]
    split <;> rfl
  | cookies writes added fired =>
    rw [rewrite, writes, fired, added, Write.applyAll_replace, Headers.getAll_replace, if_neg (by decide)]
    rfl
  | body a writes _ _ fired =>
    rw [rewrite, writes, fired]
    simp [Write.applyAll, Write.applyTo]

theorem removes_of_fired {b : BuiltIn} {q : Request} {r : Response} {a : ReplaceContent}
    (h : b.fired? (b.outcomeOn q r) = some a) :
    (b.plan q r.headers r.body).writes.any (·.removes .contentLength) = true := by
  cases b.rewriting q r with
  | body a' writes =>
    rw [writes]
    rfl
  | nothing _ _ _ fired | field _ _ _ _ _ fired | cookies _ _ fired =>
    rw [fired] at h
    cases h

end BuiltIn

/-- The buffer holds no length, and lets none through from below. -/
structure Stage.Unsized (s : Stage) : Prop where
  buffered : s.buffer.headers.getAll .contentLength = []
  noted : .contentLength ∈ s.buffer.removed

namespace Stage

variable {s : Stage} {r below : Response} {q : Request} {b : BuiltIn}

theorem Unsized.commitOnto (h : s.Unsized) : (s.buffer.commitOnto s.raw).headers.getAll .contentLength = [] := by
  rw [Interceptor.commitOnto, Headers.getAll_overlay, if_neg (not_not_intro h.buffered), if_pos h.noted]

theorem Shows.length_after (h : s.Shows r below) (b : BuiltIn) (q : Request) :
    (b.toRule.after q s).buffer.headers.getAll .contentLength = (b.rewrite q r).headers.getAll .contentLength := by
  rw [(h.after b q).1.mirrors.headers]

theorem Shows.unsized_of_fired (h : s.Shows r below) {a : ReplaceContent}
    (hfired : b.fired? (b.outcomeOn q r) = some a) : (b.toRule.after q s).Unsized where
  buffered := by rw [h.length_after, b.length_rewrite, hfired]; rfl
  noted := by
    rw [(h.after_eq b q).1, Interceptor.mem_removed_foldl]
    exact .inr (BuiltIn.removes_of_fired hfired)

theorem Shows.unsized_after (h : s.Shows r below) (hs : s.Unsized) (hadded : b.added? q.path .contentLength = none) :
    (b.toRule.after q s).Unsized where
  buffered := by
    rw [h.length_after, b.length_rewrite, hadded, ← h.mirrors.headers]
    split
    · rfl
    · exact hs.buffered
  noted := by
    rw [(h.after_eq b q).1, Interceptor.mem_removed_foldl]
    exact .inl hs.noted

theorem Shows.unsized_through {bs : List BuiltIn} (h : s.Shows r below) (hs : s.Unsized)
    (hadded : ∀ b ∈ bs, b.added? q.path .contentLength = none) : (s.through q (bs.map BuiltIn.toRule)).Unsized := by
  induction bs generalizing s r with
  | nil => exact hs
  | cons b rest ih =>
    exact ih (h.after b q).1 (h.unsized_after hs (hadded b List.mem_cons_self)) fun x hx => hadded x (.tail _ hx)

/-- Behind a rule that replaced content the length stays away, until a rule sets one. -/
theorem Shows.unsized_of_split {front back : List BuiltIn} (h : s.Shows r below) {a : ReplaceContent}
    (hfired : b.fired? (b.outcomeOn q (rewritten q front r)) = some a)
    (hadded : ∀ x ∈ back, x.added? q.path .contentLength = none) :
    (s.through q ((front ++ b :: back).map BuiltIn.toRule)).Unsized := by
  have hfront := (h.through q front).1
  have hsplit : s.through q ((front ++ b :: back).map BuiltIn.toRule) =
      (b.toRule.after q (s.through q (front.map BuiltIn.toRule))).through q (back.map BuiltIn.toRule) := by
    rw [List.map_append, Stage.through, List.foldl_append]
    rfl
  rw [hsplit]
  exact (hfront.after b q).1.unsized_through (hfront.unsized_of_fired hfired) hadded

end Stage

/-! ## The chain of a policy -/

/-- The definition is one of a rule that sets the field. -/
def RuleDefinition.SetsField (d : RuleDefinition) (n : HeaderName) : Prop :=
  ∃ header text, d.kind = .addHeader header text ∧ HeaderName.parse? header = some n

theorem BuiltIn.added?_eq_none {d : RuleDefinition} {b : BuiltIn} (hb : d.build = .ok b) {n : HeaderName}
    (h : ¬d.SetsField n) (path : String) : b.added? path n = none :=
  Option.eq_none_iff_forall_ne_some.mpr fun v hv => by
    obtain ⟨-, header, text, hkind, hname, -⟩ := (added?_eq_some hb).mp hv
    exact h ⟨header, text, hkind, hname⟩

/-- What the rules of a chain that ran say about the length of the response that it committed. -/
structure DropsLength (p : PolicyDefinition) (rules : List Rule) (ran : List BuiltIn) (result : ChainResult)
    (committed : Response) : Prop where
  isPrefix : ran.map BuiltIn.toRule <+: rules
  ids : result.outcomes.map Prod.fst = ran.map (·.id)
  built : ∀ b ∈ ran, ∃ d ∈ p.rules, d.build = .ok b
  /-- If a rule replaced content, and no rule behind it was to set the length, then there is none. -/
  dropped : ∀ front b back a o, ran = front ++ b :: back → b.action = .replaceContent a →
    result.outcomes[front.length]? = some (b.id, o) → o.hasFired = true →
    (∀ x ∈ back, ∀ d ∈ p.rules, d.build = .ok x → ¬d.SetsField .contentLength) →
    committed.headers.getAll .contentLength = []

theorem PolicyDefinition.Holds.dropsLength {p : PolicyDefinition} {e : Engine} {built : List BuiltIn}
    (h : p.Holds e built) (q : Request) (app below : Response) :
    ∃ ran, DropsLength p e.outbound.rules ran (e.evaluateOutbound q (.capture app) below).1
      (e.evaluateOutbound q (.capture app) below).2 := by
  obtain ⟨ran, hpre, -, houtcomes, hcommitted⟩ :=
    Chain.evaluateWith_shows (built.filter (·.action.phase == .outbound)) q app below
  rw [← h.outbound_chain] at houtcomes hcommitted
  have hresult : (e.evaluateOutbound q (.capture app) below).1.outcomes = outcomesOn q app ran := houtcomes
  have hbuilt : ∀ b ∈ ran, ∃ d ∈ p.rules, d.build = .ok b := fun b hb => by
    obtain ⟨d, hd, hbuild⟩ := exists_definition h.builds (List.mem_filter.mp (hpre.subset hb)).1
    exact ⟨d, h.fileOrder.subset hd, hbuild⟩
  refine ⟨ran, h.outbound_eq ▸ hpre.map BuiltIn.toRule, by rw [hresult, map_fst_outcomesOn], hbuilt, ?_⟩
  intro front b back a o hsplit ha houtcome hfired hsets
  have hb : ran[front.length]? = some b := by simp [hsplit]
  have hfront : ran.take front.length = front := by simp [hsplit]
  rw [hresult, outcomesOn_get? q app hb, hfront, Option.some.injEq, Prod.mk.injEq] at houtcome
  have hfired? : b.fired? (b.outcomeOn q (rewritten q front app)) = some a := by
    simp only [BuiltIn.fired?, ha, houtcome.2, hfired, if_true]
  have hadded : ∀ x ∈ back, x.added? q.path .contentLength = none := fun x hx => by
    obtain ⟨d, hd, hbuild⟩ := hbuilt x (by simp [hsplit, hx])
    exact BuiltIn.added?_eq_none hbuild (hsets x hx d hd hbuild) q.path
  have hunsized := (Stage.Shows.captured app below).unsized_of_split hfired? hadded
  rw [← hsplit] at hunsized
  exact (congrArg (fun r => r.headers.getAll .contentLength) hcommitted).trans hunsized.commitOnto

end Portcullis.Policy

namespace Portcullis.Boundary
open Http Policy

/-! ## The response of an exchange -/

theorem Guard.length_inspect (g : Guard) (l : Ledger) (marks : Marks) (request : Request) (app : Application) :
    (g.inspect l marks request app).response.headers.getAll .contentLength = [] := by
  have hwithout : ∀ r, (withoutLength r).headers.getAll .contentLength = [] := fun r => by
    rw [withoutLength, Headers.getAll_remove, if_pos rfl]
  rw [inspect_response]
  split
  · rfl
  · split
    · exact hwithout _
    · split
      · rfl
      · split
        · exact hwithout _
        · exact hwithout _

/-- The chain of a policy commits no length behind a rule that replaced content, and the response of an exchange has
none at all. -/
theorem length_dropped {p : PolicyDefinition} {mode : LoadMode} {e : Engine} (h : p.compile mode = .ok e) :
    (∀ (q : Request) (app below : Response), ∃ ran, DropsLength p e.outbound.rules ran
      (e.evaluateOutbound q (.capture app) below).1 (e.evaluateOutbound q (.capture app) below).2) ∧
    ∀ (g : Guard), g.engine = e → ∀ (l : Ledger) (marks : Marks) (request : Request) (app : Application),
      (g.inspect l marks request app).response.headers.getAll .contentLength = [] := by
  obtain ⟨built, hholds⟩ := PolicyDefinition.holds_of_compile h
  exact ⟨fun q app below => hholds.dropsLength q app below, fun g _ => g.length_inspect⟩

def substitutes : PolicyDefinition where
  name := "substitutes"
  rules := [substituting "b"]

def sized : Response where
  headers := ⟨[(.contentLength, ⟨[49]⟩)]⟩
  body := [97]

theorem substitutes_compile : ∃ e b a o, substitutes.compile .strict = .ok e ∧ (substituting "b").build = .ok b ∧
    b.action = .replaceContent a ∧ o.hasFired = true ∧
    ∀ below, (e.evaluateOutbound Guard.atA (.capture sized) below).1.outcomes = [(b.id, o)] := by
  obtain ⟨⟨id, scope, action⟩, r, hb, hcovers, hr, ha, hoccurs⟩ := exists_substituting "b"
  cases ha
  let b : BuiltIn := ⟨id, scope, .replaceContent ⟨r, Regex.template "b".toList, none⟩⟩
  have hrun : (b.plan Guard.atA sized.headers sized.body).carryOut ⟨none, sized⟩ = _ :=
    (b.check_eq Guard.atA ⟨none, sized⟩).symm.trans (b.check_bare Guard.atA sized)
  have htext : (Utf8.decode? sized.body).isSome = true := by decide
  have happlied := (BuiltIn.replaces (c := ⟨none, sized⟩) hr rfl hcovers rfl rfl htext hrun).applied.mpr hoccurs
  have hfired : (b.outcomeOn Guard.atA sized).hasFired = true := by
    cases ho : b.outcomeOn Guard.atA sized <;> rw [ho] at happlied <;> first | rfl | cases happlied
  have hcompile : substitutes.compile .strict = .ok { outbound := ⟨[b.toRule]⟩ } := by
    rw [PolicyDefinition.compile_of_fit (show Enforcer.ofSettings substitutes.settings = .ok {} by decide) (by decide)]
    simp only [substitutes, PolicyDefinition.buildRules, hb]
    rfl
  refine ⟨_, b, _, _, hcompile, hb, rfl, hfired, fun below => ?_⟩
  obtain ⟨ran, hpre, hran, houtcomes, -⟩ := Chain.evaluateWith_shows [b] Guard.atA sized below
  rw [Stage.executed_of_rewrites Guard.atA (by simp [b, Action.rewrites])] at hran
  obtain rfl := hpre.eq_of_length (by simpa using (congrArg List.length hran).symm)
  exact houtcomes

/-- Neither the length of the application nor the one below is left. -/
theorem substitutes_length : ∃ e, substitutes.compile .strict = .ok e ∧
    (e.evaluateOutbound Guard.atA (.capture sized) sized).2.headers.getAll .contentLength = [] ∧
    (Guard.inspect { engine := e } (.ofCapacity 1) default Guard.atA fun _ => sized).response.headers.getAll
      .contentLength = [] := by
  obtain ⟨e, b, a, o, hcompile, hb, ha, hfired, houtcomes⟩ := substitutes_compile
  obtain ⟨hchain, hinspect⟩ := length_dropped hcompile
  refine ⟨e, hcompile, ?_, hinspect { engine := e } rfl _ _ _ _⟩
  obtain ⟨ran, hdrops⟩ := hchain Guard.atA sized sized
  have hids := hdrops.ids
  rw [houtcomes] at hids
  obtain ⟨x, rfl, -⟩ := List.map_eq_singleton_iff.mp (show ran.map (·.id) = [b.id] from hids.symm)
  -- the rule that ran is the one that was built
  obtain ⟨d, hd, hbuild⟩ := hdrops.built x List.mem_cons_self
  obtain rfl := List.mem_singleton.mp hd
  cases hbuild.symm.trans hb
  exact hdrops.dropped [] _ [] a o rfl ha (by rw [houtcomes]; rfl) hfired (by simp)

end Portcullis.Boundary

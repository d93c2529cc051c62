import Portcullis.Proofs.Policy.Compilation
import Portcullis.Proofs.Policy.Plan

/-!
# Rules that write and rules that decide

A rule of a policy either writes to the response and never stops a chain, or decides and leaves the response as it is.
What a chain leaves is therefore the work of its writing rules alone, and an inbound chain commits nothing.
-/

namespace Portcullis.Policy
open Http

/-! ## One rule -/

def Action.rewrites : Action → Bool
  | .addHeader _ => true
  | .hardenCookies _ => true
  | .replaceContent _ => true
  | _ => false

namespace Action

variable {a : Action} {q : Request} {h : Headers} {body : Bytes}

theorem exists_leave (ha : a.rewrites = false) (q : Request) (h : Headers) (body : Bytes) :
    ∃ o, a.plan q h body = .leave o := by
  cases a with
  | addHeader | hardenCookies | replaceContent => cases ha
  | _ => exact ⟨_, rfl⟩

theorem eq_pass_of_leave (ha : a.rewrites = true) {o : Outcome} (hp : a.plan q h body = .leave o) : o = .pass := by
  cases a with
  | addHeader a => cases hp
  | hardenCookies a =>
    simp only [plan] at hp
    split at hp
    · cases hp
      rfl
    · cases hp
  | replaceContent a =>
    simp only [plan] at hp
    split at hp
    · cases hp
      rfl
    · split at hp
      · cases hp
        rfl
      · cases hp
  | _ => cases ha

theorem phase_of_rewrites (ha : a.rewrites = true) : a.phase = .outbound := by
  cases a with
  | addHeader | hardenCookies | replaceContent => rfl
  | _ => cases ha

theorem rewrites_of_inbound (ha : a.phase = .inbound) : a.rewrites = false :=
  Bool.eq_false_iff.mpr fun hr => by rw [phase_of_rewrites hr] at ha; cases ha

end Action

namespace BuiltIn

variable {b : BuiltIn}

/-- A rule that decides leaves everything to the next one as it found it. -/
theorem after_of_decides (hb : b.action.rewrites = false) (q : Request) (s : Stage) : b.toRule.after q s = s := by
  have hleave : ∃ o, b.plan q s.buffer.headers s.buffer.body = .leave o := by
    rw [plan]
    split
    · exact Action.exists_leave hb q _ _
    · exact ⟨_, rfl⟩
  obtain ⟨o, ho⟩ := hleave
  have hcheck : b.toRule.check q ⟨some s.buffer, s.raw⟩ = (⟨some s.buffer, s.raw⟩, .finished o) := by
    rw [toRule_check]
    simp only [Canvas.headers, Canvas.body, ho, Plan.carryOut]
  rw [Rule.after, hcheck]
  rfl

/-- A rule that writes never stops a chain. -/
theorem not_demandsAction_of_rewrites (hb : b.action.rewrites = true) (q : Request) (s : Stage) :
    (b.toRule.ending q s).outcome.demandsAction = false := by
  rw [Rule.ending, toRule_check]
  cases hp : b.plan q (Canvas.headers ⟨some s.buffer, s.raw⟩) (Canvas.body ⟨some s.buffer, s.raw⟩) with
  | leave o =>
    rw [plan] at hp
    split at hp
    · rw [Action.eq_pass_of_leave hb hp]
      rfl
    · cases hp
      rfl
  | write first rest message complaint =>
    rw [Plan.carryOut]
    split <;> rfl

end BuiltIn

/-! ## Rules one after another -/

namespace Stage

theorem outcomes_append (q : Request) (s : Stage) (front back : List Rule) :
    s.outcomes q (front ++ back) = s.outcomes q front ++ (s.through q front).outcomes q back := by
  induction front generalizing s with
  | nil => rfl
  | cons r rest ih => rw [List.cons_append, outcomes, outcomes, ih, List.cons_append]; rfl

/-- Either all rules run and none demands action, or the run ends with a rule that does. -/
theorem executed_cases (q : Request) (rules : List Rule) (s : Stage) :
    (s.executed q rules = rules ∧ ∀ p ∈ s.outcomes q rules, p.2.demandsAction = false) ∨
      ∃ front r rest, rules = front ++ r :: rest ∧ s.executed q rules = front ++ [r] ∧
        (r.ending q (s.through q front)).outcome.demandsAction = true := by
  induction rules generalizing s with
  | nil => exact .inl ⟨rfl, nofun⟩
  | cons r rest ih =>
    rw [executed]
    split
    · rename_i hr
      exact .inr ⟨[], r, rest, rfl, rfl, hr⟩
    · rename_i hr
      rcases ih (r.after q s) with ⟨hall, hquiet⟩ | ⟨front, r', rest', rfl, hexecuted, hr'⟩
      · refine .inl ⟨by rw [hall], fun p hp => ?_⟩
        rcases List.mem_cons.mp hp with rfl | hp
        · exact Bool.eq_false_iff.mpr hr
        · exact hquiet p hp
      · exact .inr ⟨r :: front, r', rest', rfl, by rw [hexecuted]; rfl, hr'⟩

theorem through_of_forall (q : Request) {rules : List Rule} {s : Stage} (h : ∀ r ∈ rules, r.after q s = s) :
    s.through q rules = s := by
  induction rules with
  | nil => rfl
  | cons r rest ih =>
    have hrest := ih fun x hx => h x (.tail _ hx)
    rw [through] at hrest ⊢
    rw [List.foldl_cons, h r List.mem_cons_self, hrest]

/-- Only the rules that write make a difference to what is left. -/
theorem through_rewriting (q : Request) (bs : List BuiltIn) (s : Stage) :
    s.through q (bs.map BuiltIn.toRule) = s.through q ((bs.filter (·.action.rewrites)).map BuiltIn.toRule) := by
  induction bs generalizing s with
  | nil => rfl
  | cons b rest ih =>
    have hstep : s.through q ((b :: rest).map BuiltIn.toRule) =
        (b.toRule.after q s).through q (rest.map BuiltIn.toRule) := rfl
    cases hb : b.action.rewrites with
    | true =>
      have hkeep : (b :: rest).filter (·.action.rewrites) = b :: rest.filter (·.action.rewrites) :=
        List.filter_cons_of_pos hb
      rw [hstep, ih, hkeep]
      rfl
    | false => rw [hstep, b.after_of_decides hb, ih, List.filter_cons_of_neg (by simp [hb])]

/-- Rules that write all run, since none of them stops the chain. -/
theorem executed_of_rewrites (q : Request) {bs : List BuiltIn} (h : ∀ b ∈ bs, b.action.rewrites = true) (s : Stage) :
    s.executed q (bs.map BuiltIn.toRule) = bs.map BuiltIn.toRule := by
  induction bs generalizing s with
  | nil => rfl
  | cons b rest ih =>
    have hb := b.not_demandsAction_of_rewrites (h b List.mem_cons_self) q s
    rw [List.map_cons, executed, if_neg (Bool.eq_false_iff.mp hb), ih fun x hx => h x (.tail _ hx)]

/-- A run of built rules ends with the last of them, or at one that does not write. What it leaves is the work of the
writing rules before that. -/
theorem executed_built_cases (q : Request) (bs : List BuiltIn) (s : Stage) :
    (Disposition.ofLast (s.outcomes q (s.executed q (bs.map BuiltIn.toRule))).getLast? = .allow ∧
      s.through q (s.executed q (bs.map BuiltIn.toRule)) =
        s.through q ((bs.filter (·.action.rewrites)).map BuiltIn.toRule)) ∨
    ∃ front b rest o, bs = front ++ b :: rest ∧ b.action.rewrites = false ∧
      Disposition.ofLast (s.outcomes q (s.executed q (bs.map BuiltIn.toRule))).getLast? = .abort b.id o ∧
      s.through q (s.executed q (bs.map BuiltIn.toRule)) =
        s.through q ((front.filter (·.action.rewrites)).map BuiltIn.toRule) := by
  rcases s.executed_cases q (bs.map BuiltIn.toRule) with ⟨hall, hquiet⟩ | ⟨front, r, rest, hsplit, hexecuted, hr⟩
  · refine .inl ⟨?_, by rw [hall, through_rewriting]⟩
    rw [hall, Disposition.ofLast_of_quiet hquiet]
  · obtain ⟨front, tail, rfl, rfl, htail⟩ := List.map_eq_append_iff.mp hsplit
    obtain ⟨b, rest, rfl, rfl, rfl⟩ := List.map_eq_cons_iff.mp htail
    have hb : b.action.rewrites = false := by
      by_contra hwrites
      rw [b.not_demandsAction_of_rewrites (Bool.of_not_eq_false hwrites)] at hr
      cases hr
    let o := (b.toRule.ending q (s.through q (front.map BuiltIn.toRule))).outcome
    refine .inr ⟨front, b, rest, o, rfl, hb, ?_, ?_⟩
    · rw [hexecuted, outcomes_append, outcomes, outcomes, List.getLast?_concat, Disposition.ofLast, if_pos hr]
      rfl
    · have hmap : front.map BuiltIn.toRule ++ [b.toRule] = (front ++ [b]).map BuiltIn.toRule := by simp
      rw [hexecuted, hmap, through_rewriting, List.filter_append, List.filter_singleton, hb, cond_false,
        List.append_nil]

theorem isOpen_through (q : Request) (bs : List BuiltIn) {s : Stage} (h : s.buffer.isFlushed = false) :
    (s.through q (bs.map BuiltIn.toRule)).buffer.isFlushed = false := by
  induction bs generalizing s with
  | nil => exact h
  | cons b rest ih =>
    refine ih (s := b.toRule.after q s) ?_
    rw [Rule.after, b.toRule_check, Plan.carryOut_open _ h, Option.getD_some, Interceptor.foldl_buffer_isFlushed, h]

/-- Rules that report no change on an open buffer made none. -/
theorem through_of_unapplied (q : Request) {bs : List BuiltIn} {s : Stage} (hopen : s.buffer.isFlushed = false)
    (h : ∀ p ∈ s.outcomes q (bs.map BuiltIn.toRule), p.2.isApplied = false) :
    s.through q (bs.map BuiltIn.toRule) = s := by
  induction bs with
  | nil => rfl
  | cons b rest ih =>
    have hcheck := b.toRule_check q ⟨some s.buffer, s.raw⟩
    have hself : b.toRule.after q s = s := by
      have hfirst := h _ List.mem_cons_self
      rw [Rule.ending, hcheck, Plan.carryOut_open _ hopen] at hfirst
      rw [Rule.after, hcheck, Plan.carryOut_open _ hopen]
      cases hp : b.plan q (Canvas.headers ⟨some s.buffer, s.raw⟩) (Canvas.body ⟨some s.buffer, s.raw⟩) with
      | leave o => rfl
      | write first rest message complaint =>
        rw [hp] at hfirst
        cases hfirst
    have hrest := ih fun p hp => h p (by rw [List.map_cons, outcomes, hself]; exact .tail _ hp)
    have hstep : s.through q ((b :: rest).map BuiltIn.toRule) =
        (b.toRule.after q s).through q (rest.map BuiltIn.toRule) := rfl
    rw [hstep, hself, hrest]

end Stage

/-! ## The chains of a policy -/

theorem Interceptor.commitOnto_empty (raw : Response) : ({} : Interceptor).commitOnto raw = raw := by
  simp [commitOnto, Headers.overlay, Headers.contains]

theorem Interceptor.commitOnto_capture (r : Response) : (capture r).commitOnto {} = r := by
  simp [commitOnto, capture, Headers.overlay]

namespace PolicyDefinition

variable {p : PolicyDefinition} {e : Engine} {built : List BuiltIn}

theorem Holds.inbound_eq (h : p.Holds e built) :
    e.inbound.rules = (built.filter (·.action.phase == .inbound)).map BuiltIn.toRule := by
  rw [h.inbound, List.filter_map]
  rfl

theorem Holds.outbound_eq (h : p.Holds e built) :
    e.outbound.rules = (built.filter (·.action.phase == .outbound)).map BuiltIn.toRule := by
  rw [h.outbound, List.filter_map]
  rfl

/-- The inbound chain of a policy commits nothing. -/
theorem Holds.evaluateInbound_snd (h : p.Holds e built) (q : Request) (raw : Response) :
    (e.evaluateInbound q raw).2 = raw := by
  let s : Stage := ⟨{}, raw⟩
  have hself : s.through q (s.executed q e.inbound.rules) = s := by
    refine Stage.through_of_forall q fun r hr => ?_
    have hmem := (s.executed_prefix q e.inbound.rules).subset hr
    rw [h.inbound_eq] at hmem
    obtain ⟨b, hb, rfl⟩ := List.mem_map.mp hmem
    exact b.after_of_decides (Action.rewrites_of_inbound (by simpa using (List.mem_filter.mp hb).2)) q s
  have hrun := Chain.evaluateWith_eq e.inbound.rules q s (by rw [hself])
  rw [hself] at hrun
  have hresult : e.evaluateInbound q raw = _ := hrun
  rw [hresult]
  exact Interceptor.commitOnto_empty raw

end PolicyDefinition

end Portcullis.Policy

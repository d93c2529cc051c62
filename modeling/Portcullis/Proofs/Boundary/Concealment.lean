import Mathlib.Data.List.Forall2
import Portcullis.Proofs.Boundary.Inspection

/-!
# What an enforced abort conceals

The page for an abort is made from the verdict, the request and the fields that the inbound chain committed. The
response of the application and the messages of rules have no part in it.
-/

namespace Portcullis.Policy
open Http

/-! ## Outcomes up to their messages -/

/-- The outcome without its message. -/
def Outcome.silent : Outcome → Outcome
  | .pass _ => .pass
  | .applied _ => .applied
  | .abort remedy _ => .abort remedy
  | .anomaly _ => .anomaly ""

def Disposition.silent : Disposition → Disposition
  | .allow => .allow
  | .abort id o => .abort id o.silent

theorem Outcome.demandsAction_silent (o : Outcome) : o.silent.demandsAction = o.demandsAction := by
  cases o <;> rfl

theorem Outcome.remedy?_silent (o : Outcome) : o.silent.remedy? = o.remedy? := by
  cases o <;> rfl

/-- Two rules that differ at most in the messages of their outcomes. -/
structure Rule.SameButMessages (r r' : Rule) : Prop where
  id : r.id = r'.id
  kind : r.kind = r'.kind
  phase : r.phase = r'.phase
  canvas : ∀ q c, (r.check q c).1 = (r'.check q c).1
  outcome : ∀ q c, (r.check q c).2.outcome.silent = (r'.check q c).2.outcome.silent

structure Engine.SameButMessages (e e' : Engine) : Prop where
  inbound : List.Forall₂ Rule.SameButMessages e.inbound.rules e'.inbound.rules
  outbound : List.Forall₂ Rule.SameButMessages e.outbound.rules e'.outbound.rules
  enforcer : e.enforcer = e'.enforcer

/-! ## Chains -/

/-- Two runs that differ at most in messages: they left the same responses and stopped at the same place. -/
structure Chain.Progress.SameButMessages (p p' : Chain.Progress) : Prop where
  disposition : p.disposition.silent = p'.disposition.silent
  intercepted : p.intercepted = p'.intercepted
  raw : p.raw = p'.raw

theorem Chain.runRules_sameButMessages {rules rules' : List Rule}
    (h : List.Forall₂ Rule.SameButMessages rules rules') (q : Request) (i : Interceptor) (raw : Response) :
    (Chain.runRules q rules i raw).SameButMessages (Chain.runRules q rules' i raw) := by
  induction h generalizing i raw with
  | nil => exact ⟨rfl, rfl, rfl⟩
  | @cons r r' rest rest' hr _ ih =>
    have hc := hr.canvas q ⟨some i, raw⟩
    have ho := hr.outcome q ⟨some i, raw⟩
    have hd : (r.check q ⟨some i, raw⟩).2.outcome.demandsAction =
        (r'.check q ⟨some i, raw⟩).2.outcome.demandsAction := by
      rw [← Outcome.demandsAction_silent, ho, Outcome.demandsAction_silent]
    simp only [Chain.runRules, hc, hd]
    split
    · exact ⟨by simp only [Disposition.silent, hr.id, ho], rfl, rfl⟩
    · have hrest := ih ((r'.check q ⟨some i, raw⟩).1.intercepted.getD i) (r'.check q ⟨some i, raw⟩).1.raw
      exact ⟨hrest.disposition, hrest.intercepted, hrest.raw⟩

theorem Chain.evaluateWith_sameButMessages {chain chain' : Chain}
    (h : List.Forall₂ Rule.SameButMessages chain.rules chain'.rules) (q : Request) (i : Interceptor) (raw : Response) :
    (chain.evaluateWith q i raw).1.disposition.silent = (chain'.evaluateWith q i raw).1.disposition.silent ∧
      (chain.evaluateWith q i raw).2 = (chain'.evaluateWith q i raw).2 := by
  have hp := Chain.runRules_sameButMessages h q i raw
  simp only [Chain.evaluateWith, hp.intercepted, hp.raw]
  split <;> exact ⟨hp.disposition, rfl⟩

theorem Enforcer.resolve_eq_of_silent (e : Enforcer) {r r' : ChainResult}
    (h : r.disposition.silent = r'.disposition.silent) : e.resolve r = e.resolve r' := by
  simp only [Enforcer.resolve]
  cases hd : r.disposition <;> cases hd' : r'.disposition <;> simp only [hd, hd', Disposition.silent] at h
  · rfl
  · cases h
  · cases h
  · rename_i id o id' o'
    have ho : o.silent = o'.silent := (Disposition.abort.inj h).2
    have hr : o.remedy? = o'.remedy? := by rw [← Outcome.remedy?_silent, ho, Outcome.remedy?_silent]
    simp only [hr]

end Portcullis.Policy

namespace Portcullis.Boundary
open Http Policy

namespace Guard

/-! ## Exchanges -/

/-- Two guards that differ at most in the messages of their rules. -/
structure SameButMessages (g g' : Guard) : Prop where
  config : g.config = g'.config
  engine : g.engine.SameButMessages g'.engine

variable {g g' : Guard}

theorem SameButMessages.identified (h : g.SameButMessages g') (request : Request) :
    g.identified request = g'.identified request := by
  simp only [Guard.identified, h.config]

theorem SameButMessages.inboundRun (h : g.SameButMessages g') (request : Request) :
    g.engine.enforcer.resolve (g.inboundRun request).1 = g'.engine.enforcer.resolve (g'.inboundRun request).1 ∧
      (g.inboundRun request).2 = (g'.inboundRun request).2 := by
  have hrun := Chain.evaluateWith_sameButMessages h.engine.inbound (g'.identified request) {} {}
  simp only [Guard.inboundRun, Engine.evaluateInbound, Chain.evaluate, h.identified request, h.engine.enforcer]
  exact ⟨Enforcer.resolve_eq_of_silent _ hrun.1, hrun.2⟩

theorem SameButMessages.outboundRun (h : g.SameButMessages g') (request : Request) (answer : Response) :
    g.engine.enforcer.resolve (g.outboundRun request answer).1 =
      g'.engine.enforcer.resolve (g'.outboundRun request answer).1 := by
  simp only [Guard.outboundRun, Engine.evaluateOutbound, h.identified request, (h.inboundRun request).2,
    h.engine.enforcer]
  exact Enforcer.resolve_eq_of_silent _ (Chain.evaluateWith_sameButMessages h.engine.outbound _ _ _).1

theorem SameButMessages.pageFor (h : g.SameButMessages g') (request : Request) (page : Response) :
    g.pageFor request page = g'.pageFor request page := by
  simp only [Guard.pageFor, Guard.decorate, Engine.evaluateOutbound, h.identified request,
    (h.inboundRun request).2]
  rw [(Chain.evaluateWith_sameButMessages h.engine.outbound _ _ _).2]

/-- Messages do not decide whether, where and with which verdict an exchange is aborted. -/
theorem SameButMessages.aborted (h : g.SameButMessages g') {request : Request} {app : Application} {phase : Phase}
    {v : Verdict} (ha : g.Aborted request app phase v) : g'.Aborted request app phase v := by
  cases ha with
  | inbound body_le verdict enforced =>
    rw [(h.inboundRun request).1] at verdict
    exact .inbound (h.config ▸ body_le) verdict enforced
  | outbound body_le passed answer_le verdict enforced =>
    rw [(h.inboundRun request).1] at passed
    rw [h.outboundRun, h.identified request] at verdict
    rw [h.identified request, h.config] at answer_le
    exact .outbound (h.config ▸ body_le) passed answer_le verdict enforced

/-- Two answers of the application that are aborted with one verdict look the same to the client, and so do the
aborts of two guards that differ in messages alone. -/
theorem response_of_aborted_unique (g : Guard) (request : Request) :
    (∀ l l' marks marks' app app' v, g.Aborted request app .outbound v → g.Aborted request app' .outbound v →
      (g.inspect l marks request app).response = (g.inspect l' marks' request app').response) ∧
    (∀ g', g.SameButMessages g' → ∀ l l' marks marks' app phase v, g.Aborted request app phase v →
      g'.Aborted request app phase v ∧
        (g.inspect l marks request app).response = (g'.inspect l' marks' request app).response) := by
  constructor
  · intro l l' marks marks' app app' v h h'
    obtain ⟨page, hp, hr⟩ := h.response l marks
    obtain ⟨page', hp', hr'⟩ := h'.response l' marks'
    cases hp.symm.trans hp'
    rw [hr, hr']
  · intro g' hg l l' marks marks' app phase v h
    obtain ⟨page, hp, hr⟩ := h.response l marks
    obtain ⟨page', hp', hr'⟩ := (hg.aborted h).response l' marks'
    cases hp.symm.trans hp'
    exact ⟨hg.aborted h, by rw [hr, hr', hg.pageFor]⟩

/-- A guard that marks every response and then stops those with a body, its own pages among them. -/
def stopping (message : String) : Guard :=
  { engine := { outbound := ⟨[
      { id := "mark", kind := "scripted", phase := .outbound
        check := fun _ c => ((c.write (.setHeader ⟨"x-mark"⟩ ⟨[49]⟩)).toOption.getD c, .finished .applied) },
      { id := "stop", kind := "scripted", phase := .outbound
        check := fun _ c => (c, .finished (if c.body.isEmpty then .pass else .abort none (some message))) }]⟩ } }

theorem stopping_sameButMessages (message message' : String) :
    (stopping message).SameButMessages (stopping message') where
  config := rfl
  engine := {
    inbound := .nil
    outbound := by
      refine .cons ⟨rfl, rfl, rfl, fun _ _ => rfl, fun _ _ => rfl⟩ (.cons ⟨rfl, rfl, rfl, fun _ _ => rfl, ?_⟩ .nil)
      intro q c
      simp only [CheckEnd.outcome]
      split <;> rfl
    enforcer := rfl }

theorem stopping_aborted (message : String) (status : Status) (headers : Headers) (b : UInt8) :
    (stopping message).Aborted { uri := {} } (fun _ => ⟨status, headers, [b]⟩) .outbound (.block .forbidden) := by
  refine .outbound (Nat.zero_le _) rfl ?_ rfl (by decide)
  simp [stopping]

theorem stopping_response_unique :
    (stopping "a").Aborted { uri := {} } (fun _ => ⟨.ok, ⟨[(⟨"x-secret"⟩, ⟨[50]⟩)]⟩, [1]⟩) .outbound
        (.block .forbidden) ∧
      (stopping "a").Aborted { uri := {} } (fun _ => ⟨.badGateway, {}, [2]⟩) .outbound (.block .forbidden) ∧
      ((stopping "a").inspect (.ofCapacity 1) default { uri := {} }
          fun _ => ⟨.ok, ⟨[(⟨"x-secret"⟩, ⟨[50]⟩)]⟩, [1]⟩).response =
        ((stopping "a").inspect (.ofCapacity 2) default { uri := {} } fun _ => ⟨.badGateway, {}, [2]⟩).response ∧
      ((stopping "a").inspect (.ofCapacity 1) default { uri := {} } fun _ => ⟨.badGateway, {}, [2]⟩).response =
        ((stopping "b").inspect (.ofCapacity 1) default { uri := {} } fun _ => ⟨.badGateway, {}, [2]⟩).response :=
  have first := stopping_aborted "a" .ok ⟨[(⟨"x-secret"⟩, ⟨[50]⟩)]⟩ 1
  have second := stopping_aborted "a" .badGateway {} 2
  ⟨first, second, (response_of_aborted_unique _ _).1 _ _ _ _ _ _ _ first second,
    ((response_of_aborted_unique _ _).2 _ (stopping_sameButMessages "a" "b") _ _ _ _ _ _ _ second).2⟩

end Guard

end Portcullis.Boundary

import Portcullis.Boundary.Guard

/-!
# The response of an inspected exchange

The response depends on the ledger and the marks in no way. It is a bare status for bodies that are too long, a
decorated page for an enforced abort, and else what the outbound chain committed.
-/

namespace Portcullis.Policy

theorem Verdict.page?_eq_none {v : Verdict} : v.page? = none ↔ v = .allow := by
  cases v <;> simp [Verdict.page?]

theorem ChainResult.isAllowed_iff {r : ChainResult} : r.isAllowed = true ↔ r.disposition = .allow := by
  simp [ChainResult.isAllowed]

theorem Enforcer.resolve_of_isAllowed (e : Enforcer) {r : ChainResult} (h : r.isAllowed = true) :
    e.resolve r = .allow := by
  simp [Enforcer.resolve, ChainResult.isAllowed_iff.mp h]

end Portcullis.Policy

namespace Portcullis.Boundary
open Http Policy

namespace Guard

variable (g : Guard) (l : Ledger) (marks : Marks) (request : Request) (app : Application)

/-- The inbound chain over the request, on an empty response. -/
def inboundRun : ChainResult × Response :=
  g.engine.evaluateInbound (g.identified request) {}

/-- The outbound chain over an answer of the application, on what the inbound chain committed. -/
def outboundRun (answer : Response) : ChainResult × Response :=
  g.engine.evaluateOutbound (g.identified request) (.capture answer) (g.inboundRun request).2

/-- The page in place of the application's response, on the fields that the inbound chain committed. -/
def pageFor (page : Response) : Response :=
  (g.decorate (g.identified request) (g.inboundRun request).2.headers page).2

/-- A chain result leads to a page exactly if its verdict has one. -/
theorem enforce_eq (phase : Phase) (result : ChainResult) (committed : Headers) :
    g.enforce l marks phase request result committed =
      ((g.engine.enforcer.resolve result).page?.map fun page => (g.decorate request committed page).2,
        (g.enforce l marks phase request result committed).2) := by
  refine Prod.ext ?_ rfl
  simp only [Guard.enforce]
  split
  · rename_i h
    rw [Enforcer.resolve_of_isAllowed _ h]
    rfl
  · cases (g.engine.enforcer.resolve result).page? <;> rfl

theorem inspect_eq : g.inspect l marks request app =
    if request.body.length > g.config.maxBodyBytes then
      ⟨.bare .payloadTooLarge, none, l.countRequest.countBlocked⟩
    else
      match g.enforce l.countRequest marks .inbound (g.identified request) (g.inboundRun request).1
        (g.inboundRun request).2.headers with
      | (some page, l) => ⟨page, none, l⟩
      | (none, l) =>
        if (app (g.identified request)).body.length > g.config.maxResponseBytes then
          ⟨.bare .badGateway, some (g.identified request), l⟩
        else
          match g.enforce l marks .outbound (g.identified request)
            (g.outboundRun request (app (g.identified request))).1 (g.inboundRun request).2.headers with
          | (some page, l) => ⟨page, some (g.identified request), l⟩
          | (none, l) =>
            ⟨withoutLength (g.outboundRun request (app (g.identified request))).2, some (g.identified request), l⟩ :=
  rfl

theorem inspect_response :
    (g.inspect l marks request app).response =
      if request.body.length > g.config.maxBodyBytes then .bare .payloadTooLarge
      else
        match (g.engine.enforcer.resolve (g.inboundRun request).1).page? with
        | some page => g.pageFor request page
        | none =>
          if (app (g.identified request)).body.length > g.config.maxResponseBytes then .bare .badGateway
          else
            match (g.engine.enforcer.resolve (g.outboundRun request (app (g.identified request))).1).page? with
            | some page => g.pageFor request page
            | none => withoutLength (g.outboundRun request (app (g.identified request))).2 := by
  rw [inspect_eq, enforce_eq]
  split
  · rfl
  · cases (g.engine.enforcer.resolve (g.inboundRun request).1).page? with
    | some page => rfl
    | none =>
      simp only [Option.map_none]
      split
      · rfl
      · rw [enforce_eq]
        cases (g.engine.enforcer.resolve (g.outboundRun request (app (g.identified request))).1).page? <;> rfl

/-- The application is reached by the identified request, unless the body is too long or the inbound chain leads to a
page. -/
theorem inspect_reached :
    (g.inspect l marks request app).reached =
      if request.body.length > g.config.maxBodyBytes then none
      else
        match (g.engine.enforcer.resolve (g.inboundRun request).1).page? with
        | some _ => none
        | none => some (g.identified request) := by
  rw [inspect_eq, enforce_eq]
  split
  · rfl
  · cases (g.engine.enforcer.resolve (g.inboundRun request).1).page? with
    | some page => rfl
    | none =>
      simp only [Option.map_none]
      split
      · rfl
      · split <;> rfl

/-- The exchange ends in an abort that is answered with a page: the phase whose chain aborted, and the verdict. -/
inductive Aborted : Phase → Verdict → Prop where
  | inbound {v : Verdict} (body_le : request.body.length ≤ g.config.maxBodyBytes)
    (verdict : g.engine.enforcer.resolve (g.inboundRun request).1 = v) (enforced : v ≠ .allow) : Aborted .inbound v
  | outbound {v : Verdict} (body_le : request.body.length ≤ g.config.maxBodyBytes)
    (passed : g.engine.enforcer.resolve (g.inboundRun request).1 = .allow)
    (answer_le : (app (g.identified request)).body.length ≤ g.config.maxResponseBytes)
    (verdict : g.engine.enforcer.resolve (g.outboundRun request (app (g.identified request))).1 = v)
    (enforced : v ≠ .allow) : Aborted .outbound v

variable {g request app}

/-- The page for the verdict is all that the client gets. -/
theorem Aborted.response {phase : Phase} {v : Verdict} (h : g.Aborted request app phase v) :
    ∃ page, v.page? = some page ∧ (g.inspect l marks request app).response = g.pageFor request page := by
  cases h with
  | inbound body_le verdict enforced =>
    cases hp : v.page? with
    | none => exact absurd (Verdict.page?_eq_none.mp hp) enforced
    | some page =>
      refine ⟨page, rfl, ?_⟩
      simp [inspect_response, Nat.not_lt.mpr body_le, verdict, hp]
  | outbound body_le passed answer_le verdict enforced =>
    cases hp : v.page? with
    | none => exact absurd (Verdict.page?_eq_none.mp hp) enforced
    | some page =>
      refine ⟨page, rfl, ?_⟩
      have hallow : Verdict.page? .allow = none := rfl
      simp [inspect_response, Nat.not_lt.mpr body_le, passed, hallow, Nat.not_lt.mpr answer_le, verdict, hp]

end Guard

end Portcullis.Boundary

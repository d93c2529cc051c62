import Portcullis.Proofs.Boundary.Inspection
import Portcullis.Proofs.Chain.Deciding
import Portcullis.Proofs.Policy.Frame

/-!
# Exchanges that pass

Where nothing is enforced and nothing rewritten, the inspection cannot be told from the application itself, but for
the user that it adds to the request and the length that it takes off the response.
-/

namespace Portcullis.Boundary
open Http Policy

namespace Guard

variable {g : Guard} {l : Ledger} {marks : Marks} {request : Request} {app : Application}

/-- The request goes on to the application. -/
structure Reaches (g : Guard) (request : Request) : Prop where
  body_le : request.body.length ≤ g.config.maxBodyBytes
  allowed : g.engine.enforcer.resolve (g.inboundRun request).1 = .allow

/-- The ledger once the inbound chain has decided. -/
def ledgerWithin (g : Guard) (l : Ledger) (marks : Marks) (request : Request) : Ledger :=
  (g.enforce l.countRequest marks .inbound (g.identified request) (g.inboundRun request).1
    (g.inboundRun request).2.headers).2

/-- What becomes of the application's answer to the request that it was sent. -/
def finish (g : Guard) (l : Ledger) (marks : Marks) (request : Request) (answer : Response) : Exchange :=
  if answer.body.length > g.config.maxResponseBytes then ⟨.bare .badGateway, some (g.identified request), l⟩
  else
    match g.enforce l marks .outbound (g.identified request) (g.outboundRun request answer).1
      (g.inboundRun request).2.headers with
    | (some page, l) => ⟨page, some (g.identified request), l⟩
    | (none, l) => ⟨withoutLength (g.outboundRun request answer).2, some (g.identified request), l⟩

theorem Reaches.inspect_eq (h : g.Reaches request) : g.inspect l marks request app =
    g.finish (g.ledgerWithin l marks request) marks request (app (g.identified request)) := by
  have henforce := g.enforce_eq l.countRequest marks (g.identified request) .inbound (g.inboundRun request).1
    (g.inboundRun request).2.headers
  rw [h.allowed] at henforce
  rw [Guard.inspect_eq, if_neg (Nat.not_lt.mpr h.body_le), henforce]
  rfl

theorem finish_eq (g : Guard) {l : Ledger} {answer : Response} (h : answer.body.length ≤ g.config.maxResponseBytes) :
    g.finish l marks request answer =
      ⟨match (g.engine.enforcer.resolve (g.outboundRun request answer).1).page? with
        | some page => g.pageFor request page
        | none => withoutLength (g.outboundRun request answer).2,
        some (g.identified request),
        (g.enforce l marks .outbound (g.identified request) (g.outboundRun request answer).1
          (g.inboundRun request).2.headers).2⟩ := by
  rw [finish, if_neg (Nat.not_lt.mpr h), enforce_eq]
  cases (g.engine.enforcer.resolve (g.outboundRun request answer).1).page? <;> rfl

theorem reaches_or_not (g : Guard) (l : Ledger) (marks : Marks) (request : Request) :
    (¬g.Reaches request ∧ ∃ e : Exchange, e.reached = none ∧ ∀ app, g.inspect l marks request app = e) ∨
      g.Reaches request ∧ ∀ app, (g.inspect l marks request app).reached = some (g.identified request) := by
  by_cases h : g.Reaches request
  · refine .inr ⟨h, fun app => ?_⟩
    rw [inspect_reached, if_neg (Nat.not_lt.mpr h.body_le), h.allowed]
    rfl
  · refine .inl ⟨h, ?_⟩
    by_cases hbody : request.body.length > g.config.maxBodyBytes
    · exact ⟨⟨.bare .payloadTooLarge, none, l.countRequest.countBlocked⟩, rfl, fun app => by
        rw [Guard.inspect_eq, if_pos hbody]⟩
    · have hdenied : g.engine.enforcer.resolve (g.inboundRun request).1 ≠ .allow := fun hv =>
        h ⟨Nat.not_lt.mp hbody, hv⟩
      obtain ⟨page, hpage⟩ : ∃ page, (g.engine.enforcer.resolve (g.inboundRun request).1).page? = some page :=
        Option.ne_none_iff_exists'.mp fun hnone => hdenied (Verdict.page?_eq_none.mp hnone)
      have henforce := g.enforce_eq l.countRequest marks (g.identified request) .inbound (g.inboundRun request).1
        (g.inboundRun request).2.headers
      rw [hpage] at henforce
      refine ⟨⟨(g.decorate (g.identified request) (g.inboundRun request).2.headers page).2, none,
        g.ledgerWithin l marks request⟩, rfl, fun app => ?_⟩
      rw [Guard.inspect_eq, if_neg hbody, henforce]
      rfl

theorem evaluateOutbound_of_unapplied {p : PolicyDefinition} {e : Engine} {built : List BuiltIn} (h : p.Holds e built)
    (q : Request) (answer : Response)
    (hnone : ∀ o ∈ (e.evaluateOutbound q (.capture answer) {}).1.outcomes, o.2.isApplied = false) :
    (e.evaluateOutbound q (.capture answer) {}).2 = answer := by
  let s : Stage := ⟨.capture answer, {}⟩
  obtain ⟨ran, -, hran⟩ := s.executed_map BuiltIn.toRule q (built.filter (·.action.phase == .outbound))
  rw [← h.outbound_eq] at hran
  have hrun := Chain.evaluateWith_eq e.outbound.rules q s (by rw [hran]; exact Stage.isOpen_through q ran rfl)
  have hresult : e.evaluateOutbound q (.capture answer) {} = _ := hrun
  rw [hresult] at hnone ⊢
  rw [hran] at hnone ⊢
  rw [Stage.through_of_unapplied q rfl hnone]
  exact Interceptor.commitOnto_capture answer

/-- The inspection stays out of the way of what it lets through. -/
structure Transparent (g : Guard) (l : Ledger) (marks : Marks) (request : Request) (app : Application) : Prop where
  reached_iff : (g.inspect l marks request app).reached.isSome = true ↔
    request.body.length ≤ g.config.maxBodyBytes ∧ g.engine.enforcer.resolve (g.inboundRun request).1 = .allow
  /-- An application that is not reached has no part in the exchange. -/
  unreached : (g.inspect l marks request app).reached = none →
    ∀ other, g.inspect l marks request other = g.inspect l marks request app
  /-- Of one that is reached only the answer to this one request counts. -/
  once : ∀ sent, (g.inspect l marks request app).reached = some sent →
    ∀ other, other sent = app sent → g.inspect l marks request other = g.inspect l marks request app
  sent : ∀ sent, (g.inspect l marks request app).reached = some sent →
    sent.method = request.method ∧ sent.uri = request.uri ∧ sent.headers = request.headers ∧ sent.body = request.body ∧
      sent.user = if g.config.identity.enabled then some (g.config.identity.identify request.headers) else request.user
  /-- The outbound chain sees the request that the application got, and nothing else decides from there on. -/
  decides : ∀ sent, (g.inspect l marks request app).reached = some sent →
    (app sent).body.length ≤ g.config.maxResponseBytes →
    ∃ result committed before,
      g.engine.evaluateOutbound sent (.capture (app sent)) (g.inboundRun request).2 = (result, committed) ∧
      (g.inspect l marks request app).ledger =
        (g.enforce before marks .outbound sent result (g.inboundRun request).2.headers).2 ∧
      (g.inspect l marks request app).response =
        match (g.engine.enforcer.resolve result).page? with
        | some page => (g.decorate sent (g.inboundRun request).2.headers page).2
        | none => withoutLength committed
  /-- What no outbound rule applied to, and what was not stopped, is what the client gets. -/
  passes : ∀ sent, (g.inspect l marks request app).reached = some sent →
    (app sent).body.length ≤ g.config.maxResponseBytes →
    g.engine.enforcer.resolve (g.outboundRun request (app sent)).1 = .allow →
    (∀ o ∈ (g.outboundRun request (app sent)).1.outcomes, o.2.isApplied = false) →
    (g.inspect l marks request app).response =
      { app sent with headers := (app sent).headers.remove .contentLength }

theorem identified_eq (g : Guard) (request : Request) :
    g.identified request = { request with
      user := if g.config.identity.enabled then some (g.config.identity.identify request.headers) else request.user } := by
  rw [identified]
  split <;> rfl

/-- In front of every application, the guard of a policy is transparent for every exchange. -/
theorem inspect_transparent {p : PolicyDefinition} {mode : LoadMode} (h : p.compile mode = .ok g.engine) (l : Ledger)
    (marks : Marks) (request : Request) (app : Application) : g.Transparent l marks request app := by
  obtain ⟨built, hholds⟩ := PolicyDefinition.holds_of_compile h
  rcases g.reaches_or_not l marks request with ⟨hnot, x, hx, hsame⟩ | ⟨hreaches, hsent⟩
  · have hnone : (g.inspect l marks request app).reached = none := by rw [hsame, hx]
    have hout : ∀ sent, (g.inspect l marks request app).reached ≠ some sent := by simp [hnone]
    exact {
      reached_iff := ⟨fun hr => by simp [hnone] at hr, fun hr => absurd ⟨hr.1, hr.2⟩ hnot⟩
      unreached := fun _ other => by rw [hsame, hsame]
      once := fun sent hr => absurd hr (hout sent)
      sent := fun sent hr => absurd hr (hout sent)
      decides := fun sent hr => absurd hr (hout sent)
      passes := fun sent hr => absurd hr (hout sent) }
  · have hsome : (g.inspect l marks request app).reached = some (g.identified request) := hsent app
    have heq : ∀ sent, (g.inspect l marks request app).reached = some sent → sent = g.identified request :=
      fun sent hr => Option.some.inj (hr.symm.trans hsome)
    have hraw : (g.inboundRun request).2 = {} := hholds.evaluateInbound_snd (g.identified request) {}
    exact {
      reached_iff := ⟨fun _ => ⟨hreaches.body_le, hreaches.allowed⟩, fun _ => by simp [hsome]⟩
      unreached := fun hr => by simp [hsome] at hr
      once := fun sent hr other hother => by
        obtain rfl := heq sent hr
        rw [hreaches.inspect_eq, hreaches.inspect_eq, hother]
      sent := fun sent hr => by
        rw [heq sent hr, identified_eq]
        exact ⟨rfl, rfl, rfl, rfl, rfl⟩
      decides := fun sent hr hle => by
        obtain rfl := heq sent hr
        rw [hreaches.inspect_eq, g.finish_eq hle]
        exact ⟨_, _, g.ledgerWithin l marks request, rfl, rfl, rfl⟩
      passes := fun sent hr hle hallow hnone => by
        obtain rfl := heq sent hr
        have hcommitted : (g.outboundRun request (app (g.identified request))).2 = app (g.identified request) := by
          rw [outboundRun, hraw] at hnone ⊢
          exact evaluateOutbound_of_unapplied hholds _ _ hnone
        rw [hreaches.inspect_eq, g.finish_eq hle, hallow, hcommitted]
        rfl }

/-- A policy that hardens cookies. -/
def hardening : PolicyDefinition where
  name := "hardening"
  rules := [{ id := "flags", path := "/a", kind := .addCookieFlags "/a" true true }]

/-- An answer without cookies goes by it as the application gave it, but for the length. -/
theorem hardening_transparent : ∃ e, hardening.compile .strict = .ok e ∧
    ∃ x, x = ({ engine := e } : Guard).inspect (.ofCapacity 1) default { uri := { rawPath := "/a" } }
        (fun _ => ⟨.badGateway, ⟨[(⟨"x-a"⟩, ⟨[49]⟩), (.contentLength, ⟨[50]⟩)]⟩, [120]⟩) ∧
      x.reached = some { uri := { rawPath := "/a" } } ∧
      x.response = ⟨.badGateway, ⟨[(⟨"x-a"⟩, ⟨[49]⟩)]⟩, [120]⟩ := by
  obtain ⟨p, hp, -⟩ := exists_pattern_a
  let b : BuiltIn := ⟨"flags", ⟨p, []⟩, .hardenCookies ⟨p, true, true⟩⟩
  let g : Guard := { engine := { outbound := ⟨[b.toRule]⟩ } }
  let request : Request := { uri := { rawPath := "/a" } }
  let answer : Response := ⟨.badGateway, ⟨[(⟨"x-a"⟩, ⟨[49]⟩), (.contentLength, ⟨[50]⟩)]⟩, [120]⟩
  have hbuild : RuleDefinition.build { id := "flags", path := "/a", kind := .addCookieFlags "/a" true true } = .ok b :=
    RuleDefinition.build_of_pattern (show (Text.trim "flags".toList).isEmpty = false by decide) hp rfl (by
      simp only [RuleKind.build, wholePattern, hp]
      rfl)
  have hengine : hardening.compile .strict = .ok g.engine := by
    rw [PolicyDefinition.compile_of_fit (show Enforcer.ofSettings hardening.settings = .ok {} by decide) (by decide)]
    simp only [hardening, PolicyDefinition.buildRules, hbuild]
    rfl
  have hcheck : b.toRule.check request ⟨some (.capture answer), {}⟩ =
      (⟨some (.capture answer), {}⟩, .finished .pass) := by
    rw [b.toRule_check, BuiltIn.plan]
    split <;> rfl
  have hprogress : Chain.runRules request [b.toRule] (.capture answer) {} =
      ⟨.allow, [("flags", .pass)], .capture answer, {}⟩ := by
    simp only [Chain.runRules, hcheck]
    rfl
  have hrun : (g.outboundRun request answer).1 =
      { outcomes := [("flags", .pass)], flushed := (Interceptor.capture answer).committed } := by
    have hresult : g.outboundRun request answer = Chain.evaluateWith ⟨[b.toRule]⟩ request (.capture answer) {} := rfl
    rw [hresult, Chain.evaluateWith, hprogress]
    rfl
  have h := inspect_transparent hengine (.ofCapacity 1) default request fun _ => answer
  obtain ⟨sent, hsent⟩ := Option.isSome_iff_exists.mp (h.reached_iff.mpr ⟨Nat.zero_le _, rfl⟩)
  have hsame : sent = request := by
    obtain ⟨hmethod, huri, hheaders, hbody, huser⟩ := h.sent sent hsent
    cases sent
    cases hmethod; cases huri; cases hheaders; cases hbody; cases huser
    rfl
  subst hsame
  refine ⟨g.engine, hengine, _, rfl, hsent, ?_⟩
  have hpass := h.passes request hsent (show 1 ≤ 16777216 by decide)
  rw [hrun] at hpass
  rw [hpass rfl (by simp [Outcome.isApplied])]
  rfl

end Guard

end Portcullis.Boundary

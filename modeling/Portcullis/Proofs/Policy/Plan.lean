import Portcullis.Policy.BuiltIn
import Portcullis.Proofs.Interceptor.Commit

/-!
# What a rule wants of a response

A rule decides by what a response shows, and then leaves it alone or makes some writes. Where the response takes
writes it takes all of them, and a buffer that was committed takes none, so that no rule stops halfway.
-/

namespace Portcullis.Policy
open Http

/-! ## Writing to a canvas -/

namespace Canvas

def isClosed (c : Canvas) : Bool :=
  c.intercepted.any (·.isFlushed)

theorem writeAll_singleton (c : Canvas) (w : Write) : c.writeAll [w] = c.write w := by
  simp [writeAll]

theorem writeAll_bare (ws : List Write) (raw : Response) :
    (⟨none, raw⟩ : Canvas).writeAll ws = .ok ⟨none, Write.applyAll ws raw⟩ := by
  induction ws generalizing raw with
  | nil => rfl
  | cons w ws ih => exact ih (w.applyTo raw)

theorem writeAll_open (ws : List Write) (i : Interceptor) (raw : Response) (h : i.isFlushed = false) :
    (⟨some i, raw⟩ : Canvas).writeAll ws = .ok ⟨some (ws.foldl Interceptor.buffer i), raw⟩ := by
  induction ws generalizing i with
  | nil => rfl
  | cons w ws ih =>
    have hw : (⟨some i, raw⟩ : Canvas).write w = .ok ⟨some (i.buffer w), raw⟩ := by
      simp [Canvas.write, Interceptor.write, h, Except.map]
    have hrest := ih (i.buffer w) (by rw [i.buffer_isFlushed, h])
    simp only [Canvas.writeAll] at hrest ⊢
    rw [List.foldlM_cons, hw]
    exact hrest

theorem writeAll_closed {c : Canvas} (h : c.isClosed = true) (w : Write) (ws : List Write) :
    c.writeAll (w :: ws) = .error .flushed := by
  obtain ⟨intercepted, raw⟩ := c
  cases intercepted with
  | none => cases h
  | some i =>
    have hi : i.isFlushed = true := h
    have hw : (⟨some i, raw⟩ : Canvas).write w = .error .flushed := by
      simp [Canvas.write, Interceptor.write, hi, Except.map]
    rw [writeAll, List.foldlM_cons, hw]
    rfl

/-- Writes are refused from the first one on, so that no write is lost with the error. -/
theorem writeAll_eq_error_iff {c : Canvas} {ws : List Write} {e : WriteError} :
    c.writeAll ws = .error e ↔ c.isClosed = true ∧ ws ≠ [] ∧ e = .flushed := by
  cases ws with
  | nil => exact iff_of_false nofun fun h => h.2.1 rfl
  | cons w ws =>
    obtain ⟨intercepted, raw⟩ := c
    cases hclosed : (⟨intercepted, raw⟩ : Canvas).isClosed with
    | true =>
      rw [writeAll_closed hclosed, Except.error.injEq]
      exact ⟨fun h => ⟨rfl, List.cons_ne_nil w ws, h.symm⟩, fun h => h.2.2.symm⟩
    | false =>
      refine iff_of_false ?_ nofun
      cases intercepted with
      | none => rw [writeAll_bare]; exact nofun
      | some i => rw [writeAll_open _ i raw hclosed]; exact nofun

/-- The response that a rule sees: what the buffer shows if there is one, else the response below. -/
def shown (c : Canvas) : Response :=
  ⟨c.status, c.headers, c.body⟩

theorem shown_buffer (i : Interceptor) (w : Write) (raw : Response) :
    (⟨some (i.buffer w), raw⟩ : Canvas).shown = w.applyTo (⟨some i, raw⟩ : Canvas).shown := by
  cases w <;> rfl

theorem shown_foldl (ws : List Write) (i : Interceptor) (raw : Response) :
    (⟨some (ws.foldl Interceptor.buffer i), raw⟩ : Canvas).shown =
      Write.applyAll ws (⟨some i, raw⟩ : Canvas).shown := by
  induction ws generalizing i with
  | nil => rfl
  | cons w ws ih => rw [List.foldl_cons, ih, shown_buffer, Write.applyAll, Write.applyAll, List.foldl_cons]

end Canvas

/-! ## Plans -/

/-- What a rule wants: to leave the response alone with an outcome, or to make some writes, with a message if they are
taken and a complaint if they are refused. -/
inductive Plan where
  | leave (o : Outcome)
  | write (first : Write) (rest : List Write) (message : Option String) (complaint : String)

namespace Plan

def writes : Plan → List Write
  | .leave _ => []
  | .write first rest _ _ => first :: rest

def outcome : Plan → Outcome
  | .leave o => o
  | .write _ _ message _ => .applied message

def carryOut (p : Plan) (c : Canvas) : Canvas × Outcome :=
  match p with
  | .leave o => (c, o)
  | .write first rest message complaint =>
    match c.writeAll (first :: rest) with
    | .ok c => (c, .applied message)
    | .error e => (c, .anomaly (complaint ++ e.message))

theorem carryOut_bare (p : Plan) (raw : Response) :
    p.carryOut ⟨none, raw⟩ = (⟨none, Write.applyAll p.writes raw⟩, p.outcome) := by
  cases p with
  | leave o => rfl
  | write first rest message complaint => simp only [carryOut, Canvas.writeAll_bare, writes, outcome]

theorem carryOut_open (p : Plan) {i : Interceptor} (h : i.isFlushed = false) (raw : Response) :
    p.carryOut ⟨some i, raw⟩ = (⟨some (p.writes.foldl Interceptor.buffer i), raw⟩, p.outcome) := by
  cases p with
  | leave o => rfl
  | write first rest message complaint => simp only [carryOut, Canvas.writeAll_open _ i raw h, writes, outcome]

/-- Where writes are taken, a plan makes of what is shown what its writes make of a response. -/
theorem shown_carryOut (p : Plan) {c : Canvas} (h : c.isClosed = false) :
    (p.carryOut c).1.shown = Write.applyAll p.writes c.shown ∧ (p.carryOut c).1.isClosed = false ∧
      (p.carryOut c).2 = p.outcome := by
  obtain ⟨intercepted, raw⟩ := c
  cases intercepted with
  | none =>
    rw [p.carryOut_bare]
    exact ⟨rfl, rfl, rfl⟩
  | some i =>
    have hopen : i.isFlushed = false := h
    rw [p.carryOut_open hopen]
    exact ⟨Canvas.shown_foldl p.writes i raw, (Interceptor.foldl_buffer_isFlushed _ i).trans hopen, rfl⟩

theorem carryOut_closed (p : Plan) {c : Canvas} (h : c.isClosed = true) :
    ∃ o, p.carryOut c = (c, o) ∧ (p = .leave o ∨ o.isAnomaly = true) := by
  cases p with
  | leave o => exact ⟨o, rfl, .inl rfl⟩
  | write first rest message complaint =>
    simp only [carryOut, Canvas.writeAll_closed h]
    exact ⟨_, rfl, .inr rfl⟩

end Plan

/-! ## The plans of rules -/

/-- What content detection makes of some fields and a body. -/
def DetectContent.judge (a : DetectContent) (h : Headers) (body : Bytes) : Outcome :=
  if !acceptsContentType a.contentType h then .pass
  else
    match a.signature.find? body with
    | some i => .abort (a.status.map .block) (some ("outbound content matched at byte " ++ toString i))
    | none => .pass

/-- What an action wants of a response that shows some fields and a body. -/
def Action.plan (a : Action) (q : Request) (h : Headers) (body : Bytes) : Plan :=
  match a with
  | .addHeader a => .write (.setHeader a.header a.value) [] none ("could not set " ++ a.header.text ++ ": ")
  | .hardenCookies a =>
    let changed := ((h.getAll .setCookie).filterMap a.hardened?).length
    if changed = 0 then .leave .pass
    else
      .write (.removeHeader .setCookie)
        (((h.getAll .setCookie).map fun v => (a.hardened? v).getD v).map (.appendHeader .setCookie))
        (some ("hardened " ++ toString changed ++ " cookie(s)")) "could not rewrite cookies: "
  | .replaceContent a =>
    if !acceptsContentType a.contentType h || (Utf8.decode? body).isNone then .leave .pass
    else
      match a.pattern.replaceAll? a.replacement body with
      | none => .leave .pass
      | some new => .write (.setBody new) [.removeHeader .contentLength] none "could not rewrite body: "
  | .detectContent a => .leave (a.judge h body)
  | .restrictMethod a => .leave (a.decide q)
  | .enforceHttps => .leave (EnforceHttps.decide q)
  | .requireRole a => .leave (a.decide q)
  | .virtualPatch a => .leave (a.decide q)

def BuiltIn.plan (b : BuiltIn) (q : Request) (h : Headers) (body : Bytes) : Plan :=
  if b.scope.covers q.path then b.action.plan q h body else .leave .pass

theorem BuiltIn.plan_of_covers {b : BuiltIn} {q : Request} (h : b.scope.covers q.path = true) (hs : Headers)
    (body : Bytes) : b.plan q hs body = b.action.plan q hs body := by
  rw [plan, if_pos h]

theorem Action.run_eq (a : Action) (q : Request) (c : Canvas) :
    a.run q c = (a.plan q c.headers c.body).carryOut c := by
  cases a with
  | addHeader a =>
    have hone := c.writeAll_singleton (.setHeader a.header a.value)
    cases hw : c.write (.setHeader a.header a.value) <;> simp only [run, plan, AddHeader.run, Plan.carryOut, hone, hw]
  | hardenCookies a =>
    simp only [run, plan, HardenCookies.run]
    split <;> rfl
  | replaceContent a =>
    simp only [run, plan, ReplaceContent.run]
    split
    · rfl
    · cases a.pattern.replaceAll? a.replacement c.body <;> rfl
  | detectContent a =>
    simp only [run, plan, DetectContent.run, DetectContent.judge, Plan.carryOut]
    split
    · rfl
    · cases a.signature.find? c.body <;> rfl
  | _ => rfl

theorem BuiltIn.check_eq (b : BuiltIn) (q : Request) (c : Canvas) :
    b.check q c = (b.plan q c.headers c.body).carryOut c := by
  simp only [check, plan]
  split
  · exact b.action.run_eq q c
  · rfl

theorem BuiltIn.toRule_check (b : BuiltIn) (q : Request) (c : Canvas) :
    b.toRule.check q c =
      (((b.plan q c.headers c.body).carryOut c).1, .finished ((b.plan q c.headers c.body).carryOut c).2) := by
  rw [← b.check_eq]
  rfl

/-- A rule that leaves the response alone lets it pass or stops it. -/
def Outcome.IsVerdict (o : Outcome) : Prop :=
  o = .pass ∨ ∃ remedy message, o = .abort remedy message

theorem Action.isVerdict_of_leave {a : Action} {q : Request} {h : Headers} {body : Bytes} {o : Outcome}
    (hp : a.plan q h body = .leave o) : o.IsVerdict := by
  cases a with
  | addHeader a => cases hp
  | hardenCookies a =>
    simp only [plan] at hp
    split at hp
    · cases hp
      exact .inl rfl
    · cases hp
  | replaceContent a =>
    simp only [plan] at hp
    split at hp
    · cases hp
      exact .inl rfl
    · split at hp
      · cases hp
        exact .inl rfl
      · cases hp
  | detectContent a =>
    simp only [plan, DetectContent.judge] at hp
    cases hp
    split
    · exact .inl rfl
    · split
      · exact .inr ⟨_, _, rfl⟩
      · exact .inl rfl
  | restrictMethod a =>
    simp only [plan, RestrictMethod.decide] at hp
    cases hp
    split
    · exact .inl rfl
    · exact .inr ⟨_, _, rfl⟩
  | enforceHttps =>
    simp only [plan, EnforceHttps.decide] at hp
    cases hp
    split
    · exact .inl rfl
    · split <;> exact .inr ⟨_, _, rfl⟩
  | requireRole a =>
    simp only [plan, RequireRole.decide] at hp
    cases hp
    split
    · exact .inr ⟨_, _, rfl⟩
    · split
      · exact .inr ⟨_, _, rfl⟩
      · split
        · exact .inr ⟨_, _, rfl⟩
        · exact .inl rfl
  | virtualPatch a =>
    simp only [plan, VirtualPatch.decide] at hp
    cases hp
    split
    · exact .inr ⟨_, _, rfl⟩
    · exact .inl rfl

theorem BuiltIn.isVerdict_of_leave {b : BuiltIn} {q : Request} {h : Headers} {body : Bytes} {o : Outcome}
    (hp : b.plan q h body = .leave o) : o.IsVerdict := by
  simp only [plan] at hp
  split at hp
  · exact Action.isVerdict_of_leave hp
  · cases hp
    exact .inl rfl

end Portcullis.Policy

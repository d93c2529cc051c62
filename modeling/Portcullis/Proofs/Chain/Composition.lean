import Portcullis.Proofs.Policy.Compilation
import Portcullis.Proofs.Policy.Frame

/-!
# Outbound rules one after another

Over a captured response the rules of a chain do what they would do to the response itself. What they leave can be
read off the rules that ran: the status never changes, the body takes the substitutions in order, of a field the last
rule that sets it decides, and cookies are hardened one by one. What the response does not have comes from the one
below, except for the two names that rules drop.
-/

namespace Portcullis.Policy
open Http

/-! ## What a rule does to a response -/

def ReplaceContent.substituted (a : ReplaceContent) (body : Bytes) : Bytes :=
  (a.pattern.replaceAll? a.replacement body).getD body

namespace BuiltIn

def rewrite (b : BuiltIn) (q : Request) (r : Response) : Response :=
  Write.applyAll (b.plan q r.headers r.body).writes r

def outcomeOn (b : BuiltIn) (q : Request) (r : Response) : Outcome :=
  (b.plan q r.headers r.body).outcome

/-- The value that the rule sets a name to, if it does so on the path. -/
def added? (path : String) (n : HeaderName) (b : BuiltIn) : Option HeaderValue :=
  match b.action with
  | .addHeader a => if b.scope.covers path = true ∧ a.header = n then some a.value else none
  | _ => none

def hardened (path : String) (v : HeaderValue) (b : BuiltIn) : HeaderValue :=
  match b.action with
  | .hardenCookies a => if b.scope.covers path = true then (a.hardened? v).getD v else v
  | _ => v

/-- The substitution that the rule stands for, if it fired. -/
def fired? (b : BuiltIn) (o : Outcome) : Option ReplaceContent :=
  match b.action with
  | .replaceContent a => if o.hasFired then some a else none
  | _ => none

theorem check_bare (b : BuiltIn) (q : Request) (r : Response) :
    b.check q ⟨none, r⟩ = (⟨none, b.rewrite q r⟩, b.outcomeOn q r) := by
  rw [check_eq, Plan.carryOut_bare]
  rfl

/-- What a rule writes to a response: nothing, one field, the cookies, or the body. -/
inductive Rewriting (b : BuiltIn) (q : Request) (r : Response) : Prop where
  | nothing (writes : (b.plan q r.headers r.body).writes = []) (added : ∀ n, b.added? q.path n = none)
      (cookies : ∀ v ∈ r.headers.getAll .setCookie, b.hardened q.path v = v)
      (fired : b.fired? (b.outcomeOn q r) = none)
  | field (m : HeaderName) (v : HeaderValue) (writes : (b.plan q r.headers r.body).writes = [.setHeader m v])
      (added : ∀ n, b.added? q.path n = if m = n then some v else none) (cookies : ∀ v, b.hardened q.path v = v)
      (fired : b.fired? (b.outcomeOn q r) = none)
  | cookies
      (writes : (b.plan q r.headers r.body).writes =
        .removeHeader .setCookie ::
          ((r.headers.getAll .setCookie).map (b.hardened q.path)).map (.appendHeader .setCookie))
      (added : ∀ n, b.added? q.path n = none) (fired : b.fired? (b.outcomeOn q r) = none)
  | body (a : ReplaceContent)
      (writes : (b.plan q r.headers r.body).writes = [.setBody (a.substituted r.body), .removeHeader .contentLength])
      (added : ∀ n, b.added? q.path n = none) (cookies : ∀ v, b.hardened q.path v = v)
      (fired : b.fired? (b.outcomeOn q r) = some a)

theorem rewriting (b : BuiltIn) (q : Request) (r : Response) : b.Rewriting q r := by
  cases hc : b.scope.covers q.path with
  | false =>
    have hplan : b.plan q r.headers r.body = .leave .pass := by rw [plan, hc]; rfl
    refine .nothing (by rw [hplan]; rfl) (fun n => ?_) (fun v _ => ?_) ?_
    · cases ha : b.action <;> simp [added?, ha, hc]
    · cases ha : b.action <;> simp [hardened, ha, hc]
    · cases ha : b.action <;> simp [fired?, ha, outcomeOn, hplan, Plan.outcome, Outcome.hasFired]
  | true =>
    have hplan : b.plan q r.headers r.body = b.action.plan q r.headers r.body := by rw [plan, hc]; rfl
    cases ha : b.action with
    | addHeader a =>
      refine .field a.header a.value (by rw [hplan, ha]; rfl) (fun n => ?_) (fun v => ?_) ?_
      · simp [added?, ha, hc]
      · simp [hardened, ha]
      · simp [fired?, ha]
    | hardenCookies a =>
      have hhardened : ∀ v, b.hardened q.path v = (a.hardened? v).getD v := fun v => by simp [hardened, ha, hc]
      by_cases hchanged : ((r.headers.getAll .setCookie).filterMap a.hardened?).length = 0
      · -- no cookie changes, and none is written back
        refine .nothing ?_ (fun n => ?_) (fun v hv => ?_) ?_
        · simp only [hplan, ha, Action.plan, hchanged, if_true, Plan.writes]
        · simp [added?, ha]
        · have hnone := List.filterMap_eq_nil_iff.mp (List.length_eq_zero_iff.mp hchanged) v hv
          rw [hhardened, hnone, Option.getD_none]
        · simp [fired?, ha]
      · refine .cookies ?_ (fun n => ?_) ?_
        · simp only [hplan, ha, Action.plan, hchanged, if_false, Plan.writes, hhardened]
        · simp [added?, ha]
        · simp [fired?, ha]
    | replaceContent a =>
      have hadded : ∀ n, b.added? q.path n = none := fun n => by simp [added?, ha]
      have hcookies : ∀ v, b.hardened q.path v = v := fun v => by simp [hardened, ha]
      have hleave : b.plan q r.headers r.body = .leave .pass → b.Rewriting q r := fun h =>
        .nothing (by rw [h]; rfl) hadded (fun v _ => hcookies v)
          (by simp [fired?, ha, outcomeOn, h, Plan.outcome, Outcome.hasFired])
      rw [ha] at hplan
      simp only [Action.plan] at hplan
      split at hplan
      · exact hleave hplan
      · cases hnew : a.pattern.replaceAll? a.replacement r.body with
        | none =>
          rw [hnew] at hplan
          exact hleave hplan
        | some new =>
          rw [hnew] at hplan
          refine .body a ?_ hadded hcookies ?_
          · rw [hplan, ReplaceContent.substituted, hnew]
            rfl
          · simp [fired?, ha, outcomeOn, hplan, Plan.outcome, Outcome.hasFired]
    | _ =>
      refine .nothing (by rw [hplan, ha]; rfl) (fun n => ?_) (fun v _ => ?_) ?_
      · simp [added?, ha]
      · simp [hardened, ha]
      · simp [fired?, ha]

theorem removes_of_mem_writes {b : BuiltIn} {q : Request} {r : Response} {w : Write} {n : HeaderName}
    (hw : w ∈ (b.plan q r.headers r.body).writes) (hn : w.removes n = true) : n = .setCookie ∨ n = .contentLength := by
  cases b.rewriting q r with
  | nothing writes =>
    rw [writes] at hw
    cases hw
  | field m v writes =>
    rw [writes, List.mem_singleton] at hw
    subst hw
    cases hn
  | cookies writes =>
    rw [writes, List.map_map] at hw
    rcases List.mem_cons.mp hw with rfl | hw
    · exact .inl (beq_iff_eq.mp hn).symm
    · obtain ⟨v, -, rfl⟩ := List.mem_map.mp hw
      cases hn
  | body a writes =>
    rw [writes] at hw
    simp only [List.mem_cons, List.not_mem_nil, or_false] at hw
    rcases hw with rfl | rfl
    · cases hn
    · exact .inr (beq_iff_eq.mp hn).symm

end BuiltIn

theorem Write.applyAll_replace (n : HeaderName) (vs : List HeaderValue) (r : Response) :
    applyAll (.removeHeader n :: vs.map (.appendHeader n)) r =
      { r with headers := ⟨(r.headers.remove n).entries ++ vs.map fun v => (n, v)⟩ } := by
  have happend : ∀ (vs : List HeaderValue) (r : Response), applyAll (vs.map (.appendHeader n)) r =
      { r with headers := ⟨r.headers.entries ++ vs.map fun v => (n, v)⟩ } := by
    intro vs
    induction vs with
    | nil => simp [applyAll]
    | cons v vs ih =>
      intro r
      rw [List.map_cons, applyAll, List.foldl_cons, ← applyAll, ih]
      simp [applyTo, Headers.append]
  exact happend vs _

theorem Headers.getAll_replace (h : Headers) (n m : HeaderName) (vs : List HeaderValue) :
    Headers.getAll ⟨(h.remove n).entries ++ vs.map fun v => (n, v)⟩ m = if n = m then vs else h.getAll m := by
  have hremove := h.getAll_remove n m
  simp only [Headers.getAll] at hremove ⊢
  rw [List.filter_append, List.map_append, hremove]
  by_cases hnm : n = m <;> simp [hnm, List.filter_map, Function.comp_def]

namespace BuiltIn

theorem status_rewrite (b : BuiltIn) (q : Request) (r : Response) : (b.rewrite q r).status = r.status := by
  cases b.rewriting q r with
  | nothing writes | field m v writes | body a writes =>
    rw [rewrite, writes]
    rfl
  | cookies writes => rw [rewrite, writes, Write.applyAll_replace]

theorem body_rewrite (b : BuiltIn) (q : Request) (r : Response) :
    (b.rewrite q r).body = ((b.fired? (b.outcomeOn q r)).map (·.substituted r.body)).getD r.body := by
  cases b.rewriting q r with
  | nothing writes _ _ fired | field m v writes _ _ fired | body a writes _ _ fired =>
    rw [rewrite, writes, fired]
    rfl
  | cookies writes _ fired =>
    rw [rewrite, writes, fired, Write.applyAll_replace]
    rfl

theorem getAll_rewrite (b : BuiltIn) (q : Request) (r : Response) {n : HeaderName} (hc : n ≠ .setCookie)
    (hl : n ≠ .contentLength) :
    (b.rewrite q r).headers.getAll n = ((b.added? q.path n).map ([·])).getD (r.headers.getAll n) := by
  cases b.rewriting q r with
  | nothing writes added =>
    rw [rewrite, writes, added]
    rfl
  | field m v writes added =>
    rw [rewrite, writes, added]
    simp only [Write.applyAll, List.foldl_cons, List.foldl_nil, Write.applyTo, Headers.getAll_insert]
    split <;> rfl
  | cookies writes added =>
    rw [rewrite, writes, added, Write.applyAll_replace, Headers.getAll_replace, if_neg (Ne.symm hc)]
    rfl
  | body a writes added =>
    rw [rewrite, writes, added]
    simp only [Write.applyAll, List.foldl_cons, List.foldl_nil, Write.applyTo, Headers.getAll_remove,
      if_neg (Ne.symm hl)]
    rfl

theorem cookies_rewrite (b : BuiltIn) (q : Request) (r : Response) (h : b.added? q.path .setCookie = none) :
    (b.rewrite q r).headers.getAll .setCookie = (r.headers.getAll .setCookie).map (b.hardened q.path) := by
  cases b.rewriting q r with
  | nothing writes _ cookies =>
    rw [rewrite, writes, List.map_congr_left cookies, List.map_id']
    rfl
  | field m v writes added cookies =>
    rw [added] at h
    split at h
    · cases h
    · rename_i hm
      rw [rewrite, writes, List.map_congr_left fun v _ => cookies v, List.map_id']
      simp only [Write.applyAll, List.foldl_cons, List.foldl_nil, Write.applyTo, Headers.getAll_insert, if_neg hm]
  | cookies writes => rw [rewrite, writes, Write.applyAll_replace, Headers.getAll_replace, if_pos rfl]
  | body a writes _ cookies =>
    have hne : HeaderName.contentLength ≠ .setCookie := by decide
    rw [rewrite, writes, List.map_congr_left fun v _ => cookies v, List.map_id']
    simp only [Write.applyAll, List.foldl_cons, List.foldl_nil, Write.applyTo, Headers.getAll_remove, if_neg hne]

/-- Whatever a name held before, it holds what the rule sets it to. -/
theorem getAll_rewrite_of_added (b : BuiltIn) (q : Request) (r : Response) {n : HeaderName} {v : HeaderValue}
    (h : b.added? q.path n = some v) : (b.rewrite q r).headers.getAll n = [v] := by
  cases b.rewriting q r with
  | nothing _ added | cookies _ added | body _ _ added => simp [added] at h
  | field m v' writes added =>
    rw [added] at h
    split at h
    · rename_i hm
      cases h
      rw [rewrite, writes]
      simp [Write.applyAll, Write.applyTo, hm]
    · cases h

end BuiltIn

/-! ## What rules do one after another -/

def rewritten (q : Request) (bs : List BuiltIn) (r : Response) : Response :=
  bs.foldl (fun r b => b.rewrite q r) r

def outcomesOn (q : Request) : Response → List BuiltIn → List (String × Outcome)
  | _, [] => []
  | r, b :: rest => (b.id, b.outcomeOn q r) :: outcomesOn q (b.rewrite q r) rest

/-- The value that the last rule to do so sets a name to. -/
def lastAdded (path : String) (n : HeaderName) (bs : List BuiltIn) : Option HeaderValue :=
  (bs.filterMap (·.added? path n)).getLast?

def substitutions (bs : List BuiltIn) (outcomes : List (String × Outcome)) : List ReplaceContent :=
  (bs.zip outcomes).filterMap fun p => p.1.fired? p.2.2

theorem status_rewritten (q : Request) (bs : List BuiltIn) (r : Response) : (rewritten q bs r).status = r.status := by
  induction bs generalizing r with
  | nil => rfl
  | cons b rest ih => exact (ih (b.rewrite q r)).trans (b.status_rewrite q r)

theorem body_rewritten (q : Request) (bs : List BuiltIn) (r : Response) :
    (rewritten q bs r).body =
      (substitutions bs (outcomesOn q r bs)).foldl (fun body a => a.substituted body) r.body := by
  induction bs generalizing r with
  | nil => rfl
  | cons b rest ih =>
    have hstep : (rewritten q (b :: rest) r).body = (rewritten q rest (b.rewrite q r)).body := rfl
    rw [hstep, ih, b.body_rewrite]
    simp only [substitutions, outcomesOn, List.zip_cons_cons]
    cases hf : b.fired? (b.outcomeOn q r) <;> simp [hf]

theorem getAll_rewritten (q : Request) (bs : List BuiltIn) (r : Response) {n : HeaderName} (hc : n ≠ .setCookie)
    (hl : n ≠ .contentLength) :
    (rewritten q bs r).headers.getAll n = ((lastAdded q.path n bs).map ([·])).getD (r.headers.getAll n) := by
  induction bs generalizing r with
  | nil => rfl
  | cons b rest ih =>
    have hstep : (rewritten q (b :: rest) r).headers = (rewritten q rest (b.rewrite q r)).headers := rfl
    rw [hstep, ih, b.getAll_rewrite q r hc hl, lastAdded, lastAdded]
    cases ha : b.added? q.path n with
    | none => simp [ha]
    | some v =>
      rw [List.filterMap_cons_some ha, List.getLast?_cons]
      cases (rest.filterMap (·.added? q.path n)).getLast? <;> rfl

theorem cookies_rewritten (q : Request) (bs : List BuiltIn) (r : Response)
    (h : lastAdded q.path .setCookie bs = none) :
    (rewritten q bs r).headers.getAll .setCookie =
      (r.headers.getAll .setCookie).map fun v => bs.foldl (BuiltIn.hardened q.path) v := by
  induction bs generalizing r with
  | nil => simp [rewritten]
  | cons b rest ih =>
    have hstep : (rewritten q (b :: rest) r).headers = (rewritten q rest (b.rewrite q r)).headers := rfl
    rw [lastAdded, List.getLast?_eq_none_iff] at h
    cases ha : b.added? q.path .setCookie with
    | some v => simp [ha] at h
    | none =>
      rw [List.filterMap_cons_none ha] at h
      rw [hstep, ih _ (by rw [lastAdded, h, List.getLast?_nil]), b.cookies_rewrite q r ha, List.map_map]
      rfl

/-- A cookie that a rule set is hardened by the rules behind it. -/
theorem cookies_rewritten_of_added (q : Request) (front : List BuiltIn) {back : List BuiltIn} {b : BuiltIn}
    {v : HeaderValue} (hb : b.added? q.path .setCookie = some v) (hback : lastAdded q.path .setCookie back = none)
    (r : Response) :
    (rewritten q (front ++ b :: back) r).headers.getAll .setCookie = [back.foldl (BuiltIn.hardened q.path) v] := by
  have hsplit : rewritten q (front ++ b :: back) r = rewritten q back (b.rewrite q (rewritten q front r)) := by
    rw [rewritten, List.foldl_append]
    rfl
  rw [hsplit, cookies_rewritten q back _ hback, b.getAll_rewrite_of_added q _ hb, List.map_singleton]

theorem outcomesOn_get? (q : Request) {bs : List BuiltIn} {k : Nat} {b : BuiltIn} (r : Response)
    (h : bs[k]? = some b) :
    (outcomesOn q r bs)[k]? = some (b.id, b.outcomeOn q (rewritten q (bs.take k) r)) := by
  induction bs generalizing r k with
  | nil => simp at h
  | cons first rest ih =>
    cases k with
    | zero =>
      simp only [List.getElem?_cons_zero, Option.some.injEq] at h
      subst h
      rfl
    | succ k =>
      simp only [List.getElem?_cons_succ] at h
      exact ih (first.rewrite q r) h

theorem outcomesOn_take (q : Request) (bs : List BuiltIn) (r : Response) (k : Nat) :
    outcomesOn q r (bs.take k) = (outcomesOn q r bs).take k := by
  induction bs generalizing r k with
  | nil => simp [outcomesOn]
  | cons b rest ih =>
    cases k with
    | zero => rfl
    | succ k => simp [outcomesOn, ih]

theorem map_fst_outcomesOn (q : Request) (bs : List BuiltIn) (r : Response) :
    (outcomesOn q r bs).map Prod.fst = bs.map (·.id) := by
  induction bs generalizing r with
  | nil => rfl
  | cons b rest ih => simp [outcomesOn, ih]

/-! ## Over a buffer -/

/-- The buffer is open and shows a whole response, of which nothing but the two names that rules drop was removed. -/
structure Stage.Shows (s : Stage) (r below : Response) : Prop where
  isOpen : s.buffer.isFlushed = false
  mirrors : s.buffer.Mirrors r
  status : s.buffer.status?.isSome = true
  body : s.buffer.body?.isSome = true
  removed : ∀ n ∈ s.buffer.removed, n = .setCookie ∨ n = .contentLength
  raw : s.raw = below

namespace Stage.Shows

variable {s : Stage} {r below : Response}

theorem captured (r below : Response) : (⟨.capture r, below⟩ : Stage).Shows r below where
  isOpen := rfl
  mirrors := Interceptor.mirrors_capture r
  status := rfl
  body := rfl
  removed := nofun
  raw := rfl

theorem after_eq (h : s.Shows r below) (b : BuiltIn) (q : Request) :
    b.toRule.after q s = ⟨(b.plan q r.headers r.body).writes.foldl Interceptor.buffer s.buffer, s.raw⟩ ∧
      b.toRule.ending q s = .finished (b.outcomeOn q r) := by
  have hplan : b.plan q s.buffer.headers s.buffer.body = b.plan q r.headers r.body := by
    rw [h.mirrors.headers, h.mirrors.body]
  have hcheck : b.toRule.check q ⟨some s.buffer, s.raw⟩ =
      (⟨some ((b.plan q r.headers r.body).writes.foldl Interceptor.buffer s.buffer), s.raw⟩,
        .finished (b.outcomeOn q r)) := by
    rw [b.toRule_check, Plan.carryOut_open _ h.isOpen]
    simp only [Canvas.headers, Canvas.body, hplan]
    rfl
  simp only [Rule.after, Rule.ending, hcheck, Option.getD_some, and_true]

theorem after (h : s.Shows r below) (b : BuiltIn) (q : Request) :
    (b.toRule.after q s).Shows (b.rewrite q r) below ∧ b.toRule.ending q s = .finished (b.outcomeOn q r) := by
  obtain ⟨hafter, hending⟩ := h.after_eq b q
  refine ⟨?_, hending⟩
  rw [hafter]
  exact {
    isOpen := by rw [Interceptor.foldl_buffer_isFlushed, h.isOpen]
    mirrors := h.mirrors.foldl _
    status := by rw [Interceptor.isSome_status?_foldl, h.status, Bool.true_or]
    body := by rw [Interceptor.isSome_body?_foldl, h.body, Bool.true_or]
    removed := fun n hn => by
      rcases (Interceptor.mem_removed_foldl _ _ n).mp hn with hn | hn
      · exact h.removed n hn
      · obtain ⟨w, hw, hremoves⟩ := List.any_eq_true.mp hn
        exact BuiltIn.removes_of_mem_writes hw hremoves
    raw := h.raw }

theorem through (h : s.Shows r below) (q : Request) (bs : List BuiltIn) :
    (s.through q (bs.map BuiltIn.toRule)).Shows (rewritten q bs r) below ∧
      s.outcomes q (bs.map BuiltIn.toRule) = outcomesOn q r bs := by
  induction bs generalizing s r with
  | nil => exact ⟨h, rfl⟩
  | cons b rest ih =>
    obtain ⟨hafter, hending⟩ := h.after b q
    obtain ⟨hthrough, houtcomes⟩ := ih hafter
    refine ⟨hthrough, ?_⟩
    rw [List.map_cons, Stage.outcomes, houtcomes, hending]
    rfl

/-- Over an empty response, a commit is what the buffer shows. -/
theorem commitOnto_empty (h : s.Shows r {}) : s.buffer.commitOnto s.raw = r := by
  obtain ⟨status, hstatus⟩ := Option.isSome_iff_exists.mp h.status
  obtain ⟨body, hbody⟩ := Option.isSome_iff_exists.mp h.body
  have hs := h.mirrors.status
  have hb := h.mirrors.body
  rw [hstatus, Option.getD_some] at hs
  rw [Interceptor.body, hbody, Option.getD_some] at hb
  simp [Interceptor.commitOnto, h.raw, hstatus, hbody, hs, hb, h.mirrors.headers, Headers.overlay]

end Stage.Shows

/-! ## The chain of a policy -/

/-- Over a captured response, a chain of built rules commits what those that run leave. -/
theorem Chain.evaluateWith_shows (bs : List BuiltIn) (q : Request) (app below : Response) :
    ∃ ran, ran <+: bs ∧ Stage.executed q ⟨.capture app, below⟩ (bs.map BuiltIn.toRule) = ran.map BuiltIn.toRule ∧
      (evaluateWith ⟨bs.map BuiltIn.toRule⟩ q (.capture app) below).1.outcomes = outcomesOn q app ran ∧
      (evaluateWith ⟨bs.map BuiltIn.toRule⟩ q (.capture app) below).2 =
        (Stage.through ⟨.capture app, below⟩ q (ran.map BuiltIn.toRule)).buffer.commitOnto
          (Stage.through ⟨.capture app, below⟩ q (ran.map BuiltIn.toRule)).raw := by
  let s : Stage := ⟨.capture app, below⟩
  obtain ⟨ran, hpre, hran⟩ := s.executed_map BuiltIn.toRule q bs
  obtain ⟨hshows, houtcomes⟩ := (Stage.Shows.captured app below).through q ran
  have hrun := evaluateWith_eq (bs.map BuiltIn.toRule) q s (by rw [hran]; exact hshows.isOpen)
  have hresult : evaluateWith ⟨bs.map BuiltIn.toRule⟩ q (.capture app) below = _ := hrun
  refine ⟨ran, hpre, hran, ?_, ?_⟩
  · rw [hresult, hran]
    exact houtcomes
  · rw [hresult, hran]

/-- What some rules leave of the response of an application, read off the rules and their outcomes. -/
structure LeftBy (q : Request) (ran : List BuiltIn) (outcomes : List (String × Outcome)) (app left : Response) :
    Prop where
  status : left.status = app.status
  body : left.body = (substitutions ran outcomes).foldl (fun body a => a.substituted body) app.body
  field : ∀ n, n ≠ .setCookie → n ≠ .contentLength → left.headers.getAll n =
    match lastAdded q.path n ran with
    | some v => [v]
    | none => app.headers.getAll n
  cookies : lastAdded q.path .setCookie ran = none → left.headers.getAll .setCookie =
    (app.headers.getAll .setCookie).map fun v => ran.foldl (BuiltIn.hardened q.path) v

theorem leftBy_rewritten (q : Request) (ran : List BuiltIn) (app : Response) :
    LeftBy q ran (outcomesOn q app ran) app (rewritten q ran app) where
  status := status_rewritten q ran app
  body := body_rewritten q ran app
  field := fun n hc hl => by
    rw [getAll_rewritten q ran app hc hl]
    cases lastAdded q.path n ran <;> rfl
  cookies := cookies_rewritten q ran app

/-- The response that a chain commits over the one below, read off the rules that it ran. -/
structure Composed (p : PolicyDefinition) (rules : List Rule) (q : Request) (app below : Response)
    (ran : List BuiltIn) (result : ChainResult) (committed : Response) : Prop where
  isPrefix : ran.map BuiltIn.toRule <+: rules
  ids : result.outcomes.map Prod.fst = ran.map (·.id)
  /-- Only the last rule that ran may have stopped the chain. -/
  quiet : ∀ o ∈ result.outcomes.dropLast, o.2.demandsAction = false
  all : (∀ o, result.outcomes.getLast? = some o → o.2.demandsAction = false) → ran.map BuiltIn.toRule = rules
  /-- What a rule sets a field to stands in its definition. -/
  verbatim : ∀ b ∈ ran, ∃ d ∈ p.rules, d.build = .ok b ∧ ∀ n v, b.added? q.path n = some v →
    ∃ header value, d.kind = .addHeader header value ∧ HeaderName.parse? header = some n ∧
      v.bytes = Bytes.ofText value
  status : committed.status = app.status
  body : committed.body =
    (substitutions ran result.outcomes).foldl (fun body a => a.substituted body) app.body
  field : ∀ n, n ≠ .setCookie → n ≠ .contentLength → committed.headers.getAll n =
    match lastAdded q.path n ran with
    | some v => [v]
    | none => if app.headers.getAll n ≠ [] then app.headers.getAll n else below.headers.getAll n
  cookies : lastAdded q.path .setCookie ran = none → app.headers.getAll .setCookie ≠ [] →
    committed.headers.getAll .setCookie =
      (app.headers.getAll .setCookie).map fun v => ran.foldl (BuiltIn.hardened q.path) v
  /-- Every rule, and so every one that detects, decides by itself on what those before it left. -/
  decides : ∀ k b, ran[k]? = some b → ∃ left, LeftBy q (ran.take k) (result.outcomes.take k) app left ∧
    result.outcomes[k]? = some (b.id, (b.check q ⟨none, left⟩).2)

/-- A rule sets a name on the paths of its scope, if its definition says so. -/
theorem BuiltIn.added?_eq_some {d : RuleDefinition} {b : BuiltIn} (hb : d.build = .ok b) {path : String}
    {n : HeaderName} {v : HeaderValue} : b.added? path n = some v ↔ b.scope.covers path = true ∧
      ∃ header text, d.kind = .addHeader header text ∧ HeaderName.parse? header = some n ∧
        HeaderValue.ofText? text = some v := by
  obtain ⟨-, -, hkind⟩ := RuleDefinition.parts_of_build hb
  constructor
  · intro h
    cases ha : b.action with
    | addHeader a =>
      simp only [added?, ha] at h
      split at h
      · rename_i hadds
        obtain ⟨hcovers, rfl⟩ := hadds
        cases h
        exact ⟨hcovers, RuleKind.build_eq_addHeader.mp (ha ▸ hkind)⟩
      · cases h
    | _ => simp [added?, ha] at h
  · rintro ⟨hcovers, hadds⟩
    have ha : b.action = .addHeader ⟨n, v⟩ :=
      Except.ok.inj (hkind.symm.trans (RuleKind.build_eq_addHeader.mpr hadds))
    simp [added?, ha, hcovers]

theorem BuiltIn.exists_of_added {d : RuleDefinition} {b : BuiltIn} (hb : d.build = .ok b) {path : String}
    {n : HeaderName} {v : HeaderValue} (h : b.added? path n = some v) :
    ∃ header value, d.kind = .addHeader header value ∧ HeaderName.parse? header = some n ∧
      v.bytes = Bytes.ofText value := by
  obtain ⟨-, header, text, hkind, hname, hvalue⟩ := (added?_eq_some hb).mp h
  exact ⟨header, text, hkind, hname, HeaderValue.bytes_of_ofText? hvalue⟩

/-- The outbound chain of a policy composes: of a captured response it commits what the rules that ran leave of it,
over what it has from below. -/
theorem PolicyDefinition.compile_composed {p : PolicyDefinition} {mode : LoadMode} {e : Engine}
    (h : p.compile mode = .ok e) (q : Request) (app below : Response) :
    ∃ ran, Composed p e.outbound.rules q app below ran (e.evaluateOutbound q (.capture app) below).1
      (e.evaluateOutbound q (.capture app) below).2 := by
  obtain ⟨built, hholds⟩ := holds_of_compile h
  let s : Stage := ⟨.capture app, below⟩
  obtain ⟨bs, hbs, hsub⟩ : ∃ bs : List BuiltIn, e.outbound.rules = bs.map BuiltIn.toRule ∧ bs ⊆ built :=
    ⟨built.filter fun b => b.toRule.phase == .outbound, by rw [hholds.outbound, List.filter_map]; rfl,
      fun _ hb => (List.mem_filter.mp hb).1⟩
  have hpre := s.executed_prefix q e.outbound.rules
  -- the rules that ran begin the chain, so that they are built ones as well
  obtain ⟨ran, hran, hexecuted⟩ : ∃ ran, ran <+: bs ∧ s.executed q e.outbound.rules = ran.map BuiltIn.toRule := by
    have htake := List.prefix_iff_eq_take.mp hpre
    exact ⟨bs.take (s.executed q e.outbound.rules).length, List.take_prefix _ _, by rw [List.map_take, ← hbs, ← htake]⟩
  obtain ⟨hshows, houtcomes⟩ := (Stage.Shows.captured app below).through q ran
  rw [← hexecuted] at hshows houtcomes
  have hquiet := s.executed_quiet q e.outbound.rules
  have hall := s.executed_eq_self q e.outbound.rules
  have hrun := Chain.evaluateWith_eq e.outbound.rules q s hshows.isOpen
  rw [houtcomes] at hquiet hall hrun
  have hresult : e.evaluateOutbound q (.capture app) below = _ := hrun
  have hleft := leftBy_rewritten q ran app
  obtain ⟨hstatus, hbody, hfields⟩ := hshows.mirrors.commitOnto below
  rw [hshows.status] at hstatus
  rw [hshows.body] at hbody
  refine ⟨ran, ?_⟩
  rw [hresult, hshows.raw]
  exact {
    isPrefix := hexecuted ▸ hpre
    ids := map_fst_outcomesOn q ran app
    quiet := hquiet
    all := fun h => hexecuted ▸ hall h
    verbatim := fun b hb => by
      obtain ⟨d, hd, hbuild⟩ := exists_definition hholds.builds (hsub (hran.subset hb))
      exact ⟨d, hholds.fileOrder.subset hd, hbuild, fun n v => b.exists_of_added hbuild⟩
    status := hstatus.trans hleft.status
    body := hbody.trans hleft.body
    field := fun n hc hl => by
      -- what the rules may have dropped are other names, so that this one shows through
      have hremoved : n ∉ (s.through q (s.executed q e.outbound.rules)).buffer.removed := fun hn => by
        rcases hshows.removed n hn with hn | hn
        · exact hc hn
        · exact hl hn
      rw [hfields, hleft.field n hc hl, if_neg hremoved]
      cases lastAdded q.path n ran with
      | none => rfl
      | some v => rw [if_pos (List.cons_ne_nil v [])]
    cookies := fun hadded hne => by
      rw [hfields, hleft.cookies hadded, if_pos (by simpa using hne)]
    decides := fun k b hb => by
      refine ⟨rewritten q (ran.take k) app, ?_, ?_⟩
      · rw [← outcomesOn_take]
        exact leftBy_rewritten q (ran.take k) app
      · rw [outcomesOn_get? q app hb, b.check_bare] }

def restamping : PolicyDefinition where
  name := "restamping"
  rules := [stamp "/a", { stamp "/a" with id := "restamp", kind := .addHeader "X-A" "2" }]

/-- The second value of the field is the one that the client gets. -/
theorem restamping_composed : ∃ e, restamping.compile .strict = .ok e ∧
    (∃ ran, Composed restamping e.outbound.rules { uri := { rawPath := "/a" } } {} {} ran
      (e.evaluateOutbound { uri := { rawPath := "/a" } } (.capture {}) {}).1
      (e.evaluateOutbound { uri := { rawPath := "/a" } } (.capture {}) {}).2) ∧
    (e.evaluateOutbound { uri := { rawPath := "/a" } } (.capture {}) {}).2.headers.getAll ⟨"x-a"⟩ = [⟨[50]⟩] := by
  obtain ⟨p, hp, hmatch⟩ := exists_pattern_a
  let first : BuiltIn := ⟨"stamp", ⟨p, []⟩, .addHeader ⟨⟨"x-a"⟩, ⟨[49]⟩⟩⟩
  let second : BuiltIn := ⟨"restamp", ⟨p, []⟩, .addHeader ⟨⟨"x-a"⟩, ⟨[50]⟩⟩⟩
  have hfirst : (stamp "/a").build = .ok first := stamp_build hp
  have hsecond : RuleDefinition.build { stamp "/a" with id := "restamp", kind := .addHeader "X-A" "2" } = .ok second :=
    RuleDefinition.build_of_pattern (show (Text.trim "restamp".toList).isEmpty = false by decide) hp rfl rfl
  have hpath : ({ uri := { rawPath := "/a" } } : Request).path = "/a" := by decide
  have hcovers : (⟨p, []⟩ : Scope).covers "/a" = true := (Scope.covers_iff _ _).mpr ⟨hmatch, by simp⟩
  have hengine : restamping.compile .strict = .ok { outbound := ⟨[first.toRule, second.toRule]⟩ } := by
    rw [PolicyDefinition.compile_of_fit (show Enforcer.ofSettings restamping.settings = .ok {} by decide) (by decide)]
    simp only [restamping, PolicyDefinition.buildRules, hfirst, hsecond]
    rfl
  refine ⟨_, hengine, PolicyDefinition.compile_composed hengine _ _ _, ?_⟩
  simp only [Engine.evaluateOutbound, Chain.evaluateWith, Chain.runRules, BuiltIn.toRule_check, BuiltIn.plan, hpath,
    first, second, hcovers, if_true]
  rfl

end Portcullis.Policy

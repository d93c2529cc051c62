import Portcullis.Proofs.Chain.Deciding
import Portcullis.Proofs.Policy.Frame

/-!
# One commit

A buffer takes every write up to its first flush. From then on it refuses whatever it is asked for, and neither it nor
the response that it is given changes, so that a chain over a committed buffer leaves no mark on the response below.
-/

namespace Portcullis.Policy
open Http

namespace Interceptor

/-! ## Calls -/

/-- What a buffer can be asked for: to take a write, or to commit itself onto a response. -/
inductive Call where
  | write (w : Write)
  | flush (below : Response)

/-- The answer to a call, for a flush with what became of the response below. -/
inductive Answer where
  | write (result : Except WriteError Unit)
  | flush (result : Except WriteError Flushed) (below : Response)

namespace Call

def isFlush : Call → Bool
  | .write _ => false
  | .flush _ => true

def write? : Call → Option Write
  | .write w => some w
  | .flush _ => none

/-- The answer of a buffer that grants the call. -/
def granted (i : Interceptor) : Call → Answer
  | .write _ => .write (.ok ())
  | .flush below => .flush (.ok i.committed) (i.commitOnto below)

def refused : Call → Answer
  | .write _ => .write (.error .flushed)
  | .flush below => .flush (.error .alreadyFlushed) below

end Call

/-- What a call makes of the buffer, and the answer to it. An error changes nothing. -/
def call (i : Interceptor) : Call → Interceptor × Answer
  | .write w =>
    match i.write w with
    | .ok i => (i, .write (.ok ()))
    | .error e => (i, .write (.error e))
  | .flush below =>
    match i.flush below with
    | .ok (flushed, i, below) => (i, .flush (.ok flushed) below)
    | .error e => (i, .flush (.error e) below)

def after (i : Interceptor) (calls : List Call) : Interceptor :=
  calls.foldl (fun i c => (i.call c).1) i

def answers : Interceptor → List Call → List Answer
  | _, [] => []
  | i, c :: rest => (i.call c).2 :: answers (i.call c).1 rest

variable {i : Interceptor}

theorem call_of_open (h : i.isFlushed = false) (c : Call) :
    (i.call c).2 = c.granted i ∧ (i.call c).1.isFlushed = c.isFlush := by
  cases c with
  | write w => simp [call, write, h, i.buffer_isFlushed, Call.granted, Call.isFlush]
  | flush below => simp [call, flush, h, Call.granted, Call.isFlush]

theorem call_of_closed (h : i.isFlushed = true) (c : Call) : i.call c = (i, c.refused) := by
  cases c with
  | write w => simp [call, write, h, Call.refused]
  | flush below => simp [call, flush, h, Call.refused]

theorem after_of_closed (h : i.isFlushed = true) (calls : List Call) : i.after calls = i := by
  induction calls with
  | nil => rfl
  | cons c rest ih =>
    rw [after] at ih ⊢
    rw [List.foldl_cons, call_of_closed h, ih]

theorem isFlushed_after (i : Interceptor) (calls : List Call) :
    (i.after calls).isFlushed = (i.isFlushed || calls.any Call.isFlush) := by
  induction calls generalizing i with
  | nil => simp [after]
  | cons c rest ih =>
    have hrest := ih (i.call c).1
    rw [after] at hrest ⊢
    rw [List.foldl_cons, hrest, List.any_cons]
    cases hi : i.isFlushed with
    | true => simp [call_of_closed hi, hi]
    | false => simp [call_of_open hi]

theorem after_of_writes (h : i.isFlushed = false) {calls : List Call} (hw : calls.any Call.isFlush = false) :
    i.after calls = (calls.filterMap Call.write?).foldl buffer i := by
  induction calls generalizing i with
  | nil => rfl
  | cons c rest ih =>
    rw [List.any_cons, Bool.or_eq_false_iff] at hw
    cases c with
    | flush below => cases hw.1
    | write w =>
      have hcall : (i.call (.write w)).1 = i.buffer w := by simp [call, write, h]
      have hrest := ih (i := i.buffer w) (by rw [i.buffer_isFlushed, h]) hw.2
      rw [after] at hrest ⊢
      rw [List.foldl_cons, hcall, hrest]
      rfl

theorem answers_get? {calls : List Call} {k : Nat} {c : Call} (i : Interceptor) (h : calls[k]? = some c) :
    (i.answers calls)[k]? = some ((i.after (calls.take k)).call c).2 := by
  induction calls generalizing i k with
  | nil => simp at h
  | cons first rest ih =>
    cases k with
    | zero =>
      simp only [List.getElem?_cons_zero, Option.some.injEq] at h
      subst h
      rfl
    | succ k =>
      simp only [List.getElem?_cons_succ] at h
      exact ih (i.call first).1 h

/-! ## One flush -/

/-- Of some calls the buffer grants all up to and including the first flush, with what was written until then. All
others it refuses, and it stays as it was committed. -/
structure CommitsOnce (i : Interceptor) (calls : List Call) : Prop where
  buffered : ∀ k, (calls.take k).any Call.isFlush = false →
    i.after (calls.take k) = ((calls.take k).filterMap Call.write?).foldl buffer i
  granted : ∀ k c, calls[k]? = some c → (calls.take k).any Call.isFlush = false →
    (i.answers calls)[k]? = some (c.granted (i.after (calls.take k)))
  refused : ∀ k c, calls[k]? = some c → (calls.take k).any Call.isFlush = true →
    (i.answers calls)[k]? = some c.refused
  frozen : ∀ k, (calls.take k).any Call.isFlush = true → ∀ n, i.after (calls.take (k + n)) = i.after (calls.take k)

theorem commitsOnce_of_open (h : i.isFlushed = false) (calls : List Call) : i.CommitsOnce calls := by
  have hstate : ∀ k, (i.after (calls.take k)).isFlushed = (calls.take k).any Call.isFlush := fun k => by
    rw [i.isFlushed_after, h, Bool.false_or]
  refine ⟨fun k => after_of_writes h, fun k c hc hk => ?_, fun k c hc hk => ?_, fun k hk n => ?_⟩
  · rw [i.answers_get? hc, (call_of_open ((hstate k).trans hk) c).1]
  · rw [i.answers_get? hc, call_of_closed ((hstate k).trans hk)]
  · have hclosed := after_of_closed ((hstate k).trans hk) ((calls.drop k).take n)
    rw [List.take_add, after, List.foldl_append]
    exact hclosed

end Interceptor

/-! ## A chain over a committed buffer -/

theorem BuiltIn.after_of_closed (b : BuiltIn) (q : Request) {s : Stage} (h : s.buffer.isFlushed = true) :
    b.toRule.after q s = s := by
  obtain ⟨o, ho, -⟩ := (b.plan q s.buffer.headers s.buffer.body).carryOut_closed (c := ⟨some s.buffer, s.raw⟩) h
  have hcheck : b.toRule.check q ⟨some s.buffer, s.raw⟩ = (⟨some s.buffer, s.raw⟩, .finished o) := by
    rw [b.toRule_check]
    simp only [Canvas.headers, Canvas.body, ho]
  rw [Rule.after, hcheck]
  rfl

theorem Chain.evaluateWith_of_closed (bs : List BuiltIn) (q : Request) {i : Interceptor} (h : i.isFlushed = true)
    (raw : Response) :
    (evaluateWith ⟨bs.map BuiltIn.toRule⟩ q i raw).2 = raw ∧
      (evaluateWith ⟨bs.map BuiltIn.toRule⟩ q i raw).1.flushed = {} := by
  let s : Stage := ⟨i, raw⟩
  have hself : s.through q (s.executed q (bs.map BuiltIn.toRule)) = s := by
    refine Stage.through_of_forall q fun r hr => ?_
    obtain ⟨b, -, rfl⟩ := List.mem_map.mp ((s.executed_prefix q _).subset hr)
    exact b.after_of_closed q h
  have hcommit : s.commit = ({}, raw) := if_pos h
  have hrun := evaluateWith_commit (bs.map BuiltIn.toRule) q s
  rw [hself, hcommit] at hrun
  have hresult : evaluateWith ⟨bs.map BuiltIn.toRule⟩ q i raw = _ := hrun
  rw [hresult]
  exact ⟨rfl, rfl⟩

/-- A buffer commits once, whether it began empty or with a captured response. A chain of rules that is run over a
committed buffer leaves the response below as it is, and reports nothing committed. -/
theorem Interceptor.commits_once :
    (∀ calls, ({} : Interceptor).CommitsOnce calls) ∧
    (∀ r calls, (capture r).CommitsOnce calls) ∧
    ∀ i : Interceptor, i.isFlushed = true → ∀ (bs : List BuiltIn) (q : Request) (raw : Response),
      (Chain.evaluateWith ⟨bs.map BuiltIn.toRule⟩ q i raw).2 = raw ∧
        (Chain.evaluateWith ⟨bs.map BuiltIn.toRule⟩ q i raw).1.flushed = {} :=
  ⟨fun calls => commitsOnce_of_open rfl calls, fun _ calls => commitsOnce_of_open rfl calls,
    fun _ h bs q raw => Chain.evaluateWith_of_closed bs q h raw⟩

/-- A buffer that took a body, was committed, and is then asked for both again. -/
def Interceptor.repeatedCalls : List Call :=
  [.write (.setBody [49]), .flush {}, .write (.setBody [50]), .flush {}]

/-- The second commit is refused, and so is the write of a rule that sets a field. -/
theorem Interceptor.repeatedCalls_commits_once : ∃ b, (stamp "/a").build = .ok b ∧
    (({} : Interceptor).after repeatedCalls).isFlushed = true ∧
    (({} : Interceptor).answers repeatedCalls)[3]? = some (.flush (.error .alreadyFlushed) {}) ∧
    (({} : Interceptor).after repeatedCalls).body = [49] ∧
    (Chain.evaluateWith ⟨[b.toRule]⟩ { uri := { rawPath := "/a" } } (({} : Interceptor).after repeatedCalls) {}).2 =
      {} := by
  obtain ⟨p, hp, -⟩ := exists_pattern_a
  have hclosed : (({} : Interceptor).after repeatedCalls).isFlushed = true := by decide
  obtain ⟨hempty, -, hchain⟩ := commits_once
  refine ⟨_, stamp_build hp, hclosed, ?_, ?_, ?_⟩
  · exact (hempty repeatedCalls).refused 3 (.flush {}) rfl rfl
  · have hfrozen := (hempty repeatedCalls).frozen 2 rfl 2
    exact congrArg Interceptor.body hfrozen
  · exact (hchain _ hclosed [_] _ {}).1

end Portcullis.Policy

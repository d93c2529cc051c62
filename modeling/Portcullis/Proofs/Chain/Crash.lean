import Portcullis.Proofs.Chain.Contract
import Portcullis.Proofs.Chain.Deciding

/-!
# Rules that crash

Nothing of what a rule wrote before it crashed is taken back: the next rule finds it, and it is committed. So a chain
gets by without the rule, whatever stands behind it, exactly if these writes made no difference.
-/

namespace Portcullis.Policy
open Http

/-! ## What a rule wrote before it crashed -/

/-- A write that a rule tries, on the buffer or past it on the response below. -/
inductive Attempt where
  | buffered (w : Write)
  | direct (w : Write)

namespace Attempt

def buffered? : Attempt → Option Write
  | .buffered w => some w
  | .direct _ => none

def direct? : Attempt → Option Write
  | .buffered _ => none
  | .direct w => some w

end Attempt

namespace Stage

/-- A buffer that was committed refuses the write. -/
def attempt (s : Stage) : Attempt → Stage
  | .buffered w =>
    match s.buffer.write w with
    | .ok i => { s with buffer := i }
    | .error _ => s
  | .direct w => { s with raw := w.applyTo s.raw }

def attempted (s : Stage) (as : List Attempt) : Stage :=
  as.foldl attempt s

/-- The attempts change neither the buffer, if it still takes writes, nor the response below. -/
structure Unmarked (s : Stage) (as : List Attempt) : Prop where
  buffer : s.buffer.isFlushed = false → (as.filterMap Attempt.buffered?).foldl Interceptor.buffer s.buffer = s.buffer
  raw : Write.applyAll (as.filterMap Attempt.direct?) s.raw = s.raw

theorem attempted_eq (as : List Attempt) (s : Stage) : s.attempted as = s.written
    ⟨if s.buffer.isFlushed then [] else as.filterMap Attempt.buffered?, as.filterMap Attempt.direct?⟩ := by
  induction as generalizing s with
  | nil => simp [attempted, written]
  | cons a rest ih =>
    have hstep : s.attempted (a :: rest) = (s.attempt a).attempted rest := rfl
    rw [hstep, ih]
    cases a with
    | direct w => rfl
    | buffered w =>
      cases h : s.buffer.isFlushed with
      | true => simp [attempt, Interceptor.write, h, List.filterMap_cons, Attempt.direct?]
      | false => simp [attempt, Interceptor.write, h, Interceptor.buffer_isFlushed, written, List.filterMap_cons,
          Attempt.buffered?, Attempt.direct?]

theorem attempted_eq_self (s : Stage) (as : List Attempt) : s.attempted as = s ↔ s.Unmarked as := by
  obtain ⟨i, raw⟩ := s
  rw [attempted_eq, written, Stage.mk.injEq]
  constructor
  · rintro ⟨hbuffer, hraw⟩
    exact ⟨fun h => by rwa [if_neg (by simp [show i.isFlushed = false from h])] at hbuffer, hraw⟩
  · rintro ⟨hbuffer, hraw⟩
    refine ⟨?_, hraw⟩
    cases h : i.isFlushed with
    | true => rfl
    | false => exact hbuffer h

end Stage

/-- On a stage the rule makes some attempts to write and then crashes. -/
def Rule.CrashesAfter (r : Rule) (q : Request) (s : Stage) (as : List Attempt) (reason : Option String) : Prop :=
  r.check q ⟨some s.buffer, s.raw⟩ = (⟨some (s.attempted as).buffer, (s.attempted as).raw⟩, .crashed reason)

namespace Rule.CrashesAfter

variable {r : Rule} {q : Request} {s : Stage} {as : List Attempt} {reason : Option String}

theorem after (h : r.CrashesAfter q s as reason) : r.after q s = s.attempted as := by
  rw [Rule.after, h]
  rfl

theorem ending (h : r.CrashesAfter q s as reason) : r.ending q s = .crashed reason := by
  rw [Rule.ending, h]

theorem after_eq_self (h : r.CrashesAfter q s as reason) : r.after q s = s ↔ s.Unmarked as := by
  rw [h.after, Stage.attempted_eq_self]

theorem executed (h : r.CrashesAfter q s as reason) (rest : List Rule) :
    s.executed q (r :: rest) = r :: (r.after q s).executed q rest := by
  have hquiet : (r.ending q s).outcome.demandsAction = false := by
    rw [h.ending]
    rfl
  rw [Stage.executed, hquiet, if_neg Bool.false_ne_true]

end Rule.CrashesAfter

/-! ## Telling two stages apart -/

/-- A rule that tells one stage from all others, by the body that it tries to write. -/
def Rule.telling (s : Stage) : Rule where
  id := "telling"
  kind := "telling"
  phase := .outbound
  check _ c :=
    match c.intercepted with
    | some i =>
      let w := Write.setBody (if i = s.buffer ∧ c.raw = s.raw then [1] else [])
      let t := Stage.attempted ⟨i, c.raw⟩ [.buffered w, .direct w]
      (⟨some t.buffer, t.raw⟩, .finished .applied)
    | none => (c, .finished .applied)

theorem Rule.telling_commit (q : Request) (s t : Stage) :
    (((Rule.telling s).after q t).commit.2.body = [1]) ↔ t = s := by
  obtain ⟨i, raw⟩ := t
  have hafter : (Rule.telling s).after q ⟨i, raw⟩ =
      Stage.attempted ⟨i, raw⟩ [.buffered (.setBody (if i = s.buffer ∧ raw = s.raw then [1] else [])),
        .direct (.setBody (if i = s.buffer ∧ raw = s.raw then [1] else []))] := rfl
  have hbody : (Stage.attempted ⟨i, raw⟩ [.buffered (.setBody (if i = s.buffer ∧ raw = s.raw then [1] else [])),
      .direct (.setBody (if i = s.buffer ∧ raw = s.raw then [1] else []))]).commit.2.body =
      if i = s.buffer ∧ raw = s.raw then [1] else [] := by
    cases hi : i.isFlushed <;>
      simp [Stage.attempted, Stage.attempt, Interceptor.write, Interceptor.buffer, Stage.commit, hi,
        Interceptor.commitOnto, Write.applyTo]
  obtain ⟨buffer, below⟩ := s
  rw [hafter, hbody]
  simp

/-! ## Chains with and without the rule -/

/-- A front of a chain that demands no action runs as a whole before what stands behind it. -/
theorem Stage.executed_append_of_quiet (q : Request) {front : List Rule} {s : Stage}
    (h : ∀ p ∈ s.outcomes q front, p.2.demandsAction = false) (rest : List Rule) :
    s.executed q (front ++ rest) = front ++ (s.through q front).executed q rest := by
  induction front generalizing s with
  | nil => rfl
  | cons r others ih =>
    have hr : (r.ending q s).outcome.demandsAction = false := h _ List.mem_cons_self
    rw [List.cons_append, executed, hr, if_neg Bool.false_ne_true, ih fun p hp => h p (.tail _ hp)]
    rfl

theorem Disposition.ofLast_insert {front back : List (String × Outcome)} {p : String × Outcome}
    (hfront : ∀ o ∈ front, o.2.demandsAction = false) (hp : p.2.demandsAction = false) :
    Disposition.ofLast (front ++ p :: back).getLast? = .ofLast (front ++ back).getLast? := by
  cases back with
  | cons o os => simp [List.getLast?_append, List.getLast?_cons]
  | nil =>
    obtain ⟨id, o⟩ := p
    rw [List.append_nil, Disposition.ofLast_of_quiet hfront, List.getLast?_concat, Disposition.ofLast, hp]
    rfl

/-- The chain gets by without a rule that crashes exactly if what the rule tried to write changed nothing. The result
then differs by the anomaly that is recorded, and by nothing else. -/
theorem Chain.crash_unnoticed_iff {r : Rule} {q : Request} {start s : Stage} {front : List Rule} {as : List Attempt}
    {reason : Option String} (hfront : ∀ p ∈ start.outcomes q front, p.2.demandsAction = false)
    (hs : start.through q front = s) (hr : r.CrashesAfter q s as reason) :
    (r.after q s = s ↔ s.Unmarked as) ∧
    ((∀ rest, (evaluateWith ⟨front ++ r :: rest⟩ q start.buffer start.raw).2 =
        (evaluateWith ⟨front ++ rest⟩ q start.buffer start.raw).2) ↔ s.Unmarked as) ∧
    (s.Unmarked as → ∀ rest, ∃ back,
      (evaluateWith ⟨front ++ rest⟩ q start.buffer start.raw).1.outcomes = start.outcomes q front ++ back ∧
      (evaluateWith ⟨front ++ r :: rest⟩ q start.buffer start.raw).1 =
        { (evaluateWith ⟨front ++ rest⟩ q start.buffer start.raw).1 with
          outcomes := start.outcomes q front ++
            (r.id, .anomaly ("rule panicked: " ++ reason.getD "unknown panic")) :: back }) := by
  subst hs
  let s := start.through q front
  have hwithout : ∀ rest, start.executed q (front ++ rest) = front ++ s.executed q rest := fun rest =>
    Stage.executed_append_of_quiet q hfront rest
  have hwith : ∀ rest, start.executed q (front ++ r :: rest) = front ++ r :: (r.after q s).executed q rest :=
    fun rest => by rw [hwithout, hr.executed]
  have hthrough : ∀ rules, start.through q (front ++ rules) = s.through q rules := fun rules => List.foldl_append
  have hbehind : ∀ rules, s.through q (r :: rules) = (r.after q s).through q rules := fun rules => rfl
  refine ⟨hr.after_eq_self, ⟨fun hsame => ?_, fun h rest => ?_⟩, fun h rest => ?_⟩
  · -- a rule behind the crash that knows the stage by heart would notice
    have htelling : ∀ t : Stage, t.executed q [.telling s] = [.telling s] := fun t => by
      simp [Stage.executed]
    have htold := congrArg Response.body (hsame [.telling s])
    rw [evaluateWith_commit, evaluateWith_commit, hwith, hwithout, hthrough, hthrough, htelling, htelling] at htold
    have hself : ((Rule.telling s).after q s).commit.2.body = [1] := (Rule.telling_commit q s s).mpr rfl
    exact hr.after_eq_self.mp ((Rule.telling_commit q s _).mp (htold.trans hself))
  · rw [evaluateWith_commit, evaluateWith_commit, hwith, hwithout, hthrough, hthrough, hbehind,
      hr.after_eq_self.mpr h]
  · refine ⟨s.outcomes q (s.executed q rest), ?_, ?_⟩
    · rw [evaluateWith_commit, hwithout, Stage.outcomes_append]
    · rw [evaluateWith_commit, evaluateWith_commit, hwith, hwithout, hthrough, hthrough, hbehind,
        hr.after_eq_self.mpr h, Stage.outcomes_append, Stage.outcomes_append, Stage.outcomes, hr.after_eq_self.mpr h,
        hr.ending, Disposition.ofLast_insert hfront rfl]
      rfl

/-- A rule that writes and crashes. -/
def Rule.stumbling (w : Write) : Rule :=
  .scripted "crash" [w] (.crashed (some "boom"))

/-- The rule writes the body that stands there already, so that nobody notices its crash. -/
theorem Chain.crash_unnoticed_rewriting :
    (∀ p ∈ Stage.outcomes { uri := {} } ⟨.capture {}, {}⟩ [], p.2.demandsAction = false) ∧
    (Rule.stumbling (.setBody [])).CrashesAfter { uri := {} } ⟨.capture {}, {}⟩ [.buffered (.setBody [])]
      (some "boom") ∧
    ∀ rest, (evaluateWith ⟨Rule.stumbling (.setBody []) :: rest⟩ { uri := {} } (.capture {}) {}).2 =
      (evaluateWith ⟨rest⟩ { uri := {} } (.capture {}) {}).2 := by
  have hquiet : ∀ p ∈ Stage.outcomes { uri := {} } ⟨.capture {}, {}⟩ [], p.2.demandsAction = false := by
    simp [Stage.outcomes]
  have hcrash : (Rule.stumbling (.setBody [])).CrashesAfter { uri := {} } ⟨.capture {}, {}⟩ [.buffered (.setBody [])]
      (some "boom") := rfl
  obtain ⟨-, hiff, -⟩ := crash_unnoticed_iff hquiet rfl hcrash
  exact ⟨hquiet, hcrash, hiff.mpr ⟨fun _ => rfl, rfl⟩⟩

/-- The field that a rule set before it crashed is committed, though all that is recorded of it is an anomaly. -/
theorem Chain.crash_commits_field :
    (Rule.stumbling (.setHeader ⟨"x-a"⟩ ⟨[49]⟩)).CrashesAfter { uri := {} } ⟨{}, {}⟩
      [.buffered (.setHeader ⟨"x-a"⟩ ⟨[49]⟩)] (some "boom") ∧
    (Rule.stumbling (.setHeader ⟨"x-a"⟩ ⟨[49]⟩)).after { uri := {} } ⟨{}, {}⟩ ≠ ⟨{}, {}⟩ ∧
    (evaluate ⟨[.stumbling (.setHeader ⟨"x-a"⟩ ⟨[49]⟩)]⟩ { uri := {} } {}).1.outcomes =
      [("crash", .anomaly "rule panicked: boom")] ∧
    (evaluate ⟨[.stumbling (.setHeader ⟨"x-a"⟩ ⟨[49]⟩)]⟩ { uri := {} } {}).2.headers = ⟨[(⟨"x-a"⟩, ⟨[49]⟩)]⟩ ∧
    (evaluate ⟨[]⟩ { uri := {} } {}).2.headers = {} := by
  refine ⟨rfl, fun hself => ?_, by decide, by decide, by decide⟩
  have hbuffer := congrArg (fun s : Stage => s.buffer.headers) hself
  exact absurd hbuffer (by decide)

end Portcullis.Policy

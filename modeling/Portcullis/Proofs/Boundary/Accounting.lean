import Mathlib.Algebra.BigOperators.Group.List.Lemmas
import Mathlib.Algebra.GroupWithZero.Nat
import Portcullis.Proofs.Audit.Calls
import Portcullis.Proofs.Boundary.Inspection

/-!
# The account of a boundary

Every exchange posts one entry to the ledger: what its chain runs were, the events of those that aborted, and whether
a page or a refusal took the place of the application's response. The entry of a run of exchanges is the sum of their
entries.
-/

namespace Portcullis.Telemetry.Event

theorem nodup_eraseDups (es : List Event) : es.eraseDups.Nodup := by
  match es with
  | [] => exact List.nodup_nil
  | e :: rest =>
    rw [List.eraseDups_cons, List.nodup_cons]
    refine ⟨fun hmem => ?_, nodup_eraseDups _⟩
    simpa using (List.mem_filter.mp (List.mem_eraseDups.mp hmem)).2
termination_by es.length
decreasing_by exact Nat.lt_succ_of_le (List.length_filter_le _ _)

/-- How often the events of one series happened, over all labels. -/
def total (series : String) (es : List Event) : Nat :=
  (((tally es).filter (·.1.series == series)).map (·.2)).sum

theorem total_eq_countP (series : String) (es : List Event) :
    total series es = es.countP (·.series == series) := by
  have hperm : es.eraseDups.Perm es.dedup :=
    (List.perm_ext_iff_of_nodup (nodup_eraseDups es) (List.nodup_dedup es)).mpr fun e => by simp
  have hsorted := (List.mergeSort_perm es.eraseDups fun a b => precedes a.sortKey b.sortKey).trans hperm
  rw [total, tally, List.filter_map, List.map_map, ← List.sum_map_count_dedup_filter_eq_countP]
  exact ((hsorted.filter _).map _).sum_nat

end Portcullis.Telemetry.Event

namespace Portcullis.Boundary
open Http Policy Telemetry

/-- An exchange that is about to be inspected. -/
structure Visit where
  marks : Marks
  request : Request
  app : Application

/-! ## Entries -/

/-- What an account has of a ledger. -/
structure Account where
  requests : UInt64
  chainRuns : UInt64
  aborts : UInt64
  blocked : UInt64
  verdicts : Nat
  trail : Audit.Trail

def Ledger.account (l : Ledger) : Account where
  requests := l.counters.requests
  chainRuns := l.counters.chainRuns
  aborts := l.counters.aborts
  blocked := l.counters.blocked
  verdicts := l.events.countP (·.series == "httpwall_verdicts_total")
  trail := l.trail

/-- What is posted to an account: numbers, and the events of chains that aborted. -/
structure Entry where
  requests : Nat := 0
  chainRuns : Nat := 0
  blocked : Nat := 0
  verdicts : Nat := 0
  aborted : List Audit.Event := []

instance : Add Entry where
  add e f := ⟨e.requests + f.requests, e.chainRuns + f.chainRuns, e.blocked + f.blocked, e.verdicts + f.verdicts,
    e.aborted ++ f.aborted⟩

theorem Entry.add_def (e f : Entry) : e + f = ⟨e.requests + f.requests, e.chainRuns + f.chainRuns,
    e.blocked + f.blocked, e.verdicts + f.verdicts, e.aborted ++ f.aborted⟩ :=
  rfl

def Account.post (hash : Bytes → String) (a : Account) (e : Entry) : Account where
  requests := a.requests + .ofNat e.requests
  chainRuns := a.chainRuns + .ofNat e.chainRuns
  aborts := a.aborts + .ofNat e.aborted.length
  blocked := a.blocked + .ofNat e.blocked
  verdicts := a.verdicts + e.verdicts
  trail := a.trail.addAll hash e.aborted

variable (hash : Bytes → String)

theorem Account.post_zero (a : Account) : a.post hash {} = a := by
  simp [Account.post, Audit.Trail.addAll]

theorem Account.post_post (a : Account) (e f : Entry) : (a.post hash e).post hash f = a.post hash (e + f) := by
  simp only [Account.post, Entry.add_def, UInt64.ofNat_add, List.length_append, Audit.Trail.addAll_append,
    UInt64.add_assoc, Nat.add_assoc]

/-! ## Posting to a ledger -/

theorem countP_ofPhase (phase : Phase) (r : ChainResult) :
    (Event.ofPhase phase r).countP (·.series == "httpwall_verdicts_total") = 0 := by
  rw [List.countP_eq_zero]
  intro e he
  simp only [Event.ofPhase, Event.ofChain, Event.ofOutcome, List.mem_append, List.mem_flatMap,
    List.mem_singleton] at he
  rcases he with ⟨_, _, he | rfl⟩ | rfl
  · split at he
    · rw [List.mem_singleton.mp he]
      simp [Event.series]
    · cases he
  · simp [Event.series]
  · simp [Event.series]

theorem countP_ofVerdict (v : Verdict) :
    (Event.ofVerdict v).countP (·.series == "httpwall_verdicts_total") = if v = .allow then 0 else 1 := by
  cases v <;> simp [Event.ofVerdict, Verdict.isAllow, Event.series]

namespace Ledger

variable (l : Ledger)

theorem account_countRequest : l.countRequest.account = l.account.post hash { requests := 1 } := by
  simp [account, countRequest, Counters.countRequest, note, Account.post, Audit.Trail.addAll, Event.series]

theorem account_countBlocked : l.countBlocked.account = l.account.post hash { blocked := 1 } := by
  simp [account, countBlocked, Counters.countBlocked, Account.post, Audit.Trail.addAll]

theorem account_countChain (phase : Phase) (r : ChainResult) :
    (l.countChain phase r).account = { l.account with
      chainRuns := l.account.chainRuns + 1
      aborts := if r.isAllowed then l.account.aborts else l.account.aborts + 1 } := by
  simp [account, countChain, Counters.countChain, note, countP_ofPhase]

theorem account_recordAbort (stamp : Audit.Trail.Stamp) (subject : Audit.Trail.Subject) (r : ChainResult)
    (v : Verdict) : (l.recordAbort hash stamp subject r v).account = { l.account with
      verdicts := l.account.verdicts + if v = .allow then 0 else 1
      trail := l.account.trail.addAll hash (Audit.Trail.eventOf? stamp subject r).toList } := by
  simp only [account, recordAbort, note, List.countP_append, countP_ofVerdict, Audit.Trail.record]
  cases Audit.Trail.eventOf? stamp subject r <;> rfl

/-- A page that is run through a chain posts nothing. -/
theorem account_note_ofPhase (phase : Phase) (r : ChainResult) :
    (l.note (Event.ofPhase phase r)).account = l.account := by
  simp [account, note, countP_ofPhase]

end Ledger

namespace Guard

variable (g : Guard) (v : Visit)

/-- The event that the trail gets for a chain run over a visit: one if the chain aborted. -/
def abortEvent? (run : Phase × ChainResult) : Option Audit.Event :=
  Audit.Trail.eventOf? (v.marks.stamp run.1)
    (subject v.marks (g.identified v.request) (g.engine.enforcer.resolve run.2)) run.2

theorem isSome_abortEvent? (run : Phase × ChainResult) : (g.abortEvent? v run).isSome = !run.2.isAllowed :=
  Audit.Trail.isSome_eventOf? _ _ _

/-- The event of a chain run names the rule that stopped it, the request as the client sent it, and what the client
got instead. -/
theorem abortEvent?_eq_some {run : Phase × ChainResult} {e : Audit.Event} :
    g.abortEvent? v run = some e ↔ ∃ ruleId o, run.2.disposition = .abort ruleId o ∧
      e = { id := (v.marks.stamp run.1).id, requestId := v.marks.requestId, ruleId, method := v.request.method.text,
            path := v.request.uri.path, verdict := (g.engine.enforcer.resolve run.2).label, message := o.message?,
            time := (v.marks.stamp run.1).time } := by
  have hrequest : (g.identified v.request).method = v.request.method ∧
      (g.identified v.request).uri = v.request.uri := by
    unfold identified
    split <;> exact ⟨rfl, rfl⟩
  simp only [abortEvent?, Audit.Trail.eventOf?_eq_some, subject, hrequest]

/-- The run of a chain leads to a page. -/
def Denied (run : Phase × ChainResult) : Prop :=
  g.engine.enforcer.resolve run.2 ≠ .allow

instance (run : Phase × ChainResult) : Decidable (g.Denied run) :=
  inferInstanceAs (Decidable (_ ≠ _))

/-- What the run of a chain posts. -/
def runEntry (run : Phase × ChainResult) : Entry where
  chainRuns := 1
  blocked := if g.Denied run then 1 else 0
  verdicts := if g.Denied run then 1 else 0
  aborted := (g.abortEvent? v run).toList

/-- A chain that ran is counted, leaves an event in the trail if it aborted, and a verdict if it leads to a page. -/
theorem enforce_account (l : Ledger) (phase : Phase) (r : ChainResult) (committed : Headers) :
    (g.enforce l v.marks phase (g.identified v.request) r committed).2.account =
      l.account.post g.hash (g.runEntry v (phase, r)) := by
  have hsome := g.isSome_abortEvent? v (phase, r)
  cases hallowed : r.isAllowed with
  | true =>
    have hnone : g.abortEvent? v (phase, r) = none := by simpa [hallowed] using hsome
    have hresolve := Enforcer.resolve_of_isAllowed g.engine.enforcer hallowed
    simp [Guard.enforce, hallowed, Ledger.account_countChain, Account.post, runEntry, Denied, hresolve, hnone,
      Audit.Trail.addAll]
  | false =>
    obtain ⟨e, he⟩ : ∃ e, g.abortEvent? v (phase, r) = some e :=
      Option.isSome_iff_exists.mp (by simpa [hallowed] using hsome)
    have hevent : Audit.Trail.eventOf? (v.marks.stamp phase)
        (subject v.marks (g.identified v.request) (g.engine.enforcer.resolve r)) r = some e := he
    have hrecorded : ((l.countChain phase r).recordAbort g.hash (v.marks.stamp phase)
        (subject v.marks (g.identified v.request) (g.engine.enforcer.resolve r)) r
        (g.engine.enforcer.resolve r)).account =
          l.account.post g.hash { g.runEntry v (phase, r) with blocked := 0 } := by
      rw [Ledger.account_recordAbort, hevent]
      by_cases hresolve : g.engine.enforcer.resolve r = .allow <;>
        simp [Ledger.account_countChain, Account.post, runEntry, Denied, he, hallowed, hresolve]
    simp only [Guard.enforce, hallowed, Bool.false_eq_true, if_false]
    cases hp : (g.engine.enforcer.resolve r).page? with
    | none =>
      have hdenied : ¬g.Denied (phase, r) := not_not.mpr (Verdict.page?_eq_none.mp hp)
      simp only [hrecorded, runEntry, hdenied, if_false]
    | some page =>
      have hdenied : g.Denied (phase, r) := fun h => by simp [Verdict.page?_eq_none.mpr h] at hp
      simp only [Ledger.account_note_ofPhase, Ledger.account_countBlocked g.hash, hrecorded, Account.post_post]
      simp only [Entry.add_def, runEntry, hdenied, if_true, List.append_nil, Nat.zero_add, Nat.add_zero]

/-! ## Visits -/

/-- The body of the request is short enough to be inspected. -/
def Admits : Prop :=
  v.request.body.length ≤ g.config.maxBodyBytes

/-- The answer of the application gets to the outbound chain: the inbound verdict let the request through, and the
answer is short enough. -/
def Weighs : Prop :=
  g.Admits v ∧ g.engine.enforcer.resolve (g.inboundRun v.request).1 = .allow ∧
    (v.app (g.identified v.request)).body.length ≤ g.config.maxResponseBytes

instance : Decidable (g.Admits v) :=
  inferInstanceAs (Decidable (_ ≤ _))

instance : Decidable (g.Weighs v) :=
  inferInstanceAs (Decidable (_ ∧ _ ∧ _))

def requestRun : Phase × ChainResult :=
  (.inbound, (g.inboundRun v.request).1)

def answerRun : Phase × ChainResult :=
  (.outbound, (g.outboundRun v.request (v.app (g.identified v.request))).1)

/-- The chain runs over a visit, except those over pages. -/
def runs : List (Phase × ChainResult) :=
  (if g.Admits v then [g.requestRun v] else []) ++ if g.Weighs v then [g.answerRun v] else []

/-- The ledger is left by the enforcement of the chain runs, one after the other. -/
theorem inspect_ledger (l : Ledger) :
    (g.inspect l v.marks v.request v.app).ledger =
      if g.Admits v then
        let inbound := (g.enforce l.countRequest v.marks .inbound (g.identified v.request) (g.requestRun v).2
          (g.inboundRun v.request).2.headers).2
        if g.Weighs v then
          (g.enforce inbound v.marks .outbound (g.identified v.request) (g.answerRun v).2
            (g.inboundRun v.request).2.headers).2
        else inbound
      else l.countRequest.countBlocked := by
  rw [inspect_eq, enforce_eq]
  by_cases hadmits : g.Admits v
  · rw [if_neg (Nat.not_lt.mpr hadmits), if_pos hadmits]
    cases hp : (g.engine.enforcer.resolve (g.inboundRun v.request).1).page? with
    | some page =>
      have hweighs : ¬g.Weighs v := fun h => by simp [Verdict.page?_eq_none.mpr h.2.1] at hp
      rw [if_neg hweighs]
      rfl
    | none =>
      simp only [Option.map_none]
      by_cases hanswer : (v.app (g.identified v.request)).body.length ≤ g.config.maxResponseBytes
      · have hweighs : g.Weighs v := ⟨hadmits, Verdict.page?_eq_none.mp hp, hanswer⟩
        rw [if_neg (Nat.not_lt.mpr hanswer), if_pos hweighs, enforce_eq]
        cases (g.engine.enforcer.resolve (g.outboundRun v.request (v.app (g.identified v.request))).1).page? <;> rfl
      · have hweighs : ¬g.Weighs v := fun h => hanswer h.2.2
        rw [if_pos (Nat.not_le.mp hanswer), if_neg hweighs]
        rfl
  · rw [if_pos (Nat.not_le.mp hadmits), if_neg hadmits]

/-- A page for a verdict takes the place of the application's response. -/
def Denies : Prop :=
  ∃ phase verdict, g.Aborted v.request v.app phase verdict

theorem denies_iff : g.Denies v ↔ ∃ run ∈ g.runs v, g.Denied run := by
  have hmem : ∀ run, run ∈ g.runs v ↔
      g.Admits v ∧ run = g.requestRun v ∨ g.Weighs v ∧ run = g.answerRun v := by simp [runs]
  constructor
  · rintro ⟨phase, verdict, h⟩
    cases h with
    | inbound body_le verdict enforced =>
      exact ⟨_, (hmem _).mpr (.inl ⟨body_le, rfl⟩), fun h => enforced (verdict.symm.trans h)⟩
    | outbound body_le passed answer_le verdict enforced =>
      have hweighs : g.Weighs v := ⟨body_le, passed, answer_le⟩
      exact ⟨_, (hmem _).mpr (.inr ⟨hweighs, rfl⟩), fun h => enforced (verdict.symm.trans h)⟩
  · rintro ⟨run, hrun, hdenied⟩
    rcases (hmem run).mp hrun with ⟨hadmits, rfl⟩ | ⟨hweighs, rfl⟩
    · exact ⟨_, _, .inbound hadmits rfl hdenied⟩
    · exact ⟨_, _, .outbound hweighs.1 hweighs.2.1 hweighs.2.2 rfl hdenied⟩

instance : Decidable (g.Denies v) :=
  decidable_of_iff _ (g.denies_iff v).symm

/-- The events of the chain runs that aborted over some visits, in order. -/
def abortEvents (vs : List Visit) : List Audit.Event :=
  vs.flatMap fun v => (g.runs v).filterMap (g.abortEvent? v)

/-- So many runs of chains there are over some visits. -/
def chainRuns (vs : List Visit) : Nat :=
  vs.countP (g.Admits ·) + vs.countP (g.Weighs ·)

/-- So many of them abort. -/
def aborts (vs : List Visit) : Nat :=
  (vs.flatMap g.runs).countP (!·.2.isAllowed)

/-- So many visits are refused, or end with a page for a verdict. -/
def turnedAway (vs : List Visit) : Nat :=
  vs.countP fun v => ¬g.Admits v ∨ g.Denies v

/-- What some visits post. -/
def entry (vs : List Visit) : Entry where
  requests := vs.length
  chainRuns := g.chainRuns vs
  blocked := g.turnedAway vs
  verdicts := vs.countP (g.Denies ·)
  aborted := g.abortEvents vs

theorem entry_cons (vs : List Visit) : g.entry (v :: vs) = g.entry [v] + g.entry vs := by
  simp only [entry, Entry.add_def, abortEvents, chainRuns, turnedAway, List.countP_cons, List.countP_nil,
    List.length_cons, List.length_nil, List.flatMap_cons, List.flatMap_nil, List.append_nil, Entry.mk.injEq, and_true]
  refine ⟨?_, ?_, ?_, ?_⟩ <;> omega

theorem inspect_account (l : Ledger) :
    (g.inspect l v.marks v.request v.app).ledger.account = l.account.post g.hash (g.entry [v]) := by
  rw [inspect_ledger]
  by_cases hadmits : g.Admits v
  · by_cases hweighs : g.Weighs v
    · have hruns : g.runs v = [g.requestRun v, g.answerRun v] := by simp [runs, hadmits, hweighs]
      have hpassed : ¬g.Denied (g.requestRun v) := not_not.mpr hweighs.2.1
      have hentry : g.entry [v] = { requests := 1 } + g.runEntry v (g.requestRun v) + g.runEntry v (g.answerRun v) := by
        simp [entry, Entry.add_def, runEntry, chainRuns, turnedAway, hadmits, hweighs, denies_iff, hruns, hpassed,
          abortEvents, List.filterMap_eq_flatMap_toList]
      simp only [if_pos hadmits, if_pos hweighs, enforce_account, Ledger.account_countRequest g.hash, Account.post_post]
      rw [hentry, requestRun, answerRun]
    · -- a page or an answer that is too long ends the visit before the outbound chain runs
      have hruns : g.runs v = [g.requestRun v] := by simp [runs, hadmits, hweighs]
      have hentry : g.entry [v] = { requests := 1 } + g.runEntry v (g.requestRun v) := by
        simp [entry, Entry.add_def, runEntry, chainRuns, turnedAway, hadmits, hweighs, denies_iff, hruns, abortEvents,
          List.filterMap_eq_flatMap_toList]
      simp only [if_pos hadmits, if_neg hweighs, enforce_account, Ledger.account_countRequest g.hash, Account.post_post]
      rw [hentry, requestRun]
  · have hweighs : ¬g.Weighs v := fun h => hadmits h.1
    have hruns : g.runs v = [] := by simp [runs, hadmits, hweighs]
    have hentry : g.entry [v] = { requests := 1 } + { blocked := 1 } := by
      simp [entry, Entry.add_def, chainRuns, turnedAway, hadmits, hweighs, denies_iff, hruns, abortEvents]
    rw [if_neg hadmits, Ledger.account_countBlocked g.hash, Ledger.account_countRequest g.hash, Account.post_post,
      hentry]

/-- The ledger after some visits, inspected one after the other. -/
def serve (l : Ledger) (vs : List Visit) : Ledger :=
  vs.foldl (fun l v => (g.inspect l v.marks v.request v.app).ledger) l

/-- A whole run posts the entry of all its visits. -/
theorem serve_account (l : Ledger) (vs : List Visit) :
    (g.serve l vs).account = l.account.post g.hash (g.entry vs) := by
  induction vs generalizing l with
  | nil => exact (Account.post_zero g.hash _).symm
  | cons v vs ih =>
    calc (g.serve l (v :: vs)).account
        = (g.serve (g.inspect l v.marks v.request v.app).ledger vs).account := rfl
      _ = (l.account.post g.hash (g.entry [v])).post g.hash (g.entry vs) := by rw [ih, inspect_account]
      _ = l.account.post g.hash (g.entry (v :: vs)) := by rw [Account.post_post, ← entry_cons]

/-- Every event that some visits leave in an empty trail tells of a chain run over one of them, which a rule stopped. -/
theorem exists_run_of_mem_events (vs : List Visit) {e : Audit.Event}
    (he : e ∈ (g.serve (.ofCapacity g.config.auditCapacity) vs).trail.events) :
    ∃ v ∈ vs, ∃ run ∈ g.runs v, g.abortEvent? v run = some e.unlinked := by
  have htrail : (g.serve (.ofCapacity g.config.auditCapacity) vs).trail =
      (Audit.Trail.fresh (some g.config.auditCapacity)).addAll g.hash (g.abortEvents vs) :=
    congrArg Account.trail (g.serve_account (.ofCapacity g.config.auditCapacity) vs)
  rw [htrail] at he
  have hchained := (Audit.Trail.events_addAll_suffix g.hash (some g.config.auditCapacity) (g.abortEvents vs)).subset he
  have hunlinked : e.unlinked ∈ (g.abortEvents vs).map Audit.Event.unlinked := by
    rw [← Audit.Trail.map_unlinked_chained g.hash none]
    exact List.mem_map_of_mem hchained
  obtain ⟨event, hevent, heq⟩ := List.mem_map.mp hunlinked
  obtain ⟨v, hv, hevent⟩ := List.mem_flatMap.mp hevent
  obtain ⟨run, hrun, habort⟩ := List.mem_filterMap.mp hevent
  -- the links are set by the trail, so that the event has none of its own
  have hbare : event.unlinked = event := by
    obtain ⟨_, _, _, rfl⟩ := g.abortEvent?_eq_some v |>.mp habort
    rfl
  exact ⟨v, hv, run, hrun, by rw [habort, ← heq, hbare]⟩

/-! ## The numbers -/

theorem length_abortEvents (vs : List Visit) : (g.abortEvents vs).length = g.aborts vs := by
  simp only [abortEvents, aborts, List.length_flatMap, List.countP_flatMap, List.length_filterMap_eq_countP,
    isSome_abortEvent?]
  rfl

theorem length_runs (vs : List Visit) : (vs.flatMap g.runs).length = g.chainRuns vs := by
  induction vs with
  | nil => rfl
  | cons v vs ih =>
    rw [chainRuns] at ih ⊢
    rw [List.flatMap_cons, List.length_append, ih, runs, List.length_append, List.countP_cons, List.countP_cons]
    split <;> split <;> simp [*] <;> omega

theorem aborts_le_chainRuns (vs : List Visit) : g.aborts vs ≤ g.chainRuns vs := by
  rw [← length_runs]
  exact List.countP_le_length

theorem chainRuns_le_two_mul (vs : List Visit) : g.chainRuns vs ≤ 2 * vs.length := by
  rw [chainRuns, Nat.two_mul]
  exact Nat.add_le_add List.countP_le_length List.countP_le_length

theorem turnedAway_le_length (vs : List Visit) : g.turnedAway vs ≤ vs.length :=
  List.countP_le_length

variable {g v} in
theorem Denies.admits (h : g.Denies v) : g.Admits v := by
  obtain ⟨phase, verdict, h⟩ := h
  cases h with
  | inbound body_le _ _ => exact body_le
  | outbound body_le _ _ _ _ => exact body_le

/-- No visit is both refused and denied. -/
theorem turnedAway_eq (vs : List Visit) :
    g.turnedAway vs = vs.countP (g.Denies ·) + vs.countP (¬g.Admits ·) := by
  induction vs with
  | nil => rfl
  | cons v vs ih =>
    rw [turnedAway] at ih ⊢
    rw [List.countP_cons, List.countP_cons, List.countP_cons, ih]
    by_cases hdenies : g.Denies v
    · have hadmits := hdenies.admits
      simp only [hdenies, hadmits, not_true, or_true, decide_true, decide_false, if_true, if_false, Bool.false_eq_true]
      omega
    · simp only [hdenies, or_false, decide_false, if_false, Bool.false_eq_true]
      omega

end Guard

/-- The ledger accounts for some visits to a boundary, as far as its counters reach. -/
structure Ledger.AccountsFor (l : Ledger) (g : Guard) (vs : List Visit) : Prop where
  requests : l.counters.requests = .ofNat vs.length
  chainRuns : l.counters.chainRuns = .ofNat (g.chainRuns vs)
  aborts : l.counters.aborts = .ofNat (g.aborts vs)
  blocked : l.counters.blocked = .ofNat (g.turnedAway vs)
  verdicts : g.turnedAway vs = Event.total "httpwall_verdicts_total" l.events + vs.countP (¬g.Admits ·)
  appended : l.trail = (Audit.Trail.bounded g.config.auditCapacity).addAll g.hash (g.abortEvents vs)
  length_appended : (g.abortEvents vs).length = g.aborts vs
  retained : l.trail.events <:+ Audit.Trail.chained g.hash none (g.abortEvents vs)
  length_retained : l.trail.events.length = min (g.aborts vs) (max g.config.auditCapacity 1)
  intact : l.trail.verify g.hash = true
  blocked_le : vs.length < 2 ^ 64 → l.counters.blocked ≤ l.counters.requests
  aborts_le : g.chainRuns vs < 2 ^ 64 → l.counters.aborts ≤ l.counters.chainRuns
  chainRuns_le : vs.length < 2 ^ 64 → l.counters.chainRuns.toNat ≤ 2 * l.counters.requests.toNat

namespace Guard

variable (g : Guard)

/-- After any run of exchanges the ledger that was empty accounts for all of them. -/
theorem serve_accountsFor (vs : List Visit) :
    (g.serve (.ofCapacity g.config.auditCapacity) vs).AccountsFor g vs := by
  have haccount := g.serve_account (.ofCapacity g.config.auditCapacity) vs
  generalize g.serve (.ofCapacity g.config.auditCapacity) vs = l at haccount
  have hrequests : l.counters.requests = .ofNat vs.length :=
    (congrArg Account.requests haccount).trans (UInt64.zero_add _)
  have hchainRuns : l.counters.chainRuns = .ofNat (g.chainRuns vs) :=
    (congrArg Account.chainRuns haccount).trans (UInt64.zero_add _)
  have haborts : l.counters.aborts = .ofNat (g.aborts vs) := by
    rw [← length_abortEvents]
    exact (congrArg Account.aborts haccount).trans (UInt64.zero_add _)
  have hblocked : l.counters.blocked = .ofNat (g.turnedAway vs) :=
    (congrArg Account.blocked haccount).trans (UInt64.zero_add _)
  have hverdicts : Event.total "httpwall_verdicts_total" l.events = vs.countP (g.Denies ·) := by
    rw [Event.total_eq_countP]
    exact (congrArg Account.verdicts haccount).trans (Nat.zero_add _)
  have htrail : l.trail = (Audit.Trail.fresh (some g.config.auditCapacity)).addAll g.hash (g.abortEvents vs) :=
    congrArg Account.trail haccount
  exact {
    requests := hrequests
    chainRuns := hchainRuns
    aborts := haborts
    blocked := hblocked
    verdicts := by rw [hverdicts, turnedAway_eq]
    appended := htrail
    length_appended := g.length_abortEvents vs
    retained := by
      rw [htrail]
      exact Audit.Trail.events_addAll_suffix g.hash _ _
    length_retained := by
      rw [htrail, ← length_abortEvents]
      exact Audit.Trail.length_events_addAll g.hash _ _
    intact := by
      rw [htrail]
      exact Audit.Trail.verify_addAll g.hash _ _
    blocked_le := fun h => by
      have hle := g.turnedAway_le_length vs
      rw [hblocked, hrequests, UInt64.ofNat_le_iff_le (Nat.lt_of_le_of_lt hle h) h]
      exact hle
    aborts_le := fun h => by
      have hle := g.aborts_le_chainRuns vs
      rw [haborts, hchainRuns, UInt64.ofNat_le_iff_le (Nat.lt_of_le_of_lt hle h) h]
      exact hle
    chainRuns_le := fun h => by
      rw [hchainRuns, hrequests, UInt64.toNat_ofNat_of_lt' h]
      exact Nat.le_trans (Nat.mod_le _ _) (g.chainRuns_le_two_mul vs) }

end Guard

end Portcullis.Boundary

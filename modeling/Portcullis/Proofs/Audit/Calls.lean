import Portcullis.Proofs.Audit.Retention

/-!
# A trail after any calls

Events may come with any links, and results of chains in between. Behind every call the trail is intact, retains the
newest events that fit, and each of them holds the hash of the event that was appended before it, though that event may
have had to go.
-/

namespace Portcullis.Audit
open Policy

def Event.unlinked (e : Event) : Event :=
  { e with hash := none, previous := none }

namespace Trail

/-- What is asked of a trail: to take an event in, or to record how a chain ended. -/
inductive Call where
  | take (e : Event)
  | record (stamp : Stamp) (subject : Subject) (r : ChainResult)

namespace Call

def appends : Call → Bool
  | .take _ => true
  | .record _ _ r => !r.isAllowed

def event? : Call → Option Event
  | .take e => some e
  | .record stamp subject r => eventOf? stamp subject r

theorem appends_eq (c : Call) : c.appends = c.event?.isSome := by
  cases c with
  | take e => rfl
  | record stamp subject r => exact (isSome_eventOf? stamp subject r).symm

end Call

variable (hash : Bytes → String)

def answer (t : Trail) : Call → Trail
  | .take e => t.add hash e
  | .record stamp subject r => t.record hash stamp subject r

def answerAll (t : Trail) (calls : List Call) : Trail :=
  calls.foldl (answer hash) t

/-- The events that some calls append, each as the newest one of the trail behind its call. -/
def appended (t : Trail) : List Call → List Event
  | [] => []
  | c :: rest =>
    (if c.appends then (t.answer hash c).events.getLast?.toList else []) ++ appended (t.answer hash c) rest

/-- So many of the events that were appended are retained. -/
def kept : Option Nat → Nat → Nat
  | none, k => k
  | some n, k => min k (max n 1)

/-! ## Calls as events -/

theorem answer_eq (t : Trail) (c : Call) : t.answer hash c = t.addAll hash c.event?.toList := by
  cases c with
  | take e => rfl
  | record stamp subject r =>
    simp only [answer, Trail.record, Call.event?]
    cases eventOf? stamp subject r <;> rfl

theorem answerAll_eq (t : Trail) (calls : List Call) :
    t.answerAll hash calls = t.addAll hash (calls.filterMap Call.event?) := by
  induction calls generalizing t with
  | nil => rfl
  | cons c rest ih =>
    have hstep : t.answerAll hash (c :: rest) = (t.answer hash c).answerAll hash rest := rfl
    rw [hstep, ih, answer_eq, ← addAll_append]
    cases hc : c.event? <;> simp [hc]

theorem gone_eq (capacity : Option Nat) (k : Nat) : gone capacity k = k - kept capacity k := by
  cases capacity with
  | none => simp [gone, kept]
  | some n =>
    simp only [gone, kept]
    omega

theorem kept_le (capacity : Option Nat) (k : Nat) : kept capacity k ≤ k := by
  cases capacity with
  | none => exact Nat.le_refl k
  | some n => exact Nat.min_le_left k _

theorem kept_pos (capacity : Option Nat) {k : Nat} (h : 0 < k) : 0 < kept capacity k := by
  cases capacity with
  | none => exact h
  | some n =>
    simp only [kept]
    omega

/-- However little a trail can hold, it holds the newest event. -/
theorem getLast?_events_addAll (capacity : Option Nat) (es : List Event) :
    ((fresh capacity).addAll hash es).events.getLast? = (chained hash none es).getLast? := by
  rw [addAll_fresh, retaining, List.getLast?_drop, gone_eq]
  split
  · rename_i hle
    have hzero : (chained hash none es).length = 0 := by
      by_contra hne
      have := kept_pos capacity (Nat.pos_of_ne_zero hne)
      have := kept_le capacity (chained hash none es).length
      omega
    rw [List.length_eq_zero_iff.mp hzero, List.getLast?_nil]
  · rfl

/-- What calls append to a trail that took some events in is what they would append to one that lets none go. -/
theorem appended_addAll (capacity : Option Nat) (es : List Event) (calls : List Call) :
    appended hash ((fresh capacity).addAll hash es) calls =
      chained hash (lastHash none (chained hash none es)) (calls.filterMap Call.event?) := by
  induction calls generalizing es with
  | nil => rfl
  | cons c rest ih =>
    rw [appended, answer_eq, ← addAll_append, ih, Call.appends_eq]
    cases hc : c.event? with
    | none => simp [hc]
    | some e =>
      rw [List.filterMap_cons_some hc, Option.toList_some, getLast?_events_addAll, chained_append, lastHash_append]
      simp [chained, lastHash]

theorem appended_fresh (capacity : Option Nat) (calls : List Call) :
    appended hash (fresh capacity) calls = chained hash none (calls.filterMap Call.event?) :=
  appended_addAll hash capacity [] calls

/-! ## Order -/

theorem lastHash_eq (es : List Event) : lastHash none es = es.getLast?.bind Event.hash := by
  cases h : es.getLast? with
  | none =>
    rw [List.getLast?_eq_none_iff.mp h]
    rfl
  | some e => rw [lastHash_of_getLast? h, Option.bind_some]

theorem map_unlinked_chained (previous : Option String) (es : List Event) :
    (chained hash previous es).map Event.unlinked = es.map Event.unlinked := by
  induction es generalizing previous with
  | nil => rfl
  | cons e es ih =>
    rw [chained, List.map_cons, List.map_cons, ih]
    rfl

/-- The trail `t` is in order behind some calls, which appended `all`. -/
structure InOrder (capacity : Option Nat) (calls : List Call) (all : List Event) (t : Trail) : Prop where
  intact : t.verify hash = true
  /-- One event for every call, but none for the record of an allowed result. -/
  appended_length : all.length = calls.countP Call.appends
  unchanged : all.map Event.unlinked = (calls.filterMap Call.event?).map Event.unlinked
  hashed : ∀ e ∈ all, e.hash = some (e.digest hash)
  previous : ∀ old e new, all = old ++ e :: new → e.previous = old.getLast?.bind Event.hash
  retained : t.events = all.drop (all.length - kept capacity all.length)
  retained_length : t.events.length = kept capacity all.length
  head : t.head = all.getLast?.bind Event.hash
  head_eq_none : t.head = none ↔ all = []

/-- A trail is in order behind any calls, and the record of an allowed result does nothing to it. -/
theorem inOrder_answerAll (capacity : Option Nat) (calls : List Call) :
    InOrder hash capacity calls (appended hash (fresh capacity) calls) ((fresh capacity).answerAll hash calls) ∧
      ∀ stamp subject r, r.isAllowed = true →
        (fresh capacity).answerAll hash (calls ++ [.record stamp subject r]) =
          (fresh capacity).answerAll hash calls := by
  -- what was appended is one chain from the first event on, whatever had to go since
  have hlink : ∀ (k : Nat) (e : Event), (appended hash (fresh capacity) calls)[k]? = some e →
      e.previous = lastHash none ((appended hash (fresh capacity) calls).take k) ∧ e.hash = some (e.digest hash) := by
    intro k e hk
    rw [appended_fresh] at hk ⊢
    obtain ⟨hprevious, hhash, -⟩ := link_of_isLinked (isLinked_chained hash none _) hk
    exact ⟨hprevious, hhash⟩
  have hhash : ∀ e ∈ appended hash (fresh capacity) calls, e.hash = some (e.digest hash) := by
    intro e he
    obtain ⟨k, hk⟩ := List.mem_iff_getElem?.mp he
    exact (hlink k e hk).2
  have htrail : (fresh capacity).answerAll hash calls = retaining capacity (appended hash (fresh capacity) calls) := by
    rw [answerAll_eq, addAll_fresh, appended_fresh]
  have hhead : ((fresh capacity).answerAll hash calls).head =
      (appended hash (fresh capacity) calls).getLast?.bind Event.hash := by
    rw [htrail, ← lastHash_eq]
    rfl
  refine ⟨?_, fun stamp subject r hr => ?_⟩
  · exact {
      intact := by
        rw [answerAll_eq]
        exact verify_addAll hash capacity _
      appended_length := by
        rw [appended_fresh, length_chained, List.length_filterMap_eq_countP]
        exact List.countP_congr fun c _ => by rw [Call.appends_eq]
      unchanged := by rw [appended_fresh, map_unlinked_chained]
      hashed := hhash
      previous := fun old e new hall => by
        obtain ⟨hprevious, -⟩ := hlink old.length e (by simp [hall])
        rw [hprevious, hall, List.take_left, lastHash_eq]
      retained := by rw [htrail, retaining, gone_eq]
      retained_length := by
        rw [htrail, retaining, List.length_drop, gone_eq]
        have := kept_le capacity (appended hash (fresh capacity) calls).length
        omega
      head := hhead
      head_eq_none := by
        rw [hhead, ← List.getLast?_eq_none_iff]
        constructor
        · intro hnone
          cases hlast : (appended hash (fresh capacity) calls).getLast? with
          | none => rfl
          | some e => simp [hlast, hhash e (List.mem_of_getLast? hlast)] at hnone
        · intro hnone
          rw [hnone, Option.bind_none] }
  · have hnone : Call.event? (.record stamp subject r) = none := by
      have happends := Call.appends_eq (.record stamp subject r)
      simpa [Call.appends, hr] using happends.symm
    rw [answerAll_eq, answerAll_eq, List.filterMap_append]
    simp [hnone]

end Trail

end Portcullis.Audit

import Mathlib.Data.List.Induction
import Portcullis.Audit.Trail

/-!
# What a trail retains

Every trail that is built by taking events in holds the newest of them, linked as in a trail that lets none go. Its
head is the hash of the newest event, and its anchor that of the newest event that had to go.
-/

namespace Portcullis.Audit

namespace Trail

variable (hash : Bytes → String)

/-- An empty trail: of unlimited capacity, or of a limited one. -/
def fresh : Option Nat → Trail
  | none => {}
  | some n => bounded n

def addAll (t : Trail) (es : List Event) : Trail :=
  es.foldl (add hash) t

/-- Events with their links, as they stand behind an event with the given hash if none of them goes. -/
def chained : Option String → List Event → List Event
  | _, [] => []
  | previous, e :: rest => link hash previous e :: chained (link hash previous e).hash rest

/-- The hash of the last of some events, and that of the event before them if there are none. -/
def lastHash : Option String → List Event → Option String
  | previous, [] => previous
  | _, e :: rest => lastHash e.hash rest

/-- So many events are too many. -/
def surplus (t : Trail) : Nat :=
  match t.capacity with
  | none => 0
  | some n => t.events.length - n

/-- So many of the events that were taken in had to go. -/
def gone : Option Nat → Nat → Nat
  | none, _ => 0
  | some n, k => k - max n 1

/-! ## Links -/

@[simp] theorem length_chained (previous : Option String) (es : List Event) :
    (chained hash previous es).length = es.length := by
  induction es generalizing previous with
  | nil => rfl
  | cons e es ih => simp [chained, ih]

theorem lastHash_append (previous : Option String) (es fs : List Event) :
    lastHash previous (es ++ fs) = lastHash (lastHash previous es) fs := by
  induction es generalizing previous with
  | nil => rfl
  | cons e es ih => exact ih e.hash

theorem lastHash_of_getLast? {es : List Event} {e : Event} (h : es.getLast? = some e) (previous : Option String) :
    lastHash previous es = e.hash := by
  obtain ⟨front, rfl⟩ := List.getLast?_eq_some_iff.mp h
  rw [lastHash_append]
  rfl

theorem chained_append (previous : Option String) (es fs : List Event) :
    chained hash previous (es ++ fs) =
      chained hash previous es ++ chained hash (lastHash previous (chained hash previous es)) fs := by
  induction es generalizing previous with
  | nil => rfl
  | cons e es ih => simp [chained, lastHash, ih]

theorem isLinked_append (previous : Option String) (es fs : List Event) :
    isLinked hash previous (es ++ fs) = (isLinked hash previous es && isLinked hash (lastHash previous es) fs) := by
  induction es generalizing previous with
  | nil => rfl
  | cons e es ih => simp [isLinked, lastHash, ih, Bool.and_assoc]

theorem isLinked_link (previous : Option String) (e : Event) (rest : List Event) :
    isLinked hash previous (link hash previous e :: rest) = isLinked hash (link hash previous e).hash rest := by
  have hdigest : (link hash previous e).hash = some ((link hash previous e).digest hash) := rfl
  have hprevious : (link hash previous e).previous = previous := rfl
  simp only [isLinked, hprevious, ← hdigest, beq_self_eq_true, Bool.true_and]

theorem isLinked_chained (previous : Option String) (es : List Event) :
    isLinked hash previous (chained hash previous es) = true := by
  induction es generalizing previous with
  | nil => rfl
  | cons e es ih => rw [chained, isLinked_link, ih]

variable {hash} in
theorem link_of_isLinked {previous : Option String} {es : List Event} (h : isLinked hash previous es = true) {k : Nat}
    {e : Event} (hk : es[k]? = some e) :
    e.previous = lastHash previous (es.take k) ∧ e.hash = some (hash e.hashed) ∧
      lastHash previous (es.take (k + 1)) = some (hash e.hashed) := by
  induction es generalizing previous k with
  | nil => simp at hk
  | cons first rest ih =>
    simp only [isLinked, Bool.and_eq_true, beq_iff_eq] at h
    obtain ⟨⟨hprevious, hhash⟩, hrest⟩ := h
    cases k with
    | zero =>
      simp only [List.getElem?_cons_zero, Option.some.injEq] at hk
      subst hk
      exact ⟨hprevious, hhash, hhash⟩
    | succ k =>
      simp only [List.getElem?_cons_succ] at hk
      exact ih hrest hk

/-! ## Taking events in -/

theorem evict_eq (t : Trail) :
    t.evict = { t with
      events := t.events.drop t.surplus
      anchor := lastHash t.anchor (t.events.take t.surplus) } := by
  obtain ⟨capacity, events, head, anchor⟩ := t
  cases capacity with
  | none => rfl
  | some n =>
    simp only [evict, surplus]
    split
    · rename_i hlast
      have htake : events.take (events.length - n) = [] := List.getLast?_eq_none_iff.mp hlast
      have hdrop : events.drop (events.length - n) = events := by
        have hsplit := List.take_append_drop (events.length - n) events
        rwa [htake, List.nil_append] at hsplit
      rw [htake, hdrop, lastHash]
    · rename_i last hlast
      rw [lastHash_of_getLast? hlast]

theorem add_eq (t : Trail) (e : Event) :
    t.add hash e = evict { t with
      events := t.events ++ [link hash t.head e]
      head := (link hash t.head e).hash } :=
  rfl

/-- The trail of given capacity that has taken some events in, and retains the newest of them. -/
def retaining (capacity : Option Nat) (all : List Event) : Trail where
  capacity := (fresh capacity).capacity
  events := all.drop (gone capacity all.length)
  head := lastHash none all
  anchor := lastHash none (all.take (gone capacity all.length))

theorem gone_le (capacity : Option Nat) (k : Nat) : gone capacity k ≤ k := by
  cases capacity with
  | none => exact Nat.zero_le k
  | some n => exact Nat.sub_le k _

theorem gone_add_surplus (capacity : Option Nat) (k : Nat) (t : Trail) (hc : t.capacity = (fresh capacity).capacity)
    (hlen : t.events.length = k - gone capacity k + 1) : gone capacity k + t.surplus = gone capacity (k + 1) := by
  cases capacity with
  | none => simp [surplus, hc, fresh, gone]
  | some n =>
    simp only [surplus, hc, fresh, bounded, gone, hlen]
    omega

/-- One more event is linked to the newest one, and pushes the oldest one out where the trail was full. -/
theorem retaining_add (capacity : Option Nat) (all : List Event) (e : Event) :
    (retaining capacity all).add hash e = retaining capacity (all ++ [link hash (lastHash none all) e]) := by
  have hle := gone_le capacity all.length
  rw [add_eq, evict_eq]
  generalize ht : { retaining capacity all with
    events := (retaining capacity all).events ++ [link hash (retaining capacity all).head e]
    head := (link hash (retaining capacity all).head e).hash } = t
  have hevents : t.events = (all ++ [link hash (lastHash none all) e]).drop (gone capacity all.length) := by
    rw [List.drop_append_of_le_length hle, ← ht]
    rfl
  have hsum := gone_add_surplus capacity all.length t (by rw [← ht]; rfl)
    (by rw [hevents, List.length_drop, List.length_append, List.length_singleton]; omega)
  have hanchor : t.anchor = lastHash none ((all ++ [link hash (lastHash none all) e]).take (gone capacity all.length)) := by
    rw [List.take_append_of_le_length hle, ← ht]
    rfl
  rw [hevents, hanchor, List.drop_drop, ← lastHash_append, ← List.take_add, hsum]
  simp only [retaining, List.length_append, List.length_singleton, ← ht, lastHash_append, lastHash]

theorem addAll_append (t : Trail) (es fs : List Event) : t.addAll hash (es ++ fs) = (t.addAll hash es).addAll hash fs :=
  List.foldl_append

/-- A trail that was empty retains the newest of all events that it took in. -/
theorem addAll_fresh (capacity : Option Nat) (es : List Event) :
    (fresh capacity).addAll hash es = retaining capacity (chained hash none es) := by
  induction es using List.reverseRecOn with
  | nil => cases capacity <;> simp [addAll, retaining, chained, lastHash, fresh, bounded]
  | append_singleton es e ih =>
    rw [addAll_append, ih, chained_append]
    exact retaining_add hash capacity _ e

/-! ## What is retained -/

theorem retaining_split (capacity : Option Nat) (all : List Event) :
    ∃ old, all = old ++ (retaining capacity all).events ∧ (retaining capacity all).anchor = lastHash none old :=
  ⟨all.take (gone capacity all.length), (List.take_append_drop _ _).symm, rfl⟩

theorem events_addAll_suffix (capacity : Option Nat) (es : List Event) :
    ((fresh capacity).addAll hash es).events <:+ chained hash none es := by
  rw [addAll_fresh]
  exact List.drop_suffix _ _

theorem length_events_addAll (n : Nat) (es : List Event) :
    ((bounded n).addAll hash es).events.length = min es.length (max n 1) := by
  rw [show bounded n = fresh (some n) from rfl, addAll_fresh]
  simp only [retaining, List.length_drop, length_chained, gone]
  omega

/-- A trail that only took events in is intact. -/
theorem verify_addAll (capacity : Option Nat) (es : List Event) :
    ((fresh capacity).addAll hash es).verify hash = true := by
  rw [addAll_fresh]
  obtain ⟨old, hsplit, hanchor⟩ := retaining_split capacity (chained hash none es)
  have hall := isLinked_chained hash none es
  rw [hsplit, isLinked_append, Bool.and_eq_true] at hall
  rw [verify, hanchor]
  exact hall.2

end Trail

end Portcullis.Audit

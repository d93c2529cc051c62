import Portcullis.Proofs.Audit.Preimage
import Portcullis.Proofs.Audit.Retention

/-!
# Changed events

Whether a trail is intact after the fields of one event were changed hangs on what is hashed of that event alone. So
every change is noticed exactly if the event is sealed.
-/

namespace Portcullis.Audit

/-- Two events have different hashes, unless the same bytes are hashed of them. -/
def Event.ToldApart (hash : Bytes → String) (e e' : Event) : Prop :=
  hash e.hashed = hash e'.hashed → e.hashed = e'.hashed

namespace Trail

variable (hash : Bytes → String)

/-- The trail with another event in place of one that it retains. -/
def replaced (t : Trail) (k : Nat) (e : Event) : Trail :=
  { t with events := t.events.set k e }

theorem isLinked_set {previous : Option String} {es : List Event} {k : Nat} {e e' : Event}
    (h : isLinked hash previous es = true) (hk : es[k]? = some e) (hl : e'.SameLinks e) :
    isLinked hash previous (es.set k e') = true ↔ e'.digest hash = e.digest hash := by
  induction es generalizing previous k with
  | nil => simp at hk
  | cons first rest ih =>
    simp only [isLinked, Bool.and_eq_true, beq_iff_eq] at h
    obtain ⟨⟨hprevious, hhash⟩, hrest⟩ := h
    cases k with
    | zero =>
      simp only [List.getElem?_cons_zero, Option.some.injEq] at hk
      subst hk
      simp only [List.set_cons_zero, isLinked, hl.previous, hprevious, hl.hash, hrest, Bool.and_eq_true, beq_iff_eq,
        true_and, and_true]
      rw [hhash, Option.some.injEq, eq_comm]
    | succ k =>
      simp only [List.getElem?_cons_succ] at hk
      simp only [List.set_cons_succ, isLinked, hprevious, hhash, beq_self_eq_true, Bool.true_and]
      rw [← hhash]
      exact ih hrest hk

/-- With the links left as they are, a changed event goes unnoticed exactly if its hash stays the same. -/
theorem verify_replaced {capacity : Option Nat} {es : List Event} {k : Nat} {e e' : Event}
    (hk : ((fresh capacity).addAll hash es).events[k]? = some e) (hl : e'.SameLinks e) :
    (((fresh capacity).addAll hash es).replaced k e').verify hash = true ↔ e'.digest hash = e.digest hash :=
  isLinked_set hash (verify_addAll hash capacity es) hk hl

/-- Every change to the fields of a retained event is noticed, as far as the hash tells the events apart, exactly if
the event is sealed. -/
theorem every_change_noticed_iff (capacity : Option Nat) (es : List Event) (k : Nat) (e : Event)
    (hk : ((fresh capacity).addAll hash es).events[k]? = some e) :
    (∀ e' : Event, e'.SameLinks e → e' ≠ e → e'.ToldApart hash e →
      (((fresh capacity).addAll hash es).replaced k e').verify hash = false) ↔ e.Sealed := by
  rw [Event.sealed_iff]
  constructor
  · intro hall e' hl hh
    by_contra hne
    have hfalse := hall e' hl hne fun _ => hh
    have htrue := (verify_replaced hash hk hl).mpr (congrArg hash hh)
    rw [hfalse] at htrue
    cases htrue
  · intro hsealed e' hl hne hapart
    rw [Bool.eq_false_iff]
    intro htrue
    exact hne (hsealed e' hl (hapart ((verify_replaced hash hk hl).mp htrue)))

/-- An abort by a rule that says why. -/
def stopped : Event where
  id := "e1"
  requestId := "r1"
  ruleId := "read-only"
  method := "DELETE"
  path := "/api/items"
  verdict := "block"
  message := some "method DELETE not allowed"

theorem stopped_change_noticed :
    ((fresh (some 2)).addAll sha256 [stopped]).events[0]? = some (link sha256 none stopped) ∧
      (link sha256 none stopped).Sealed ∧
      (((fresh (some 2)).addAll sha256 [stopped]).replaced 0
        { link sha256 none stopped with path := "/public" }).verify sha256 = false := by
  have hk : ((fresh (some 2)).addAll sha256 [stopped]).events[0]? = some (link sha256 none stopped) := rfl
  have hsealed : (link sha256 none stopped).Sealed := ⟨by decide, _, rfl, by decide, by decide⟩
  refine ⟨hk, hsealed, (every_change_noticed_iff sha256 _ _ _ _ hk).mpr hsealed _ ⟨rfl, rfl⟩ ?_ ?_⟩
  · intro h
    exact absurd (congrArg Event.path h) (by decide)
  · intro h
    exact absurd h (by decide +kernel)

/-- The same abort by a rule that says nothing, behind no other event. -/
def silent : Event :=
  link sha256 none { stopped with message := none }

/-- An empty message in place of none goes unnoticed: the same bytes are hashed. -/
theorem empty_message_unnoticed :
    ((fresh none).addAll sha256 [{ stopped with message := none }]).events[0]? = some silent ∧
      ({ silent with message := some "" } : Event).SameLinks silent ∧
      ({ silent with message := some "" } : Event) ≠ silent ∧
      ({ silent with message := some "" } : Event).hashed = silent.hashed ∧
      (((fresh none).addAll sha256 [{ stopped with message := none }]).replaced 0
        { silent with message := some "" }).verify sha256 = true := by
  have hk : ((fresh none).addAll sha256 [{ stopped with message := none }]).events[0]? = some silent := rfl
  have hl : ({ silent with message := some "" } : Event).SameLinks silent := ⟨rfl, rfl⟩
  have hh : ({ silent with message := some "" } : Event).hashed = silent.hashed := hl.hashed_eq rfl rfl
  exact ⟨hk, hl, fun h => absurd (congrArg Event.message h) (by decide), hh,
    (verify_replaced sha256 hk hl).mpr (congrArg sha256 hh)⟩

end Trail

end Portcullis.Audit

import Mathlib.Data.List.Forall2

/-! # Results that may be missing, one by one and in lists -/

namespace Portcullis

theorem mapM_eq_some {α β : Type} {f : α → Option β} {as : List α} {bs : List β} :
    as.mapM f = some bs ↔ List.Forall₂ (fun a b => f a = some b) as bs := by
  induction as generalizing bs with
  | nil => cases bs <;> simp
  | cons a rest ih => cases bs <;> simp [List.mapM_cons, Option.bind_eq_some_iff, ih]

theorem mapM_eq_none {α β : Type} {f : α → Option β} {as : List α} {a : α} (ha : a ∈ as) (hf : f a = none) :
    as.mapM f = none := by
  induction as with
  | nil => cases ha
  | cons x rest ih =>
    rw [List.mapM_cons]
    rcases List.mem_cons.mp ha with rfl | ha
    · rw [hf]
      rfl
    · rw [ih ha]
      cases f x <;> rfl

theorem exists_mem_of_mapM {α β : Type} {f : α → Option β} {as : List α} {bs : List β} (h : as.mapM f = some bs)
    {a : α} (ha : a ∈ as) : ∃ b ∈ bs, f a = some b := by
  induction mapM_eq_some.mp h with
  | nil => cases ha
  | cons hb _ ih =>
    rcases List.mem_cons.mp ha with rfl | ha
    · exact ⟨_, List.mem_cons_self, hb⟩
    · obtain ⟨b, hmem, hfa⟩ := ih (mapM_eq_some.mpr ‹_›) ha
      exact ⟨b, .tail _ hmem, hfa⟩

theorem exists_of_mem_mapM {α β : Type} {f : α → Option β} {as : List α} {bs : List β} (h : as.mapM f = some bs)
    {b : β} (hb : b ∈ bs) : ∃ a ∈ as, f a = some b := by
  induction mapM_eq_some.mp h with
  | nil => cases hb
  | cons ha _ ih =>
    rcases List.mem_cons.mp hb with rfl | hb
    · exact ⟨_, List.mem_cons_self, ha⟩
    · obtain ⟨a, hmem, hfa⟩ := ih (mapM_eq_some.mpr ‹_›) hb
      exact ⟨a, .tail _ hmem, hfa⟩

theorem mapM_append_cons_eq_some {α β : Type} {f : α → Option β} {as cs : List α} {a : α} {bs : List β} :
    (as ++ a :: cs).mapM f = some bs ↔
      ∃ x b z, as.mapM f = some x ∧ f a = some b ∧ cs.mapM f = some z ∧ x ++ b :: z = bs := by
  simp [List.mapM_append, List.mapM_cons, Option.bind_eq_some_iff]

theorem exists_error_iff {ε α : Type} {x : Except ε α} : (∃ e, x = .error e) ↔ ¬∃ a, x = .ok a := by
  cases x <;> simp

theorem exists_error_map {ε α β : Type} {f : α → β} {x : Except ε α} :
    (∃ e, x.map f = .error e) ↔ ∃ e, x = .error e := by
  cases x <;> simp [Except.map]

end Portcullis

import Portcullis.Http.Header

/-! Fields seen through the values of each name, and what the operations on fields do to that view. -/
namespace Portcullis.Http.Headers

variable (h base top : Headers) (n m : HeaderName) (v : HeaderValue)

@[simp] theorem getAll_empty : ({} : Headers).getAll n = [] :=
  rfl

@[simp] theorem getAll_append : (h.append n v).getAll m = h.getAll m ++ if n = m then [v] else [] := by
  by_cases hnm : n = m <;> simp [append, getAll, List.filter_append, hnm]

theorem getAll_filter (p : HeaderName → Bool) :
    getAll ⟨h.entries.filter fun f => p f.1⟩ m = if p m then h.getAll m else [] := by
  simp only [getAll, List.filter_filter]
  by_cases hp : p m = true
  · simp only [hp, if_true]
    congr 1
    apply List.filter_congr
    intro f _
    by_cases hf : f.1 = m <;> simp [hf, hp]
  · simp only [hp, Bool.false_eq_true, if_false, List.map_eq_nil_iff, List.filter_eq_nil_iff]
    intro f _
    by_cases hf : f.1 = m <;> simp [hf, hp]

@[simp] theorem getAll_remove : (h.remove n).getAll m = if n = m then [] else h.getAll m := by
  simp only [remove, h.getAll_filter m fun k => k != n]
  by_cases hnm : n = m
  · simp [hnm]
  · simp [hnm, Ne.symm hnm]

@[simp] theorem getAll_insert : (h.insert n v).getAll m = if n = m then [v] else h.getAll m := by
  by_cases hnm : n = m <;> simp [insert, hnm]

theorem contains_iff : h.contains n = true ↔ h.getAll n ≠ [] := by
  simp [contains, getAll, List.filter_eq_nil_iff]

/-- Values on top hide those below, and so does the removal of their name. -/
theorem getAll_overlay (gone : List HeaderName) :
    (base.overlay gone top).getAll n =
      if top.getAll n ≠ [] then top.getAll n else if n ∈ gone then [] else base.getAll n := by
  have hsplit : (base.overlay gone top).getAll n =
      getAll ⟨base.entries.filter fun f => !gone.contains f.1 && !top.contains f.1⟩ n ++ top.getAll n := by
    simp [overlay, getAll, List.filter_append]
  rw [hsplit, base.getAll_filter n fun k => !gone.contains k && !top.contains k]
  by_cases ht : top.getAll n = []
  · have hc : top.contains n = false := Bool.eq_false_iff.mpr fun hc => (top.contains_iff n).mp hc ht
    by_cases hg : n ∈ gone <;> simp [ht, hc, hg]
  · simp [ht, (top.contains_iff n).mpr ht]

end Portcullis.Http.Headers

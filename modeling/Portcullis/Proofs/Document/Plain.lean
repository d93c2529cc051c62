import Mathlib.Data.List.Nodup
import Portcullis.Document.Json
import Portcullis.Document.Resolve
import Portcullis.Proofs.Results

/-!
# Settled and plain documents

A plain document has no tags, no scalars of open type and no key twice. It stays as it is where the reader expects
nothing in particular.
-/

namespace Portcullis.Document.Datum

/-! ## Settled records -/

/-- An entry of a record whose reader expects nothing in particular. -/
def settleField? (depth : Nat) (e : Key × Datum) : Option (Key × Datum) :=
  match e.1 with
  | .closed _ => none
  | k => (e.2.settle? depth).map (k, ·)

theorem settleFields?_eq_mapM (depth : Nat) (fields : List (Key × Datum)) :
    settleFields? depth fields = fields.mapM (settleField? depth) := by
  induction fields with
  | nil => rw [settleFields?, List.mapM_nil]; rfl
  | cons e rest ih =>
    obtain ⟨k, d⟩ := e
    cases k with
    | closed w => simp [settleFields?, List.mapM_cons, settleField?]
    | _ => cases hd : settle? depth d <;> simp [settleFields?, List.mapM_cons, settleField?, ih, hd]

theorem settle?_record_eq_some {depth : Nat} {tag : Option String} {fields : List (Key × Datum)} {d : Datum} :
    settle? (depth + 1) (.record tag fields) = some d ↔
      isVariantTag tag = false ∧ ∃ settled, fields.mapM (settleField? depth) = some settled ∧
        .record none settled = d := by
  cases htag : isVariantTag tag <;> simp [settle?, settleFields?_eq_mapM, htag]

theorem settleItems?_eq_mapM (depth : Nat) (items : List Datum) :
    settleItems? depth items = items.mapM (settle? depth) := by
  induction items with
  | nil => rw [settleItems?, List.mapM_nil]; rfl
  | cons d rest ih => rw [settleItems?, List.mapM_cons, ih]

/-! ## Plain documents -/

/-- A document that JSON can write down, with so many brackets inside brackets at most. -/
inductive Plain : Nat → Datum → Prop
  | null {n : Nat} : Plain n .null
  | bool {n : Nat} (b : Bool) : Plain n (.bool b)
  | int {n : Nat} {i : Int} (h : Json.fits i = true) : Plain n (.int i)
  | text {n : Nat} (s : String) : Plain n (.text s)
  | list {n : Nat} {items : List Datum} (h : ∀ d ∈ items, Plain n d) : Plain (n + 1) (.ofList items)
  | fields {n : Nat} {entries : List (String × Datum)} (h : ∀ e ∈ entries, Plain n e.2)
      (hnodup : (entries.map (·.1)).Nodup) : Plain (n + 1) (.ofFields entries)

namespace Plain

theorem settle? {n : Nat} {d : Datum} (h : Plain n d) : d.settle? n = some d := by
  induction h with
  | null => rw [Datum.settle?]
  | bool b => rw [Datum.settle?]
  | int h => rw [Datum.settle?]
  | text s => rw [Datum.settle?]
  | list _ ih =>
    rw [ofList, Datum.settle?, settleItems?_eq_mapM, mapM_eq_some.mpr (List.forall₂_same.mpr ih)]
    rfl
  | @fields n entries _ _ ih =>
    refine settle?_record_eq_some.mpr ⟨rfl, _, mapM_eq_some.mpr (List.forall₂_same.mpr fun f hf => ?_), rfl⟩
    obtain ⟨e, he, rfl⟩ := List.mem_map.mp hf
    simp [settleField?, ih e he]

end Plain

end Portcullis.Document.Datum

import Portcullis.Proofs.Results
import Portcullis.Text.Utf8

/-! Encoded text determines the text, and so does a mark that stands in only one place. -/
namespace Portcullis

namespace Utf8

/-- A character is a byte of its own, or all of its bytes are beyond ASCII. -/
theorem encodeChar_cases (c : Char) :
    (c.toNat < 0x80 ∧ String.utf8EncodeChar c = [UInt8.ofNat c.toNat]) ∨ ∀ b ∈ String.utf8EncodeChar c, 0x80 ≤ b := by
  fun_cases String.utf8EncodeChar c
  · exact .inl ⟨Nat.lt_succ_of_le ‹_›, rfl⟩
  all_goals
    right
    simp only [List.forall_mem_cons, UInt8.le_iff_toNat_le, UInt8.toNat_ofNat', UInt8.reduceToNat, List.not_mem_nil,
      false_implies, implies_true, and_true]
    omega

theorem encode_append (cs ds : List Char) : encode (cs ++ ds) = encode cs ++ encode ds :=
  List.flatMap_append

theorem encode_injective {cs ds : List Char} (h : encode cs = encode ds) : cs = ds := by
  have hbytes : cs.utf8Encode = ds.utf8Encode := congrArg List.toByteArray h
  have hdecode := congrArg ByteArray.utf8Decode? hbytes
  rw [List.utf8Decode?_utf8Encode, List.utf8Decode?_utf8Encode, Option.some.injEq] at hdecode
  exact List.toArray_inj hdecode

theorem items_append {p : Option Partial} {bs : Bytes} (h : ∀ o ∈ items p bs, o.isSome = true) (more : Bytes) :
    items p (bs ++ more) = items p bs ++ items none more := by
  induction bs generalizing p with
  | nil =>
    cases p with
    | none => rfl
    | some p => exact absurd (h none List.mem_cons_self) (by decide)
  | cons b rest ih =>
    cases p with
    | none =>
      rw [List.cons_append]
      simp only [items] at h ⊢
      cases hlead : lead b with
      | whole c =>
        simp only [hlead] at h ⊢
        rw [ih fun o ho => h o (.tail _ ho)]
        rfl
      | more p =>
        simp only [hlead] at h ⊢
        exact ih h
      | broken =>
        simp only [hlead] at h
        exact absurd (h none List.mem_cons_self) (by decide)
    | some p =>
      rw [List.cons_append]
      simp only [items] at h ⊢
      cases hpush : p.push b with
      | none =>
        simp only [hpush] at h
        cases hlead : lead b <;> simp only [hlead] at h <;> exact absurd (h none List.mem_cons_self) (by decide)
      | some q =>
        simp only [hpush] at h ⊢
        split at h
        · rename_i hdone
          rw [if_pos hdone, if_pos hdone, ih fun o ho => h o (.tail _ ho)]
          rfl
        · rename_i howed
          rw [if_neg howed, if_neg howed]
          exact ih h

theorem mapM_id_eq_some {α : Type} {os : List (Option α)} {as : List α} :
    os.mapM id = some as ↔ os = as.map some := by
  rw [mapM_eq_some, ← List.forall₂_eq_eq_eq, List.forall₂_map_right_iff]
  rfl

/-- Behind a text that is whole another one is read by itself. -/
theorem decode?_append {bs more : Bytes} {text rest : List Char} (h : decode? bs = some text)
    (hmore : decode? more = some rest) : decode? (bs ++ more) = some (text ++ rest) := by
  have hitems := mapM_id_eq_some.mp h
  have hsome : ∀ o ∈ items none bs, o.isSome = true := by simp [hitems]
  refine mapM_id_eq_some.mpr ?_
  rw [items_append hsome, hitems, mapM_id_eq_some.mp hmore, List.map_append]

end Utf8

/-! ## Marks -/

namespace Text

variable {α : Type} {a : α}

/-- A list is cut at the first place where a mark stands in one way only. -/
theorem cut_first {u v rest rest' : List α} (hu : a ∉ u) (hv : a ∉ v) (h : u ++ a :: rest = v ++ a :: rest') :
    u = v ∧ rest = rest' := by
  induction u generalizing v with
  | nil =>
    cases v with
    | nil => exact ⟨rfl, (List.cons.inj h).2⟩
    | cons b v => exact absurd (List.mem_cons.mpr (.inl (List.cons.inj h).1)) hv
  | cons b u ih =>
    cases v with
    | nil => exact absurd (List.mem_cons.mpr (.inl (List.cons.inj h).1.symm)) hu
    | cons c v =>
      obtain ⟨rfl, htail⟩ := List.cons.inj h
      obtain ⟨rfl, hrest⟩ := ih (fun hm => hu (.tail _ hm)) (fun hm => hv (.tail _ hm)) htail
      exact ⟨rfl, hrest⟩

/-- So it is at the last one. -/
theorem cut_last {front front' u v : List α} (hu : a ∉ u) (hv : a ∉ v) (h : front ++ a :: u = front' ++ a :: v) :
    front = front' ∧ u = v := by
  have hback := congrArg List.reverse h
  simp only [List.reverse_append, List.reverse_cons, List.append_assoc, List.singleton_append] at hback
  obtain ⟨hrest, hfront⟩ := cut_first (by simpa using hu) (by simpa using hv) hback
  exact ⟨List.reverse_inj.mp hfront, List.reverse_inj.mp hrest⟩

end Text

end Portcullis

import Mathlib.Logic.Relation
import Portcullis.Proofs.Regex.Language
import Portcullis.Regex.Program

/-!
# Steps of a program

A place is an address in a program together with a position. Code realizes a relation between positions if runs
that enter it at its first address leave it behind its last one, exactly between related positions.
-/

namespace Portcullis.Regex

abbrev Place := Nat × Nat

def Job.place (j : Job) : Place :=
  (j.pc, j.pos)

/-- The places that one instruction leads to. -/
def Inst.targets (h : Haystack) (p : Place) (i : Inst) : List Place :=
  (i.next h ⟨p.1, p.2, []⟩).map Job.place

theorem Inst.map_place_next (h : Haystack) (j : Job) (i : Inst) :
    (i.next h j).map Job.place = i.targets h j.place := by
  cases i with
  | scalar s =>
    simp only [Inst.targets, Inst.next, Job.place]
    split
    · split <;> rfl
    · rfl
  | byte s =>
    simp only [Inst.targets, Inst.next, Job.place]
    split
    · split <;> rfl
    · rfl
  | look l =>
    by_cases hl : h.holds j.pos l = true <;> simp [Inst.targets, Inst.next, Job.place, hl]
  | _ => rfl

def Step (program : Code) (h : Haystack) (p p' : Place) : Prop :=
  ∃ i, program[p.1]? = some i ∧ p' ∈ i.targets h p

def Run (program : Code) (h : Haystack) : Nat → Place → Place → Prop
  | 0, p, p' => p = p'
  | n + 1, p, p' => ∃ q, Step program h p q ∧ Run program h n q p'

def Reaches (program : Code) (h : Haystack) : Place → Place → Prop :=
  Relation.ReflTransGen (Step program h)

/-- The code stands in the program at an address. -/
def Placed (program : Code) (base : Nat) (code : Code) : Prop :=
  ∀ k i, code[k]? = some i → program[base + k]? = some i

variable {program : Code} {h : Haystack}

theorem Reaches.exists_run {p p' : Place} (hr : Reaches program h p p') : ∃ n, Run program h n p p' := by
  induction hr using Relation.ReflTransGen.head_induction_on with
  | refl => exact ⟨0, rfl⟩
  | head hs _ ih =>
    obtain ⟨n, hn⟩ := ih
    exact ⟨n + 1, _, hs, hn⟩

theorem Placed.left {base : Nat} {c d : Code} (hp : Placed program base (c ++ d)) : Placed program base c := by
  intro k i hk
  exact hp k i (by rw [List.getElem?_append_left (List.getElem?_eq_some_iff.mp hk).1]; exact hk)

theorem Placed.right {base : Nat} {c d : Code} (hp : Placed program base (c ++ d)) :
    Placed program (base + c.length) d := by
  intro k i hk
  have := hp (c.length + k) i (by rw [List.getElem?_append_right (by omega)]; simpa using hk)
  rwa [← Nat.add_assoc] at this

theorem Placed.head {base : Nat} {i : Inst} {c : Code} (hp : Placed program base (i :: c)) :
    program[base]? = some i :=
  hp 0 i rfl

theorem Placed.tail {base : Nat} {i : Inst} {c : Code} (hp : Placed program base (i :: c)) :
    Placed program (base + 1) c :=
  Placed.right (c := [i]) hp

/-- The instruction at an address decides about the first step of a run. -/
theorem Run.step {n : Nat} {p p' : Place} {i : Inst} (hr : Run program h n p p') (hp : program[p.1]? = some i)
    (hne : p' ≠ p) : ∃ m q, n = m + 1 ∧ q ∈ i.targets h p ∧ Run program h m q p' := by
  cases n with
  | zero => exact absurd hr.symm hne
  | succ m =>
    obtain ⟨q, ⟨i', hi, hq⟩, hr⟩ := hr
    rw [hp] at hi
    cases hi
    exact ⟨m, q, rfl, hq, hr⟩

/-! ## Realization -/

/-- The place is not inside of the addresses from `base` up to `stop`. -/
def Place.Outside (p : Place) (base stop : Nat) : Prop :=
  p.1 < base ∨ stop ≤ p.1

/-- Wherever the code stands in the program, runs that enter it leave it between related positions. -/
structure Realizes (program : Code) (h : Haystack) (emit : Nat → Code) (R : Nat → Nat → Prop) : Prop where
  length : ∀ base base', (emit base).length = (emit base').length
  reaches : ∀ base i j, Placed program base (emit base) → R i j →
    Reaches program h (base, i) (base + (emit base).length, j)
  leaves : ∀ base i n p, Placed program base (emit base) → Run program h n (base, i) p →
    p.Outside base (base + (emit base).length) →
    ∃ j m, m ≤ n ∧ R i j ∧ Run program h m (base + (emit base).length, j) p

theorem Realizes.congr {emit : Nat → Code} {R R' : Nat → Nat → Prop} (hr : Realizes program h emit R)
    (he : ∀ i j, R i j ↔ R' i j) : Realizes program h emit R' := by
  have : R = R' := funext fun i => funext fun j => propext (he i j)
  exact this ▸ hr

theorem Realizes.single {i : Inst} {R : Nat → Nat → Prop}
    (ht : ∀ pc pos q, q ∈ i.targets h (pc, pos) ↔ q.1 = pc + 1 ∧ R pos q.2) :
    Realizes program h (fun _ => [i]) R where
  length _ _ := rfl
  reaches base k j hp hR := .single ⟨i, hp.head, (ht base k (base + 1, j)).mpr ⟨rfl, hR⟩⟩
  leaves base k n p hp hrun hout := by
    have hne : p ≠ (base, k) := by
      rintro rfl
      simp only [Place.Outside, List.length_singleton] at hout
      omega
    obtain ⟨m, q, hn, hq, hrun⟩ := hrun.step hp.head hne
    obtain ⟨hpc, hR⟩ := (ht base k q).mp hq
    refine ⟨q.2, m, by omega, hR, ?_⟩
    rw [show (base + [i].length, q.2) = q from Prod.ext hpc.symm rfl]
    exact hrun

theorem Realizes.nil : Realizes program h (fun _ => []) (fun i j => i = j) where
  length _ _ := rfl
  reaches _ _ _ _ hij := hij ▸ .refl
  leaves _ i n _ _ hrun _ := ⟨i, n, Nat.le_refl n, rfl, hrun⟩

theorem Realizes.append {emit emit' : Nat → Code} {R R' : Nat → Nat → Prop} (hr : Realizes program h emit R)
    (hr' : Realizes program h emit' R') :
    Realizes program h (fun base => emit base ++ emit' (base + (emit base).length))
      (fun i j => ∃ k, R i k ∧ R' k j) where
  length base base' := by
    rw [List.length_append, List.length_append, hr.length base base', hr'.length]
  reaches base i j hp := by
    rintro ⟨k, hik, hkj⟩
    have := (hr.reaches base i k hp.left hik).trans (hr'.reaches _ k j hp.right hkj)
    rwa [Nat.add_assoc, ← List.length_append] at this
  leaves base i n p hp hrun hout := by
    simp only [List.length_append, ← Nat.add_assoc] at hout ⊢
    obtain ⟨k, m, hm, hik, hrun⟩ := hr.leaves base i n p hp.left hrun
      (by simp only [Place.Outside] at hout ⊢; omega)
    obtain ⟨j, l, hl, hkj, hrun⟩ := hr'.leaves _ k m p hp.right hrun
      (by simp only [Place.Outside] at hout ⊢; omega)
    exact ⟨j, l, by omega, ⟨k, hik, hkj⟩, hrun⟩

end Portcullis.Regex

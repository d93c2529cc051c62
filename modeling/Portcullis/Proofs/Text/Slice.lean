import Portcullis.Text.Slice
import Portcullis.Text.Utf8

/-!
# Slices

A slice of a text is there exactly if both of its ends are boundaries of characters, in order.
-/

namespace Portcullis.Text

/-- The number of bytes in the UTF-8 form. -/
def byteLength (cs : List Char) : Nat :=
  (Utf8.encode cs).length

@[simp] theorem byteLength_nil : byteLength [] = 0 :=
  rfl

@[simp] theorem byteLength_cons (c : Char) (cs : List Char) : byteLength (c :: cs) = c.utf8Size + byteLength cs := by
  rw [byteLength, Utf8.encode, List.flatMap_cons, List.length_append, String.length_utf8EncodeChar]
  rfl

@[simp] theorem byteLength_append (cs ds : List Char) : byteLength (cs ++ ds) = byteLength cs + byteLength ds := by
  rw [byteLength, Utf8.encode, List.flatMap_append, List.length_append]
  rfl

/-- A byte offset where the text is cut between two characters. -/
structure CutAt (cs : List Char) (n : Nat) (front back : List Char) : Prop where
  append : cs = front ++ back
  length : byteLength front = n

variable {c : Char} {cs rest front back : List Char} {n : Nat}

theorem cutAt_append (front back : List Char) : CutAt (front ++ back) (byteLength front) front back :=
  ⟨rfl, rfl⟩

/-- The next offset is behind the next character. -/
theorem CutAt.copy (h : CutAt cs n front (c :: back)) : CutAt cs (n + c.utf8Size) (front ++ [c]) back :=
  ⟨by simp [h.append], by simp [h.length]⟩

theorem cutAt_zero : CutAt cs 0 front back ↔ front = [] ∧ cs = back := by
  constructor
  · rintro ⟨rfl, hlength⟩
    cases front with
    | nil => exact ⟨rfl, rfl⟩
    | cons c front =>
      have hpos := c.utf8Size_pos
      rw [byteLength_cons] at hlength
      omega
  · rintro ⟨rfl, rfl⟩
    exact cutAt_append [] cs

theorem not_cutAt_nil : ¬CutAt [] (n + 1) front back := by
  rintro ⟨happend, hlength⟩
  obtain rfl := (List.nil_eq_append_iff.mp happend).1
  cases hlength

/-- No offset inside the first character is one. -/
theorem cutAt_cons : CutAt (c :: rest) (n + 1) front back ↔
    c.utf8Size ≤ n + 1 ∧ ∃ more, front = c :: more ∧ CutAt rest (n + 1 - c.utf8Size) more back := by
  constructor
  · rintro ⟨happend, hlength⟩
    cases front with
    | nil => cases hlength
    | cons d more =>
      obtain ⟨rfl, rfl⟩ := List.cons.inj happend
      rw [byteLength_cons] at hlength
      exact ⟨by omega, more, rfl, rfl, by omega⟩
  · rintro ⟨hle, more, rfl, rfl, hlength⟩
    exact ⟨rfl, by rw [byteLength_cons]; omega⟩

theorem dropBytes?_eq_some : dropBytes? n cs = some back ↔ ∃ front, CutAt cs n front back := by
  fun_induction dropBytes? n cs with
  | case1 cs => simp [cutAt_zero]
  | case2 n => simp [not_cutAt_nil]
  | case3 n c rest hle ih =>
    simp only [ih, cutAt_cons, hle, true_and]
    constructor
    · rintro ⟨more, hcut⟩
      exact ⟨c :: more, more, rfl, hcut⟩
    · rintro ⟨front, more, rfl, hcut⟩
      exact ⟨more, hcut⟩
  | case4 n c rest hle => simp [cutAt_cons, hle]

theorem takeBytes?_eq_some : takeBytes? n cs = some front ↔ ∃ back, CutAt cs n front back := by
  fun_induction takeBytes? n cs generalizing front with
  | case1 cs => simp [cutAt_zero, eq_comm]
  | case2 n => simp [not_cutAt_nil]
  | case3 n c rest hle ih =>
    simp only [Option.map_eq_some_iff, ih, cutAt_cons, hle, true_and]
    constructor
    · rintro ⟨more, ⟨back, hcut⟩, rfl⟩
      exact ⟨back, more, rfl, hcut⟩
    · rintro ⟨back, more, rfl, hcut⟩
      exact ⟨more, ⟨back, hcut⟩, rfl⟩
  | case4 n c rest hle => simp [cutAt_cons, hle]

theorem CutAt.unique {front' back' : List Char} (h : CutAt cs n front back) (h' : CutAt cs n front' back') :
    front = front' ∧ back = back' := by
  have hfront := takeBytes?_eq_some.mpr ⟨back, h⟩
  have hback := dropBytes?_eq_some.mpr ⟨front, h⟩
  rw [takeBytes?_eq_some.mpr ⟨back', h'⟩] at hfront
  rw [dropBytes?_eq_some.mpr ⟨front', h'⟩] at hback
  exact ⟨(Option.some.inj hfront).symm, (Option.some.inj hback).symm⟩

theorem slice?_eq_some {part : List Char} {i j : Nat} : slice? cs i j = some part ↔
    ∃ front back, CutAt cs i front (part ++ back) ∧ CutAt cs j (front ++ part) back := by
  unfold slice?
  split
  · rename_i hle
    rw [Option.bind_eq_some_iff]
    constructor
    · rintro ⟨tail, hdrop, htake⟩
      obtain ⟨front, rfl, rfl⟩ := dropBytes?_eq_some.mp hdrop
      obtain ⟨back, rfl, hlength⟩ := takeBytes?_eq_some.mp htake
      exact ⟨front, back, ⟨rfl, rfl⟩, ⟨(List.append_assoc ..).symm, by rw [byteLength_append]; omega⟩⟩
    · rintro ⟨front, back, hi, hj⟩
      have hlength := hj.length
      rw [byteLength_append, hi.length] at hlength
      exact ⟨part ++ back, dropBytes?_eq_some.mpr ⟨front, hi⟩, takeBytes?_eq_some.mpr ⟨back, rfl, by omega⟩⟩
  · rename_i hle
    refine iff_of_false (by simp) ?_
    rintro ⟨front, back, hi, hj⟩
    have hlength := hj.length
    rw [byteLength_append, hi.length] at hlength
    omega

end Portcullis.Text

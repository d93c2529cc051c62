import Mathlib.Data.List.TakeWhile
import Portcullis.Net.Address

/-!
# What addresses are written with

An address of sixteen bytes is written with hexadecimal digits, dots and colons, and with no more than eight colons:
seven between eight groups, or one more where the two that stand for a run of zeros begin or end it.
-/

namespace Portcullis.Net

def isAddressChar (c : Char) : Bool :=
  Ascii.isHex c || c == ':' || c == '.'

/-- What is left of the text stands behind characters of addresses, with no more colons among them than that. -/
def Leaves (cs rest : List Char) (colons : Nat) : Prop :=
  ∃ front, cs = front ++ rest ∧ (∀ c ∈ front, isAddressChar c = true) ∧ front.count ':' ≤ colons

variable {cs mid rest : List Char} {m n : Nat}

namespace Leaves

theorem refl (cs : List Char) : Leaves cs cs n :=
  ⟨[], rfl, by simp, Nat.zero_le n⟩

theorem trans (h : Leaves cs mid m) (h' : Leaves mid rest n) : Leaves cs rest (m + n) := by
  obtain ⟨front, rfl, hfront, hcount⟩ := h
  obtain ⟨front', rfl, hfront', hcount'⟩ := h'
  refine ⟨front ++ front', (List.append_assoc ..).symm, fun c hc => ?_, ?_⟩
  · exact (List.mem_append.mp hc).elim (hfront c) (hfront' c)
  · rw [List.count_append]
    exact Nat.add_le_add hcount hcount'

theorem mono (h : Leaves cs rest m) (hle : m ≤ n) : Leaves cs rest n := by
  obtain ⟨front, hcs, hfront, hcount⟩ := h
  exact ⟨front, hcs, hfront, Nat.le_trans hcount hle⟩

end Leaves

theorem leaves_of_after? {c : Char} (hc : isAddressChar c = true) (h : after? c cs = some rest) :
    Leaves cs rest (if c = ':' then 1 else 0) := by
  cases cs with
  | nil => cases h
  | cons d rest =>
    rw [after?] at h
    split at h
    · rename_i hd
      obtain rfl := beq_iff_eq.mp hd
      cases h
      refine ⟨[d], rfl, by simpa using hc, ?_⟩
      rw [List.count_singleton]
      simp
    · cases h

/-! ## Numbers -/

theorem isHex_of_ofDigits? {base : Nat} {c : Char} (h : (Ascii.ofDigits? base [c]).isSome = true) :
    Ascii.isHex c = true := by
  rw [Ascii.isHex]
  cases hvalue : Ascii.hexValue? c with
  | none => simp [Ascii.ofDigits?, hvalue] at h
  | some => rfl

theorem leaves_of_readNumber? {base most g : Nat} (h : readNumber? base most cs = some (g, rest)) :
    Leaves cs rest 0 := by
  simp only [readNumber?] at h
  split at h
  · cases h
  · obtain ⟨_, -, heq⟩ := Option.map_eq_some_iff.mp h
    obtain ⟨-, rfl⟩ := Prod.mk.inj heq
    have hdigit : ∀ c ∈ cs.takeWhile fun c => (Ascii.ofDigits? base [c]).isSome, Ascii.isHex c = true := by
      intro c hc
      have hsome := List.mem_takeWhile_imp hc
      exact isHex_of_ofDigits? hsome
    refine ⟨_, List.takeWhile_append_dropWhile.symm, fun c hc => by simp [isAddressChar, hdigit c hc], ?_⟩
    rw [Nat.le_zero, List.count_eq_zero]
    intro hmem
    exact absurd (hdigit ':' hmem) (by decide)

theorem leaves_of_readByte? {b : Nat} (h : readByte? cs = some (b, rest)) : Leaves cs rest 0 := by
  unfold readByte? at h
  split at h
  · rename_i hread
    split at h
    · cases h
    · cases h
      exact leaves_of_readNumber? hread
  · cases h

theorem Ipv4.leaves_of_read? {a : Ipv4} (h : read? cs = some (a, rest)) : Leaves cs rest 0 := by
  simp only [read?, Option.bind_eq_bind, Option.bind_eq_some_iff] at h
  obtain ⟨⟨_, cs₁⟩, h₁, cs₂, h₂, ⟨_, cs₃⟩, h₃, cs₄, h₄, ⟨_, cs₅⟩, h₅, cs₆, h₆, ⟨_, cs₇⟩, h₇, h⟩ := h
  cases h
  have hdot : ∀ {cs rest}, after? '.' cs = some rest → Leaves cs rest 0 := leaves_of_after? (by decide)
  exact (leaves_of_readByte? h₁).trans <| (hdot h₂).trans <| (leaves_of_readByte? h₃).trans <| (hdot h₄).trans <|
    (leaves_of_readByte? h₅).trans <| (hdot h₆).trans (leaves_of_readByte? h₇)

namespace Ipv6

/-! ## Groups -/

/-- There is a colon before each group but the first one. -/
theorem leaves_of_readGroups {isFirst isMixed : Bool} {gs : List Nat}
    (h : readGroups isFirst n cs = (gs, isMixed, rest)) :
    gs.length ≤ n ∧ Leaves cs rest (if isFirst then gs.length - 1 else gs.length) := by
  induction n generalizing isFirst isMixed cs gs rest with
  | zero =>
    cases h
    exact ⟨Nat.le_refl 0, .refl cs⟩
  | succ n ih =>
    have hhere : ∀ here, (if isFirst then some cs else after? ':' cs) = some here →
        Leaves cs here (if isFirst then 0 else 1) := by
      intro here hhere
      cases isFirst with
      | true =>
        cases hhere
        exact .refl cs
      | false => exact leaves_of_after? (by decide) hhere
    simp only [readGroups] at h
    split at h
    · cases h
      exact ⟨Nat.zero_le _, .refl cs⟩
    · rename_i here hsome
      have hcs := hhere here hsome
      -- four bytes are written behind a single colon, but count as two groups
      split at h
      · rename_i hread
        cases h
        split at hread
        · cases hread
        · refine ⟨by simp only [List.length_cons, List.length_nil]; omega, ?_⟩
          exact (hcs.trans (Ipv4.leaves_of_read? hread)).mono (by cases isFirst <;> simp)
      · split at h
        · cases h
          exact ⟨Nat.zero_le _, .refl cs⟩
        · rename_i hread
          cases h
          obtain ⟨hle, hmore⟩ := ih rfl
          refine ⟨Nat.succ_le_succ hle, (hcs.trans ((leaves_of_readNumber? hread).trans hmore)).mono ?_⟩
          cases isFirst with
          | true => simp
          | false => simp; omega

/-- A text that is an address and nothing else. -/
theorem chars_of_read? {a : Ipv6} (h : read? cs = some (a, [])) :
    (∀ c ∈ cs, isAddressChar c = true) ∧ cs.count ':' ≤ 8 := by
  have hleaves : Leaves cs [] 8 := by
    generalize hgroups : readGroups true 8 cs = read at h
    obtain ⟨front, isMixed, rest⟩ := read
    obtain ⟨hle, hfront⟩ := leaves_of_readGroups hgroups
    simp only [read?, hgroups] at h
    -- eight groups, or some of them before two colons and some behind these
    split at h
    · cases h
      exact hfront.mono (by simp; omega)
    · split at h
      · cases h
      · split at h
        · rename_i behind
          generalize hgroups' : readGroups true (7 - front.length) behind = read' at h
          obtain ⟨back, isMixed', rest'⟩ := read'
          obtain ⟨hle', hback⟩ := leaves_of_readGroups hgroups'
          cases h
          have hcolons : Leaves (':' :: ':' :: behind) behind 2 := ⟨[':', ':'], rfl, List.all_eq_true.mp rfl, by decide⟩
          exact ((hfront.trans hcolons).trans hback).mono (by simp; omega)
        · cases h
  obtain ⟨front, rfl, hfront, hcount⟩ := hleaves
  rw [List.append_nil]
  exact ⟨hfront, hcount⟩

end Ipv6

end Portcullis.Net

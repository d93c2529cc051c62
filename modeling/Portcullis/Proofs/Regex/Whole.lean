import Portcullis.Proofs.Regex.Anchoring
import Portcullis.Proofs.Regex.Backtrack
import Portcullis.Proofs.Regex.Parts

/-!
# Matching whole texts

A pattern that has to match whole texts does so exactly as the pattern by itself matches from the first to the last
byte, unless the pattern closes a group that it did not open.
-/

namespace Portcullis

open Regex

/-! ## Positions in text -/

namespace Regex

theorem Haystack.size_ofBytes (bs : Bytes) : (Haystack.ofBytes bs).size = bs.length :=
  rfl

/-- The first byte of a scalar value continues no other one. -/
theorem exists_leadByte (c : Char) : ∃ b bs, String.utf8EncodeChar c = b :: bs ∧ (b < 0x80 ∨ b ≥ 0xC0) := by
  fun_cases String.utf8EncodeChar c
  · refine ⟨_, _, rfl, .inl ?_⟩
    rw [UInt8.lt_iff_toNat_lt, UInt8.toNat_ofNat']
    simp only [UInt8.reduceToNat]
    omega
  all_goals
    refine ⟨_, _, rfl, .inr ?_⟩
    rw [ge_iff_le, UInt8.le_iff_toNat_le, UInt8.toNat_ofNat']
    simp only [UInt8.reduceToNat]
    omega

theorem Haystack.isBoundary_zero (s : String) : (Haystack.ofBytes (Bytes.ofText s)).isBoundary 0 = true := by
  simp only [Bytes.ofText, Utf8.encode]
  cases s.toList with
  | nil => rfl
  | cons c cs =>
    obtain ⟨b, bs, hc, hb⟩ := exists_leadByte c
    rw [List.flatMap_cons, hc]
    have hbyte : (Haystack.ofBytes (b :: bs ++ cs.flatMap String.utf8EncodeChar)).byte? 0 = some b := rfl
    simpa only [isBoundary, hbyte, Bool.or_eq_true, decide_eq_true_eq] using hb

end Regex

/-! ## Patterns by themselves -/

/-- The pattern matches the text from its first to its last byte. -/
def Regex.MatchesWhole (r : Regex) (s : String) : Prop :=
  r.expr.Matches (.ofBytes (Bytes.ofText s)) 0 (Bytes.ofText s).length

theorem Regex.compile?_eq_some {subject : Subject} {source : String} {r : Regex}
    (h : Regex.compile? subject source = some r) :
    ∃ a e, parse? source.toList = some a ∧ a.expr? subject = some e ∧ e.size ≤ maxSize ∧ r = ⟨subject, e, e.program⟩ := by
  simp only [compile?, Option.bind_eq_bind, Option.bind_eq_some_iff] at h
  obtain ⟨a, ha, e, he, h⟩ := h
  split at h
  · cases h
    exact ⟨a, e, ha, he, ‹_›, rfl⟩
  · cases h

theorem Regex.isMatchText_iff {source : String} {r : Regex} (h : Regex.ofText? source = some r) (s : String) :
    r.isMatchText s = true ↔ ∃ k j, k ≤ (Bytes.ofText s).length ∧
      (Haystack.ofBytes (Bytes.ofText s)).isBoundary k = true ∧ r.expr.Matches (.ofBytes (Bytes.ofText s)) k j := by
  obtain ⟨a, e, -, -, -, rfl⟩ := Regex.compile?_eq_some h
  have hsearch : (search e.program true (.ofBytes (Bytes.ofText s)) 0).isSome ↔ _ := search_isSome
  simp only [isMatchText, isMatch, find?]
  refine hsearch.trans ?_
  simp [Haystack.size_ofBytes]

/-- The expression of a pattern between the two ends of the text. -/
theorem Regex.Ast.expr?_anchored {subject : Subject} {a : Ast} {e : Expr} (h : a.anchored.expr? subject = some e) :
    ∃ f, a.expr? subject = some f ∧ e = .concat [.look .start, f, .look .finish] := by
  have hflags : Flags.apply {} [] = {} := rfl
  cases hb : Flags.expr? subject {} a with
  | none => simp [Ast.expr?, Ast.anchored, Flags.expr?, Flags.exprs?, hflags, hb] at h
  | some p =>
    have hwhole : a.anchored.expr? subject = some (.concat [.look .start, p.1, .look .finish]) := by
      simp [Ast.expr?, Ast.anchored, Flags.expr?, Flags.exprs?, hflags, hb, Flags.look]
    exact ⟨p.1, by simp [Ast.expr?, hb], Option.some.inj (h.symm.trans hwhole)⟩

namespace Policy.WholePattern

/-- A pattern that closes a group it did not open is no pattern by itself. -/
theorem ofText?_eq_none_of_strayClose {source : String} (h : StrayClose {} source.toList) :
    Regex.ofText? source = none := by
  rw [Option.eq_none_iff_forall_ne_some]
  intro r hr
  obtain ⟨a, e, ha, -⟩ := Regex.compile?_eq_some hr
  simp [parse?, h.run?_eq_none] at ha

/-- A pattern that has to match whole texts and closes only its own groups is valid by itself, and matches the texts
that it matches by itself from the first to the last byte. -/
theorem exists_own {source : String} {p : WholePattern} (h : ofSource? source = some p)
    (hstray : ¬StrayClose {} source.toList) :
    ∃ r, Regex.ofText? source = some r ∧ ∀ s, p.isMatch s = true ↔ r.MatchesWhole s := by
  simp only [ofSource?, Option.map_eq_some_iff] at h
  obtain ⟨whole, hw, rfl⟩ := h
  obtain ⟨a, e, ha, he, hsize, hwhole⟩ := Regex.compile?_eq_some hw
  obtain ⟨b, hb, rfl⟩ := parse?_anchored ha hstray
  obtain ⟨f, hf, rfl⟩ := Ast.expr?_anchored he
  have htidy : f.Tidy := by
    simp only [Ast.expr?, Option.map_eq_some_iff] at hf
    obtain ⟨⟨f, g⟩, hf, rfl⟩ := hf
    exact tidy_expr? b hf
  have hle : f.size ≤ maxSize := Nat.le_trans (htidy.size_le_concat _ _) hsize
  refine ⟨⟨.text, f, f.program⟩, by simp [ofText?, compile?, hb, hf, hle], fun s => ?_⟩
  simp only [isMatch]
  rw [Regex.isMatchText_iff hw]
  subst hwhole
  simp only [matches_concat, MatchesAll, Expr.Matches, Haystack.holds, beq_iff_eq, Haystack.size_ofBytes, Regex.MatchesWhole]
  constructor
  · rintro ⟨k, j, hk, hb, _, ⟨rfl, rfl⟩, l, hm, _, ⟨rfl, rfl⟩, rfl⟩
    exact hm
  · intro hm
    exact ⟨0, _, Nat.zero_le _, Haystack.isBoundary_zero s, 0, ⟨rfl, rfl⟩, _, hm, _, ⟨rfl, rfl⟩, rfl⟩

/-- A pattern that has to match whole texts is valid by itself, and matches the texts that it matches by itself from
the first to the last byte, exactly if it closes no group that it did not open. -/
theorem full_match_iff {source : String} {p : WholePattern} (h : ofSource? source = some p) :
    (∃ r, Regex.ofText? source = some r ∧ ∀ s, p.isMatch s = true ↔ r.MatchesWhole s) ↔
      ¬StrayClose {} source.toList := by
  constructor
  · rintro ⟨r, hr, -⟩ hstray
    rw [ofText?_eq_none_of_strayClose hstray] at hr
    cases hr
  · exact exists_own h

theorem anchored_toList (source : String) :
    (anchored source).toList = '^' :: '(' :: '?' :: ':' :: (source.toList ++ closing) := by
  simp [anchored, closing]

/-- Parentheses that are escaped or in a class close no group. -/
theorem full_match_escaped : ∃ p r, ofSource? "a(bc|[)])|\\)" = some p ∧ Regex.ofText? "a(bc|[)])|\\)" = some r ∧
    ∀ s, p.isMatch s = true ↔ r.MatchesWhole s := by
  have hchars : "a(bc|[)])|\\)".toList = ['a', '(', 'b', 'c', '|', '[', ')', ']', ')', '|', '\\', ')'] := by decide
  have hvalid : (ofSource? "a(bc|[)])|\\)").isSome := by
    simp only [ofSource?, ofText?, compile?, anchored_toList, Option.isSome_map, hchars]
    decide +kernel
  have hruns : (run? 13 {} "a(bc|[)])|\\)".toList).isSome := by decide
  obtain ⟨p, hp⟩ := Option.isSome_iff_exists.mp hvalid
  obtain ⟨r, hr, hs⟩ := (full_match_iff hp).mpr fun hstray => by
    rw [hstray.run?_eq_none] at hruns
    cases hruns
  exact ⟨p, r, hp, hr, hs⟩

/-- The two ends of the text come apart where a pattern closes the group around it. -/
theorem stray_close_matches_prefix : ∃ p, ofSource? "a)|(?:b" = some p ∧ p.isMatch "ax" = true ∧
    Regex.ofText? "a)|(?:b" = none := by
  let e : Expr := .alt (.cat (.look .start) (.literal [97])) (.cat (.literal [98]) (.look .finish))
  have hr : Regex.ofText? (anchored "a)|(?:b") = some ⟨.text, e, e.program⟩ := by
    simp only [ofText?, compile?, anchored_toList]
    rfl
  refine ⟨⟨_, _⟩, by rw [ofSource?, hr]; rfl, ?_, by decide⟩
  refine (Regex.isMatchText_iff hr "ax").mpr ⟨0, 1, Nat.zero_le _, Haystack.isBoundary_zero _, .inl ?_⟩
  exact ⟨0, ⟨rfl, rfl⟩, by decide, rfl⟩

end Policy.WholePattern

end Portcullis

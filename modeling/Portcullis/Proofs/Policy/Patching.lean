import Portcullis.Proofs.Http.Query
import Portcullis.Proofs.Policy.Frame
import Portcullis.Proofs.Regex.Occurrences

/-!
# Patched parameters

A rule for a parameter sees the pairs that a query stands for, not how they are written: it stops a request exactly if
one of the pairs has the name as its key and shows the signature in its value.
-/

namespace Portcullis.Http

/-- The request with another query. -/
def Request.withQuery (r : Request) (query : String) : Request :=
  { r with uri := { r.uri with query := some query } }

theorem Request.path_withQuery (r : Request) (query query' : String) :
    (r.withQuery query).path = (r.withQuery query').path :=
  rfl

end Portcullis.Http

namespace Portcullis

theorem Regex.isMatch_iff_occurs {subject : Subject} {source : String} {r : Regex}
    (h : compile? subject source = some r) (bs : Bytes) : r.isMatch bs = true ↔ r.Occurs bs := by
  obtain ⟨a, e, -, -, -, rfl⟩ := compile?_eq_some h
  have hsearch : (search e.program (subject == .text) (.ofBytes bs) 0).isSome ↔ _ := search_isSome
  simp only [isMatch, find?, hsearch, Occurs, StartsAt]
  constructor
  · rintro ⟨k, j, -, hk, hb, hm⟩
    exact ⟨k, hk, hb, j, hm⟩
  · rintro ⟨k, hk, hb, j, hm⟩
    exact ⟨k, j, Nat.zero_le k, hk, hb, hm⟩

end Portcullis

namespace Portcullis.Policy
open Http Form

/-- Some pair has the name as its key and shows the signature in its value, with both read as text. -/
def Exploits (name : String) (signature : Regex) (pairs : List (Bytes × Bytes)) : Prop :=
  ∃ p ∈ pairs, Utf8.lossy p.1 = name.toList ∧ signature.Occurs (Utf8.encode (Utf8.lossy p.2))

namespace VirtualPatch

variable {name pattern query : String} {signature : Regex} {message : Option String} {pairs : List (Bytes × Bytes)}

/-- What a rule for a parameter finds depends on the pairs alone. -/
theorem isHit_withQuery (r : Request) (h : Encodes (Bytes.ofText query) pairs) :
    (⟨.parameter name, signature, message⟩ : VirtualPatch).isHit (r.withQuery query) =
      pairs.any fun p => (texts p).1 == name.toList && signature.isMatch (Utf8.encode (texts p).2) := by
  rw [isHit, Request.withQuery]
  simp only [h.parse, List.any_map]
  rfl

theorem isHit_iff (hsignature : Regex.ofBytes? pattern = some signature) (r : Request)
    (h : Encodes (Bytes.ofText query) pairs) :
    (⟨.parameter name, signature, message⟩ : VirtualPatch).isHit (r.withQuery query) = true ↔
      Exploits name signature pairs := by
  simp only [isHit_withQuery r h, List.any_eq_true, Bool.and_eq_true, beq_iff_eq, Regex.isMatch_iff_occurs hsignature,
    texts, Exploits]

end VirtualPatch

theorem RuleKind.build_parameter {header : Option String} {name pattern : String} {message : Option String}
    {action : Action} (h : (RuleKind.virtualPatch header (some name) pattern message).build = .ok action) :
    ∃ signature, Regex.ofBytes? pattern = some signature ∧
      action = .virtualPatch ⟨.parameter name, signature, message⟩ := by
  cases header with
  | some header =>
    obtain ⟨_, htarget, -⟩ := bind_eq_ok.mp h
    cases htarget
  | none =>
    obtain ⟨_, htarget, h⟩ := bind_eq_ok.mp h
    cases htarget
    obtain ⟨signature, hsignature, h⟩ := bind_eq_ok.mp h
    cases h
    exact ⟨signature, orDefect_eq_ok.mp hsignature, rfl⟩

/-- All queries of a list of pairs have the same outcome, which is to stop where the rule applies and some pair is an
exploit, and to pass otherwise. -/
theorem parameter_patched {d : RuleDefinition} {b : BuiltIn} {header message : Option String}
    {name pattern query query' : String} {pairs : List (Bytes × Bytes)} (hb : d.build = .ok b)
    (hkind : d.kind = .virtualPatch header (some name) pattern message) (h : Encodes (Bytes.ofText query) pairs)
    (h' : Encodes (Bytes.ofText query') pairs) (r : Request) (c : Canvas) :
    ∃ signature, Regex.ofBytes? pattern = some signature ∧ ∃ o,
      b.toRule.check (r.withQuery query) c = (c, .finished o) ∧
      b.toRule.check (r.withQuery query') c = (c, .finished o) ∧
      (o.demandsAction = true ↔
        b.scope.covers (r.withQuery query).path = true ∧ Exploits name signature pairs) ∧
      (o.demandsAction = false → o = .pass) := by
  obtain ⟨signature, hsignature, ha⟩ := RuleKind.build_parameter (hkind ▸ (RuleDefinition.parts_of_build hb).2.2)
  have hsame : b.toRule.check (r.withQuery query') c = b.toRule.check (r.withQuery query) c := by
    simp only [BuiltIn.toRule, BuiltIn.check, ha, Action.run, VirtualPatch.decide, VirtualPatch.isHit_withQuery r h,
      VirtualPatch.isHit_withQuery r h', r.path_withQuery query' query]
  have hhit : (⟨.parameter name, signature, message⟩ : VirtualPatch).isHit (r.withQuery query) = true ↔ _ :=
    VirtualPatch.isHit_iff hsignature r h
  refine ⟨signature, hsignature, ?_⟩
  rw [hsame]
  simp only [BuiltIn.toRule, BuiltIn.check, ha, Action.run, VirtualPatch.decide]
  by_cases hcovers : b.scope.covers (r.withQuery query).path = true
  · rw [if_pos hcovers]
    by_cases hexploits : Exploits name signature pairs
    · rw [if_pos (hhit.mpr hexploits)]
      exact ⟨_, rfl, rfl, iff_of_true rfl ⟨hcovers, hexploits⟩, fun h => absurd h.symm Bool.false_ne_true⟩
    · rw [if_neg (mt hhit.mp hexploits)]
      exact ⟨_, rfl, rfl, iff_of_false Bool.false_ne_true fun h => hexploits h.2, fun _ => rfl⟩
  · rw [if_neg hcovers]
    exact ⟨_, rfl, rfl, iff_of_false Bool.false_ne_true fun h => hcovers h.1, fun _ => rfl⟩

/-- A rule against blanks behind slashes. -/
def slashes : RuleDefinition where
  id := "slashes"
  path := "/a"
  kind := .virtualPatch none (some "q") "/ " none

/-- Two spellings of the same pairs: `a` without a value, and `q` with a slash and a blank. -/
theorem slashes_patched : ∃ b, slashes.build = .ok b ∧
    Encodes (Bytes.ofText "a=&q=/+") [([97], []), ([113], [47, 32])] ∧
    Encodes (Bytes.ofText "%61=&%71=%2f%20") [([97], []), ([113], [47, 32])] ∧
    ∃ o, o.demandsAction = true ∧
      b.toRule.check (Request.withQuery { uri := { rawPath := "/a" } } "a=&q=/+") ⟨none, {}⟩ =
        (⟨none, {}⟩, .finished o) ∧
      b.toRule.check (Request.withQuery { uri := { rawPath := "/a" } } "%61=&%71=%2f%20") ⟨none, {}⟩ =
        (⟨none, {}⟩, .finished o) := by
  obtain ⟨p, hp, hmatch⟩ := exists_pattern_a
  let e : Regex.Expr := .literal [47, 32]
  have hsignature : Regex.ofBytes? "/ " = some ⟨.bytes, e, e.program⟩ := rfl
  have hbuild : slashes.build =
      .ok ⟨"slashes", ⟨p, []⟩, .virtualPatch ⟨.parameter "q", ⟨.bytes, e, e.program⟩, none⟩⟩ :=
    RuleDefinition.build_of_pattern (show (Text.trim "slashes".toList).isEmpty = false by decide) hp rfl rfl
  have hplain : Encodes (Bytes.ofText "a=&q=/+") [([97], []), ([113], [47, 32])] :=
    ⟨[[97, 61], [113, 61, 47, 43]],
      .cons ⟨[97], [], .literal (by decide) .nil, .nil, rfl⟩
        (.cons ⟨[113], [47, 43], .literal (by decide) .nil, .literal (by decide) (.plus .nil), rfl⟩ .nil), by decide⟩
  have hescaped : Encodes (Bytes.ofText "%61=&%71=%2f%20") [([97], []), ([113], [47, 32])] :=
    ⟨[[37, 54, 49, 61], [37, 55, 49, 61, 37, 50, 102, 37, 50, 48]],
      .cons ⟨[37, 54, 49], [], .escaped (by decide) .nil, .nil, rfl⟩
        (.cons ⟨[37, 55, 49], [37, 50, 102, 37, 50, 48], .escaped (by decide) .nil,
          .escaped (by decide) (.escaped (by decide) .nil), rfl⟩ .nil), by decide⟩
  obtain ⟨signature, hsignature', o, hcheck, hcheck', hstops, -⟩ :=
    parameter_patched hbuild rfl hplain hescaped { uri := { rawPath := "/a" } } ⟨none, {}⟩
  cases hsignature.symm.trans hsignature'
  have hcovers : (⟨p, []⟩ : Scope).covers (Request.withQuery { uri := { rawPath := "/a" } } "a=&q=/+").path = true :=
    (Scope.covers_iff _ _).mpr ⟨hmatch, by simp⟩
  have hexploits : Exploits "q" ⟨.bytes, e, e.program⟩ [([97], []), ([113], [47, 32])] :=
    ⟨_, .tail _ (.head _), by decide, 0, Nat.zero_le _, nofun, 2, by decide, by decide, rfl⟩
  exact ⟨_, hbuild, hplain, hescaped, o, hstops.mpr ⟨hcovers, hexploits⟩, hcheck, hcheck'⟩

end Portcullis.Policy

import Mathlib.Data.Nat.Find
import Portcullis.Proofs.Policy.Frame

/-!
# Keywords in responses

A keyword occurs where a block of bytes is the keyword up to the case of ASCII letters. The scan of a body looks for a
keyword that ends where it has come to, so it halts at the end of the occurrence that ends first, and takes the longest
one that ends there. A rule stops exactly the responses in which some keyword occurs.
-/

namespace Portcullis.Policy
open Http

namespace Keywords

/-! ## Occurrences -/

/-- One of the keywords stands between the two places of the body, up to the case of ASCII letters. -/
def Occurs (words : List String) (body : Bytes) (start stop : Nat) : Prop :=
  ∃ word ∈ words, ∃ before block after, body = before ++ (block ++ after) ∧ before.length = start ∧
    start + block.length = stop ∧ block.map Ascii.lowerByte = (Bytes.ofText word).map Ascii.lowerByte

/-- An occurrence begins at the place, no other one ends before it does, and no longer one ends where it does. -/
def FirstToEnd (words : List String) (body : Bytes) (start : Nat) : Prop :=
  ∃ stop, Occurs words body start stop ∧ ∀ s e, Occurs words body s e → stop ≤ e ∧ (e = stop → start ≤ s)

variable {words : List String} {body : Bytes} {start stop n l : Nat}

theorem FirstToEnd.unique {start' : Nat} (h : FirstToEnd words body start) (h' : FirstToEnd words body start') :
    start = start' := by
  obtain ⟨stop, hoccurs, hfirst⟩ := h
  obtain ⟨stop', hoccurs', hfirst'⟩ := h'
  obtain ⟨hle, hlong⟩ := hfirst start' stop' hoccurs'
  obtain ⟨hle', hlong'⟩ := hfirst' start stop hoccurs
  have hstop : stop' = stop := Nat.le_antisymm hle' hle
  exact Nat.le_antisymm (hlong hstop) (hlong' hstop.symm)

/-- What a scan has behind it at a place, latest first. -/
def behind (body : Bytes) (stop : Nat) : Bytes :=
  ((body.take stop).map Ascii.lowerByte).reverse

theorem behind_succ {b : UInt8} {rest : Bytes} (h : body.drop n = b :: rest) :
    behind body (n + 1) = Ascii.lowerByte b :: behind body n := by
  have hb : body[n]? = some b := by rw [← List.head?_drop, h, List.head?_cons]
  rw [behind, List.take_add_one, hb, Option.toList_some, List.map_append, List.reverse_append]
  rfl

theorem length_le_of_prefix {w : Bytes} (h : w.reverse <+: behind body n) : w.length ≤ n := by
  have hle := h.length_le
  simp only [behind, List.length_reverse, List.length_map, List.length_take] at hle
  omega

/-- An occurrence ends where the scan has a keyword behind it. -/
theorem occurs_iff : Occurs words body start stop ↔ stop ≤ body.length ∧
    ∃ w ∈ (ofTexts words).lowered, w.reverse <+: behind body stop ∧ start + w.length = stop := by
  simp only [behind, List.reverse_prefix]
  constructor
  · rintro ⟨word, hword, before, block, after, rfl, rfl, rfl, hblock⟩
    have htake : (before ++ (block ++ after)).take (before.length + block.length) = before ++ block := by
      rw [← List.append_assoc, ← List.length_append, List.take_left]
    refine ⟨by simp, _, List.mem_map_of_mem hword, ?_, ?_⟩
    · rw [htake, List.map_append, hblock]
      exact List.suffix_append _ _
    · rw [← hblock, List.length_map]
  · rintro ⟨hstop, w, hw, ⟨front, hfront⟩, hlength⟩
    obtain ⟨word, hword, rfl⟩ := List.mem_map.mp hw
    obtain ⟨before, block, htake, -, hblock⟩ := List.map_eq_append_iff.mp hfront.symm
    have hcut : before.length + block.length = stop := by
      rw [← List.length_append, ← htake, List.length_take, Nat.min_eq_left hstop]
    have hsame : block.length = ((Bytes.ofText word).map Ascii.lowerByte).length := by rw [← hblock, List.length_map]
    refine ⟨word, hword, before, block, body.drop stop, ?_, by omega, by omega, hblock⟩
    rw [← List.append_assoc, ← htake, List.take_append_drop]

/-! ## The scan -/

variable {k : Keywords} {past : Bytes}

theorem longestAt?_eq_none : k.longestAt? past = none ↔ ∀ w ∈ k.lowered, ¬w.reverse <+: past := by
  simp [longestAt?, List.max?_eq_none_iff, List.filter_eq_nil_iff]

theorem longestAt?_eq_some : k.longestAt? past = some l ↔
    (∃ w ∈ k.lowered, w.reverse <+: past ∧ w.length = l) ∧ ∀ w ∈ k.lowered, w.reverse <+: past → w.length ≤ l := by
  simp only [longestAt?, List.max?_eq_some_iff, List.mem_map, List.mem_filter, List.isPrefixOf_iff_prefix, and_assoc]
  refine and_congr_right fun _ => ⟨fun h w hw hpast => h _ ⟨w, hw, hpast, rfl⟩, ?_⟩
  rintro h _ ⟨w, hw, hpast, rfl⟩
  exact h w hw hpast

theorem findFrom?_of_some {rest : Bytes} (h : k.longestAt? past = some l) : k.findFrom? past n rest = some (n - l) := by
  rw [findFrom?.eq_def]
  simp only [h]

theorem findFrom?_end (h : k.longestAt? past = none) : k.findFrom? past n [] = none := by
  rw [findFrom?.eq_def]
  simp only [h]

theorem findFrom?_next {b : UInt8} {rest : Bytes} (h : k.longestAt? past = none) :
    k.findFrom? past n (b :: rest) = k.findFrom? (Ascii.lowerByte b :: past) (n + 1) rest := by
  rw [findFrom?.eq_def]
  simp only [h]

/-- The scan passes over the places that have no keyword behind them. -/
theorem find?_eq_findFrom? (hstop : stop ≤ body.length) (hnone : ∀ e < stop, k.longestAt? (behind body e) = none) :
    k.find? body = k.findFrom? (behind body stop) stop (body.drop stop) := by
  induction stop with
  | zero => rfl
  | succ n ih =>
    have hdrop : body.drop n = body[n] :: body.drop (n + 1) := List.drop_eq_getElem_cons hstop
    rw [ih (Nat.le_of_succ_le hstop) fun e he => hnone e (Nat.lt_succ_of_lt he), hdrop,
      findFrom?_next (hnone n (Nat.lt_succ_self n)), behind_succ hdrop]

theorem firstToEnd_of_longestAt? (hstop : stop ≤ body.length)
    (hlongest : (ofTexts words).longestAt? (behind body stop) = some l)
    (hnone : ∀ e < stop, (ofTexts words).longestAt? (behind body e) = none) : FirstToEnd words body (stop - l) := by
  obtain ⟨⟨w, hw, hbehind, rfl⟩, hmost⟩ := longestAt?_eq_some.mp hlongest
  have hle := length_le_of_prefix hbehind
  refine ⟨stop, occurs_iff.mpr ⟨hstop, w, hw, hbehind, Nat.sub_add_cancel hle⟩, fun s e hoccurs => ?_⟩
  obtain ⟨-, w', hw', hbehind', hlength⟩ := occurs_iff.mp hoccurs
  constructor
  · by_contra hlt
    exact longestAt?_eq_none.mp (hnone e (Nat.lt_of_not_le hlt)) w' hw' hbehind'
  · rintro rfl
    have hlonger := hmost w' hw' hbehind'
    omega

/-- The scan finds the first occurrence to end, if any keyword occurs. -/
theorem find?_cases (words : List String) (body : Bytes) :
    ((ofTexts words).find? body = none ∧ ∀ s e, ¬Occurs words body s e) ∨
      ∃ start, (ofTexts words).find? body = some start ∧ FirstToEnd words body start := by
  by_cases hex : ∃ e, e ≤ body.length ∧ (ofTexts words).longestAt? (behind body e) ≠ none
  · classical
    obtain ⟨hstop, hsome⟩ := Nat.find_spec hex
    obtain ⟨l, hlongest⟩ := Option.ne_none_iff_exists'.mp hsome
    have hnone : ∀ e < Nat.find hex, (ofTexts words).longestAt? (behind body e) = none := fun e he => by
      by_contra hne
      exact Nat.find_min hex he ⟨Nat.le_trans (Nat.le_of_lt he) hstop, hne⟩
    refine .inr ⟨_, ?_, firstToEnd_of_longestAt? hstop hlongest hnone⟩
    rw [find?_eq_findFrom? hstop hnone, findFrom?_of_some hlongest]
  · have hnone : ∀ e ≤ body.length, (ofTexts words).longestAt? (behind body e) = none := fun e he => by
      by_contra hne
      exact hex ⟨e, he, hne⟩
    refine .inl ⟨?_, fun s e hoccurs => ?_⟩
    · rw [find?_eq_findFrom? (Nat.le_refl _) fun e he => hnone e (Nat.le_of_lt he), List.drop_length,
        findFrom?_end (hnone _ (Nat.le_refl _))]
    · obtain ⟨he, w, hw, hbehind, -⟩ := occurs_iff.mp hoccurs
      exact longestAt?_eq_none.mp (hnone e he) w hw hbehind

end Keywords

/-! ## Rules with keywords -/

open Keywords

/-- What a rule with keywords says about a body: it stops the response if one of them occurs, with a block if it has a
status for that, and says where the first occurrence to end begins. -/
structure Detects (words : List String) (status : Option Nat) (body : Bytes) (o : Outcome) : Prop where
  stops : o.demandsAction = true ↔ ∃ start stop, Occurs words body start stop
  quiet : o.demandsAction = false → o = .pass
  first : o.demandsAction = true → ∃ start, FirstToEnd words body start
  reported : ∀ start, FirstToEnd words body start →
    o = .abort (status.map fun code => .block ⟨code⟩) (some ("outbound content matched at byte " ++ toString start))

theorem eq_of_blockStatus {code : Nat} {s : Status} (h : blockStatus code = .ok s) : s = ⟨code⟩ := by
  rw [blockStatus, orDefect_eq_ok, Option.filter_eq_some_iff, Status.ofCode?] at h
  obtain ⟨h, -⟩ := h
  split at h
  · exact (Option.some.inj h).symm
  · cases h

/-- A definition that has keywords and was built is one without a pattern. -/
theorem RuleKind.build_keywords {pattern contentType : Option String} {words : List String} {status : Option Nat}
    {action : Action} (hwords : words ≠ [])
    (h : (RuleKind.detectOutboundContent pattern words contentType status).build = .ok action) :
    ∃ filter, contentTypeFilter contentType = .ok filter ∧
      action = .detectContent ⟨.keywords (ofTexts words), filter, status.map Status.mk⟩ := by
  obtain ⟨word, rest, rfl⟩ := List.exists_cons_of_ne_nil hwords
  cases pattern with
  | some source =>
    obtain ⟨_, hsignature, -⟩ := bind_eq_ok.mp h
    cases hsignature
  | none =>
    obtain ⟨_, hsignature, h⟩ := bind_eq_ok.mp h
    cases hsignature
    obtain ⟨filter, hfilter, h⟩ := bind_eq_ok.mp h
    obtain ⟨blocked, hblocked, h⟩ := bind_eq_ok.mp h
    cases h
    have hstatus : blocked = status.map Status.mk := by
      cases status with
      | none => exact (Except.ok.inj hblocked).symm
      | some code =>
        obtain ⟨s, hs, rfl⟩ := map_eq_ok.mp hblocked
        rw [eq_of_blockStatus hs, Option.map_some]
    exact ⟨filter, hfilter, by rw [hstatus]⟩

theorem detects_run (words : List String) (filter : Option Regex) (status : Option Nat) {c : Canvas}
    (haccepts : acceptsContentType filter c.headers = true) :
    ∃ o, (⟨.keywords (ofTexts words), filter, status.map Status.mk⟩ : DetectContent).run c = (c, o) ∧
      Detects words status c.body o := by
  simp only [DetectContent.run, haccepts, Bool.not_true, Bool.false_eq_true, if_false, ContentSignature.find?]
  rcases find?_cases words c.body with ⟨hfind, hnone⟩ | ⟨start, hfind, hfirst⟩
  · rw [hfind]
    refine ⟨.pass, rfl, ⟨iff_of_false Bool.false_ne_true ?_, fun _ => rfl, fun h => absurd h Bool.false_ne_true, ?_⟩⟩
    · rintro ⟨s, e, hoccurs⟩
      exact hnone s e hoccurs
    · rintro s ⟨e, hoccurs, -⟩
      exact absurd hoccurs (hnone s e)
  · rw [hfind]
    obtain ⟨stop, hoccurs, -⟩ := id hfirst
    refine ⟨_, rfl, ⟨iff_of_true rfl ⟨start, stop, hoccurs⟩, fun h => absurd h.symm Bool.false_ne_true,
      fun _ => ⟨start, hfirst⟩, fun s hs => ?_⟩⟩
    rw [hs.unique hfirst]
    cases status <;> rfl

/-- Where it looks at the body, a rule with keywords stops exactly the responses in which one of them occurs, and leaves
every response as it is. -/
theorem keywords_detected {d : RuleDefinition} {b : BuiltIn} {pattern contentType : Option String}
    {words : List String} {status : Option Nat} {q : Request} {c : Canvas} (hb : d.build = .ok b)
    (hkind : d.kind = .detectOutboundContent pattern words contentType status) (hwords : words ≠ [])
    (hq : b.scope.covers q.path = true) :
    ∃ filter, contentTypeFilter contentType = .ok filter ∧ (acceptsContentType filter c.headers = true →
      ∃ o, b.toRule.check q c = (c, .finished o) ∧ Detects words status c.body o) := by
  obtain ⟨filter, hfilter, ha⟩ := RuleKind.build_keywords hwords (hkind ▸ (RuleDefinition.parts_of_build hb).2.2)
  refine ⟨filter, hfilter, fun haccepts => ?_⟩
  obtain ⟨o, hrun, hdetects⟩ := detects_run words filter status haccepts
  refine ⟨o, ?_, hdetects⟩
  simp only [BuiltIn.toRule, BuiltIn.check, if_pos hq, ha, Action.run, hrun]

/-- Keywords of which one stands in another, and one ends where another one does. -/
def pronouns : RuleDefinition where
  id := "pronouns"
  path := "/a"
  kind := .detectOutboundContent none ["he", "hers", "she"] none (some 500)

/-- The first occurrences to end are of `he` and `she`, and the longer one counts. -/
theorem pronouns_detected : ∃ b, pronouns.build = .ok b ∧
    b.scope.covers ({ uri := { rawPath := "/a" } } : Request).path = true ∧
    b.toRule.check { uri := { rawPath := "/a" } } ⟨none, { body := Bytes.ofText "uSHErs" }⟩ =
      (⟨none, { body := Bytes.ofText "uSHErs" }⟩,
        .finished (.abort (some (.block ⟨500⟩)) (some "outbound content matched at byte 1"))) := by
  obtain ⟨p, hp, hmatch⟩ := exists_pattern_a
  have hbuild : pronouns.build = .ok ⟨"pronouns", ⟨p, []⟩,
      .detectContent ⟨.keywords (ofTexts ["he", "hers", "she"]), none, some ⟨500⟩⟩⟩ :=
    RuleDefinition.build_of_pattern (show (Text.trim "pronouns".toList).isEmpty = false by decide) hp rfl rfl
  have hcovers : (⟨p, []⟩ : Scope).covers ({ uri := { rawPath := "/a" } } : Request).path = true :=
    (Scope.covers_iff _ _).mpr ⟨hmatch, by simp⟩
  obtain ⟨filter, hfilter, hchecked⟩ := keywords_detected (c := ⟨none, { body := Bytes.ofText "uSHErs" }⟩) hbuild rfl
    (by decide) hcovers
  cases hfilter
  obtain ⟨o, hcheck, hdetects⟩ := hchecked rfl
  have hfirst : FirstToEnd ["he", "hers", "she"] (Bytes.ofText "uSHErs") (4 - 3) :=
    firstToEnd_of_longestAt? (by decide) (by decide) (by decide)
  refine ⟨_, hbuild, hcovers, ?_⟩
  rw [hcheck, hdetects.reported 1 hfirst]
  rfl

end Portcullis.Policy

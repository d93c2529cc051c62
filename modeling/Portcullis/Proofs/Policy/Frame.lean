import Portcullis.Proofs.Policy.Built
import Portcullis.Proofs.Policy.Plan
import Portcullis.Proofs.Regex.Whole

/-!
# What a rule leaves alone

A rule that does not report a change made none, and one with a buffer never reaches the response below it. Outside of
the paths that its definition is written for it does nothing, as long as the path pattern closes only groups that it
opened: the pattern is then one by itself, and has to match the whole path.
-/

namespace Portcullis.Policy
open Http Regex

/-! ## Paths of a definition -/

/-- The path is the one that the exception names, or its pattern matches the whole of it. -/
def ExceptionDefinition.Covers (path : String) : ExceptionDefinition → Prop
  | .literal l => l = path
  | .regex source => ∃ r, Regex.ofText? source = some r ∧ r.MatchesWhole path

/-- The pattern of the definition matches the whole path, and no exception covers it. -/
def RuleDefinition.Applies (d : RuleDefinition) (path : String) : Prop :=
  (∃ r, Regex.ofText? d.path = some r ∧ r.MatchesWhole path) ∧ ∀ x ∈ d.exceptions, ¬x.Covers path

/-- An exception that was built is met by every path that it covers as it is written. -/
theorem ExceptionDefinition.Covers.isMatch {x : ExceptionDefinition} {path : String} (h : x.Covers path)
    {e : Exemption} (hb : x.build = .ok e) : e.isMatch path = true := by
  cases x with
  | literal l =>
    cases hb
    simpa [Exemption.isMatch, Covers] using h
  | regex source =>
    obtain ⟨r, hr, hmatch⟩ := h
    obtain ⟨p, hp, hb⟩ := map_eq_ok.mp hb
    cases hb
    have hstray : ¬StrayClose {} source.toList := fun hs => by
      rw [WholePattern.ofText?_eq_none_of_strayClose hs] at hr
      cases hr
    obtain ⟨r', hr', hiff⟩ := WholePattern.exists_own (wholePattern_eq_ok.mp hp) hstray
    cases hr.symm.trans hr'
    exact (hiff path).mpr hmatch

theorem Scope.covers_iff (s : Scope) (path : String) :
    s.covers path = true ↔ s.pattern.isMatch path = true ∧ ∀ e ∈ s.exceptions, e.isMatch path = false := by
  simp only [covers, coverage, firstException?]
  by_cases hp : s.pattern.isMatch path = true
  · cases hx : s.exceptions.findIdx? (·.isMatch path) with
    | none => simpa [hp] using List.findIdx?_eq_none_iff.mp hx
    | some i =>
      obtain ⟨hi, hmatch, -⟩ := List.findIdx?_eq_some_iff_getElem.mp hx
      have hnot : ¬∀ e ∈ s.exceptions, e.isMatch path = false := fun h => by
        rw [h _ (List.getElem_mem hi)] at hmatch
        cases hmatch
      simp [hp, hnot]
  · simp [hp]

theorem RuleDefinition.not_covers_of_covers {d : RuleDefinition} {b : BuiltIn} (hb : d.build = .ok b) {path : String}
    (h : b.scope.covers path = true) : ∀ x ∈ d.exceptions, ¬x.Covers path := by
  intro x hmem hcovers
  obtain ⟨-, hscope, -⟩ := parts_of_build hb
  obtain ⟨e, he, hbuild⟩ := mem_of_mapM (scope_eq_ok.mp hscope).2 hmem
  have hmatch := hcovers.isMatch hbuild
  rw [((b.scope.covers_iff path).mp h).2 e he] at hmatch
  cases hmatch

theorem RuleDefinition.applies_of_covers {d : RuleDefinition} {b : BuiltIn} (hb : d.build = .ok b)
    (hstray : ¬StrayClose {} d.path.toList) {path : String} (h : b.scope.covers path = true) : d.Applies path := by
  obtain ⟨-, hscope, -⟩ := parts_of_build hb
  obtain ⟨r, hr, hiff⟩ := WholePattern.exists_own (scope_eq_ok.mp hscope).1 hstray
  exact ⟨⟨r, hr, (hiff path).mp ((b.scope.covers_iff path).mp h).1⟩, not_covers_of_covers hb h⟩

/-! ## The frame -/

/-- What a check that ends in an outcome may do to a canvas. -/
structure Canvas.Framed (c c' : Canvas) (o : Outcome) : Prop where
  unchanged : o.isApplied = false → c' = c
  raw : c.intercepted.isSome = true → c'.intercepted.isSome = true ∧ c'.raw = c.raw
  closed : c.isClosed = true → o.isApplied = false
  anomaly : o.isAnomaly = true → c.isClosed = true

theorem Plan.framed (p : Plan) (c : Canvas) (h : ∀ o, p = .leave o → o.IsVerdict) :
    c.Framed (p.carryOut c).1 (p.carryOut c).2 := by
  have hquiet : ∀ o, p = .leave o → o.isApplied = false ∧ o.isAnomaly = false := by
    intro o ho
    rcases h o ho with rfl | ⟨remedy, message, rfl⟩ <;> exact ⟨rfl, rfl⟩
  cases hc : c.isClosed with
  | true =>
    obtain ⟨o, ho, hcase⟩ := p.carryOut_closed hc
    rw [ho]
    have hnot : o.isApplied = false := by
      rcases hcase with hp | ho
      · exact (hquiet o hp).1
      · cases o <;> first | rfl | cases ho
    exact ⟨fun _ => rfl, fun hi => ⟨hi, rfl⟩, fun _ => hnot, fun _ => hc⟩
  | false =>
    have houtcome : p.outcome.isAnomaly = false := by
      cases p with
      | leave o => exact (hquiet o rfl).2
      | write first rest message complaint => rfl
    have hwrites : p.outcome.isApplied = false → p.writes = [] := by
      cases p with
      | leave o => exact fun _ => rfl
      | write first rest message complaint => exact fun ho => by cases ho
    obtain ⟨intercepted, raw⟩ := c
    cases intercepted with
    | none =>
      rw [p.carryOut_bare]
      refine ⟨fun ho => ?_, nofun, nofun, fun ho => ?_⟩
      · rw [hwrites ho]
        rfl
      · rw [houtcome] at ho
        cases ho
    | some i =>
      rw [p.carryOut_open hc]
      refine ⟨fun ho => ?_, fun _ => ⟨rfl, rfl⟩, fun hc' => ?_, fun ho => ?_⟩
      · rw [hwrites ho]
        rfl
      · rw [hc] at hc'
        cases hc'
      · rw [houtcome] at ho
        cases ho

/-- The check of every rule that is built keeps to its frame, and it lets all paths pass that an exception covers. If
the path pattern closes only groups that it opened, it lets all paths pass that the definition does not apply to. -/
theorem check_framed {d : RuleDefinition} {b : BuiltIn} (hb : d.build = .ok b) (q : Request) (c : Canvas) :
    ∃ c' o, b.toRule.check q c = (c', .finished o) ∧ c.Framed c' o ∧
      (b.scope.covers q.path = false → o = .pass) ∧
      ((∃ x ∈ d.exceptions, x.Covers q.path) → o = .pass) ∧
      (¬StrayClose {} d.path.toList → ¬d.Applies q.path → o = .pass) := by
  have houtside : b.scope.covers q.path = false → ((b.plan q c.headers c.body).carryOut c).2 = .pass := by
    intro h
    rw [BuiltIn.plan, h]
    rfl
  refine ⟨_, _, b.toRule_check q c, Plan.framed _ c fun o => BuiltIn.isVerdict_of_leave, houtside, ?_, ?_⟩
  · rintro ⟨x, hx, hcovers⟩
    exact houtside (Bool.eq_false_iff.mpr fun h => d.not_covers_of_covers hb h x hx hcovers)
  · intro hstray happlies
    exact houtside (Bool.eq_false_iff.mpr fun h => happlies (d.applies_of_covers hb hstray h))

def stamp (path : String) : RuleDefinition where
  id := "stamp"
  path
  kind := .addHeader "x-a" "1"

theorem stamp_build {path : String} {p : WholePattern} (hp : WholePattern.ofSource? path = some p) :
    (stamp path).build = .ok ⟨"stamp", ⟨p, []⟩, .addHeader ⟨⟨"x-a"⟩, ⟨[49]⟩⟩⟩ :=
  RuleDefinition.build_of_pattern (show (Text.trim "stamp".toList).isEmpty = false by decide) hp rfl rfl

theorem exists_pattern_a : ∃ p, WholePattern.ofSource? "/a" = some p ∧ p.isMatch "/a" = true := by
  let e : Expr := .cat (.look .start) (.cat (.literal [47, 97]) (.look .finish))
  have hr : Regex.ofText? (WholePattern.anchored "/a") = some ⟨.text, e, e.program⟩ := by
    simp only [ofText?, compile?, WholePattern.anchored_toList]
    rfl
  refine ⟨⟨"/a", ⟨.text, e, e.program⟩⟩, by rw [WholePattern.ofSource?, hr]; rfl, ?_⟩
  exact (Regex.isMatchText_iff hr "/a").mpr
    ⟨0, 2, by decide, Haystack.isBoundary_zero _, 0, ⟨rfl, rfl⟩, 2, ⟨by decide, by decide, rfl⟩, by decide, rfl⟩

/-- Behind the commit of the buffer the rule can only complain, and on another path it has nothing to say. -/
theorem stamp_framed : ∃ b, (stamp "/a").build = .ok b ∧
    (∃ c' o, b.toRule.check { uri := { rawPath := "/a" } } ⟨some { isFlushed := true }, {}⟩ = (c', .finished o) ∧
      Canvas.Framed ⟨some { isFlushed := true }, {}⟩ c' o) ∧
    (¬StrayClose {} (stamp "/a").path.toList ∧ ¬(stamp "/a").Applies "/b") ∧
    ∃ c', b.toRule.check { uri := { rawPath := "/b" } } ⟨none, {}⟩ = (c', .finished .pass) := by
  obtain ⟨p, hp, -⟩ := exists_pattern_a
  have hruns : (run? 3 {} "/a".toList).isSome := by decide
  have hstray : ¬StrayClose {} "/a".toList := fun h => by
    rw [h.run?_eq_none] at hruns
    cases hruns
  have happlies : ¬(stamp "/a").Applies "/b" := by
    rintro ⟨⟨r, hr, hmatch⟩, -⟩
    have hown : Regex.ofText? "/a" = some ⟨.text, .literal [47, 97], (Expr.literal [47, 97]).program⟩ := rfl
    cases hr.symm.trans hown
    exact absurd hmatch.2.1 (by decide)
  have hpath : ({ uri := { rawPath := "/b" } } : Request).path = "/b" := by decide
  refine ⟨_, stamp_build hp, ?_, ⟨hstray, happlies⟩, ?_⟩
  · obtain ⟨c', o, hcheck, hframed, -⟩ :=
      check_framed (stamp_build hp) { uri := { rawPath := "/a" } } ⟨some { isFlushed := true }, {}⟩
    exact ⟨c', o, hcheck, hframed⟩
  · obtain ⟨c', o, hcheck, -, -, -, hpass⟩ := check_framed (stamp_build hp) { uri := { rawPath := "/b" } } ⟨none, {}⟩
    exact ⟨c', hpass hstray (hpath ▸ happlies) ▸ hcheck⟩

/-- A pattern that closes the group around it makes a rule act on paths of which it covers only the beginning. -/
theorem stamp_beyond_pattern : ∃ b, (stamp "/a)|(?:/b").build = .ok b ∧
    ({ uri := { rawPath := "/ax" } } : Request).path = "/ax" ∧ ¬(stamp "/a)|(?:/b").Applies "/ax" ∧
    b.toRule.check { uri := { rawPath := "/ax" } } ⟨none, {}⟩ =
      (⟨none, { headers := ⟨[(⟨"x-a"⟩, ⟨[49]⟩)]⟩ }⟩, .finished .applied) := by
  let e : Expr := .alt (.cat (.look .start) (.literal [47, 97])) (.cat (.literal [47, 98]) (.look .finish))
  have hr : Regex.ofText? (WholePattern.anchored "/a)|(?:/b") = some ⟨.text, e, e.program⟩ := by
    simp only [ofText?, compile?, WholePattern.anchored_toList]
    rfl
  have hp : WholePattern.ofSource? "/a)|(?:/b" = some ⟨"/a)|(?:/b", ⟨.text, e, e.program⟩⟩ := by
    rw [WholePattern.ofSource?, hr]
    rfl
  have hpath : ({ uri := { rawPath := "/ax" } } : Request).path = "/ax" := by decide
  have hcovers : (⟨⟨"/a)|(?:/b", ⟨.text, e, e.program⟩⟩, []⟩ : Scope).covers "/ax" = true := by
    refine (Scope.covers_iff _ _).mpr ⟨?_, by simp⟩
    exact (Regex.isMatchText_iff hr "/ax").mpr
      ⟨0, 2, by decide, Haystack.isBoundary_zero _, .inl ⟨0, ⟨rfl, rfl⟩, by decide, by decide, rfl⟩⟩
  refine ⟨_, stamp_build hp, hpath, ?_, ?_⟩
  · rintro ⟨⟨r, hown, -⟩, -⟩
    have hnone : Regex.ofText? "/a)|(?:/b" = none := by decide
    cases hnone.symm.trans hown
  · simp only [BuiltIn.toRule_check, BuiltIn.plan, hpath, hcovers, if_true]
    rfl

end Portcullis.Policy

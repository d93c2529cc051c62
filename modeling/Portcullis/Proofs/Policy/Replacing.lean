import Portcullis.Proofs.Policy.Frame
import Portcullis.Proofs.Regex.Occurrences

/-!
# Replaced content

A rule for content fires exactly where its pattern occurs in the body, whether or not the body is another one
afterwards. So it fires exactly if the body changes as long as no replacement writes back what was there.
-/

namespace Portcullis.Policy
open Http

/-! ## The check of a rule for content -/

/-- What a check makes of a canvas with a body that the rule looks at. -/
structure ReplaceContent.Replaces (a : ReplaceContent) (c c' : Canvas) (o : Outcome) : Prop where
  body : c'.body = (a.pattern.replaceAll? a.replacement c.body).getD c.body
  replaced : a.pattern.Replaced a.replacement c.body c'.body
  status : c'.status = c.status
  field : ∀ n, n ≠ .contentLength → c'.headers.getAll n = c.headers.getAll n
  length : o.isApplied = true → c'.headers.getAll .contentLength = []
  applied : o.isApplied = true ↔ a.pattern.Occurs c.body
  quiet : o.isApplied = false → o = .pass ∧ c' = c

/-- The rule fired exactly if the body changed, and if it did not change, neither did anything else. -/
def Canvas.FiresExactly (c c' : Canvas) (o : Outcome) : Prop :=
  (o.isApplied = true ↔ c'.body ≠ c.body) ∧ (c'.body = c.body → c' = c)

variable {a : ReplaceContent} {b : BuiltIn} {q : Request} {c c' : Canvas} {o : Outcome}

theorem ReplaceContent.Replaces.firesExactly_iff (h : a.Replaces c c' o) :
    c.FiresExactly c' o ↔ (a.pattern.Occurs c.body → c'.body ≠ c.body) := by
  constructor
  · exact fun hexact hoccurs => hexact.1.mp (h.applied.mpr hoccurs)
  · intro hchanges
    cases ho : o.isApplied with
    | true =>
      have hne := hchanges (h.applied.mp ho)
      exact ⟨iff_of_true ho hne, fun heq => absurd heq hne⟩
    | false =>
      obtain ⟨-, rfl⟩ := h.quiet ho
      exact ⟨iff_of_false (by simp [ho]) (by simp), fun _ => rfl⟩

theorem ReplaceContent.plan_eq {hs : Headers} {body : Bytes} (haccepts : acceptsContentType a.contentType hs = true)
    (htext : (Utf8.decode? body).isSome = true) : (Action.replaceContent a).plan q hs body =
      ((a.pattern.replaceAll? a.replacement body).map fun new =>
        .write (.setBody new) [.removeHeader .contentLength] none "could not rewrite body: ").getD (.leave .pass) := by
  obtain ⟨text, htext⟩ := Option.isSome_iff_exists.mp htext
  simp only [Action.plan, haccepts, htext, Bool.not_true, Option.isNone_some, Bool.or_self, Bool.false_eq_true,
    if_false]
  cases a.pattern.replaceAll? a.replacement body <;> rfl

theorem BuiltIn.replaces {source : String} (hpattern : Regex.ofText? source = some a.pattern)
    (ha : b.action = .replaceContent a) (hq : b.scope.covers q.path = true) (hc : c.isClosed = false)
    (haccepts : acceptsContentType a.contentType c.headers = true) (htext : (Utf8.decode? c.body).isSome = true)
    (hrun : (b.plan q c.headers c.body).carryOut c = (c', o)) : a.Replaces c c' o := by
  have hreplaced := Regex.replaced_replaceAll? hpattern a.replacement c.body
  have hnone := Regex.replaceAll?_eq_none_iff hpattern a.replacement c.body
  rw [plan_of_covers hq, ha, ReplaceContent.plan_eq haccepts htext] at hrun
  cases hnew : a.pattern.replaceAll? a.replacement c.body with
  | none =>
    rw [hnew] at hrun hreplaced
    cases hrun
    exact {
      body := by rw [hnew]; rfl
      replaced := hreplaced
      status := rfl
      field := fun _ _ => rfl
      length := fun ho => by cases ho
      applied := iff_of_false (fun ho => by cases ho) (hnone.mp hnew)
      quiet := fun _ => ⟨rfl, rfl⟩ }
  | some new =>
    have hoccurs : a.pattern.Occurs c.body := by
      by_contra hnot
      rw [hnone.mpr hnot] at hnew
      cases hnew
    rw [hnew, Option.map_some, Option.getD_some] at hrun
    rw [hnew, Option.getD_some] at hreplaced
    obtain ⟨hshown, -, houtcome⟩ :=
      (Plan.write (.setBody new) [.removeHeader .contentLength] none "could not rewrite body: ").shown_carryOut hc
    rw [hrun] at hshown houtcome
    have ho : o = .applied none := houtcome
    have hbody : c'.body = new := congrArg Response.body hshown
    have hfield : ∀ n, c'.headers.getAll n = if .contentLength = n then [] else c.headers.getAll n := fun n =>
      (congrArg (fun r => r.headers.getAll n) hshown).trans (Headers.getAll_remove _ _ _)
    exact {
      body := by rw [hnew, hbody]; rfl
      replaced := hbody ▸ hreplaced
      status := congrArg Response.status hshown
      field := fun n hn => (hfield n).trans (if_neg (Ne.symm hn))
      length := fun _ => (hfield .contentLength).trans (if_pos rfl)
      applied := iff_of_true (ho ▸ rfl) hoccurs
      quiet := fun hnot => by
        rw [ho] at hnot
        cases hnot }

theorem RuleKind.build_replaceContent {pattern replacement : String} {contentType : Option String} {action : Action}
    (h : (RuleKind.replaceContent pattern replacement contentType).build = .ok action) :
    ∃ r filter, Regex.ofText? pattern = some r ∧ contentTypeFilter contentType = .ok filter ∧
      action = .replaceContent ⟨r, Regex.template replacement.toList, filter⟩ := by
  obtain ⟨r, hr, h⟩ := bind_eq_ok.mp h
  obtain ⟨filter, hfilter, h⟩ := bind_eq_ok.mp h
  cases h
  exact ⟨r, filter, orDefect_eq_ok.mp hr, hfilter, rfl⟩

/-- Where it looks at the body, a rule for content replaces what its pattern matches and drops the length, and where
the pattern occurs nowhere it leaves the response alone. It fires exactly if the body changes unless what it writes
is, as a whole, what was there. -/
theorem content_replaced {d : RuleDefinition} {pattern replacement : String} {contentType : Option String}
    (hb : d.build = .ok b) (hkind : d.kind = .replaceContent pattern replacement contentType)
    (hq : b.scope.covers q.path = true) (hc : c.isClosed = false) :
    ∃ r filter c' o, Regex.ofText? pattern = some r ∧ contentTypeFilter contentType = .ok filter ∧
      b.toRule.check q c = (c', .finished o) ∧ c.Framed c' o ∧
      (acceptsContentType filter c.headers = true → (Utf8.decode? c.body).isSome = true →
        ReplaceContent.Replaces ⟨r, Regex.template replacement.toList, filter⟩ c c' o ∧
        (c.FiresExactly c' o ↔ (r.Occurs c.body → c'.body ≠ c.body))) := by
  obtain ⟨r, filter, hr, hfilter, ha⟩ := RuleKind.build_replaceContent (hkind ▸ (RuleDefinition.parts_of_build hb).2.2)
  refine ⟨r, filter, _, _, hr, hfilter, b.toRule_check q c, Plan.framed _ c fun o => BuiltIn.isVerdict_of_leave, ?_⟩
  intro haccepts htext
  have hreplaces := BuiltIn.replaces hr ha hq hc haccepts htext rfl
  exact ⟨hreplaces, hreplaces.firesExactly_iff⟩

def substituting (replacement : String) : RuleDefinition where
  id := "substitute"
  path := "/a"
  kind := .replaceContent "a" replacement none

theorem exists_substituting (replacement : String) : ∃ b r, (substituting replacement).build = .ok b ∧
    b.scope.covers ({ uri := { rawPath := "/a" } } : Request).path = true ∧
    Regex.ofText? "a" = some r ∧ b.action = .replaceContent ⟨r, Regex.template replacement.toList, none⟩ ∧
    r.Occurs [97] := by
  obtain ⟨path, hpath, hmatch⟩ := exists_pattern_a
  let e : Regex.Expr := .literal [97]
  have hr : Regex.ofText? "a" = some ⟨.text, e, e.program⟩ := rfl
  have hbuild : (substituting replacement).kind.build =
      .ok (.replaceContent ⟨⟨.text, e, e.program⟩, Regex.template replacement.toList, none⟩) := rfl
  have hid : (Text.trim (substituting replacement).id.toList).isEmpty = false :=
    show (Text.trim "substitute".toList).isEmpty = false by decide
  exact ⟨_, _, RuleDefinition.build_of_pattern hid hpath rfl hbuild, (Scope.covers_iff _ _).mpr ⟨hmatch, by simp⟩, hr,
    rfl, 0, Nat.zero_le _, by decide, 1, by decide, rfl⟩

/-- A captured response with a body of one letter, and its length. -/
def Canvas.oneLetter : Canvas :=
  ⟨some (.capture { headers := ⟨[(.contentLength, ⟨[49]⟩)]⟩, body := [97] }), {}⟩

/-- The letter is replaced by another one, and the length is dropped. -/
theorem substituting_replaced : ∃ b, (substituting "b").build = .ok b ∧
    b.scope.covers ({ uri := { rawPath := "/a" } } : Request).path = true ∧
    ∃ c' o, b.toRule.check { uri := { rawPath := "/a" } } .oneLetter = (c', .finished o) ∧
      o.isApplied = true ∧ c'.headers.getAll .contentLength = [] := by
  obtain ⟨b, r, hb, hcovers, hr, -, hoccurs⟩ := exists_substituting "b"
  obtain ⟨r', filter, c', o, hr', hfilter, hcheck, -, hreplaces⟩ := content_replaced hb rfl hcovers
    (show Canvas.oneLetter.isClosed = false from rfl)
  cases hr'.symm.trans hr
  cases hfilter
  obtain ⟨hreplaces, -⟩ := hreplaces rfl (by decide)
  have happlied := hreplaces.applied.mpr hoccurs
  exact ⟨b, hb, hcovers, c', o, hcheck, happlied, hreplaces.length happlied⟩

/-- What is replaced by itself counts as a change, and the length is dropped. -/
theorem substituting_itself : ∃ b, (substituting "$0").build = .ok b ∧
    b.scope.covers ({ uri := { rawPath := "/a" } } : Request).path = true ∧ Canvas.oneLetter.isClosed = false ∧
    (Utf8.decode? Canvas.oneLetter.body).isSome = true ∧
    ∃ c' o, b.toRule.check { uri := { rawPath := "/a" } } .oneLetter = (c', .finished o) ∧
      c'.body = Canvas.oneLetter.body ∧ o.isApplied = true ∧
      Canvas.oneLetter.headers.getAll .contentLength = [⟨[49]⟩] ∧ c'.headers.getAll .contentLength = [] := by
  obtain ⟨b, r, hb, hcovers, hr, ha, hoccurs⟩ := exists_substituting "$0"
  have hopen : Canvas.oneLetter.isClosed = false := rfl
  have htext : (Utf8.decode? Canvas.oneLetter.body).isSome = true := by decide
  have htemplate : Regex.template "$0".toList = [.group 0] := by decide
  have hreplaces := BuiltIn.replaces hr ha hcovers hopen rfl htext rfl
  have happlied := hreplaces.applied.mpr hoccurs
  have hreplaced := hreplaces.replaced
  rw [htemplate] at hreplaced
  exact ⟨b, hb, hcovers, hopen, htext, _, _, b.toRule_check _ _, hreplaced.eq_of_self, happlied, rfl,
    hreplaces.length happlied⟩

end Portcullis.Policy

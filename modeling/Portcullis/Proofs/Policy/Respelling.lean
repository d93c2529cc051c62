import Portcullis.Proofs.Http.DigitCase
import Portcullis.Proofs.Http.Spelling
import Portcullis.Proofs.Policy.Frame

/-!
# Requests spelt otherwise

A rule judges a request with escapes in its path as it judges the one without them. Only a redirect to the secure place
keeps the path as it was asked for. The case of the digits does not matter to a rule, either, unless an escape stays.
-/

namespace Portcullis.Http

/-- The request with another text for the path of its target. -/
def Request.respelt (r : Request) (text : String) : Request :=
  { r with uri := { r.uri with rawPath := text } }

variable {r : Request} {text : String}

theorem Spells.ne_empty (h : Spells text.toList r.uri.rawPath.toList) (hslash : r.uri.rawPath.toList.head? = some '/') :
    text ≠ "" ∧ r.uri.rawPath ≠ "" := by
  constructor
  · rintro rfl
    obtain ⟨rest, hrest⟩ := h.head hslash
    cases hrest
  · intro hraw
    rw [hraw] at hslash
    cases hslash

theorem Spells.path_respelt (h : Spells text.toList r.uri.rawPath.toList)
    (hslash : r.uri.rawPath.toList.head? = some '/') : (r.respelt text).path = r.path := by
  obtain ⟨htext, hraw⟩ := h.ne_empty hslash
  have hleft : (r.respelt text).uri.path = text := by
    rw [Uri.path, if_neg]
    · rfl
    · simp [Request.respelt, htext]
  have hright : r.uri.path = r.uri.rawPath := by
    rw [Uri.path, if_neg]
    simp [hraw]
  rw [Request.path, hleft, h.normalizePath_eq hslash, Request.path, hright]

end Portcullis.Http

namespace Portcullis.Policy
open Http

/-! ## Decisions about requests -/

namespace EnforceHttps

/-- What a client is told who asked a host for a path over a connection that is not secure. -/
def sendOn (host path : String) (query : Option String) : Outcome :=
  .abort (some (.redirect ("https://" ++ host ++ (path ++ (query.map ("?" ++ ·)).getD "")))) (some "plain HTTP request")

/-- The decision about a request with a path. -/
theorem decide_of_path {r : Request} (hpath : r.uri.rawPath ≠ "") : decide r =
    if isSecure r then .pass
    else
      match host? r with
      | none => .abort none (some "plain HTTP request without a host to redirect to")
      | some host =>
        if r.uri.scheme.isNone && !r.uri.authority.isEmpty then sendOn host "/" none
        else sendOn host r.uri.rawPath r.uri.query := by
  have hwritten : (r.uri.rawPath ++ (r.uri.query.map ("?" ++ ·)).getD "").isEmpty = false := by
    rw [Bool.eq_false_iff, ne_eq, String.isEmpty_iff, String.append_eq_empty_iff]
    exact fun h => hpath h.1
  unfold decide location? Uri.pathAndQuery?
  cases host? r with
  | none => rfl
  | some host =>
    simp only [Option.map_some, hwritten, Bool.false_eq_true, if_false]
    split
    · rfl
    · split
      · rfl
      · rfl

/-- The path comes into the decision as a part of the redirect, if it does at all. -/
theorem decide_respelt (r : Request) {text : String} (hpath : r.uri.rawPath ≠ "") (htext : text ≠ "") :
    decide (r.respelt text) = decide r ∨ ∃ host, host? r = some host ∧
      decide r = sendOn host r.uri.rawPath r.uri.query ∧ decide (r.respelt text) = sendOn host text r.uri.query := by
  have hsecure : isSecure (r.respelt text) = isSecure r := rfl
  have hhost : host? (r.respelt text) = host? r := rfl
  rw [decide_of_path hpath, decide_of_path (r := r.respelt text) htext, hsecure, hhost]
  split
  · exact .inl rfl
  · cases host? r with
    | none => exact .inl rfl
    | some host =>
      dsimp only
      by_cases hbare : (r.uri.scheme.isNone && !r.uri.authority.isEmpty) = true
      · rw [if_pos hbare]
        exact .inl (if_pos hbare)
      · rw [if_neg hbare]
        exact .inr ⟨host, rfl, rfl, if_neg hbare⟩

end EnforceHttps

/-- All other actions look at the method, the query, the fields, the user or the response. -/
theorem Action.run_respelt {a : Action} (ha : a ≠ .enforceHttps) (r : Request) (text : String) (c : Canvas) :
    a.run (r.respelt text) c = a.run r c := by
  cases a with
  | addHeader => rfl
  | hardenCookies => rfl
  | replaceContent => rfl
  | detectContent => rfl
  | restrictMethod => rfl
  | enforceHttps => exact absurd rfl ha
  | requireRole => rfl
  | virtualPatch => rfl

/-- A path and each of its spellings have one normal form. A rule relates to both in the same way, the exception that
counts included, and its check does the same for both, unless it sends the client on: then to the path as it was
spelt. -/
theorem check_respelt (b : BuiltIn) {r : Request} {text : String} (h : Spells text.toList r.uri.rawPath.toList)
    (hslash : r.uri.rawPath.toList.head? = some '/') (c : Canvas) :
    normalizePath text = normalizePath r.uri.rawPath ∧
    b.scope.coverage (r.respelt text).path = b.scope.coverage r.path ∧
    (b.check (r.respelt text) c = b.check r c ∨
      b.action = .enforceHttps ∧ ∃ host, EnforceHttps.host? r = some host ∧
        b.check r c = (c, EnforceHttps.sendOn host r.uri.rawPath r.uri.query) ∧
        b.check (r.respelt text) c = (c, EnforceHttps.sendOn host text r.uri.query)) := by
  have hpath := h.path_respelt hslash
  obtain ⟨htext, hraw⟩ := h.ne_empty hslash
  refine ⟨h.normalizePath_eq hslash, by rw [hpath], ?_⟩
  rw [BuiltIn.check, BuiltIn.check, hpath]
  split
  · rename_i hcovers
    by_cases ha : b.action = .enforceHttps
    · rw [ha]
      rcases EnforceHttps.decide_respelt r hraw htext with heq | ⟨host, hhost, hplain, hrespelt⟩
      · exact .inl (congrArg (Prod.mk c) heq)
      · exact .inr ⟨rfl, host, hhost, congrArg (Prod.mk c) hplain, congrArg (Prod.mk c) hrespelt⟩
    · exact .inl (b.action.run_respelt ha r text c)
  · exact .inl rfl

/-! ## Redirects -/

/-- A request to a host by a connection that is not secure. -/
def asked (path : String) : Request :=
  { uri := { rawPath := path }, headers := ⟨[(.host, ⟨[104]⟩)]⟩ }

theorem https_check {p : WholePattern} (hmatch : p.isMatch "/a" = true) {r : Request} (hpath : r.path = "/a")
    (c : Canvas) : BuiltIn.check ⟨"https", ⟨p, []⟩, .enforceHttps⟩ r c = (c, EnforceHttps.decide r) := by
  have hcovers : (⟨p, []⟩ : Scope).covers r.path = true := by
    rw [hpath]
    exact (Scope.covers_iff _ _).mpr ⟨hmatch, by simp⟩
  rw [BuiltIn.check, if_pos hcovers]
  rfl

theorem https_build {p : WholePattern} (hp : WholePattern.ofSource? "/a" = some p) :
    RuleDefinition.build { id := "https", path := "/a", kind := .enforceHttps } =
      .ok ⟨"https", ⟨p, []⟩, .enforceHttps⟩ :=
  RuleDefinition.build_of_pattern (show (Text.trim "https".toList).isEmpty = false by decide) hp rfl rfl

/-- A climb is sent on with its escapes. -/
theorem climb_respelt : ∃ b, RuleDefinition.build { id := "https", path := "/a", kind := .enforceHttps } = .ok b ∧
    Spells "/%62/.%2E/%61".toList "/b/../a".toList ∧ "/b/../a".toList.head? = some '/' ∧
    normalizePath "/%62/.%2E/%61" = normalizePath "/b/../a" ∧
    b.check (asked "/b/../a") ⟨none, {}⟩ = (⟨none, {}⟩, EnforceHttps.sendOn "h" "/b/../a" none) ∧
    b.check (asked "/%62/.%2E/%61") ⟨none, {}⟩ = (⟨none, {}⟩, EnforceHttps.sendOn "h" "/%62/.%2E/%61" none) := by
  obtain ⟨p, hp, hmatch⟩ := exists_pattern_a
  have hspells : Spells "/%62/.%2E/%61".toList "/b/../a".toList :=
    .slash (.escaped (b := 98) (by decide) (by decide) (.slash (.plain (b := 46) (by decide)
      (.escaped (b := 46) (by decide) (by decide) (.slash (.escaped (b := 97) (by decide) (by decide) .nil))))))
  have hslash : "/b/../a".toList.head? = some '/' := by decide
  obtain ⟨hnormal, -, hcheck⟩ :=
    check_respelt ⟨"https", ⟨p, []⟩, .enforceHttps⟩ (r := asked "/b/../a") hspells hslash ⟨none, {}⟩
  rcases hcheck with hsame | ⟨-, host, hhost, hplain, hrespelt⟩
  · rw [https_check hmatch (by decide), https_check hmatch (by decide)] at hsame
    exact absurd (congrArg Prod.snd hsame) (by decide)
  · obtain rfl : "h" = host := Option.some.inj hhost
    exact ⟨_, https_build hp, hspells, hslash, hnormal, hplain, hrespelt⟩

/-- Two spellings of a path that a rule sends on to different places. -/
theorem escape_sent_on : ∃ b, RuleDefinition.build { id := "https", path := "/a", kind := .enforceHttps } = .ok b ∧
    Spells "/%61".toList "/a".toList ∧
    (b.check (asked "/a") ⟨none, {}⟩).2 = EnforceHttps.sendOn "h" "/a" none ∧
    (b.check (asked "/%61") ⟨none, {}⟩).2 = EnforceHttps.sendOn "h" "/%61" none ∧
    (b.check (asked "/%61") ⟨none, {}⟩).2 ≠ (b.check (asked "/a") ⟨none, {}⟩).2 := by
  obtain ⟨p, hp, hmatch⟩ := exists_pattern_a
  refine ⟨_, https_build hp, .slash (.escaped (b := 97) (by decide) (by decide) .nil), ?_⟩
  rw [https_check hmatch (by decide), https_check hmatch (by decide)]
  decide

/-! ## Digits in either case -/

/-- Paths that differ in nothing but the case of digits in escapes have normal forms that do, and the escapes that still
differ are not of unreserved characters. If only those of unreserved characters differ, the normal form is the same, and
a rule relates to both paths in the same way. -/
theorem coverage_recased {P : UInt8 → Prop} {p q : String} (h : Recased P p.toList q.toList) :
    Recased (fun b => P b ∧ isUnreserved b = false) (normalizePath p).toList (normalizePath q).toList ∧
    ((∀ b, P b → isUnreserved b = true) → normalizePath p = normalizePath q ∧
      ∀ s : Scope, s.coverage (normalizePath p) = s.coverage (normalizePath q)) := by
  have hnormal := h.normalize
  rw [normalizePath, normalizePath, String.toList_ofList, String.toList_ofList]
  refine ⟨hnormal, fun hP => ?_⟩
  have hnone : ∀ b, ¬(P b ∧ isUnreserved b = false) := by
    rintro b ⟨hb, hreserved⟩
    rw [hP b hb] at hreserved
    cases hreserved
  have heq := hnormal.eq_of_forall_not hnone
  exact ⟨congrArg String.ofList heq.symm, fun s => by rw [heq]⟩

theorem climb_recased : Recased (isUnreserved · = true) "/%7e/%2e%2E/%5A%2f".toList "/%7E/%2E%2e/%5a%2f".toList ∧
    normalizePath "/%7e/%2e%2E/%5A%2f" = normalizePath "/%7E/%2E%2e/%5a%2f" := by
  have h : Recased (isUnreserved · = true) "/%7e/%2e%2E/%5A%2f".toList "/%7E/%2E%2e/%5a%2f".toList :=
    .char _ (.escape (b := 0x7E) (by decide) (by decide) (by decide) (.char _
      (.escape (b := 0x2E) (by decide) (by decide) (by decide)
        (.escape (b := 0x2E) (by decide) (by decide) (by decide) (.char _
          (.escape (b := 0x5A) (by decide) (by decide) (by decide) (.refl _)))))))
  exact ⟨h, ((coverage_recased h).2 fun _ hb => hb).1⟩

/-- An escaped slash stays as it is written, and an exception for one spelling does not cover the other. -/
theorem slash_recased : Recased (fun _ => True) "/a%2Fb".toList "/a%2fb".toList ∧
    normalizePath "/a%2Fb" ≠ normalizePath "/a%2fb" ∧
    (Exemption.literal "/a%2Fb").isMatch (normalizePath "/a%2Fb") = true ∧
    (Exemption.literal "/a%2Fb").isMatch (normalizePath "/a%2fb") = false := by
  refine ⟨.char _ (.char _ (.escape (b := 0x2F) (by decide) (by decide) trivial (.refl _))), ?_, ?_, ?_⟩
  · decide
  · decide
  · decide

end Portcullis.Policy

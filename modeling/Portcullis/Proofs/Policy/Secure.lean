import Portcullis.Proofs.Http.Location
import Portcullis.Proofs.Policy.Respelling

/-!
# Requests that are sent on

A request over a connection that is not secure is sent on to the location of its target at the host that it asks for,
whether it names a port or not. A request for that location is secure, so that it passes.
-/

namespace Portcullis.Http

/-- The target of the request has the secure scheme, or its first forwarding field begins with it. -/
def Request.IsSecure (r : Request) : Prop :=
  r.uri.scheme = some "https" ∨ ∃ v cs, (r.headers.getAll .forwardedProto).head? = some v ∧ v.chars? = some cs ∧
    Ascii.sameLetters (Text.trim (cs.takeWhile (· != ','))) "https".toList = true

/-- The request asks for the host and port of the text: in its target or, if that has no authority, in its first host
field. -/
def Request.AsksFor (r : Request) (text : List Char) : Prop :=
  if r.uri.authority = "" then ∃ v, (r.headers.getAll .host).head? = some v ∧ v.chars? = some text
  else Uri.EndsIn r.uri.authority.toList text

theorem Request.asksFor_of_field {r : Request} {v : HeaderValue} {text : List Char} (hbare : r.uri.authority = "")
    (hv : (r.headers.getAll .host).head? = some v) (hchars : v.chars? = some text) : r.AsksFor text := by
  rw [AsksFor, if_pos hbare]
  exact ⟨v, hv, hchars⟩

end Portcullis.Http

namespace Portcullis.Policy
open Http

namespace EnforceHttps

theorem isSecure_iff (r : Request) : isSecure r = true ↔ r.IsSecure := by
  rw [isSecure, Request.IsSecure, Bool.or_eq_true, beq_iff_eq, secureScheme, Headers.get?]
  refine or_congr_right ?_
  cases (r.headers.getAll .forwardedProto).head? with
  | none => simp
  | some v =>
    rw [Option.bind_some]
    cases hchars : v.chars? with
    | none => simp [hchars]
    | some cs => simp [hchars]

/-- A port is dropped, and the brackets of an address end a host that has none. -/
theorem withoutPort_append {host tail : List Char} (hhost : IsHost host) (hport : IsPort tail) :
    withoutPort (host ++ tail) = host := by
  rcases hport with rfl | ⟨digits, hdigits, rfl⟩
  · rw [List.append_nil]
    cases hhost with
    | name _ hchars =>
      have hcolon : ':' ∉ host := fun h => (isNameChar_iff.mp (hchars _ h)).2.1 rfl
      simp [withoutPort, hcolon]
    | address => simp [withoutPort]
  · have hdigit : ∀ c ∈ digits.reverse, (c != ':') = true ∧ c ≠ ']' := by
      intro c hc
      have hc := hdigits c (List.mem_reverse.mp hc)
      constructor
      · rw [bne_iff_ne]
        rintro rfl
        cases hc
      · rintro rfl
        cases hc
    have hreverse : (host ++ ':' :: digits).reverse = digits.reverse ++ ':' :: host.reverse := by simp
    have htake : (digits.reverse ++ ':' :: host.reverse).takeWhile (· != ':') = digits.reverse :=
      Url.takeWhile_append_of_head (fun c hc => (hdigit c hc).1) (by simp)
    have hlast : digits.reverse.head? ≠ some ']' := fun h =>
      (hdigit _ (List.mem_of_mem_head? h)).2 rfl
    have hdrop : (digits.reverse ++ ':' :: host.reverse).drop (digits.reverse.length + 1) = host.reverse :=
      List.drop_length_add_append ..
    rw [withoutPort, hreverse, htake, if_neg (by simpa using hlast), hdrop, List.reverse_reverse]

theorem host?_of_asksFor {r : Request} {host tail : List Char} (hhost : IsHost host) (hport : IsPort tail)
    (h : r.AsksFor (host ++ tail)) : host? r = some (String.ofList host) := by
  unfold Request.AsksFor at h
  split at h
  · rename_i hbare
    obtain ⟨v, hv, hchars⟩ := h
    simp [host?, hbare, Headers.get?, hv, hchars, withoutPort_append hhost hport]
  · rename_i hauthority
    simp [host?, hauthority, Uri.host_of_endsIn hhost hport h]

/-- The decision about a request that is not secure and asks for a host. -/
theorem decide_of_asksFor {r : Request} {host tail : List Char} (hsecure : ¬r.IsSecure) (hhost : IsHost host)
    (hport : IsPort tail) (h : r.AsksFor (host ++ tail)) :
    decide r = .abort (some (.redirect (Uri.location host r.uri))) (some "plain HTTP request") := by
  rw [decide, if_neg (mt (isSecure_iff r).mp hsecure), location?, host?_of_asksFor hhost hport h]
  rfl

end EnforceHttps

theorem BuiltIn.check_of_secure {b : BuiltIn} (ha : b.action = .enforceHttps) {r : Request} (h : r.IsSecure)
    (c : Canvas) : b.toRule.check r c = (c, .finished .pass) := by
  have hrun : b.action.run r c = (c, .pass) := by
    rw [ha, Action.run, EnforceHttps.decide, if_pos ((EnforceHttps.isSecure_iff r).mpr h)]
  simp only [BuiltIn.toRule, BuiltIn.check, hrun, ite_self]

/-- A request that is not secure is sent on to the location of its target at the host that it asks for, and a request
for that location passes. The location is read as the same place at that host, unless the target is the asterisk, or
the location is too long to be read at all. -/
theorem sent_on {d : RuleDefinition} {b : BuiltIn} {r : Request} {t : String} {host tail : List Char}
    (hb : d.build = .ok b) (hkind : d.kind = .enforceHttps) (ht : Uri.parse? t = some r.uri)
    (hq : b.scope.covers r.path = true) (hsecure : ¬r.IsSecure) (hhost : IsHost host) (hport : IsPort tail)
    (hasks : r.AsksFor (host ++ tail)) (c : Canvas) :
    b.toRule.check r c = (c, .finished
      (.abort (some (.redirect (Uri.location host r.uri))) (some "plain HTTP request"))) ∧
    ((∃ u, Uri.parse? (Uri.location host r.uri) = some u ∧ u.IsSecured host r.uri) ↔
      r.uri ≠ Uri.asterisk ∧ (Uri.location host r.uri).utf8ByteSize ≤ Uri.maxLength) ∧
    ∀ u, Uri.parse? (Uri.location host r.uri) = some u → ∀ r' c', r'.uri = u →
      b.toRule.check r' c' = (c', .finished .pass) := by
  have ha : b.action = .enforceHttps := by
    have hbuild := (RuleDefinition.parts_of_build hb).2.2
    rw [hkind] at hbuild
    exact (Except.ok.inj hbuild).symm
  refine ⟨?_, Uri.parse?_location_iff ht hhost, fun u hu r' c' hr' => ?_⟩
  · simp only [BuiltIn.toRule, BuiltIn.check, if_pos hq, ha, Action.run,
      EnforceHttps.decide_of_asksFor hsecure hhost hport hasks]
  · refine BuiltIn.check_of_secure ha (.inl ?_) c'
    rw [hr']
    exact Uri.scheme_of_parse?_https (Uri.toList_location host r.uri) hu

/-- A request that asks for an address and a port. -/
def addressed : Request where
  uri := { rawPath := "/a", query := some "b" }
  headers := ⟨[(.host, ⟨Bytes.ofText "[::1]:80"⟩)]⟩

/-- The address is kept, and the port is dropped. -/
theorem addressed_sent_on : ∃ b, RuleDefinition.build { id := "https", path := "/a", kind := .enforceHttps } = .ok b ∧
    b.toRule.check addressed ⟨none, {}⟩ = (⟨none, {}⟩, .finished
      (.abort (some (.redirect "https://[::1]/a?b")) (some "plain HTTP request"))) ∧
    ∃ u, Uri.parse? "https://[::1]/a?b" = some u ∧ u.host = "[::1]" ∧ u.query = some "b" ∧
      b.toRule.check { addressed with uri := u } ⟨none, {}⟩ = (⟨none, {}⟩, .finished .pass) := by
  obtain ⟨p, hp, hmatch⟩ := exists_pattern_a
  have hpath : addressed.path = "/a" := by decide
  have hcovers : (⟨p, []⟩ : Scope).covers addressed.path = true := by
    rw [hpath]
    exact (Scope.covers_iff _ _).mpr ⟨hmatch, by simp⟩
  have hsecure : ¬addressed.IsSecure := by
    rintro (h | ⟨v, cs, h, -⟩) <;> cases h
  have hread : Net.Ipv6.read? [':', ':', '1'] = some (⟨[0, 0, 0, 0, 0, 0, 0, 1]⟩, []) := by decide
  have hhost : IsHost "[::1]".toList := .address hread
  have hport : IsPort ":80".toList := .inr ⟨['8', '0'], List.all_eq_true.mp rfl, rfl⟩
  have hasks : addressed.AsksFor ("[::1]".toList ++ ":80".toList) :=
    Request.asksFor_of_field rfl (v := ⟨Bytes.ofText "[::1]:80"⟩) rfl (by decide)
  obtain ⟨hcheck, hplace, hagain⟩ :=
    sent_on (https_build hp) rfl (t := "/a?b") (by decide) hcovers hsecure hhost hport hasks ⟨none, {}⟩
  obtain ⟨u, hu, hsecured⟩ := hplace.mpr ⟨by decide, by decide⟩
  exact ⟨_, https_build hp, hcheck, u, hu, hsecured.host, hsecured.query, hagain u hu _ _ rfl⟩

theorem exists_pattern_asterisk : ∃ p, WholePattern.ofSource? "\\*" = some p ∧ p.isMatch "*" = true := by
  let e : Regex.Expr := .cat (.look .start) (.cat (.literal [42]) (.look .finish))
  have hr : Regex.ofText? (WholePattern.anchored "\\*") = some ⟨.text, e, e.program⟩ := by
    simp only [Regex.ofText?, Regex.compile?, WholePattern.anchored_toList]
    rfl
  refine ⟨⟨"\\*", ⟨.text, e, e.program⟩⟩, by rw [WholePattern.ofSource?, hr]; rfl, ?_⟩
  exact (Regex.isMatchText_iff hr "*").mpr
    ⟨0, 1, by decide, Regex.Haystack.isBoundary_zero _, 0, ⟨rfl, rfl⟩, 1, ⟨by decide, rfl⟩, by decide, rfl⟩

/-- A request for the server as a whole is sent on to another host, of which the asterisk is a part. -/
theorem asterisk_sent_astray : ∃ b,
    RuleDefinition.build { id := "https", path := "\\*", kind := .enforceHttps } = .ok b ∧
    Uri.parse? "*" = some (asked "*").uri ∧ b.scope.covers (asked "*").path = true ∧ ¬(asked "*").IsSecure ∧
    IsHost ['h'] ∧ (asked "*").AsksFor ['h'] ∧
    b.toRule.check (asked "*") ⟨none, {}⟩ = (⟨none, {}⟩, .finished
      (.abort (some (.redirect "https://h*")) (some "plain HTTP request"))) ∧
    ∃ u, Uri.parse? "https://h*" = some u ∧ u.host = "h*" ∧ u.path = "/" ∧ (asked "*").uri.path = "*" := by
  obtain ⟨p, hp, hmatch⟩ := exists_pattern_asterisk
  have hbuild : RuleDefinition.build { id := "https", path := "\\*", kind := .enforceHttps } =
      .ok ⟨"https", ⟨p, []⟩, .enforceHttps⟩ :=
    RuleDefinition.build_of_pattern (show (Text.trim "https".toList).isEmpty = false by decide) hp rfl rfl
  have hpath : (asked "*").path = "*" := by decide
  have hcovers : (⟨p, []⟩ : Scope).covers (asked "*").path = true := by
    rw [hpath]
    exact (Scope.covers_iff _ _).mpr ⟨hmatch, by simp⟩
  have hsecure : ¬(asked "*").IsSecure := by
    rintro (h | ⟨v, cs, h, -⟩) <;> cases h
  have hasks : (asked "*").AsksFor ['h'] := Request.asksFor_of_field rfl (v := ⟨[104]⟩) rfl (by decide)
  have hhost : IsHost ['h'] := .name (by decide) (List.all_eq_true.mp rfl)
  refine ⟨_, hbuild, by decide, hcovers, hsecure, hhost, hasks, ?_, _, rfl, by decide, by decide, by decide⟩
  simp only [BuiltIn.toRule, BuiltIn.check, if_pos hcovers, Action.run,
    EnforceHttps.decide_of_asksFor hsecure hhost (.inl rfl) hasks]
  rfl

end Portcullis.Policy

import Portcullis.Proofs.Chain.Composition
import Portcullis.Proofs.Policy.Cookie

/-!
# Hardened cookies

The check of a rule for cookies replaces the values of one field, one by one, and writes to nothing else. A value that
it would change differs afterwards, and has all that the rule asks for, so that a second check finds nothing to do.
-/

namespace Portcullis

open Http

/-! ## Writes to one name -/

/-- The second response has what the first one has, except for the values of a name. -/
structure Http.Response.SameBut (n : HeaderName) (r r' : Response) : Prop where
  status : r'.status = r.status
  body : r'.body = r.body
  field : ∀ m, m ≠ n → r'.headers.getAll m = r.headers.getAll m

theorem Http.Response.SameBut.trans {n : HeaderName} {r₁ r₂ r₃ : Response} (h : r₁.SameBut n r₂)
    (h' : r₂.SameBut n r₃) : r₁.SameBut n r₃ where
  status := h'.status.trans h.status
  body := h'.body.trans h.body
  field := fun m hm => (h'.field m hm).trans (h.field m hm)

namespace Policy

/-- The name whose values a write changes, if it changes nothing else. -/
def Write.field? : Write → Option HeaderName
  | .setHeader n _ => some n
  | .appendHeader n _ => some n
  | .removeHeader n => some n
  | _ => none

variable {n : HeaderName}

theorem Write.sameBut_applyTo {w : Write} (h : w.field? = some n) (r : Response) : r.SameBut n (w.applyTo r) := by
  cases w with
  | setHeader m v | appendHeader m v | removeHeader m =>
    cases h
    exact ⟨rfl, rfl, fun m hm => by simp [Write.applyTo, Ne.symm hm]⟩
  | _ => cases h

theorem Write.sameBut_applyAll {ws : List Write} (h : ∀ w ∈ ws, w.field? = some n) (r : Response) :
    r.SameBut n (applyAll ws r) := by
  induction ws generalizing r with
  | nil => exact ⟨rfl, rfl, fun _ _ => rfl⟩
  | cons w ws ih =>
    exact (sameBut_applyTo (h w List.mem_cons_self) r).trans (ih (fun x hx => h x (.tail _ hx)) (w.applyTo r))

theorem Interceptor.sameBut_buffer {w : Write} (h : w.field? = some n) (i : Interceptor) (below : Response) :
    (i.commitOnto below).SameBut n ((i.buffer w).commitOnto below) := by
  have hremoves : ∀ m, m ≠ n → w.removes m = false := fun m hm => by
    cases w with
    | removeHeader k =>
      cases h
      exact beq_eq_false_iff_ne.mpr (Ne.symm hm)
    | _ => rfl
  have hfield : ∀ m, m ≠ n → ((i.buffer w).commitOnto below).headers.getAll m =
      (i.commitOnto below).headers.getAll m := fun m hm => by
    have hgone : m ∈ (i.buffer w).removed ↔ m ∈ i.removed := by simp [mem_removed_buffer, hremoves m hm]
    have hshown : (i.buffer w).headers.getAll m = i.headers.getAll m :=
      (Write.sameBut_applyTo h ⟨i.status, i.headers, i.body⟩).field m hm ▸ by cases w <;> rfl
    simp only [commitOnto, Headers.getAll_overlay, hgone, hshown]
  cases w with
  | setHeader | appendHeader | removeHeader => exact ⟨rfl, rfl, hfield⟩
  | _ => cases h

theorem Interceptor.sameBut_foldl {ws : List Write} (h : ∀ w ∈ ws, w.field? = some n) (i : Interceptor)
    (below : Response) : (i.commitOnto below).SameBut n ((ws.foldl buffer i).commitOnto below) := by
  induction ws generalizing i with
  | nil => exact ⟨rfl, rfl, fun _ _ => rfl⟩
  | cons w ws ih =>
    exact (sameBut_buffer (h w List.mem_cons_self) i below).trans (ih (fun x hx => h x (.tail _ hx)) (i.buffer w))

/-- What two canvases show is the same except for the values of a name, and so is what their buffers commit. -/
structure Canvas.SameBut (n : HeaderName) (c c' : Canvas) : Prop where
  shown : c.shown.SameBut n c'.shown
  committed : ∀ i i', c.intercepted = some i → c'.intercepted = some i' → ∀ below,
    (i.commitOnto below).SameBut n (i'.commitOnto below)

theorem Plan.sameBut {p : Plan} {c : Canvas} (hc : c.isClosed = false) (h : ∀ w ∈ p.writes, w.field? = some n) :
    c.SameBut n (p.carryOut c).1 where
  shown := (p.shown_carryOut hc).1 ▸ Write.sameBut_applyAll h c.shown
  committed := fun i i' hi hi' below => by
    obtain ⟨intercepted, raw⟩ := c
    cases hi
    rw [p.carryOut_open hc] at hi'
    cases hi'
    exact i.sameBut_foldl h below

/-! ## The check of a rule for cookies -/

namespace HardenCookies

variable {a : HardenCookies} {q : Request} {hs : Headers} {body : Bytes}

theorem writes_plan (a : HardenCookies) (q : Request) (hs : Headers) (body : Bytes) :
    ∀ w ∈ ((Action.hardenCookies a).plan q hs body).writes, w.field? = some .setCookie := by
  intro w hw
  simp only [Action.plan] at hw
  split at hw
  · cases hw
  · simp only [Plan.writes, List.map_map] at hw
    rcases List.mem_cons.mp hw with rfl | hw
    · rfl
    · obtain ⟨v, -, rfl⟩ := List.mem_map.mp hw
      rfl

theorem plan_of_settled (h : ∀ v ∈ hs.getAll .setCookie, a.Settled v) :
    (Action.hardenCookies a).plan q hs body = .leave .pass := by
  have hnone : (hs.getAll .setCookie).filterMap a.hardened? = [] :=
    List.filterMap_eq_nil_iff.mpr fun v hv => (h v hv).hardened?_eq_none
  simp [Action.plan, hnone]

theorem map_getD_eq_self_iff {vs : List HeaderValue} :
    (vs.map fun v => (a.hardened? v).getD v) = vs ↔ ∀ v ∈ vs, a.Settled v := by
  have hsame := List.map_inj_left (l := vs) (f := fun v => (a.hardened? v).getD v) (g := id)
  simpa only [List.map_id, id, getD_eq_self_iff] using hsame

theorem isApplied_plan : ((Action.hardenCookies a).plan q hs body).outcome.isApplied = true ↔
    ∃ v ∈ hs.getAll .setCookie, ¬a.Settled v := by
  by_cases h : ∀ v ∈ hs.getAll .setCookie, a.Settled v
  · rw [plan_of_settled h]
    refine iff_of_false (by simp [Plan.outcome, Outcome.isApplied]) ?_
    rintro ⟨v, hv, hnot⟩
    exact hnot (h v hv)
  · have hsome : ¬((hs.getAll .setCookie).filterMap a.hardened?).length = 0 := fun hnone => h fun v hv =>
      hardened?_eq_none_iff.mp (List.filterMap_eq_nil_iff.mp (List.length_eq_zero_iff.mp hnone) v hv)
    simp only [Action.plan, if_neg hsome]
    exact iff_of_true rfl (by simpa using h)

/-- The first part of the cookie has an equals sign, and the rule is for what stands before it. -/
def Names (a : HardenCookies) (cookie : List Char) : Prop :=
  ∃ name value, firstPart cookie = name ++ '=' :: value ∧ '=' ∉ name ∧
    a.cookie.isMatch (String.ofList (Text.trim name)) = true

theorem Names.concerns {cs : List Char} (h : a.Names cs) : a.Concerns cs := by
  obtain ⟨name, value, hsplit, hname, hmatch⟩ := h
  rwa [Concerns, cookieName_of_firstPart hsplit hname]

/-- What a check makes of the cookies that a canvas shows. -/
structure Hardens (a : HardenCookies) (c c' : Canvas) (o : Outcome) : Prop where
  pointwise : List.Forall₂ a.Hardened (c.headers.getAll .setCookie) (c'.headers.getAll .setCookie)
  kept : List.Forall₂ (fun v w => ∀ cs, v.chars? = some cs → a.Names cs → ∃ ds, w.chars? = some ds ∧ a.Complete ds)
    (c.headers.getAll .setCookie) (c'.headers.getAll .setCookie)
  settled : ∀ w ∈ c'.headers.getAll .setCookie, a.Settled w
  elsewhere : c.SameBut .setCookie c'
  applied : o.isApplied = true ↔ c'.headers.getAll .setCookie ≠ c.headers.getAll .setCookie
  quiet : o.isApplied = false → o = .pass
  framed : c.Framed c' o

end HardenCookies

variable {b : BuiltIn} {a : HardenCookies} {q : Request} {c : Canvas}

theorem BuiltIn.cookies_carryOut (ha : b.action = .hardenCookies a) (hq : b.scope.covers q.path = true)
    (hc : c.isClosed = false) :
    ((b.plan q c.headers c.body).carryOut c).1.headers.getAll .setCookie =
      (c.headers.getAll .setCookie).map fun v => (a.hardened? v).getD v := by
  have hadded : b.added? q.path .setCookie = none := by simp [added?, ha]
  have hvalue : ∀ v, b.hardened q.path v = (a.hardened? v).getD v := fun v => by simp [hardened, ha, hq]
  have hshown := ((b.plan q c.headers c.body).shown_carryOut hc).1
  have hcookies := b.cookies_rewrite q c.shown hadded
  rw [List.map_congr_left fun v _ => hvalue v] at hcookies
  exact (congrArg (fun r => r.headers.getAll .setCookie) hshown).trans hcookies

theorem BuiltIn.hardens (ha : b.action = .hardenCookies a) (hq : b.scope.covers q.path = true)
    (hc : c.isClosed = false) :
    a.Hardens c ((b.plan q c.headers c.body).carryOut c).1 ((b.plan q c.headers c.body).carryOut c).2 := by
  have hplan := ha ▸ plan_of_covers hq c.headers c.body
  have hcookies := cookies_carryOut ha hq hc
  have houtcome := ((b.plan q c.headers c.body).shown_carryOut hc).2.2
  have hpointwise : List.Forall₂ a.Hardened (c.headers.getAll .setCookie)
      (((b.plan q c.headers c.body).carryOut c).1.headers.getAll .setCookie) := by
    rw [hcookies, List.forall₂_map_right_iff, List.forall₂_same]
    exact fun v _ => a.hardened_getD v
  exact {
    pointwise := hpointwise
    kept := hpointwise.imp fun v w h cs hv hn => h.complete_of_concerns hv hn.concerns
    settled := fun w hw => by
      rw [hcookies] at hw
      obtain ⟨v, -, rfl⟩ := List.mem_map.mp hw
      exact (a.hardened_getD v).settled
    elsewhere := Plan.sameBut hc (hplan ▸ a.writes_plan q c.headers c.body)
    applied := by
      rw [houtcome, hplan, HardenCookies.isApplied_plan, ← hplan, hcookies, ne_eq, HardenCookies.map_getD_eq_self_iff]
      simp
    quiet := fun ho => by
      have hall : ∀ v ∈ c.headers.getAll .setCookie, a.Settled v := by
        rw [houtcome, hplan, Bool.eq_false_iff, ne_eq, HardenCookies.isApplied_plan] at ho
        simpa using ho
      rw [houtcome, hplan, HardenCookies.plan_of_settled hall]
      rfl
    framed := Plan.framed _ c fun o => BuiltIn.isVerdict_of_leave }

theorem RuleKind.build_addCookieFlags {pattern : String} {secure httpOnly : Bool} {action : Action}
    (h : (RuleKind.addCookieFlags pattern secure httpOnly).build = .ok action) :
    ∃ p, WholePattern.ofSource? pattern = some p ∧ action = .hardenCookies ⟨p, secure, httpOnly⟩ := by
  simp only [build] at h
  split at h
  · cases h
  · obtain ⟨p, hp, rfl⟩ := map_eq_ok.mp h
    exact ⟨p, wholePattern_eq_ok.mp hp, rfl⟩

theorem RuleDefinition.action_of_addCookieFlags {d : RuleDefinition} {pattern : String} {secure httpOnly : Bool}
    (hb : d.build = .ok b) (hkind : d.kind = .addCookieFlags pattern secure httpOnly) :
    ∃ p, WholePattern.ofSource? pattern = some p ∧ b.action = .hardenCookies ⟨p, secure, httpOnly⟩ :=
  RuleKind.build_addCookieFlags (hkind ▸ (parts_of_build hb).2.2)

/-- Where it applies, a rule for cookies hardens those that the response has, and then has nothing more to do. -/
theorem cookies_hardened {d : RuleDefinition} {pattern : String} {secure httpOnly : Bool} (hb : d.build = .ok b)
    (hkind : d.kind = .addCookieFlags pattern secure httpOnly) (hq : b.scope.covers q.path = true)
    (hc : c.isClosed = false) :
    ∃ p c' o, WholePattern.ofSource? pattern = some p ∧ b.toRule.check q c = (c', .finished o) ∧
      HardenCookies.Hardens ⟨p, secure, httpOnly⟩ c c' o ∧ b.toRule.check q c' = (c', .finished .pass) := by
  obtain ⟨p, hp, ha⟩ := RuleDefinition.action_of_addCookieFlags hb hkind
  have hhardens := BuiltIn.hardens ha hq hc
  refine ⟨p, _, _, hp, b.toRule_check q c, hhardens, ?_⟩
  rw [b.toRule_check, BuiltIn.plan_of_covers hq, ha, HardenCookies.plan_of_settled hhardens.settled]
  rfl

def flagging (cookie : String) : RuleDefinition where
  id := "flags"
  path := "/a"
  kind := .addCookieFlags cookie true false

theorem exists_pattern_sid : ∃ p, WholePattern.ofSource? "sid" = some p ∧
    p.isMatch "sid" = true ∧ p.isMatch "sid; Path" = false := by
  have hvalid : (WholePattern.ofSource? "sid").isSome := by
    simp only [WholePattern.ofSource?, Regex.ofText?, Regex.compile?, WholePattern.anchored_toList, Option.isSome_map]
    decide +kernel
  have hruns : (Regex.run? 4 {} "sid".toList).isSome := by decide
  have hstray : ¬Regex.StrayClose {} "sid".toList := fun h => by
    rw [h.run?_eq_none] at hruns
    cases hruns
  obtain ⟨p, hp⟩ := Option.isSome_iff_exists.mp hvalid
  obtain ⟨r, hr, hiff⟩ := WholePattern.exists_own hp hstray
  have hown : Regex.ofText? "sid" =
      some ⟨.text, .literal [115, 105, 100], (Regex.Expr.literal [115, 105, 100]).program⟩ := rfl
  cases hr.symm.trans hown
  refine ⟨p, hp, (hiff _).mpr ⟨by decide, by decide, by decide, rfl⟩, Bool.eq_false_iff.mpr fun h => ?_⟩
  exact absurd (show 3 = 9 from ((hiff _).mp h).2.2.2) (by decide)

theorem exists_flagging : ∃ b p, (flagging "sid").build = .ok b ∧
    b.scope.covers ({ uri := { rawPath := "/a" } } : Request).path = true ∧
    WholePattern.ofSource? "sid" = some p ∧ b.action = .hardenCookies ⟨p, true, false⟩ ∧
    p.isMatch "sid" = true ∧ p.isMatch "sid; Path" = false := by
  obtain ⟨path, hpath, hmatch⟩ := exists_pattern_a
  obtain ⟨p, hp, hsid, hlonger⟩ := exists_pattern_sid
  have hbuild : (flagging "sid").kind.build = .ok (.hardenCookies ⟨p, true, false⟩) :=
    map_eq_ok.mpr ⟨p, wholePattern_eq_ok.mpr hp, rfl⟩
  exact ⟨_, p, RuleDefinition.build_of_pattern (show (Text.trim "flags".toList).isEmpty = false by decide) hpath rfl
    hbuild, (Scope.covers_iff _ _).mpr ⟨hmatch, by simp⟩, hp, rfl, hsid, hlonger⟩

/-- A response that has a cookie and nothing else. -/
def Canvas.ofCookie (v : HeaderValue) : Canvas :=
  ⟨none, { headers := ⟨[(.setCookie, v)]⟩ }⟩

theorem getAll_ofCookie (v : HeaderValue) : (Canvas.ofCookie v).headers.getAll .setCookie = [v] := by
  simp [Canvas.ofCookie, Canvas.headers, Headers.getAll]

/-- Of a cookie that names itself, the flag is put behind its other attributes. -/
theorem sid_hardened : ∃ b, (flagging "sid").build = .ok b ∧
    b.scope.covers ({ uri := { rawPath := "/a" } } : Request).path = true ∧
    ∃ c' o w, b.toRule.check { uri := { rawPath := "/a" } } (.ofCookie ⟨Bytes.ofText "sid=1; Path=/; "⟩) =
        (c', .finished o) ∧
      c'.headers.getAll .setCookie = [w] ∧ w.chars? = some "sid=1; Path=/; Secure".toList := by
  obtain ⟨b, p, hb, hcovers, hp, -, hsid, -⟩ := exists_flagging
  have hchars : (⟨Bytes.ofText "sid=1; Path=/; "⟩ : HeaderValue).chars? = some "sid=1; Path=/; ".toList := by decide
  refine ⟨b, hb, hcovers, ?_⟩
  obtain ⟨p', c', o, hp', hcheck, hhardens, -⟩ := cookies_hardened hb rfl hcovers
    (show (Canvas.ofCookie ⟨Bytes.ofText "sid=1; Path=/; "⟩).isClosed = false from rfl)
  cases hp'.symm.trans hp
  have hpointwise := hhardens.pointwise
  rw [getAll_ofCookie, List.forall₂_cons_left_iff] at hpointwise
  obtain ⟨w, rest, hw, hrest, hnew⟩ := hpointwise
  cases hrest
  refine ⟨c', o, w, hcheck, hnew, ?_⟩
  cases hw with
  | unreadable chars => rw [hchars] at chars; cases chars
  | unconcerned chars other =>
    cases chars.symm.trans hchars
    exact absurd hsid other
  | complete chars complete =>
    cases chars.symm.trans hchars
    exact absurd (complete "Secure" List.mem_cons_self) (by decide)
  | extended chars concerned incomplete written =>
    cases chars.symm.trans hchars
    exact written

/-! ## Cookies with the same first part -/

/-- The rule changes a response that has the cookie and nothing else. -/
def BuiltIn.ChangesAlone (b : BuiltIn) (q : Request) (v : HeaderValue) : Prop :=
  (b.check q (.ofCookie v)).2.isApplied = true

theorem BuiltIn.changesAlone_iff (ha : b.action = .hardenCookies a) (hq : b.scope.covers q.path = true)
    {v : HeaderValue} {cs : List Char} (hv : v.chars? = some cs) :
    b.ChangesAlone q v ↔ a.Concerns cs ∧ ¬a.Complete cs := by
  rw [ChangesAlone, check_eq, ((b.plan q _ _).shown_carryOut rfl).2.2, plan_of_covers hq, ha,
    HardenCookies.isApplied_plan, getAll_ofCookie]
  simp [HardenCookies.Settled, hv]

/-- Two cookies with the same first part have the same name if that part has an equals sign, or if what follows it up
to the next equals sign is the same but for blanks. A rule then treats them alike. -/
theorem named_alike {d : RuleDefinition} {pattern : String} {secure httpOnly : Bool} (hb : d.build = .ok b)
    (hkind : d.kind = .addCookieFlags pattern secure httpOnly) {v w : HeaderValue} {cs ds : List Char}
    (hv : v.chars? = some cs) (hw : w.chars? = some ds)
    (hfirst : HardenCookies.firstPart cs = HardenCookies.firstPart ds) :
    (HardenCookies.cookieName cs = HardenCookies.cookieName ds ↔ HardenCookies.NamedAlike cs ds) ∧
    ∃ p, WholePattern.ofSource? pattern = some p ∧ (HardenCookies.NamedAlike cs ds →
      let a : HardenCookies := ⟨p, secure, httpOnly⟩
      (a.Concerns cs ↔ a.Concerns ds) ∧
      ∀ q : Request, b.scope.covers q.path = true → ¬a.Complete cs → ¬a.Complete ds →
        (b.ChangesAlone q v ↔ b.ChangesAlone q w)) := by
  obtain ⟨p, hp, ha⟩ := RuleDefinition.action_of_addCookieFlags hb hkind
  have hname := HardenCookies.cookieName_eq_iff hfirst
  refine ⟨hname, p, hp, fun halike => ?_⟩
  have hconcerns : HardenCookies.Concerns ⟨p, secure, httpOnly⟩ cs ↔
      HardenCookies.Concerns ⟨p, secure, httpOnly⟩ ds := by
    rw [HardenCookies.Concerns, HardenCookies.Concerns, hname.mpr halike]
  refine ⟨hconcerns, fun q hq hcs hds => ?_⟩
  rw [BuiltIn.changesAlone_iff ha hq hv, BuiltIn.changesAlone_iff ha hq hw, hconcerns]
  simp [hcs, hds]

/-- An attribute is nothing to a rule for a cookie that names itself. -/
theorem sid_named_alike : ∃ b, (flagging "sid").build = .ok b ∧
    b.scope.covers ({ uri := { rawPath := "/a" } } : Request).path = true ∧
    HardenCookies.NamedAlike "sid=1".toList "sid=1; Path=/".toList ∧
    (b.ChangesAlone { uri := { rawPath := "/a" } } ⟨Bytes.ofText "sid=1"⟩ ↔
      b.ChangesAlone { uri := { rawPath := "/a" } } ⟨Bytes.ofText "sid=1; Path=/"⟩) := by
  obtain ⟨b, p, hb, hcovers, hp, -⟩ := exists_flagging
  have hv : (⟨Bytes.ofText "sid=1"⟩ : HeaderValue).chars? = some "sid=1".toList := by decide
  have hw : (⟨Bytes.ofText "sid=1; Path=/"⟩ : HeaderValue).chars? = some "sid=1; Path=/".toList := by decide
  have hincomplete : ∀ cs ∈ ["sid=1".toList, "sid=1; Path=/".toList], ¬HardenCookies.Complete ⟨p, true, false⟩ cs := by
    intro cs hcs hcomplete
    have hlacks : ∀ cs ∈ ["sid=1".toList, "sid=1; Path=/".toList], HardenCookies.hasAttribute cs "Secure" = false := by
      decide
    have hhas := hcomplete "Secure" List.mem_cons_self
    rw [hlacks cs hcs] at hhas
    cases hhas
  obtain ⟨hname, p', hp', halike⟩ := named_alike hb rfl hv hw (by decide)
  cases hp'.symm.trans hp
  have hnamed := hname.mp (by decide)
  exact ⟨b, hb, hcovers, hnamed, (halike hnamed).2 _ hcovers (hincomplete _ (by simp)) (hincomplete _ (by simp))⟩

/-- Without an equals sign the attribute becomes part of the name, and the rule lets the cookie pass. -/
theorem sid_renamed : ∃ b, (flagging "sid").build = .ok b ∧
    b.scope.covers ({ uri := { rawPath := "/a" } } : Request).path = true ∧
    ∃ v w : HeaderValue, v.chars? = some "sid".toList ∧ w.chars? = some "sid; Path=/".toList ∧
      HardenCookies.firstPart "sid".toList = HardenCookies.firstPart "sid; Path=/".toList ∧
      b.ChangesAlone { uri := { rawPath := "/a" } } v ∧ ¬b.ChangesAlone { uri := { rawPath := "/a" } } w := by
  obtain ⟨b, p, hb, hcovers, -, ha, hsid, hlonger⟩ := exists_flagging
  have hv : (⟨Bytes.ofText "sid"⟩ : HeaderValue).chars? = some "sid".toList := by decide
  have hw : (⟨Bytes.ofText "sid; Path=/"⟩ : HeaderValue).chars? = some "sid; Path=/".toList := by decide
  refine ⟨b, hb, hcovers, _, _, hv, hw, by decide, ?_, fun hchanges => ?_⟩
  · refine (BuiltIn.changesAlone_iff ha hcovers hv).mpr ⟨hsid, fun hcomplete => ?_⟩
    exact absurd (hcomplete "Secure" List.mem_cons_self) (by decide)
  · have hconcerns := ((BuiltIn.changesAlone_iff ha hcovers hw).mp hchanges).1
    have hname : String.ofList (HardenCookies.cookieName "sid; Path=/".toList) = "sid; Path" := by decide
    rw [HardenCookies.Concerns, hname, hlonger] at hconcerns
    cases hconcerns

end Policy

end Portcullis

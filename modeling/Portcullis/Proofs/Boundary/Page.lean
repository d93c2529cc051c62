import Portcullis.Proofs.Boundary.Inspection
import Portcullis.Proofs.Boundary.Monitoring
import Portcullis.Proofs.Chain.Composition
import Portcullis.Proofs.Chain.Deciding
import Portcullis.Proofs.Policy.Blocking

/-!
# The page of a stopped exchange

What stands in place of the application's response is a page for the verdict, which the outbound rules go over like
over any response. None of them changes its status, and of its fields the last rule that sets one decides, but for the
cookies: what a rule sets there, the rules behind it may harden.
-/

namespace Portcullis.Policy
open Http

theorem Verdict.noStore_of_page {v : Verdict} {page : Response} (h : v.page? = some page) :
    page.headers.getAll .cacheControl = [noStore] := by
  cases v with
  | allow => cases h
  | block s =>
    cases h
    rfl
  | redirect l =>
    rw [page?, Option.some.injEq, redirectPage] at h
    split at h <;> subst h <;> rfl

/-- Over an empty response, a chain of built rules commits what those that run leave of a captured one. -/
theorem Chain.evaluateWith_capture (bs : List BuiltIn) (q : Request) (page : Response) :
    ∃ ran, ran <+: bs ∧ Stage.executed q ⟨.capture page, {}⟩ (bs.map BuiltIn.toRule) = ran.map BuiltIn.toRule ∧
      (evaluateWith ⟨bs.map BuiltIn.toRule⟩ q (.capture page) {}).1.outcomes = outcomesOn q page ran ∧
      (evaluateWith ⟨bs.map BuiltIn.toRule⟩ q (.capture page) {}).2 = rewritten q ran page := by
  obtain ⟨ran, hpre, hran, houtcomes, hcommitted⟩ := evaluateWith_shows bs q page {}
  have hshows := ((Stage.Shows.captured page {}).through q ran).1
  exact ⟨ran, hpre, hran, houtcomes, hcommitted.trans hshows.commitOnto_empty⟩

theorem PolicyDefinition.Holds.inbound_chain {p : PolicyDefinition} {e : Engine} {built : List BuiltIn}
    (h : p.Holds e built) : e.inbound = ⟨(built.filter (·.action.phase == .inbound)).map BuiltIn.toRule⟩ :=
  congrArg Chain.mk h.inbound_eq

theorem PolicyDefinition.Holds.outbound_chain {p : PolicyDefinition} {e : Engine} {built : List BuiltIn}
    (h : p.Holds e built) : e.outbound = ⟨(built.filter (·.action.phase == .outbound)).map BuiltIn.toRule⟩ :=
  congrArg Chain.mk h.outbound_eq

end Portcullis.Policy

namespace Portcullis.Boundary
open Http Policy

namespace Guard

variable {g : Guard} {p : PolicyDefinition} {mode : LoadMode} {request : Request} {app : Application} {phase : Phase}

theorem path_identified (g : Guard) (request : Request) : (g.identified request).path = request.path := by
  rw [identified]
  split <;> rfl

theorem getAll_withoutLength (r : Response) {n : HeaderName} (hn : n ≠ .contentLength) :
    (withoutLength r).headers.getAll n = r.headers.getAll n := by
  rw [withoutLength, Headers.getAll_remove, if_neg (Ne.symm hn)]

/-- The rules that run over a page rewrite it, and no field shows through from below. -/
theorem exists_rewritten {built : List BuiltIn} (h : p.Holds g.engine built) (request : Request) (page : Response) :
    ∃ ran, ran <+: built.filter (·.action.phase == .outbound) ∧
      (g.decorate (g.identified request) (g.inboundRun request).2.headers page).1.outcomes =
        outcomesOn (g.identified request) page ran ∧
      g.pageFor request page = withoutLength (rewritten (g.identified request) ran page) := by
  obtain ⟨ran, hpre, -, houtcomes, hrewritten⟩ :=
    Chain.evaluateWith_capture (built.filter (·.action.phase == .outbound)) (g.identified request) page
  rw [← h.outbound_chain] at houtcomes hrewritten
  have hraw : (g.inboundRun request).2 = {} := h.evaluateInbound_snd (g.identified request) {}
  rw [pageFor, hraw]
  exact ⟨ran, hpre, houtcomes, congrArg withoutLength hrewritten⟩

/-- An exchange of a policy is blocked with a status that reports an error. -/
theorem Aborted.isError {built : List BuiltIn} (h : p.Holds g.engine built) {s : Status}
    (ha : g.Aborted request app phase (.block s)) : s.isError = true := by
  have hfilter : ∀ phase : Phase, built.filter (·.action.phase == phase) ⊆ built := fun _ => List.filter_subset_self _
  cases ha with
  | inbound _ verdict =>
    rw [inboundRun, Engine.evaluateInbound, h.inbound_chain] at verdict
    exact h.isError_of_resolve (hfilter .inbound) verdict
  | outbound _ _ _ verdict =>
    rw [outboundRun, Engine.evaluateOutbound, h.outbound_chain] at verdict
    exact h.isError_of_resolve (hfilter .outbound) verdict

/-- What the client gets for a verdict, read off the rules that ran over the page. -/
structure PageShape (g : Guard) (p : PolicyDefinition) (request : Request) (v : Verdict) (ran : List BuiltIn)
    (response : Response) : Prop where
  isPrefix : ran.map BuiltIn.toRule <+: g.engine.outbound.rules
  executed : ∀ page, v.page? = some page →
    (g.decorate (g.identified request) (g.inboundRun request).2.headers page).1.outcomes.map Prod.fst = ran.map (·.id)
  /-- The rules that set a field are those whose definition does so and whose scope covers the path. -/
  adds : ∀ b ∈ ran, ∃ d ∈ p.rules, d.build = .ok b ∧ ∀ n value, b.added? request.path n = some value ↔
    b.scope.covers request.path = true ∧
      ∃ header text, d.kind = .addHeader header text ∧ HeaderName.parse? header = some n ∧
        HeaderValue.ofText? text = some value
  blocked : ∀ s, v = .block s → response.status = s ∧ s.isError = true
  redirected : ∀ l value, v = .redirect l → HeaderValue.ofText? l = some value →
    response.status = .found ∧
      response.headers.getAll .location = [(lastAdded request.path .location ran).getD value]
  /-- Where no field can hold the location, the redirect is a refusal. -/
  refused : ∀ l, v = .redirect l → HeaderValue.ofText? l = none → response.status = .forbidden
  noStore : lastAdded request.path .cacheControl ran = none →
    response.headers.getAll .cacheControl = [Verdict.noStore]
  added : ∀ n value, n ≠ .setCookie → n ≠ .contentLength → lastAdded request.path n ran = some value →
    response.headers.getAll n = [value]
  cookie : ∀ front b back value, ran = front ++ b :: back → b.added? request.path .setCookie = some value →
    lastAdded request.path .setCookie back = none →
    response.headers.getAll .setCookie = [back.foldl (BuiltIn.hardened request.path) value]
  unsized : response.headers.getAll .contentLength = []

/-- Whatever chain of a policy stops an exchange, the client gets the page for the verdict with the fields that the
outbound rules add, also where one of them stops the outbound chain on the page. -/
theorem page_of_aborted (h : p.compile mode = .ok g.engine) {v : Verdict} (ha : g.Aborted request app phase v)
    (l : Ledger) (marks : Marks) : ∃ ran, g.PageShape p request v ran (g.inspect l marks request app).response := by
  obtain ⟨built, hholds⟩ := PolicyDefinition.holds_of_compile h
  obtain ⟨page, hpage, hresponse⟩ := ha.response l marks
  obtain ⟨ran, hpre, houtcomes, hrewritten⟩ := exists_rewritten hholds request page
  rw [hrewritten] at hresponse
  have hpath := g.path_identified request
  have hstatus : (g.inspect l marks request app).response.status = page.status := by
    rw [hresponse]
    exact status_rewritten _ ran page
  have hfield : ∀ n, n ≠ .setCookie → n ≠ .contentLength →
      (g.inspect l marks request app).response.headers.getAll n =
        ((lastAdded request.path n ran).map ([·])).getD (page.headers.getAll n) := fun n hc hl => by
    rw [hresponse, getAll_withoutLength _ hl, getAll_rewritten _ ran page hc hl, hpath]
  refine ⟨ran, ?_⟩
  exact {
    isPrefix := hholds.outbound_eq ▸ hpre.map BuiltIn.toRule
    executed := fun page' hpage' => by
      cases hpage.symm.trans hpage'
      rw [houtcomes, map_fst_outcomesOn]
    adds := fun b hb => by
      obtain ⟨d, hd, hbuild⟩ := exists_definition hholds.builds (List.mem_filter.mp (hpre.subset hb)).1
      exact ⟨d, hholds.fileOrder.subset hd, hbuild, fun n value => BuiltIn.added?_eq_some hbuild⟩
    blocked := fun s hv => by
      subst hv
      cases hpage
      exact ⟨hstatus, ha.isError hholds⟩
    redirected := fun l value hv hl => by
      subst hv
      rw [Verdict.page?, Verdict.redirectPage, hl] at hpage
      cases hpage
      refine ⟨hstatus, ?_⟩
      rw [hfield .location (by decide) (by decide)]
      cases lastAdded request.path .location ran <;> rfl
    refused := fun l hv hl => by
      subst hv
      rw [Verdict.page?, Verdict.redirectPage, hl] at hpage
      cases hpage
      exact hstatus
    noStore := fun hnone => by
      rw [hfield .cacheControl (by decide) (by decide), hnone]
      exact Verdict.noStore_of_page hpage
    added := fun n value hc hl hlast => by
      rw [hfield n hc hl, hlast]
      rfl
    cookie := fun front b back value hsplit hb hback => by
      rw [hresponse, getAll_withoutLength _ (by decide), hsplit, ← hpath]
      rw [← hpath] at hb hback
      exact cookies_rewritten_of_added (g.identified request) front hb hback page
    unsized := by rw [hresponse, withoutLength, Headers.getAll_remove, if_pos rfl] }

/-- A policy that refuses what is not posted, and stamps a cookie that it then hardens. -/
def baking : PolicyDefinition where
  name := "baking"
  rules := [
    { id := "posts", path := "/a", kind := .restrictMethod ["POST"] 405 },
    { id := "cookie", path := "/a", kind := .addHeader "Set-Cookie" "/a=1" },
    { id := "flags", path := "/a", kind := .addCookieFlags "/a" true false }]

def posts (p : WholePattern) : BuiltIn :=
  ⟨"posts", ⟨p, []⟩, .restrictMethod ⟨[⟨"POST"⟩], .methodNotAllowed⟩⟩

def cookie (p : WholePattern) : BuiltIn :=
  ⟨"cookie", ⟨p, []⟩, .addHeader ⟨.setCookie, ⟨Bytes.ofText "/a=1"⟩⟩⟩

def flags (p : WholePattern) : BuiltIn :=
  ⟨"flags", ⟨p, []⟩, .hardenCookies ⟨p, true, false⟩⟩

def baked (p : WholePattern) : Guard where
  engine := { inbound := ⟨[(posts p).toRule]⟩, outbound := ⟨[cookie p, flags p].map BuiltIn.toRule⟩ }

section Baking

variable {pattern : WholePattern} (hp : WholePattern.ofSource? "/a" = some pattern)
  (hmatch : pattern.isMatch "/a" = true)

include hp in
theorem baking_builds : List.Forall₂ (fun d b => d.build = .ok b) baking.rules
    [posts pattern, cookie pattern, flags pattern] := by
  refine .cons ?_ (.cons ?_ (.cons ?_ .nil))
  · exact RuleDefinition.build_of_pattern (show (Text.trim "posts".toList).isEmpty = false by decide) hp rfl rfl
  · exact RuleDefinition.build_of_pattern (show (Text.trim "cookie".toList).isEmpty = false by decide) hp rfl rfl
  · refine RuleDefinition.build_of_pattern (show (Text.trim "flags".toList).isEmpty = false by decide) hp rfl ?_
    simp only [RuleKind.build, wholePattern, hp]
    rfl

include hp in
theorem baking_compile : baking.compile .strict = .ok (baked pattern).engine := by
  obtain _ | ⟨hposts, _ | ⟨hcookie, _ | ⟨hflags, -⟩⟩⟩ := baking_builds hp
  rw [PolicyDefinition.compile_of_fit (show Enforcer.ofSettings baking.settings = .ok {} by decide) (by decide)]
  simp only [baking, PolicyDefinition.buildRules, hposts, hcookie, hflags]
  rfl

include hmatch in
theorem baking_aborted : (baked pattern).Aborted atA (fun _ => {}) .inbound (.block .methodNotAllowed) := by
  refine .inbound (Nat.zero_le _) ?_ (by simp)
  have hcovers : (posts pattern).scope.covers atA.path = true := covers_atA hmatch
  have hrun : Chain.runRules atA [(posts pattern).toRule] {} {} =
      ⟨.abort "posts" (.abort (some (.block .methodNotAllowed)) (some "method GET not allowed")),
        [("posts", .abort (some (.block .methodNotAllowed)) (some "method GET not allowed"))], {}, {}⟩ := by
    simp only [Chain.runRules, BuiltIn.toRule_check, BuiltIn.plan, hcovers, if_true]
    rfl
  have hresult : (baked pattern).inboundRun atA = Chain.evaluateWith ⟨[(posts pattern).toRule]⟩ atA {} {} := rfl
  rw [hresult, Chain.evaluateWith, hrun]
  rfl

include hmatch in
theorem baking_hardened : BuiltIn.hardened atA.path ⟨Bytes.ofText "/a=1"⟩ (flags pattern) =
    ⟨Bytes.ofText "/a=1; Secure"⟩ := by
  have hchars : (⟨Bytes.ofText "/a=1"⟩ : HeaderValue).chars? = some ['/', 'a', '=', '1'] := by decide
  have hname : String.ofList (HardenCookies.cookieName ['/', 'a', '=', '1']) = "/a" := by decide
  simp only [BuiltIn.hardened, flags, covers_atA hmatch, if_true, HardenCookies.hardened?, hchars, Option.bind_some,
    HardenCookies.harden?, hname, hmatch]
  rfl

end Baking

/-- Both rules for the response run over every page. -/
theorem baking_decorated (pattern : WholePattern) (page : Response) :
    ((baked pattern).decorate atA {} page).1.outcomes = outcomesOn atA page [cookie pattern, flags pattern] ∧
      ((baked pattern).decorate atA {} page).2 =
        withoutLength (rewritten atA [cookie pattern, flags pattern] page) := by
  obtain ⟨ran, hpre, hran, houtcomes, hrewritten⟩ :=
    Chain.evaluateWith_capture [cookie pattern, flags pattern] atA page
  rw [Stage.executed_of_rewrites atA (by simp [cookie, flags, Action.rewrites])] at hran
  obtain rfl := hpre.eq_of_length (by simpa using (congrArg List.length hran).symm)
  exact ⟨houtcomes, congrArg withoutLength hrewritten⟩

/-- The refusal of what is not posted is not to be stored. -/
theorem baking_page : ∃ g : Guard, baking.compile .strict = .ok g.engine ∧
    g.Aborted atA (fun _ => {}) .inbound (.block .methodNotAllowed) ∧
    (g.inspect (.ofCapacity 1) default atA fun _ => {}).response.status = .methodNotAllowed ∧
    (g.inspect (.ofCapacity 1) default atA fun _ => {}).response.headers.getAll .cacheControl = [Verdict.noStore] := by
  obtain ⟨pattern, hp, hmatch⟩ := exists_pattern_a
  refine ⟨baked pattern, baking_compile hp, baking_aborted hmatch, ?_⟩
  obtain ⟨ran, hshape⟩ := page_of_aborted (baking_compile hp) (baking_aborted hmatch) (.ofCapacity 1) default
  refine ⟨(hshape.blocked _ rfl).1, hshape.noStore ?_⟩
  -- the one rule that adds a field does not add this one
  have hadded : ∀ b ∈ ran, b.added? atA.path .cacheControl = none := fun b hb => by
    obtain ⟨d, hd, -, hadds⟩ := hshape.adds b hb
    refine Option.eq_none_iff_forall_ne_some.mpr fun value hvalue => ?_
    obtain ⟨-, header, text, hkind, hname, -⟩ := (hadds _ value).mp hvalue
    simp only [baking, List.mem_cons, List.not_mem_nil, or_false] at hd
    rcases hd with rfl | rfl | rfl <;> cases hkind
    exact absurd hname (by decide)
  rw [lastAdded, List.getLast?_eq_none_iff, List.filterMap_eq_nil_iff]
  exact hadded

/-- The cookie that a rule sets on the page is not the one that the client gets: the rule behind it hardens it. -/
theorem baking_hardens_cookie : ∃ g : Guard, baking.compile .strict = .ok g.engine ∧
    g.Aborted atA (fun _ => {}) .inbound (.block .methodNotAllowed) ∧
    ∃ page ran, Verdict.page? (.block .methodNotAllowed) = some page ∧
      ran.map BuiltIn.toRule <+: g.engine.outbound.rules ∧
      (g.decorate (g.identified atA) (g.inboundRun atA).2.headers page).1.outcomes.map Prod.fst = ran.map (·.id) ∧
      lastAdded atA.path .setCookie ran = some ⟨Bytes.ofText "/a=1"⟩ ∧
      ⟨Bytes.ofText "/a=1"⟩ ∉
        (g.inspect (.ofCapacity 1) default atA fun _ => {}).response.headers.getAll .setCookie := by
  obtain ⟨pattern, hp, hmatch⟩ := exists_pattern_a
  obtain ⟨built, hholds⟩ := PolicyDefinition.holds_of_compile (baking_compile hp)
  have hraw : ((baked pattern).inboundRun atA).2 = {} := hholds.evaluateInbound_snd atA {}
  have ha := baking_aborted hmatch
  obtain ⟨page, hpage, hresponse⟩ := ha.response (.ofCapacity 1) default
  obtain ⟨houtcomes, hdecorated⟩ := baking_decorated pattern page
  have hadded : (cookie pattern).added? atA.path .setCookie = some ⟨Bytes.ofText "/a=1"⟩ := by
    simp [BuiltIn.added?, cookie, covers_atA hmatch]
  have hlast : lastAdded atA.path .setCookie [cookie pattern, flags pattern] = some ⟨Bytes.ofText "/a=1"⟩ := by
    rw [lastAdded, List.filterMap_cons_some hadded]
    rfl
  refine ⟨baked pattern, baking_compile hp, ha, page, [cookie pattern, flags pattern], hpage, List.prefix_refl _, ?_,
    hlast, ?_⟩
  · rw [hraw, ← map_fst_outcomesOn atA _ page, ← houtcomes]
    rfl
  · have hcookie : (rewritten atA [cookie pattern, flags pattern] page).headers.getAll .setCookie =
        [⟨Bytes.ofText "/a=1; Secure"⟩] :=
      (cookies_rewritten_of_added atA [] hadded rfl page).trans
        (congrArg (fun v => [v]) (baking_hardened hmatch))
    have hpageFor : (baked pattern).pageFor atA page =
        withoutLength (rewritten atA [cookie pattern, flags pattern] page) := by
      rw [pageFor, hraw, ← hdecorated]
      rfl
    rw [hresponse, hpageFor, getAll_withoutLength _ (by decide), hcookie]
    decide

end Guard

end Portcullis.Boundary

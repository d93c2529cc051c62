import Portcullis.Proofs.Boundary.Inspection
import Portcullis.Proofs.Chain.Deciding
import Portcullis.Proofs.Policy.Omission

/-!
# Aborts that are only recorded

Where aborts are only recorded, a response is the work of the rewriting rules that its chain got to. Detections take
no part in it, except that the chain does not get to what stands behind one that found something.
-/

namespace Portcullis.Policy
open Http

/-! ## Definitions that detect and definitions that rewrite -/

namespace RuleKind

def detects : RuleKind → Bool
  | .detectOutboundContent .. => true
  | _ => false

def rewrites : RuleKind → Bool
  | .addHeader .. => true
  | .addCookieFlags .. => true
  | .replaceContent .. => true
  | _ => false

theorem not_detects_of_rewrites {k : RuleKind} (h : k.rewrites = true) : k.detects = false := by
  cases k with
  | addHeader | addCookieFlags | replaceContent => rfl
  | _ => cases h

/-- What is built rewrites if its definition does, and what is outbound then either rewrites or detects. -/
theorem action_of_build {k : RuleKind} {a : Action} (h : k.build = .ok a) :
    a.rewrites = k.rewrites ∧ (a.phase == .outbound) = (k.rewrites || k.detects) := by
  cases k with
  | addHeader header value =>
    obtain ⟨_, _, rfl⟩ := map_eq_ok.mp h
    exact ⟨rfl, rfl⟩
  | addCookieFlags cookie secure httpOnly =>
    simp only [build] at h
    split at h
    · cases h
    · obtain ⟨_, _, rfl⟩ := map_eq_ok.mp h
      exact ⟨rfl, rfl⟩
  | replaceContent pattern replacement contentType =>
    obtain ⟨_, _, h⟩ := bind_eq_ok.mp h
    obtain ⟨_, _, h⟩ := bind_eq_ok.mp h
    cases h
    exact ⟨rfl, rfl⟩
  | detectOutboundContent pattern keywords contentType status =>
    simp only [build] at h
    split at h
    all_goals
      obtain ⟨_, _, h⟩ := bind_eq_ok.mp h
      obtain ⟨_, _, h⟩ := bind_eq_ok.mp h
      obtain ⟨_, _, h⟩ := bind_eq_ok.mp h
      cases h
      exact ⟨rfl, rfl⟩
  | restrictMethod methods status =>
    obtain ⟨_, _, h⟩ := bind_eq_ok.mp h
    split at h
    · cases h
    · obtain ⟨_, _, h⟩ := bind_eq_ok.mp h
      cases h
      exact ⟨rfl, rfl⟩
  | enforceHttps =>
    cases h
    exact ⟨rfl, rfl⟩
  | requireRole roles status redirect =>
    simp only [build] at h
    split at h
    all_goals
      obtain ⟨_, _, h⟩ := bind_eq_ok.mp h
      cases h
      exact ⟨rfl, rfl⟩
  | virtualPatch header parameter pattern message =>
    simp only [build] at h
    split at h
    all_goals
      obtain ⟨_, _, h⟩ := bind_eq_ok.mp h
      obtain ⟨_, _, h⟩ := bind_eq_ok.mp h
      cases h
      exact ⟨rfl, rfl⟩

end RuleKind

theorem RuleDefinition.action_of_build {d : RuleDefinition} {b : BuiltIn} (h : d.build = .ok b) :
    b.action.rewrites = d.kind.rewrites ∧ (b.action.phase == .outbound) = (d.kind.rewrites || d.kind.detects) :=
  RuleKind.action_of_build (parts_of_build h).2.2

/-- No definition of another kind repeats the id of a detection before it. -/
def DetectionsApart (ds : List RuleDefinition) : Prop :=
  ds.Pairwise fun d x => d.kind.detects = true → x.kind.detects = false → x.id ≠ d.id

/-! ## Where a chain ends -/

namespace PolicyDefinition

variable {p : PolicyDefinition} {e : Engine} {built : List BuiltIn}

def withoutDetections (p : PolicyDefinition) : PolicyDefinition :=
  { p with rules := p.rules.filter (!·.kind.detects) }

/-- Where the outbound chain of a policy ended: behind all of its definitions, or at a detection between those before
and those behind it. -/
inductive EndsAt (p : PolicyDefinition) (r : ChainResult) : List RuleDefinition → List RuleDefinition → Prop where
  | finished (allowed : r.disposition = .allow) : EndsAt p r p.rules []
  | stopped {before after : List RuleDefinition} {d : RuleDefinition} (split : p.rules = before ++ d :: after)
    (detects : d.kind.detects = true) (faultless : d.fault? before = none) (stop : r.abortedBy? = some d.id) :
    EndsAt p r before after

theorem filter_rewrites_of_outbound (bs : List BuiltIn) :
    (bs.filter (·.action.phase == .outbound)).filter (·.action.rewrites) = bs.filter (·.action.rewrites) := by
  rw [List.filter_filter]
  refine List.filter_congr fun b _ => ?_
  cases hb : b.action.rewrites with
  | false => rfl
  | true => rw [Action.phase_of_rewrites hb]; rfl

theorem built_rewriting {ds : List RuleDefinition} {bs : List BuiltIn}
    (h : List.Forall₂ (fun d b => d.build = .ok b) ds bs) :
    List.Forall₂ (fun d b => d.build = .ok b) (ds.filter (·.kind.rewrites)) (bs.filter (·.action.rewrites)) := by
  refine List.rel_filter (fun d b hb => ?_) h
  exact Bool.eq_iff_iff.mp (d.action_of_build hb).1.symm

/-- What some built rules were built from parts at a detection as they do. -/
theorem exists_detection {ds : List RuleDefinition} {bs front rest : List BuiltIn} {b : BuiltIn}
    (h : List.Forall₂ (fun d b => d.build = .ok b) ds bs)
    (hsplit : bs.filter (·.action.phase == .outbound) = front ++ b :: rest) (hb : b.action.rewrites = false) :
    ∃ before d after bs', ds = before ++ d :: after ∧ d.kind.detects = true ∧ d.id = b.id ∧
      List.Forall₂ (fun d b => d.build = .ok b) before bs' ∧
      bs'.filter (·.action.rewrites) = front.filter (·.action.rewrites) := by
  obtain ⟨u, tail, rfl, rfl, htail⟩ := List.filter_eq_append_iff.mp hsplit
  obtain ⟨v, w, rfl, hv, hphase, -⟩ := List.filter_eq_cons_iff.mp htail
  have hbefore := List.forall₂_take_append ds (u ++ v) (b :: w) (by rwa [List.append_assoc])
  have hbehind := List.forall₂_drop_append ds (u ++ v) (b :: w) (by rwa [List.append_assoc])
  obtain ⟨d, after, hd, -, hdrop⟩ := List.forall₂_cons_right_iff.mp hbehind
  obtain ⟨hrewrites, houtbound⟩ := d.action_of_build hd
  refine ⟨_, d, after, u ++ v, ?_, ?_, ?_, hbefore, ?_⟩
  · rw [← hdrop, List.take_append_drop]
  · rw [hphase, ← hrewrites, hb] at houtbound
    exact houtbound.symm
  · exact (RuleDefinition.parts_of_build hd).1.symm
  · rw [← filter_rewrites_of_outbound (u ++ v), List.filter_append, List.filter_eq_nil_iff.mpr hv, List.append_nil]

/-- What is committed of an answer once some rules have run over it. -/
def committedBy (work : List BuiltIn) (q : Request) (answer : Response) : Response :=
  let s : Stage := Stage.through ⟨.capture answer, {}⟩ q (work.map BuiltIn.toRule)
  s.buffer.commitOnto s.raw

/-- A response is the work of the rewriting rules that the outbound chain got to. -/
theorem Holds.exists_reached (h : p.Holds e built) (q : Request) (answer : Response) :
    ∃ reached unreached work, p.EndsAt (e.evaluateOutbound q (.capture answer) {}).1 reached unreached ∧
      List.Forall₂ (fun d b => d.build = .ok b) ((usable [] reached).filter (·.kind.rewrites)) work ∧
      (e.evaluateOutbound q (.capture answer) {}).2 = committedBy work q answer := by
  let s : Stage := ⟨.capture answer, {}⟩
  let out := built.filter (·.action.phase == .outbound)
  have hrun : ∀ work : List BuiltIn,
      s.through q (s.executed q (out.map BuiltIn.toRule)) = s.through q (work.map BuiltIn.toRule) →
      (e.evaluateOutbound q (.capture answer) {}).1.disposition =
          .ofLast (s.outcomes q (s.executed q (out.map BuiltIn.toRule))).getLast? ∧
        (e.evaluateOutbound q (.capture answer) {}).2 = committedBy work q answer := by
    intro work hwork
    have hrun := Chain.evaluateWith_eq (out.map BuiltIn.toRule) q s
      (by rw [hwork]; exact Stage.isOpen_through q work rfl)
    have hchain : e.outbound = ⟨out.map BuiltIn.toRule⟩ := congrArg Chain.mk h.outbound_eq
    rw [Engine.evaluateOutbound, hchain, hrun, hwork]
    exact ⟨rfl, rfl⟩
  rcases s.executed_built_cases q out with ⟨hend, hwork⟩ | ⟨front, b, rest, o, hsplit, hb, hend, hwork⟩
  · obtain ⟨hdisposition, hcommitted⟩ := hrun _ hwork
    refine ⟨p.rules, [], _, .finished (hdisposition.trans hend), ?_, hcommitted⟩
    rw [filter_rewrites_of_outbound]
    exact built_rewriting h.builds
  · obtain ⟨hdisposition, hcommitted⟩ := hrun _ hwork
    obtain ⟨before', d, after', bs', hds, hdetects, hid, hbefore, hbs'⟩ := exists_detection h.builds hsplit hb
    obtain ⟨before, after, hrules, rfl, hfault⟩ := usable_split hds
    refine ⟨before, after, _, .stopped hrules hdetects hfault ?_, ?_, hcommitted⟩
    · rw [ChainResult.abortedBy?, hdisposition, hend, hid]
    · rw [← hbs']
      exact built_rewriting hbefore

theorem EndsAt.sublist {r : ChainResult} {reached unreached : List RuleDefinition} (h : p.EndsAt r reached unreached) :
    (reached ++ unreached).Sublist p.rules := by
  cases h with
  | finished allowed => rw [List.append_nil]
  | stopped split detects faultless stop =>
    rw [split]
    exact (List.Sublist.refl _).append (List.sublist_cons_self _ _)

theorem EndsAt.filter_detects {r : ChainResult} {reached unreached : List RuleDefinition}
    (h : p.EndsAt r reached unreached) :
    (reached ++ unreached).filter (!·.kind.detects) = p.rules.filter (!·.kind.detects) := by
  cases h with
  | finished allowed => rw [List.append_nil]
  | stopped split detects faultless stop =>
    rw [split, List.filter_append, List.filter_append, List.filter_cons_of_neg (by simp [detects])]

/-- Where there are no detections, the chain always gets to the end. -/
theorem EndsAt.finished_of_withoutDetections {r : ChainResult} {reached unreached : List RuleDefinition}
    (h : p.withoutDetections.EndsAt r reached unreached) : reached = p.withoutDetections.rules := by
  cases h with
  | finished allowed => rfl
  | @stopped _ _ d split detects faultless stop =>
    have hd : d ∈ p.withoutDetections.rules := by simp [split]
    simp [withoutDetections, detects] at hd

/-- Neither detections nor rules at the end that do not rewrite count for what is rewritten. -/
theorem usable_rewriting {reached extra : List RuleDefinition}
    (hids : DetectionsApart (reached ++ extra)) (hextra : ∀ d ∈ extra, d.kind.rewrites = false) :
    (usable [] ((reached ++ extra).filter (!·.kind.detects))).filter (·.kind.rewrites) =
      (usable [] reached).filter (·.kind.rewrites) := by
  have hnone : (usable reached extra).filter (·.kind.rewrites) = [] :=
    List.filter_eq_nil_iff.mpr fun d hd => by simp [hextra d ((usable_sublist _ _).subset hd)]
  have hkeep : usable (List.filter (!·.kind.detects) []) ((reached ++ extra).filter (!·.kind.detects)) =
      (usable [] (reached ++ extra)).filter (!·.kind.detects) :=
    usable_filter (hids.imp fun {d x} h hd hx => h (by simpa using hd) (by simpa using hx)) nofun
  rw [List.filter_nil] at hkeep
  have hboth : ∀ d : RuleDefinition, (d.kind.rewrites && !d.kind.detects) = d.kind.rewrites := fun d => by
    cases hd : d.kind.rewrites with
    | false => rfl
    | true => rw [RuleKind.not_detects_of_rewrites hd]; rfl
  calc (usable [] ((reached ++ extra).filter (!·.kind.detects))).filter (·.kind.rewrites)
      = (usable [] (reached ++ extra)).filter (·.kind.rewrites) := by
        rw [hkeep, List.filter_filter]
        exact List.filter_congr fun d _ => hboth d
    _ = (usable [] reached).filter (·.kind.rewrites) ++ (usable reached extra).filter (·.kind.rewrites) := by
        rw [usable_append, List.filter_append, List.nil_append]
    _ = (usable [] reached).filter (·.kind.rewrites) := by rw [hnone, List.append_nil]

end PolicyDefinition

theorem Enforcer.mode_of_settings {s : Settings} {e : Enforcer} (h : Enforcer.ofSettings s = .ok e) :
    e.mode = s.mode := by
  simp only [ofSettings] at h
  repeat' split at h
  all_goals cases h
  rfl

theorem Enforcer.resolve_of_log {e : Enforcer} (h : e.mode = .log) (r : ChainResult) : e.resolve r = .allow := by
  simp only [resolve, h]
  split <;> rfl

end Portcullis.Policy

namespace Portcullis.Boundary
open Http Policy

namespace Guard

variable {g : Guard} {request : Request} {app : Application} {p : PolicyDefinition} {mode : LoadMode}

theorem inspect_response_of_log (h : g.engine.enforcer.mode = .log) (l : Ledger) (marks : Marks) :
    (g.inspect l marks request app).response =
      if request.body.length > g.config.maxBodyBytes then .bare .payloadTooLarge
      else if (app (g.identified request)).body.length > g.config.maxResponseBytes then .bare .badGateway
      else withoutLength (g.outboundRun request (app (g.identified request))).2 := by
  simp only [inspect_response, Enforcer.resolve_of_log h, Verdict.page?]

/-- The guard answers as one with another policy does. -/
def RespondsAs (g : Guard) (mode : LoadMode) (p : PolicyDefinition) (request : Request) (app : Application) : Prop :=
  ∃ e, p.compile mode = .ok e ∧ ∀ l l' marks marks',
    (g.inspect l marks request app).response = ({ g with engine := e }.inspect l' marks' request app).response

/-- A policy that loads strictly uses no id again at all. -/
theorem detectionsApart_of_compile {e : Engine} (h : p.compile mode = .ok e)
    (hids : mode = .lenient → DetectionsApart p.rules) : DetectionsApart p.rules := by
  cases mode with
  | lenient => exact hids rfl
  | strict =>
    have hnodup := (PolicyDefinition.faultless_of_compile h).nodup
    exact (List.pairwise_map.mp hnodup).imp fun hne _ _ => hne.symm

theorem RespondsAs.of_work (h : p.compile mode = .ok g.engine) (hlog : p.settings.mode = .log)
    {reached extra : List RuleDefinition} (hsub : (reached ++ extra).Sublist p.rules)
    (hids : DetectionsApart (reached ++ extra)) (hextra : ∀ d ∈ extra, d.kind.rewrites = false) {work : List BuiltIn}
    (hwork : List.Forall₂ (fun d b => d.build = .ok b) ((usable [] reached).filter (·.kind.rewrites)) work)
    (hcommitted : (g.outboundRun request (app (g.identified request))).2 =
      PolicyDefinition.committedBy work (g.identified request) (app (g.identified request))) :
    g.RespondsAs mode { p with rules := reached ++ extra }.withoutDetections request app := by
  let p' : PolicyDefinition := { p with rules := reached ++ extra }.withoutDetections
  obtain ⟨e', he'⟩ : ∃ e', p'.compile mode = .ok e' :=
    PolicyDefinition.compile_of_sublist h (List.filter_sublist.trans hsub)
  obtain ⟨built, hholds⟩ := PolicyDefinition.holds_of_compile h
  obtain ⟨built', hholds'⟩ := PolicyDefinition.holds_of_compile he'
  obtain ⟨reached', unreached', work', hends', hwork', hcommitted'⟩ :=
    hholds'.exists_reached (g.identified request) (app (g.identified request))
  -- without detections the chain gets to the end, and has the same work to do
  have hsame : work' = work := by
    rw [hends'.finished_of_withoutDetections] at hwork'
    refine PolicyDefinition.built_unique hwork' ?_
    exact PolicyDefinition.usable_rewriting hids hextra ▸ hwork
  have hraw : (inboundRun { g with engine := e' } request).2 = {} := hholds'.evaluateInbound_snd (g.identified request) {}
  have hother : (outboundRun { g with engine := e' } request (app (g.identified request))).2 =
      (g.outboundRun request (app (g.identified request))).2 := by
    rw [hcommitted, ← hsame, ← hcommitted', outboundRun, hraw]
    rfl
  refine ⟨e', he', fun l l' marks marks' => ?_⟩
  rw [inspect_response_of_log ((Enforcer.mode_of_settings hholds.enforcer).trans hlog),
    inspect_response_of_log ((Enforcer.mode_of_settings hholds'.enforcer).trans hlog), ← hother]
  rfl

/-- Where aborts are only recorded, a response is the one that the policy without its detections would give, except
that rules which rewrite have no part in it behind a detection that stopped the outbound chain. -/
theorem monitoring_response (h : p.compile mode = .ok g.engine) (hlog : p.settings.mode = .log)
    (hids : mode = .lenient → DetectionsApart p.rules) (request : Request) (app : Application) :
    ∃ reached unreached : List RuleDefinition,
      p.EndsAt (g.outboundRun request (app (g.identified request))).1 reached unreached ∧
      g.RespondsAs mode
        { p with rules := reached ++ unreached.filter fun d : RuleDefinition => !d.kind.rewrites }.withoutDetections
        request app ∧
      ((∀ d ∈ unreached, d.kind.rewrites = false) → g.RespondsAs mode p.withoutDetections request app) := by
  obtain ⟨built, hholds⟩ := PolicyDefinition.holds_of_compile h
  obtain ⟨reached, unreached, work, hends, hwork, hcommitted⟩ :=
    hholds.exists_reached (g.identified request) (app (g.identified request))
  have hraw : (g.inboundRun request).2 = {} := hholds.evaluateInbound_snd (g.identified request) {}
  rw [← hraw] at hends hcommitted
  have hapart : DetectionsApart p.rules := detectionsApart_of_compile h hids
  have hresponds : ∀ extra : List RuleDefinition, extra.Sublist unreached → (∀ d ∈ extra, d.kind.rewrites = false) →
      g.RespondsAs mode { p with rules := reached ++ extra }.withoutDetections request app := fun extra hsub hextra =>
    have hrules := ((List.Sublist.refl reached).append hsub).trans hends.sublist
    .of_work h hlog hrules (List.Pairwise.sublist hrules hapart) hextra hwork hcommitted
  refine ⟨reached, unreached, hends, hresponds _ List.filter_sublist fun d hd => ?_, fun hnone => ?_⟩
  · simpa using (List.mem_filter.mp hd).2
  · have hall := hresponds unreached (List.Sublist.refl _) hnone
    rw [PolicyDefinition.withoutDetections, hends.filter_detects] at hall
    exact hall

theorem RespondsAs.withoutLength_eq (h : g.RespondsAs mode p request app) (hlog : g.engine.enforcer.mode = .log)
    {e : Engine} (he : p.compile mode = .ok e) (hlog' : e.enforcer.mode = .log)
    (hbody : request.body.length ≤ g.config.maxBodyBytes)
    (hanswer : (app (g.identified request)).body.length ≤ g.config.maxResponseBytes) :
    withoutLength (g.outboundRun request (app (g.identified request))).2 =
      withoutLength (outboundRun { g with engine := e } request (app (g.identified request))).2 := by
  obtain ⟨e', he', hsame⟩ := h
  cases he.symm.trans he'
  have hresponse := hsame (.ofCapacity 1) (.ofCapacity 1) default default
  rw [inspect_response_of_log hlog, inspect_response_of_log (g := { g with engine := e }) hlog',
    if_neg (Nat.not_lt.mpr hbody), if_neg (Nat.not_lt.mpr hanswer), if_neg (Nat.not_lt.mpr hbody)] at hresponse
  exact hresponse.trans (if_neg (Nat.not_lt.mpr hanswer))

def detection (id : String) : RuleDefinition where
  id
  path := "/a"
  kind := .detectOutboundContent none ["x"] none none

/-- A stamp behind a detection, and neither is enforced. -/
def watching : PolicyDefinition where
  name := "watching"
  settings := { mode := .log }
  rules := [detection "leak", stamp "/a"]

/-- A stamp behind a detection of the same name. -/
def repeating : PolicyDefinition :=
  { watching with rules := [detection "stamp", stamp "/a"] }

def watched (id : String) (p : WholePattern) : BuiltIn :=
  ⟨id, ⟨p, []⟩, .detectContent ⟨.keywords (Keywords.ofTexts ["x"]), none, none⟩⟩

def stamped (p : WholePattern) : BuiltIn :=
  ⟨"stamp", ⟨p, []⟩, .addHeader ⟨⟨"x-a"⟩, ⟨[49]⟩⟩⟩

/-- An engine of rules for the response that only records. -/
def recording (bs : List BuiltIn) : Engine :=
  { outbound := ⟨bs.map BuiltIn.toRule⟩, enforcer := { mode := .log } }

theorem detection_build {id : String} (hid : (Text.trim id.toList).isEmpty = false) {p : WholePattern}
    (hp : WholePattern.ofSource? "/a" = some p) : (detection id).build = .ok (watched id p) :=
  RuleDefinition.build_of_pattern (d := detection id) hid hp rfl rfl

theorem watching_compile {p : WholePattern} (hp : WholePattern.ofSource? "/a" = some p) (mode : LoadMode) :
    watching.compile mode = .ok (recording [watched "leak" p, stamped p]) ∧
      watching.withoutDetections.compile mode = .ok (recording [stamped p]) := by
  have hleak : (detection "leak").build = .ok (watched "leak" p) := detection_build (by decide) hp
  have hstamp : (stamp "/a").build = .ok (stamped p) := stamp_build hp
  have hs : Enforcer.ofSettings watching.settings = .ok { mode := .log } := by decide
  constructor
  · rw [PolicyDefinition.compile_of_fit hs (by decide)]
    simp only [watching, PolicyDefinition.buildRules, hleak, hstamp]
    rfl
  · rw [PolicyDefinition.compile_of_fit (p := watching.withoutDetections) hs (by decide)]
    have hrules : watching.withoutDetections.rules = [stamp "/a"] := rfl
    simp only [hrules, PolicyDefinition.buildRules, hstamp]
    rfl

theorem repeating_compile {p : WholePattern} (hp : WholePattern.ofSource? "/a" = some p) :
    repeating.compile .lenient = .ok (recording [watched "stamp" p]) ∧
      repeating.withoutDetections.compile .lenient = .ok (recording [stamped p]) := by
  have hstamp : (detection "stamp").build = .ok (watched "stamp" p) := detection_build (by decide) hp
  have hs : Enforcer.ofSettings repeating.settings = .ok { mode := .log } := by decide
  constructor
  · rw [PolicyDefinition.compile_of_fit hs (by decide)]
    simp only [repeating, PolicyDefinition.buildRules, hstamp]
    rfl
  · exact (watching_compile hp .lenient).2

def atA : Request :=
  { uri := { rawPath := "/a" } }

theorem covers_atA {p : WholePattern} (hmatch : p.isMatch "/a" = true) : (⟨p, []⟩ : Scope).covers atA.path = true :=
  (Scope.covers_iff _ _).mpr ⟨(show atA.path = "/a" by decide) ▸ hmatch, by simp⟩

theorem recording_outboundRun {bs : List BuiltIn} {answer : Response} {d : Disposition} {os : List (String × Outcome)}
    {i : Interceptor} (h : Chain.runRules atA (bs.map BuiltIn.toRule) (.capture answer) {} = ⟨d, os, i, {}⟩)
    (hopen : i.isFlushed = false) : (outboundRun { engine := recording bs } atA answer).1.disposition = d ∧
      (outboundRun { engine := recording bs } atA answer).2 = i.commitOnto {} := by
  have hresult : outboundRun { engine := recording bs } atA answer =
      Chain.evaluateWith ⟨bs.map BuiltIn.toRule⟩ atA (.capture answer) {} := rfl
  rw [hresult, Chain.evaluateWith, h, Interceptor.flush, hopen]
  exact ⟨rfl, rfl⟩

/-- A detection that finds something stops the chain. -/
theorem watched_runs {p : WholePattern} (hmatch : p.isMatch "/a" = true) :
    Chain.runRules atA ([watched "leak" p, stamped p].map BuiltIn.toRule) (.capture { body := [120] }) {} =
      ⟨.abort "leak" (.abort none (some "outbound content matched at byte 0")),
        [("leak", .abort none (some "outbound content matched at byte 0"))], .capture { body := [120] }, {}⟩ := by
  have hcovers : (watched "leak" p).scope.covers atA.path = true := covers_atA hmatch
  simp only [List.map_cons, Chain.runRules, BuiltIn.toRule_check, BuiltIn.plan, hcovers, if_true]
  rfl

theorem passed_runs {p : WholePattern} (hmatch : p.isMatch "/a" = true) :
    Chain.runRules atA ([watched "stamp" p].map BuiltIn.toRule) (.capture {}) {} =
      ⟨.allow, [("stamp", .pass)], .capture {}, {}⟩ := by
  have hcovers : (watched "stamp" p).scope.covers atA.path = true := covers_atA hmatch
  simp only [List.map_cons, Chain.runRules, BuiltIn.toRule_check, BuiltIn.plan, hcovers, if_true]
  rfl

theorem stamped_runs {p : WholePattern} (hmatch : p.isMatch "/a" = true) (answer : Response) :
    Chain.runRules atA ([stamped p].map BuiltIn.toRule) (.capture answer) {} =
      ⟨.allow, [("stamp", .applied)], (Interceptor.capture answer).buffer (.setHeader ⟨"x-a"⟩ ⟨[49]⟩), {}⟩ := by
  have hcovers : (stamped p).scope.covers atA.path = true := covers_atA hmatch
  simp only [List.map_cons, Chain.runRules, BuiltIn.toRule_check, BuiltIn.plan, hcovers, if_true]
  rfl

/-- What a detection finds costs the client the stamp behind it. In a lenient load, a detection of the same name does so
even if it finds nothing: the stamp repeats its id and is left out. -/
theorem watching_loses_stamp :
    (∃ g : Guard, watching.compile .strict = .ok g.engine ∧ watching.settings.mode = .log ∧
      ¬g.RespondsAs .strict watching.withoutDetections atA fun _ => { body := [120] }) ∧
    ∃ g : Guard, repeating.compile .lenient = .ok g.engine ∧ repeating.settings.mode = .log ∧
      ¬g.RespondsAs .lenient repeating.withoutDetections atA fun _ => {} := by
  obtain ⟨p, hp, hmatch⟩ := exists_pattern_a
  refine ⟨⟨{ engine := recording [watched "leak" p, stamped p] }, (watching_compile hp _).1, rfl, fun h => ?_⟩,
    ⟨{ engine := recording [watched "stamp" p] }, (repeating_compile hp).1, rfl, fun h => ?_⟩⟩
  · have hsame := h.withoutLength_eq rfl (watching_compile hp _).2 rfl (Nat.zero_le _) (show 1 ≤ 16777216 by decide)
    rw [(recording_outboundRun (watched_runs hmatch) rfl).2,
      (recording_outboundRun (stamped_runs hmatch _) rfl).2] at hsame
    exact absurd (congrArg Response.headers hsame) (by decide)
  · have hsame := h.withoutLength_eq rfl (repeating_compile hp).2 rfl (Nat.zero_le _) (Nat.zero_le _)
    rw [(recording_outboundRun (passed_runs hmatch) rfl).2,
      (recording_outboundRun (stamped_runs hmatch _) rfl).2] at hsame
    exact absurd (congrArg Response.headers hsame) (by decide)

/-- Without the stamp it responds as a policy without rules. -/
theorem watching_response : ∃ g : Guard, watching.compile .lenient = .ok g.engine ∧ watching.settings.mode = .log ∧
    DetectionsApart watching.rules ∧
    g.RespondsAs .lenient { watching with rules := [] }.withoutDetections atA fun _ => { body := [120] } := by
  obtain ⟨p, hp, hmatch⟩ := exists_pattern_a
  let g : Guard := { engine := recording [watched "leak" p, stamped p] }
  have hcompile : watching.compile .lenient = .ok g.engine := (watching_compile hp .lenient).1
  have hids : DetectionsApart watching.rules := by
    unfold DetectionsApart
    decide
  obtain ⟨reached, unreached, hends, hresponds, -⟩ := monitoring_response hcompile rfl (fun _ => hids) atA
    fun _ => { body := [120] }
  refine ⟨g, hcompile, rfl, hids, ?_⟩
  cases hends with
  | finished allowed =>
    cases (recording_outboundRun (watched_runs hmatch) rfl).1.symm.trans allowed
  | @stopped _ _ d split detects faultless stop =>
    rw [watching] at split
    rcases List.cons_eq_append_iff.mp split with ⟨rfl, hrest⟩ | ⟨before, rfl, hrest⟩
    · obtain ⟨rfl, rfl⟩ := List.cons.inj hrest
      exact hresponds
    · have hd : d = stamp "/a" := by
        have hmem : d ∈ [stamp "/a"] := hrest ▸ List.mem_append_right _ List.mem_cons_self
        exact List.mem_singleton.mp hmem
      rw [hd] at detects
      cases detects

end Guard

end Portcullis.Boundary

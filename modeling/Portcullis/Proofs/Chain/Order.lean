import Portcullis.Proofs.Chain.Deciding
import Portcullis.Proofs.Policy.Frame

/-!
# Inbound rules in any order

An inbound rule decides by the request alone. A chain of inbound rules is stopped by the first of them that stops the
request by itself, so that their order decides which rule answers, and not whether one does.
-/

namespace Portcullis.Policy
open Http

namespace BuiltIn

/-- What a rule says of a request when it is checked alone, over an empty response. -/
def ruling (b : BuiltIn) (q : Request) : Outcome :=
  (b.check q ⟨none, {}⟩).2

theorem check_of_inbound {b : BuiltIn} (hb : b.action.phase = .inbound) (q : Request) (c : Canvas) :
    b.check q c = (c, b.ruling q) := by
  simp only [ruling, check]
  split
  · cases ha : b.action with
    | restrictMethod | enforceHttps | requireRole | virtualPatch => rfl
    | _ => simp [ha, Action.phase] at hb
  · rfl

/-- The first of some rules that stops a request by itself. -/
def stopping? (q : Request) (bs : List BuiltIn) : Option BuiltIn :=
  bs.find? fun b => (b.ruling q).demandsAction

/-- The rules up to and including the first that stops a request. -/
def heard (q : Request) (bs : List BuiltIn) : List BuiltIn :=
  bs.takeWhile (fun b => !(b.ruling q).demandsAction) ++ (stopping? q bs).toList

end BuiltIn

/-- The disposition that the rule leads to which stops a request, if there is one. -/
def Disposition.ofStopping (q : Request) : Option BuiltIn → Disposition
  | some b => .abort b.id (b.ruling q)
  | none => .allow

namespace Chain

variable {bs : List BuiltIn}

theorem runRules_of_inbound (hbs : ∀ b ∈ bs, b.action.phase = .inbound) (q : Request) (i : Interceptor)
    (raw : Response) :
    runRules q (bs.map BuiltIn.toRule) i raw =
      { disposition := .ofStopping q (BuiltIn.stopping? q bs)
        outcomes := (BuiltIn.heard q bs).map fun b => (b.id, b.ruling q)
        intercepted := i
        raw } := by
  induction bs with
  | nil => rfl
  | cons b rest ih =>
    have hrest := ih fun x hx => hbs x (.tail _ hx)
    have hcheck : b.toRule.check q ⟨some i, raw⟩ = (⟨some i, raw⟩, .finished (b.ruling q)) := by
      simp [BuiltIn.toRule, BuiltIn.check_of_inbound (hbs b List.mem_cons_self)]
    have hid : b.toRule.id = b.id := rfl
    simp only [List.map_cons, runRules, hcheck, hid, CheckEnd.outcome, Option.getD_some, hrest]
    cases hb : (b.ruling q).demandsAction with
    | true => simp [BuiltIn.stopping?, BuiltIn.heard, hb, Disposition.ofStopping]
    | false => simp [BuiltIn.stopping?, BuiltIn.heard, hb]

/-- A chain of inbound rules commits nothing. -/
theorem evaluate_of_inbound (hbs : ∀ b ∈ bs, b.action.phase = .inbound) (q : Request) (raw : Response) :
    evaluate ⟨bs.map BuiltIn.toRule⟩ q raw =
      ({ disposition := .ofStopping q (BuiltIn.stopping? q bs)
         outcomes := (BuiltIn.heard q bs).map fun b => (b.id, b.ruling q) }, raw) := by
  simp only [evaluate, evaluateWith, runRules_of_inbound hbs, Interceptor.flush, Bool.false_eq_true, if_false,
    Interceptor.commitOnto_empty]
  rfl

theorem isAllowed_of_inbound (hbs : ∀ b ∈ bs, b.action.phase = .inbound) (q : Request) (raw : Response) :
    (evaluate ⟨bs.map BuiltIn.toRule⟩ q raw).1.isAllowed = true ↔ ∀ b ∈ bs, (b.ruling q).demandsAction = false := by
  rw [evaluate_of_inbound hbs]
  cases hs : BuiltIn.stopping? q bs with
  | none =>
    have hnone : ∀ b ∈ bs, (b.ruling q).demandsAction = false := by
      simpa [BuiltIn.stopping?] using hs
    simpa [ChainResult.isAllowed, Disposition.ofStopping] using hnone
  | some b =>
    have hb : (b.ruling q).demandsAction = true := by simpa using List.find?_some hs
    simpa [ChainResult.isAllowed, Disposition.ofStopping] using ⟨b, List.mem_of_find?_eq_some hs, hb⟩

/-- A chain of inbound rules leaves the response below alone. It is stopped exactly if one of its rules stops the
request when it is checked alone, over whatever response, then by the first such rule and with what that rule says. So
the same requests are allowed in every order of the rules. -/
theorem inbound_decision (hbs : ∀ b ∈ bs, b.action.phase = .inbound) (q : Request) (raw : Response) (c : Canvas) :
    (evaluate ⟨bs.map BuiltIn.toRule⟩ q raw).2 = raw ∧
    ((evaluate ⟨bs.map BuiltIn.toRule⟩ q raw).1.isAllowed = false ↔
      ∃ b ∈ bs, (b.check q c).2.demandsAction = true) ∧
    (∀ front b rest, bs = front ++ b :: rest → (∀ x ∈ front, (x.check q c).2.demandsAction = false) →
      (b.check q c).2.demandsAction = true →
      (evaluate ⟨bs.map BuiltIn.toRule⟩ q raw).1.disposition = .abort b.id (b.check q c).2) ∧
    ∀ bs' : List BuiltIn, bs'.Perm bs → ∀ raw', (evaluate ⟨bs'.map BuiltIn.toRule⟩ q raw').1.isAllowed =
      (evaluate ⟨bs.map BuiltIn.toRule⟩ q raw).1.isAllowed := by
  have halone : ∀ b ∈ bs, (b.check q c).2 = b.ruling q := fun b hb => by rw [BuiltIn.check_of_inbound (hbs b hb)]
  refine ⟨?_, ?_, ?_, ?_⟩
  · rw [evaluate_of_inbound hbs]
  · rw [← Bool.not_eq_true, isAllowed_of_inbound hbs]
    constructor
    · intro hstop
      simp only [not_forall, Bool.not_eq_false] at hstop
      obtain ⟨b, hb, hd⟩ := hstop
      exact ⟨b, hb, by rwa [halone b hb]⟩
    · rintro ⟨b, hb, hd⟩ hquiet
      rw [halone b hb, hquiet b hb] at hd
      cases hd
  · intro front b rest hsplit hfront hb
    have hmem : b ∈ bs := by simp [hsplit]
    rw [halone b hmem] at hb ⊢
    have hfirst : BuiltIn.stopping? q bs = some b := by
      refine List.find?_eq_some_iff_append.mpr ⟨hb, front, rest, hsplit, fun x hx => ?_⟩
      have hx' : x ∈ bs := by simp [hsplit, hx]
      simpa [halone x hx'] using hfront x hx
    rw [evaluate_of_inbound hbs, hfirst]
    rfl
  · intro bs' hperm raw'
    have hbs' : ∀ b ∈ bs', b.action.phase = .inbound := fun b hb => hbs b (hperm.subset hb)
    rw [Bool.eq_iff_iff, isAllowed_of_inbound hbs, isAllowed_of_inbound hbs']
    exact forall_congr' fun b => by rw [hperm.mem_iff]

/-- Two rules that both stop a request: the one that stands first answers it. -/
theorem postsAndUsers_decision : ∃ posts users : BuiltIn,
    RuleDefinition.build { id := "posts", path := "/a", kind := .restrictMethod ["POST"] 405 } = .ok posts ∧
    RuleDefinition.build { id := "users", path := "/a", kind := .requireRole [] none none } = .ok users ∧
    (∀ b ∈ [posts, users], b.action.phase = .inbound) ∧
    (evaluate ⟨[posts.toRule, users.toRule]⟩ { uri := { rawPath := "/a" } } {}).1.disposition =
      .abort "posts" (.abort (some (.block ⟨405⟩)) (some "method GET not allowed")) ∧
    (evaluate ⟨[users.toRule, posts.toRule]⟩ { uri := { rawPath := "/a" } } {}).1.isAllowed = false := by
  obtain ⟨p, hp, hmatch⟩ := exists_pattern_a
  let posts : BuiltIn := ⟨"posts", ⟨p, []⟩, .restrictMethod ⟨[⟨"POST"⟩], ⟨405⟩⟩⟩
  let users : BuiltIn := ⟨"users", ⟨p, []⟩, .requireRole ⟨[], none⟩⟩
  let q : Request := { uri := { rawPath := "/a" } }
  have hpath : q.path = "/a" := by decide
  have hcovers : (⟨p, []⟩ : Scope).covers q.path = true := by
    rw [hpath]
    exact (Scope.covers_iff _ _).mpr ⟨hmatch, by simp⟩
  have hphase : ∀ b ∈ [posts, users], b.action.phase = .inbound := by simp [posts, users, Action.phase]
  have hposts : (posts.check q ⟨none, {}⟩).2 =
      .abort (some (.block ⟨405⟩)) (some "method GET not allowed") := by
    simp only [BuiltIn.check, posts, hcovers, if_true]
    rfl
  obtain ⟨-, hiff, hfirst, horder⟩ := inbound_decision hphase q {} ⟨none, {}⟩
  refine ⟨posts, users, ?_, ?_, hphase, ?_, ?_⟩
  · exact RuleDefinition.build_of_pattern (show (Text.trim "posts".toList).isEmpty = false by decide) hp rfl rfl
  · exact RuleDefinition.build_of_pattern (show (Text.trim "users".toList).isEmpty = false by decide) hp rfl rfl
  · have hstop := hfirst [] posts [users] rfl (by simp) (by rw [hposts]; rfl)
    rwa [hposts] at hstop
  · have hstop := hiff.mpr ⟨posts, by simp, by rw [hposts]; rfl⟩
    exact (horder [users, posts] (.swap posts users []) {}).trans hstop

end Chain

end Portcullis.Policy

import Portcullis.Proofs.Policy.Compilation

/-!
# The statuses that a policy blocks with

A rule is only built, and settings are only accepted, with statuses that report an error. So whatever rule stops a
chain of a policy, what the exchange is blocked with reports one.
-/

namespace Portcullis.Policy
open Http

/-! ## Rules -/

/-- The status that an action names for the exchanges that it stops. -/
def Action.blockStatus? : Action → Option Status
  | .detectContent a => a.status
  | .restrictMethod a => some a.status
  | .requireRole a =>
    match a.remedy with
    | some (.block s) => some s
    | _ => none
  | _ => none

theorem isError_of_blockStatus {code : Nat} {s : Status} (h : blockStatus code = .ok s) : s.isError = true := by
  rw [blockStatus, orDefect_eq_ok, Option.filter_eq_some_iff] at h
  exact h.2

theorem RuleKind.isError_of_build {k : RuleKind} {a : Action} {s : Status} (h : k.build = .ok a)
    (hs : a.blockStatus? = some s) : s.isError = true := by
  cases k with
  | addHeader header value =>
    obtain ⟨_, _, rfl⟩ := map_eq_ok.mp h
    cases hs
  | addCookieFlags cookie secure httpOnly =>
    simp only [build] at h
    split at h
    · cases h
    · obtain ⟨_, _, rfl⟩ := map_eq_ok.mp h
      cases hs
  | replaceContent pattern replacement contentType =>
    obtain ⟨_, _, h⟩ := bind_eq_ok.mp h
    obtain ⟨_, _, h⟩ := bind_eq_ok.mp h
    cases h
    cases hs
  | detectOutboundContent pattern keywords contentType status =>
    simp only [build] at h
    split at h
    all_goals
      obtain ⟨_, _, h⟩ := bind_eq_ok.mp h
      obtain ⟨_, _, h⟩ := bind_eq_ok.mp h
      obtain ⟨_, hstatus, h⟩ := bind_eq_ok.mp h
      cases h
      cases status with
      | none =>
        cases hstatus
        cases hs
      | some code =>
        obtain ⟨s', hs', hstatus⟩ := map_eq_ok.mp hstatus
        subst hstatus
        cases hs
        exact isError_of_blockStatus hs'
  | restrictMethod methods status =>
    obtain ⟨s', hs', h⟩ := bind_eq_ok.mp h
    split at h
    · cases h
    · obtain ⟨_, _, h⟩ := bind_eq_ok.mp h
      cases h
      cases hs
      exact isError_of_blockStatus hs'
  | enforceHttps =>
    cases h
    cases hs
  | requireRole roles status redirect =>
    simp only [build] at h
    split at h
    · obtain ⟨_, hremedy, _⟩ := bind_eq_ok.mp h
      cases hremedy
    · obtain ⟨_, hremedy, h⟩ := bind_eq_ok.mp h
      obtain ⟨s', hs', rfl⟩ := map_eq_ok.mp hremedy
      cases h
      cases hs
      exact isError_of_blockStatus hs'
    · obtain ⟨_, hremedy, h⟩ := bind_eq_ok.mp h
      obtain ⟨_, _, rfl⟩ := map_eq_ok.mp hremedy
      cases h
      cases hs
    · obtain ⟨_, hremedy, h⟩ := bind_eq_ok.mp h
      cases hremedy
      cases h
      cases hs
  | virtualPatch header parameter pattern message =>
    simp only [build] at h
    split at h
    all_goals
      obtain ⟨_, _, h⟩ := bind_eq_ok.mp h
      obtain ⟨_, _, h⟩ := bind_eq_ok.mp h
      cases h
      cases hs

theorem RequireRole.remedy_of_decide {a : RequireRole} {q : Request} {m : Remedy} (h : (a.decide q).remedy? = some m) :
    a.remedy = some m := by
  simp only [decide] at h
  split at h
  · exact h
  · split at h
    · exact h
    · split at h
      · exact h
      · cases h

theorem Action.blockStatus?_of_run {a : Action} {q : Request} {c : Canvas} {s : Status}
    (h : (a.run q c).2.remedy? = some (.block s)) : a.blockStatus? = some s := by
  cases a with
  | addHeader a =>
    simp only [run, AddHeader.run] at h
    split at h <;> cases h
  | hardenCookies a =>
    simp only [run, HardenCookies.run] at h
    split at h
    · cases h
    · split at h <;> cases h
  | replaceContent a =>
    simp only [run, ReplaceContent.run] at h
    split at h
    · cases h
    · split at h
      · cases h
      · split at h <;> cases h
  | detectContent a =>
    simp only [run, DetectContent.run] at h
    split at h
    · cases h
    · split at h
      · obtain ⟨s', hs', heq⟩ := Option.map_eq_some_iff.mp h
        cases heq
        exact hs'
      · cases h
  | restrictMethod a =>
    simp only [run, RestrictMethod.decide] at h
    split at h
    · cases h
    · cases h
      rfl
  | enforceHttps =>
    simp only [run, EnforceHttps.decide] at h
    split at h
    · cases h
    · split at h <;> cases h
  | requireRole a =>
    simp only [blockStatus?, RequireRole.remedy_of_decide h]
  | virtualPatch a =>
    simp only [run, VirtualPatch.decide] at h
    split at h <;> cases h

theorem BuiltIn.isError_of_check {d : RuleDefinition} {b : BuiltIn} (hb : d.build = .ok b) {q : Request} {c : Canvas}
    {s : Status} (h : (b.check q c).2.remedy? = some (.block s)) : s.isError = true := by
  rw [check] at h
  split at h
  · exact RuleKind.isError_of_build (RuleDefinition.parts_of_build hb).2.2 (Action.blockStatus?_of_run h)
  · cases h

/-! ## Chains -/

/-- A chain of built rules is stopped by what one of them says of what it finds. -/
theorem Chain.exists_check_of_abort {q : Request} {bs : List BuiltIn} {i : Interceptor} {raw : Response} {id : String}
    {o : Outcome} (h : (evaluateWith ⟨bs.map BuiltIn.toRule⟩ q i raw).1.disposition = .abort id o) :
    ∃ b ∈ bs, ∃ c, o = (b.check q c).2 := by
  have hrun : (runRules q (bs.map BuiltIn.toRule) i raw).disposition = .abort id o := by
    rw [evaluateWith] at h
    split at h <;> exact h
  clear h
  induction bs generalizing i raw with
  | nil => cases hrun
  | cons b rest ih =>
    simp only [List.map_cons, runRules] at hrun
    split at hrun
    · cases hrun
      exact ⟨b, List.mem_cons_self, ⟨some i, raw⟩, rfl⟩
    · obtain ⟨x, hx, c, hc⟩ := ih hrun
      exact ⟨x, .tail _ hx, c, hc⟩

/-! ## Verdicts -/

namespace Enforcer

/-- The status that an exchange is blocked with is that of the outcome which stopped the chain, or else that of the
settings. -/
theorem status_of_resolve {e : Enforcer} {result : ChainResult} {s : Status} (h : e.resolve result = .block s) :
    ∃ id o, result.disposition = .abort id o ∧
      (o.remedy? = some (.block s) ∨ o.remedy? = none ∧ s = e.blockStatus) := by
  cases hd : result.disposition with
  | allow => simp [resolve, hd] at h
  | abort id o =>
    refine ⟨id, o, rfl, ?_⟩
    simp only [resolve, hd] at h
    cases hr : o.remedy? with
    | none =>
      cases hm : e.mode <;> rw [hm, hr] at h <;> cases h
      exact .inr ⟨rfl, rfl⟩
    | some remedy =>
      cases remedy with
      | block s' =>
        cases hm : e.mode <;> rw [hm, hr] at h <;> cases h
        all_goals exact .inl rfl
      | redirect l => cases hm : e.mode <;> rw [hm, hr] at h <;> cases h

theorem isError_blockStatus {s : Settings} {e : Enforcer} (h : ofSettings s = .ok e) :
    e.blockStatus.isError = true := by
  simp only [ofSettings] at h
  split at h
  · cases h
  · split at h
    · cases h
    · rename_i herror
      split at h
      · cases h
      · cases h
        simpa using herror

end Enforcer

/-- What a policy blocks an exchange with reports an error. -/
theorem PolicyDefinition.Holds.isError_of_resolve {p : PolicyDefinition} {e : Engine} {built bs : List BuiltIn}
    (h : p.Holds e built) (hbs : bs ⊆ built) {q : Request} {i : Interceptor} {raw : Response} {s : Status}
    (hv : e.enforcer.resolve (Chain.evaluateWith ⟨bs.map BuiltIn.toRule⟩ q i raw).1 = .block s) :
    s.isError = true := by
  obtain ⟨id, o, hd, hremedy | ⟨-, rfl⟩⟩ := Enforcer.status_of_resolve hv
  · obtain ⟨b, hb, c, rfl⟩ := Chain.exists_check_of_abort hd
    obtain ⟨d, -, hbuild⟩ := exists_definition h.builds (hbs hb)
    exact BuiltIn.isError_of_check hbuild hremedy
  · exact Enforcer.isError_blockStatus h.enforcer

end Portcullis.Policy

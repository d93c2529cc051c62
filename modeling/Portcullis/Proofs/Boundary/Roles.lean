import Portcullis.Proofs.Boundary.Page
import Portcullis.Proofs.Text.Blank

/-!
# Roles by identity fields

Where the identity fields are trusted, they alone say who is behind a request: a user that came with the request counts
for nothing, and so do roles without a user. A rule that asks for roles lets exactly those requests pass whose fields
name a user and, if it lists any roles, one of these.
-/

namespace Portcullis

theorem User.mem_sortRoles {roles : List String} {role : String} : role ∈ sortRoles roles ↔ role ∈ roles := by
  simp [sortRoles]

namespace Boundary
open Http Policy

/-! ## What the fields say -/

/-- The first value under a name can be read, and this is its text. -/
def FirstText (headers : Headers) (name : String) (text : List Char) : Prop :=
  ∃ n v rest, HeaderName.parse? name = some n ∧ headers.getAll n = v :: rest ∧ v.chars? = some text

theorem trimmed?_eq_some {headers : Headers} {name : String} {cs : List Char} :
    trimmed? headers name = some cs ↔ ∃ text, FirstText headers name text ∧ cs = Text.trim text ∧ cs ≠ [] := by
  simp only [trimmed?, Option.bind_eq_some_iff, Headers.get?, List.head?_eq_some_iff]
  constructor
  · rintro ⟨text, ⟨v, ⟨n, hn, rest, hrest⟩, hv⟩, hcs⟩
    split at hcs
    · cases hcs
    · rename_i hne
      cases hcs
      exact ⟨text, ⟨n, v, rest, hn, hrest, hv⟩, rfl, fun h => hne (List.isEmpty_iff.mpr h)⟩
  · rintro ⟨text, ⟨n, v, rest, hn, hrest, hv⟩, rfl, hne⟩
    exact ⟨text, ⟨v, ⟨n, hn, rest, hrest⟩, hv⟩, if_neg fun h => hne (List.isEmpty_iff.mp h)⟩

theorem roleNames_trim (cs : List Char) : roleNames (Text.trim cs) = roleNames cs := by
  rw [roleNames, roleNames, Text.map_trim_splitOn_trim (by decide)]

theorem mem_roleNames {cs : List Char} {role : String} : role ∈ roleNames cs ↔
    ∃ part ∈ cs.splitOn ',', Text.trim part ≠ [] ∧ role = String.ofList (Text.trim part) := by
  rw [roleNames, List.mem_map]
  constructor
  · rintro ⟨trimmed, hmem, rfl⟩
    obtain ⟨hmap, hne⟩ := List.mem_filter.mp hmem
    obtain ⟨part, hpart, rfl⟩ := List.mem_map.mp hmap
    exact ⟨part, hpart, by simpa using hne, rfl⟩
  · rintro ⟨part, hpart, hne, rfl⟩
    exact ⟨_, List.mem_filter.mpr ⟨List.mem_map_of_mem hpart, by simpa using hne⟩, rfl⟩

namespace IdentityHeaders

/-- The first value of the user field is more than blanks. -/
def NamesUser (i : IdentityHeaders) (headers : Headers) : Prop :=
  ∃ text, FirstText headers i.user text ∧ Text.trim text ≠ []

/-- The role stands between commas in the first value of the role field. -/
def ListsRole (i : IdentityHeaders) (headers : Headers) (role : String) : Prop :=
  ∃ text, FirstText headers i.roles text ∧
    ∃ part ∈ text.splitOn ',', Text.trim part ≠ [] ∧ role = String.ofList (Text.trim part)

/-- The fields name a user, and one of the roles, if there are any to have. -/
structure Grants (i : IdentityHeaders) (headers : Headers) (roles : List String) : Prop where
  namesUser : i.NamesUser headers
  listsRole : roles ≠ [] → ∃ role ∈ roles, i.ListsRole headers role

variable {i : IdentityHeaders} {headers : Headers}

theorem namesUser_iff : i.NamesUser headers ↔ ∃ name, trimmed? headers i.user = some name := by
  constructor
  · rintro ⟨text, htext, hne⟩
    exact ⟨_, trimmed?_eq_some.mpr ⟨text, htext, rfl, hne⟩⟩
  · rintro ⟨name, hname⟩
    obtain ⟨text, htext, rfl, hne⟩ := trimmed?_eq_some.mp hname
    exact ⟨text, htext, hne⟩

/-- Trimming the whole value before it is cut leaves out blanks that do not count in its parts either. -/
theorem listsRole_iff {role : String} :
    i.ListsRole headers role ↔ ∃ cs, trimmed? headers i.roles = some cs ∧ role ∈ roleNames cs := by
  constructor
  · rintro ⟨text, htext, hpart⟩
    have hmem : role ∈ roleNames (Text.trim text) := by
      rw [roleNames_trim]
      exact mem_roleNames.mpr hpart
    refine ⟨_, trimmed?_eq_some.mpr ⟨text, htext, rfl, fun hnil => ?_⟩, hmem⟩
    rw [hnil] at hmem
    cases hmem
  · rintro ⟨cs, hcs, hmem⟩
    obtain ⟨text, htext, rfl, -⟩ := trimmed?_eq_some.mp hcs
    rw [roleNames_trim] at hmem
    exact ⟨text, htext, mem_roleNames.mp hmem⟩

theorem loggedIn_identify : (i.identify headers).loggedIn = true ↔ i.NamesUser headers := by
  rw [namesUser_iff, identify]
  cases trimmed? headers i.user with
  | none => simp [User.anonymous]
  | some name => simp [User.withRoles]

theorem mem_roles_identify {role : String} :
    role ∈ (i.identify headers).roles ↔ i.NamesUser headers ∧ i.ListsRole headers role := by
  rw [namesUser_iff, listsRole_iff, identify]
  cases trimmed? headers i.user with
  | none => simp [User.anonymous]
  | some name => cases trimmed? headers i.roles <;> simp [User.withRoles, User.mem_sortRoles]

end IdentityHeaders

/-! ## What a rule makes of it -/

end Boundary

namespace Policy
open Http

/-- The user on a request passes by being logged in and having one of the roles, if there are any to have. -/
theorem RequireRole.decide_of_user (a : RequireRole) {q : Request} {u : User} (hu : q.user = some u) :
    (u.loggedIn = true → (a.roles ≠ [] → ∃ role ∈ a.roles, role ∈ u.roles) → a.decide q = .pass) ∧
    (¬(u.loggedIn = true ∧ (a.roles ≠ [] → ∃ role ∈ a.roles, role ∈ u.roles)) →
      ∃ message, a.decide q = .abort a.remedy (some message)) := by
  have hroles : (!a.roles.isEmpty && !a.roles.any u.isInRole) = true ↔
      ¬(a.roles ≠ [] → ∃ role ∈ a.roles, role ∈ u.roles) := by
    simp [User.isInRole]
  rw [decide, hu]
  dsimp only
  constructor
  · intro hin hhas
    rw [if_neg (by simp [User.isAnonymous, hin]), if_neg fun h => hroles.mp h hhas]
  · intro hnot
    split
    · exact ⟨_, rfl⟩
    · rename_i hin
      have hin' : u.loggedIn = true := by simpa using (Bool.or_eq_false_iff.mp (Bool.eq_false_iff.mpr hin)).2
      rw [if_pos (hroles.mpr fun hhas => hnot ⟨hin', hhas⟩)]
      exact ⟨_, rfl⟩

theorem Chain.disposition_evaluateWith (rules : List Rule) (q : Request) (i : Interceptor) (raw : Response) :
    (evaluateWith ⟨rules⟩ q i raw).1.disposition = (runRules q rules i raw).disposition := by
  simp only [evaluateWith, Interceptor.flush]
  cases (runRules q rules i raw).intercepted.isFlushed <;> rfl

/-- A chain that lets a request pass was not stopped by any of its rules. -/
theorem Chain.quiet_of_isAllowed {rules : List Rule} {q : Request} {i : Interceptor} {raw : Response}
    (h : (evaluateWith ⟨rules⟩ q i raw).1.isAllowed = true) :
    ∀ r ∈ rules, ∃ c, (r.check q c).2.outcome.demandsAction = false := by
  rw [ChainResult.isAllowed_iff, disposition_evaluateWith] at h
  induction rules generalizing i raw with
  | nil => exact nofun
  | cons r rest ih =>
    simp only [runRules] at h
    split at h
    · cases h
    · rename_i hr
      intro x hx
      rcases List.mem_cons.mp hx with rfl | hx
      · exact ⟨_, Bool.eq_false_iff.mpr hr⟩
      · exact ih h x hx

theorem Enforcer.isAllowed_of_resolve {e : Enforcer} (hmode : e.mode ≠ .log) {r : ChainResult}
    (h : e.resolve r = .allow) : r.isAllowed = true := by
  rw [ChainResult.isAllowed_iff]
  cases hd : r.disposition with
  | allow => rfl
  | abort id o =>
    simp only [resolve, hd] at h
    split at h
    · contradiction
    all_goals cases h

end Policy

namespace Boundary
open Http Policy

namespace Guard

variable {g : Guard} {b : BuiltIn} {a : RequireRole} {request : Request}

theorem check_identified (henabled : g.config.identity.enabled = true) (ha : b.action = .requireRole a)
    (hcovers : b.scope.covers request.path = true) (c : Canvas) :
    (g.config.identity.Grants request.headers a.roles → b.check (g.identified request) c = (c, .pass)) ∧
    (¬g.config.identity.Grants request.headers a.roles →
      ∃ message, b.check (g.identified request) c = (c, .abort a.remedy (some message))) := by
  let u := g.config.identity.identify request.headers
  have huser : (g.identified request).user = some u := by rw [identified, if_pos henabled]
  have hcheck : b.check (g.identified request) c = (c, a.decide (g.identified request)) := by
    rw [BuiltIn.check, path_identified, if_pos hcovers, ha]
    rfl
  have hgrants : g.config.identity.Grants request.headers a.roles ↔
      u.loggedIn = true ∧ (a.roles ≠ [] → ∃ role ∈ a.roles, role ∈ u.roles) := by
    rw [IdentityHeaders.loggedIn_identify]
    simp only [u, IdentityHeaders.mem_roles_identify]
    constructor
    · rintro ⟨hname, hlists⟩
      refine ⟨hname, fun hne => ?_⟩
      obtain ⟨role, hrole, hlisted⟩ := hlists hne
      exact ⟨role, hrole, hname, hlisted⟩
    · rintro ⟨hname, hhas⟩
      refine ⟨hname, fun hne => ?_⟩
      obtain ⟨role, hrole, -, hlisted⟩ := hhas hne
      exact ⟨role, hrole, hlisted⟩
  obtain ⟨hpass, habort⟩ := a.decide_of_user huser
  rw [hcheck]
  constructor
  · intro h
    rw [hpass (hgrants.mp h).1 (hgrants.mp h).2]
  · intro h
    obtain ⟨message, hmessage⟩ := habort fun hu => h (hgrants.mpr hu)
    exact ⟨message, by rw [hmessage]⟩

/-- With trusted identity fields, a rule that asks for roles lets a request pass exactly if the fields name a user and
one of the roles, whatever user came with the request, and stops it with its remedy otherwise. So unless aborts are
only recorded, no other request gets past a guard that has the rule. -/
theorem role_check_iff (henabled : g.config.identity.enabled = true) (ha : b.action = .requireRole a)
    (hcovers : b.scope.covers request.path = true) (c : Canvas) :
    (b.check (g.identified request) c = (c, .pass) ↔ g.config.identity.Grants request.headers a.roles) ∧
    (¬g.config.identity.Grants request.headers a.roles →
      ∃ message, b.check (g.identified request) c = (c, .abort a.remedy (some message))) ∧
    (b.toRule ∈ g.engine.inbound.rules → g.engine.enforcer.mode ≠ .log → ∀ l marks app,
      (g.inspect l marks request app).reached.isSome = true → g.config.identity.Grants request.headers a.roles) := by
  have hcheck := fun c => check_identified (g := g) henabled ha hcovers c
  refine ⟨⟨fun hpass => ?_, (hcheck c).1⟩, (hcheck c).2, fun hrule hmode l marks app hreached => ?_⟩
  · by_contra hnot
    obtain ⟨message, habort⟩ := (hcheck c).2 hnot
    cases hpass.symm.trans habort
  · have hallow : g.engine.enforcer.resolve (g.inboundRun request).1 = .allow := by
      rw [inspect_reached] at hreached
      split at hreached
      · cases hreached
      · split at hreached
        · cases hreached
        · rename_i hpage
          exact Verdict.page?_eq_none.mp hpage
    obtain ⟨c', hquiet⟩ := Chain.quiet_of_isAllowed (Enforcer.isAllowed_of_resolve hmode hallow) b.toRule hrule
    by_contra hnot
    obtain ⟨message, habort⟩ := (hcheck c').2 hnot
    have hstop : (b.toRule.check (g.identified request) c').2 = .finished (.abort a.remedy (some message)) := by
      simp [BuiltIn.toRule, habort]
    rw [hstop] at hquiet
    cases hquiet

/-- A guard that trusts the identity fields and has one rule. -/
def trusting (b : BuiltIn) : Guard where
  config := { identity := { enabled := true } }
  engine := { inbound := ⟨[b.toRule]⟩ }

/-- The fields of a gateway behind which someone is logged in. -/
def administrator : Request where
  uri := { rawPath := "/a" }
  headers := ⟨[(⟨"x-authenticated-user"⟩, ⟨Bytes.ofText " ann "⟩),
    (⟨"x-authenticated-roles"⟩, ⟨Bytes.ofText "ops,, admin "⟩)]⟩

/-- A request with a role, but with a user that no gateway named. -/
def intruder : Request where
  uri := { rawPath := "/a" }
  headers := ⟨[(⟨"x-authenticated-roles"⟩, ⟨Bytes.ofText "admin"⟩)]⟩
  user := some (.withRoles "root" ["admin"])

/-- The role among others is enough behind a named user, and is of no use without one. -/
theorem administrator_passes : ∃ b : BuiltIn, b.action = .requireRole ⟨["admin"], none⟩ ∧
    b.scope.covers administrator.path = true ∧ b.scope.covers intruder.path = true ∧
    b.check ((trusting b).identified administrator) ⟨none, {}⟩ = (⟨none, {}⟩, .pass) ∧
    (∃ message, b.check ((trusting b).identified intruder) ⟨none, {}⟩ = (⟨none, {}⟩, .abort none (some message))) ∧
    ∀ app, ((trusting b).inspect (.ofCapacity 1) default intruder app).reached = none := by
  obtain ⟨p, -, hmatch⟩ := exists_pattern_a
  let b : BuiltIn := ⟨"admins", ⟨p, []⟩, .requireRole ⟨["admin"], none⟩⟩
  have hcovers : ∀ q : Request, q.path = "/a" → b.scope.covers q.path = true := by
    intro q hq
    rw [hq]
    exact (Scope.covers_iff _ _).mpr ⟨hmatch, by simp [b]⟩
  have huser : HeaderName.parse? "x-authenticated-user" = some ⟨"x-authenticated-user"⟩ := by decide
  have hroles : HeaderName.parse? "x-authenticated-roles" = some ⟨"x-authenticated-roles"⟩ := by decide
  have hyes : (trusting b).config.identity.Grants administrator.headers ["admin"] :=
    { namesUser := ⟨_, ⟨_, _, [], huser, rfl, rfl⟩, by decide⟩
      listsRole := fun _ => ⟨"admin", List.mem_singleton_self _, _, ⟨_, _, [], hroles, rfl, rfl⟩,
        " admin ".toList, by decide, by decide, by decide⟩ }
  have hno : ¬(trusting b).config.identity.Grants intruder.headers ["admin"] := by
    rintro ⟨⟨text, ⟨n, v, rest, hn, hvalues, -⟩, -⟩, -⟩
    cases huser.symm.trans hn
    cases hvalues
  have hpass := role_check_iff (g := trusting b) rfl (a := ⟨["admin"], none⟩) rfl
    (hcovers administrator (by decide)) ⟨none, {}⟩
  have hstop := role_check_iff (g := trusting b) rfl (a := ⟨["admin"], none⟩) rfl
    (hcovers intruder (by decide)) ⟨none, {}⟩
  refine ⟨b, rfl, hcovers _ (by decide), hcovers _ (by decide), hpass.1.mpr hyes, hstop.2.1 hno, fun app => ?_⟩
  have hreached : ¬((trusting b).inspect (.ofCapacity 1) default intruder app).reached.isSome = true :=
    fun hr => hno (hstop.2.2 List.mem_cons_self nofun _ _ app hr)
  simpa using hreached

end Guard

end Boundary

end Portcullis

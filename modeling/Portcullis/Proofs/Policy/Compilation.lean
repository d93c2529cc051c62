import Portcullis.Policy.Engine
import Portcullis.Proofs.Policy.Built

/-!
# Policies in either load mode

A definition is at fault if its id stands before it or if it does not build by itself. Strict loading stops at the
first such definition, lenient loading leaves them all out. What is left always makes an engine, so that apart from
the settings and the number of definitions nothing fails a lenient load.
-/

namespace Portcullis.Policy

/-! ## Faults -/

/-- What is wrong with a definition that stands behind some others. -/
def RuleDefinition.fault? (d : RuleDefinition) (earlier : List RuleDefinition) : Option Defect :=
  if d.id ∈ earlier.map (·.id) then some (.repeatedRule d.id)
  else
    match d.build with
    | .ok _ => none
    | .error f => some f

theorem RuleDefinition.ruleId?_of_fault {d : RuleDefinition} {earlier : List RuleDefinition} {f : Defect}
    (h : d.fault? earlier = some f) : f.ruleId? = some d.id := by
  simp only [fault?] at h
  split at h
  · cases h
    rfl
  · split at h
    · cases h
    · rename_i hbuild
      cases h
      exact ruleId?_of_build hbuild

theorem RuleDefinition.build_of_fault_eq_none {d : RuleDefinition} {earlier : List RuleDefinition}
    (h : d.fault? earlier = none) : d.id ∉ earlier.map (·.id) ∧ ∃ b, d.build = .ok b := by
  simp only [fault?] at h
  split at h
  · cases h
  · rename_i hnew
    split at h
    · rename_i b hbuild
      exact ⟨hnew, b, hbuild⟩
    · cases h

/-- No definition is at fault, if they stand behind some others. -/
def FaultlessBehind (earlier ds : List RuleDefinition) : Prop :=
  ∀ before d after, ds = before ++ d :: after → d.fault? (earlier ++ before) = none

/-- The definitions that are not at fault, if all stand behind some others. -/
def usable (earlier : List RuleDefinition) : List RuleDefinition → List RuleDefinition
  | [] => []
  | d :: rest =>
    if d.fault? earlier = none then d :: usable (earlier ++ [d]) rest else usable (earlier ++ [d]) rest

theorem FaultlessBehind.cons {earlier rest : List RuleDefinition} {d : RuleDefinition} (h : d.fault? earlier = none)
    (hrest : FaultlessBehind (earlier ++ [d]) rest) : FaultlessBehind earlier (d :: rest) := by
  intro before x after hsplit
  cases before with
  | nil =>
    obtain ⟨rfl, rfl⟩ := List.cons.inj hsplit
    rwa [List.append_nil]
  | cons first before =>
    obtain ⟨rfl, rfl⟩ := List.cons.inj hsplit
    have := hrest before x after rfl
    rwa [List.append_assoc] at this

theorem FaultlessBehind.exists_first {earlier ds : List RuleDefinition} (h : ¬FaultlessBehind earlier ds) :
    ∃ before d after f, ds = before ++ d :: after ∧ FaultlessBehind earlier before ∧
      d.fault? (earlier ++ before) = some f := by
  induction ds generalizing earlier with
  | nil => exact absurd (fun before d after hsplit => by simp at hsplit) h
  | cons d rest ih =>
    cases hf : d.fault? earlier with
    | some f => exact ⟨[], d, rest, f, rfl, fun before x after hsplit => by simp at hsplit, by rwa [List.append_nil]⟩
    | none =>
      obtain ⟨before, x, after, f, rfl, hbefore, hx⟩ := ih fun hrest => h (.cons hf hrest)
      exact ⟨d :: before, x, after, f, rfl, .cons hf hbefore, by rwa [List.append_assoc] at hx⟩

theorem usable_sublist (earlier ds : List RuleDefinition) : (usable earlier ds).Sublist ds := by
  induction ds generalizing earlier with
  | nil => exact List.Sublist.refl _
  | cons d rest ih =>
    rw [usable]
    split
    · exact (ih _).cons_cons d
    · exact (ih _).cons d

/-- Usable definitions have ids of their own, and none of those before them. -/
theorem nodup_usable (earlier ds : List RuleDefinition) :
    ((usable earlier ds).map (·.id)).Nodup ∧ ∀ id ∈ (usable earlier ds).map (·.id), id ∉ earlier.map (·.id) := by
  induction ds generalizing earlier with
  | nil => simp [usable]
  | cons d rest ih =>
    obtain ⟨hnodup, hnew⟩ := ih (earlier ++ [d])
    have hlater : ∀ id ∈ (usable (earlier ++ [d]) rest).map (·.id), id ∉ earlier.map (·.id) ∧ id ≠ d.id := by
      intro id hid
      have hnot := hnew id hid
      rw [List.map_append, List.mem_append, not_or] at hnot
      exact ⟨hnot.1, fun heq => hnot.2 (by simp [heq])⟩
    rw [usable]
    split
    · rename_i hfault
      rw [List.map_cons]
      refine ⟨List.nodup_cons.mpr ⟨fun hid => (hlater _ hid).2 rfl, hnodup⟩, ?_⟩
      intro id hid
      rcases List.mem_cons.mp hid with rfl | hid
      · exact (RuleDefinition.build_of_fault_eq_none hfault).1
      · exact (hlater id hid).1
    · exact ⟨hnodup, fun id hid => (hlater id hid).1⟩

/-! ## Building -/

namespace PolicyDefinition

variable {seen : List String} {earlier : List RuleDefinition}

theorem buildRules_of_fault (hseen : ∀ id, id ∈ seen ↔ id ∈ earlier.map (·.id)) {d : RuleDefinition} {f : Defect}
    (h : d.fault? earlier = some f) (rest : List RuleDefinition) :
    buildRules .strict seen (d :: rest) = .error f ∧
      buildRules .lenient seen (d :: rest) = buildRules .lenient (d.id :: seen) rest := by
  have hbuilt : (if seen.contains d.id then .error (.repeatedRule d.id) else d.build) = Except.error f := by
    simp only [RuleDefinition.fault?] at h
    by_cases hid : d.id ∈ earlier.map (·.id)
    · rw [if_pos hid, Option.some.injEq] at h
      rw [if_pos (by simpa using (hseen _).mpr hid), h]
    · rw [if_neg hid] at h
      rw [if_neg (by simpa using fun hs => hid ((hseen _).mp hs))]
      cases hb : d.build with
      | ok b =>
        rw [hb] at h
        cases h
      | error g =>
        rw [hb] at h
        rw [Option.some.inj h]
  simp only [buildRules, hbuilt, and_self]

theorem buildRules_of_faultless (hseen : ∀ id, id ∈ seen ↔ id ∈ earlier.map (·.id)) {d : RuleDefinition}
    (h : d.fault? earlier = none) (rest : List RuleDefinition) :
    ∃ b, d.build = .ok b ∧
      ∀ mode, buildRules mode seen (d :: rest) = (b :: ·) <$> buildRules mode (d.id :: seen) rest := by
  obtain ⟨hnew, b, hb⟩ := RuleDefinition.build_of_fault_eq_none h
  have hbuilt : (if seen.contains d.id then .error (.repeatedRule d.id) else d.build) = Except.ok b := by
    rw [if_neg (by simpa using fun hs => hnew ((hseen _).mp hs)), hb]
  exact ⟨b, hb, fun mode => by simp only [buildRules, hbuilt]⟩

theorem mem_seen_snoc (hseen : ∀ id, id ∈ seen ↔ id ∈ earlier.map (·.id)) (d : RuleDefinition) (id : String) :
    id ∈ d.id :: seen ↔ id ∈ (earlier ++ [d]).map (·.id) := by
  simp only [List.mem_cons, hseen, List.map_append, List.mem_append, List.map_cons, List.map_nil, List.not_mem_nil,
    or_false]
  exact or_comm

/-- Lenient loading builds what can be built. -/
theorem buildRules_lenient (hseen : ∀ id, id ∈ seen ↔ id ∈ earlier.map (·.id)) (ds : List RuleDefinition) :
    ∃ built, buildRules .lenient seen ds = .ok built ∧
      List.Forall₂ (fun d b => d.build = .ok b) (usable earlier ds) built := by
  induction ds generalizing seen earlier with
  | nil => exact ⟨[], rfl, .nil⟩
  | cons d rest ih =>
    obtain ⟨built, hrest, hall⟩ := ih (mem_seen_snoc hseen d)
    cases hf : d.fault? earlier with
    | none =>
      obtain ⟨b, hb, hbuild⟩ := buildRules_of_faultless hseen hf rest
      refine ⟨b :: built, by rw [hbuild, hrest]; rfl, ?_⟩
      rw [usable, if_pos hf]
      exact .cons hb hall
    | some f =>
      refine ⟨built, by rw [(buildRules_of_fault hseen hf rest).2, hrest], ?_⟩
      rw [usable, if_neg (by simp [hf])]
      exact hall

theorem buildRules_strict_of_faultless (hseen : ∀ id, id ∈ seen ↔ id ∈ earlier.map (·.id))
    {ds : List RuleDefinition} (h : FaultlessBehind earlier ds) :
    buildRules .strict seen ds = buildRules .lenient seen ds := by
  induction ds generalizing seen earlier with
  | nil => rfl
  | cons d rest ih =>
    have hd : d.fault? earlier = none := by simpa using h [] d rest rfl
    obtain ⟨b, -, hbuild⟩ := buildRules_of_faultless hseen hd rest
    rw [hbuild, hbuild, ih (mem_seen_snoc hseen d)]
    intro before x after hsplit
    rw [List.append_assoc]
    exact h (d :: before) x after (by rw [hsplit]; rfl)

theorem buildRules_strict_of_fault (hseen : ∀ id, id ∈ seen ↔ id ∈ earlier.map (·.id))
    {before : List RuleDefinition} (hbefore : FaultlessBehind earlier before) {d : RuleDefinition} {f : Defect}
    (hf : d.fault? (earlier ++ before) = some f) (after : List RuleDefinition) :
    buildRules .strict seen (before ++ d :: after) = .error f := by
  induction before generalizing seen earlier with
  | nil => exact (buildRules_of_fault hseen (by rwa [List.append_nil] at hf) after).1
  | cons first before ih =>
    have hfirst : first.fault? earlier = none := by simpa using hbefore [] first before rfl
    obtain ⟨b, -, hbuild⟩ := buildRules_of_faultless hseen hfirst (before ++ d :: after)
    rw [List.cons_append, hbuild, ih (mem_seen_snoc hseen first) ?_ (by rwa [List.append_assoc])]
    · rfl
    · intro front x rest hsplit
      rw [List.append_assoc]
      exact hbefore (first :: front) x rest (by rw [hsplit]; rfl)

end PolicyDefinition

/-! ## The engine -/

theorem firstRepeated?_eq_none {seen ids : List String} (hnodup : ids.Nodup) (hnew : ∀ id ∈ ids, id ∉ seen) :
    firstRepeated? seen ids = none := by
  induction ids generalizing seen with
  | nil => rfl
  | cons id rest ih =>
    obtain ⟨hid, hrest⟩ := List.nodup_cons.mp hnodup
    have hseen : ¬seen.contains id = true := by simpa using hnew id List.mem_cons_self
    rw [firstRepeated?, if_neg hseen]
    refine ih hrest fun x hx hmem => ?_
    rcases List.mem_cons.mp hmem with rfl | hmem
    · exact hid hx
    · exact hnew x (.tail _ hx) hmem

theorem Chain.ofRules_eq_ok {rules : List Rule} {limit : Nat} (hlen : rules.length ≤ limit)
    (hnodup : (rules.map (·.id)).Nodup) : Chain.ofRules rules limit = .ok ⟨rules⟩ := by
  rw [ofRules, if_neg (Nat.not_lt.mpr hlen), firstRepeated?_eq_none hnodup fun _ _ => List.not_mem_nil]

/-- Few enough rules with ids of their own are parted by phase, and nothing fails. -/
theorem Engine.ofRules_eq_ok {rules : List Rule} {limit : Nat} (hlen : rules.length ≤ limit)
    (hnodup : (rules.map (·.id)).Nodup) (enforcer : Enforcer) :
    Engine.ofRules rules enforcer limit = .ok
      { inbound := ⟨rules.filter (·.phase == .inbound)⟩
        outbound := ⟨rules.filter (·.phase == .outbound)⟩
        enforcer } := by
  have hpart : ∀ p : Rule → Bool, Chain.ofRules (rules.filter p) limit = .ok ⟨rules.filter p⟩ := fun p =>
    Chain.ofRules_eq_ok (Nat.le_trans (List.length_filter_le p rules) hlen)
      (hnodup.sublist (List.filter_sublist.map _))
  have hphase : rules.filter (·.phase != .inbound) = rules.filter (·.phase == .outbound) :=
    List.filter_congr fun r _ => by cases r.phase <;> rfl
  rw [ofRules, Chain.ofRules_eq_ok hlen hnodup, hpart, hpart, hphase]
  rfl

namespace PolicyDefinition

/-- The policy asks for what cannot be enforced, or has too many definitions. -/
def Unfit (p : PolicyDefinition) (f : Defect) : Prop :=
  Enforcer.ofSettings p.settings = .error f ∨
    (∃ enforcer, Enforcer.ofSettings p.settings = .ok enforcer) ∧ p.settings.maxRules < p.rules.length ∧
      f = .tooManyRules p.settings.maxRules p.rules.length

/-- The engine holds the rules that the usable definitions of a policy build. -/
structure Holds (p : PolicyDefinition) (e : Engine) (built : List BuiltIn) : Prop where
  builds : List.Forall₂ (fun d b => d.build = .ok b) (usable [] p.rules) built
  fileOrder : (usable [] p.rules).Sublist p.rules
  inbound : e.inbound.rules = (built.map BuiltIn.toRule).filter (·.phase == .inbound)
  outbound : e.outbound.rules = (built.map BuiltIn.toRule).filter (·.phase == .outbound)
  inbound_phase : ∀ r ∈ e.inbound.rules, r.phase = .inbound
  outbound_phase : ∀ r ∈ e.outbound.rules, r.phase = .outbound
  ids_nodup : ((e.inbound.rules ++ e.outbound.rules).map (·.id)).Nodup
  ruleCount_le : e.ruleCount ≤ p.settings.maxRules
  enforcer : Enforcer.ofSettings p.settings = .ok e.enforcer

variable {p : PolicyDefinition}

theorem compile_of_unfit {f : Defect} (h : p.Unfit f) (mode : LoadMode) : p.compile mode = .error f := by
  rcases h with hs | ⟨⟨enforcer, hs⟩, hlen, rfl⟩
  · rw [compile, hs]
    rfl
  · simp only [compile, hs, bind, Except.bind, if_pos hlen]

theorem compile_of_fit {enforcer : Enforcer} (hs : Enforcer.ofSettings p.settings = .ok enforcer)
    (hlen : p.rules.length ≤ p.settings.maxRules) (mode : LoadMode) :
    p.compile mode = buildRules mode [] p.rules >>= fun built =>
      Engine.ofRules (built.map BuiltIn.toRule) enforcer p.settings.maxRules := by
  simp only [compile, hs, bind, Except.bind, if_neg (Nat.not_lt.mpr hlen)]

theorem exists_engine (hlen : p.rules.length ≤ p.settings.maxRules) {built : List BuiltIn}
    (hbuilt : List.Forall₂ (fun d b => d.build = .ok b) (usable [] p.rules) built) {enforcer : Enforcer}
    (hs : Enforcer.ofSettings p.settings = .ok enforcer) :
    ∃ e, Engine.ofRules (built.map BuiltIn.toRule) enforcer p.settings.maxRules = .ok e ∧ p.Holds e built := by
  have hids := ids_of_built hbuilt
  have hnodup : ((built.map BuiltIn.toRule).map (·.id)).Nodup := hids ▸ (nodup_usable [] p.rules).1
  have hcount : (built.map BuiltIn.toRule).length ≤ p.settings.maxRules := by
    rw [List.length_map, ← hbuilt.length_eq]
    exact Nat.le_trans (usable_sublist [] p.rules).length_le hlen
  have hperm : ((built.map BuiltIn.toRule).filter (·.phase == .inbound) ++
      (built.map BuiltIn.toRule).filter (·.phase == .outbound)).Perm (built.map BuiltIn.toRule) := by
    have hphase : (built.map BuiltIn.toRule).filter (·.phase == .outbound) =
        (built.map BuiltIn.toRule).filter (fun r => !(r.phase == .inbound)) :=
      List.filter_congr fun r _ => by cases r.phase <;> rfl
    rw [hphase]
    exact List.filter_append_perm _ _
  refine ⟨_, Engine.ofRules_eq_ok hcount hnodup enforcer, ?_⟩
  exact {
    builds := hbuilt
    fileOrder := usable_sublist [] p.rules
    inbound := rfl
    outbound := rfl
    inbound_phase := fun r hr => by simpa using (List.mem_filter.mp hr).2
    outbound_phase := fun r hr => by simpa using (List.mem_filter.mp hr).2
    ids_nodup := (hperm.map _).nodup_iff.mpr hnodup
    ruleCount_le := by
      rw [Engine.ruleCount, ← List.length_append, hperm.length_eq]
      exact hcount
    enforcer := hs }

theorem noneSeen (id : String) : id ∈ ([] : List String) ↔ id ∈ ([] : List RuleDefinition).map (·.id) :=
  Iff.rfl

/-- Whatever a load mode builds is what the usable definitions build. -/
theorem built_of_buildRules {mode : LoadMode} {built : List BuiltIn} (h : buildRules mode [] p.rules = .ok built) :
    List.Forall₂ (fun d b => d.build = .ok b) (usable [] p.rules) built := by
  obtain ⟨built', hlenient, hall⟩ := buildRules_lenient noneSeen p.rules
  have heq : built' = built := by
    cases mode with
    | lenient => exact Except.ok.inj (hlenient.symm.trans h)
    | strict =>
      by_cases hf : FaultlessBehind [] p.rules
      · rw [buildRules_strict_of_faultless noneSeen hf, hlenient] at h
        exact Except.ok.inj h
      · obtain ⟨before, d, after, f, hsplit, hbefore, hd⟩ := FaultlessBehind.exists_first hf
        rw [hsplit, buildRules_strict_of_fault noneSeen hbefore hd after] at h
        cases h
  exact heq ▸ hall

theorem unfit_or_fit (p : PolicyDefinition) : (∃ f, p.Unfit f) ∨
    ∃ enforcer, Enforcer.ofSettings p.settings = .ok enforcer ∧ p.rules.length ≤ p.settings.maxRules := by
  cases hs : Enforcer.ofSettings p.settings with
  | error f => exact .inl ⟨f, .inl hs⟩
  | ok enforcer =>
    rcases Nat.lt_or_ge p.settings.maxRules p.rules.length with hlen | hlen
    · exact .inl ⟨_, .inr ⟨⟨enforcer, hs⟩, hlen, rfl⟩⟩
    · exact .inr ⟨enforcer, rfl, hlen⟩

theorem holds_of_compile {mode : LoadMode} {e : Engine} (h : p.compile mode = .ok e) : ∃ built, p.Holds e built := by
  rcases p.unfit_or_fit with ⟨f, hf⟩ | ⟨enforcer, hs, hlen⟩
  · rw [compile_of_unfit hf] at h
    cases h
  · rw [compile_of_fit hs hlen] at h
    obtain ⟨built, hb, h⟩ := bind_eq_ok.mp h
    obtain ⟨e', he', hholds⟩ := exists_engine hlen (built_of_buildRules hb) hs
    have heq : e' = e := Except.ok.inj (he'.symm.trans h)
    exact ⟨built, heq ▸ hholds⟩

theorem compile_strict_of_faultless (h : FaultlessBehind [] p.rules) : p.compile .strict = p.compile .lenient := by
  rcases p.unfit_or_fit with ⟨f, hf⟩ | ⟨enforcer, hs, hlen⟩
  · rw [compile_of_unfit hf, compile_of_unfit hf]
  · rw [compile_of_fit hs hlen, compile_of_fit hs hlen, buildRules_strict_of_faultless noneSeen h]

theorem compile_strict_of_fault {enforcer : Enforcer} (hs : Enforcer.ofSettings p.settings = .ok enforcer)
    (hlen : p.rules.length ≤ p.settings.maxRules) (h : ¬FaultlessBehind [] p.rules) :
    ∃ before d after f, p.rules = before ++ d :: after ∧ FaultlessBehind [] before ∧ d.fault? before = some f ∧
      p.compile .strict = .error f ∧ f.ruleId? = some d.id := by
  obtain ⟨before, d, after, f, hsplit, hbefore, hd⟩ := FaultlessBehind.exists_first h
  refine ⟨before, d, after, f, hsplit, hbefore, hd, ?_, RuleDefinition.ruleId?_of_fault hd⟩
  rw [compile_of_fit hs hlen, hsplit, buildRules_strict_of_fault noneSeen hbefore hd after]
  rfl

/-- The load modes agree on every policy. A strict load gives what a lenient one gives, if it gives anything. A
lenient load fails only for the settings or the number of definitions, as a strict one does. Otherwise a strict load
fails for the first definition that is at fault. An engine holds the rules of the usable definitions, and the checks
on the way to it never fail. -/
theorem compile_modes (p : PolicyDefinition) :
    (∀ e, p.compile .strict = .ok e → p.compile .lenient = .ok e) ∧
    (∀ f, p.compile .lenient = .error f → p.compile .strict = .error f ∧ p.Unfit f) ∧
    (∀ enforcer, Enforcer.ofSettings p.settings = .ok enforcer → p.rules.length ≤ p.settings.maxRules →
      ¬FaultlessBehind [] p.rules →
      ∃ before d after f, p.rules = before ++ d :: after ∧ FaultlessBehind [] before ∧ d.fault? before = some f ∧
        p.compile .strict = .error f ∧ f.ruleId? = some d.id) ∧
    (∀ mode e, p.compile mode = .ok e → ∃ built, p.Holds e built) ∧
    ∀ mode enforcer built, Enforcer.ofSettings p.settings = .ok enforcer → p.rules.length ≤ p.settings.maxRules →
      buildRules mode [] p.rules = .ok built →
      ∃ e, Engine.ofRules (built.map BuiltIn.toRule) enforcer p.settings.maxRules = .ok e := by
  refine ⟨fun e he => ?_, fun f hf => ?_, fun enforcer hs hlen h => compile_strict_of_fault hs hlen h,
    fun mode e he => holds_of_compile he, fun mode enforcer built hs hlen hb => ?_⟩
  · by_cases hfault : FaultlessBehind [] p.rules
    · rw [← compile_strict_of_faultless hfault, he]
    · rcases p.unfit_or_fit with ⟨f, hf⟩ | ⟨enforcer, hs, hlen⟩
      · rw [compile_of_unfit hf] at he
        cases he
      · obtain ⟨before, d, after, f, -, -, -, herror, -⟩ := compile_strict_of_fault hs hlen hfault
        rw [herror] at he
        cases he
  · rcases p.unfit_or_fit with ⟨g, hg⟩ | ⟨enforcer, hs, hlen⟩
    · have heq : g = f := by
        rw [compile_of_unfit hg, Except.error.injEq] at hf
        exact hf
      exact ⟨heq ▸ compile_of_unfit hg .strict, heq ▸ hg⟩
    · obtain ⟨built, hb, hall⟩ := buildRules_lenient noneSeen p.rules
      obtain ⟨e, he, -⟩ := exists_engine hlen hall hs
      rw [compile_of_fit hs hlen, hb] at hf
      cases he.symm.trans hf
  · obtain ⟨e, he, -⟩ := exists_engine hlen (built_of_buildRules hb) hs
    exact ⟨e, he⟩

def twiceNamed : PolicyDefinition where
  name := "twice named"
  rules := [{ id := "https", kind := .enforceHttps }, { id := " ", kind := .enforceHttps },
    { id := "https", kind := .requireRole [] none none }]

theorem twiceNamed_modes :
    (Enforcer.ofSettings twiceNamed.settings = .ok {} ∧ twiceNamed.rules.length ≤ twiceNamed.settings.maxRules ∧
      ¬FaultlessBehind [] twiceNamed.rules) ∧
    (∃ before d after f, twiceNamed.rules = before ++ d :: after ∧ FaultlessBehind [] before ∧
      d.fault? before = some f ∧ twiceNamed.compile .strict = .error f ∧ f.ruleId? = some d.id) ∧
    ∃ e built, twiceNamed.compile .lenient = .ok e ∧ twiceNamed.Holds e built := by
  have hs : Enforcer.ofSettings twiceNamed.settings = .ok {} := by decide
  have hlen : twiceNamed.rules.length ≤ twiceNamed.settings.maxRules := by decide
  have hfault : ¬FaultlessBehind [] twiceNamed.rules := by
    intro h
    have hnone := h [{ id := "https", kind := .enforceHttps }] { id := " ", kind := .enforceHttps }
      [{ id := "https", kind := .requireRole [] none none }] rfl
    obtain ⟨-, b, hb⟩ := RuleDefinition.build_of_fault_eq_none hnone
    cases hb
  obtain ⟨-, hlenient, hstrict, hholds, -⟩ := compile_modes twiceNamed
  refine ⟨⟨hs, hlen, hfault⟩, hstrict {} hs hlen hfault, ?_⟩
  cases he : twiceNamed.compile .lenient with
  | ok e =>
    obtain ⟨built, hbuilt⟩ := hholds .lenient e he
    exact ⟨e, built, rfl, hbuilt⟩
  | error f =>
    obtain ⟨-, hs' | ⟨-, hlen', -⟩⟩ := hlenient f he
    · rw [hs] at hs'
      cases hs'
    · exact absurd hlen (Nat.not_le.mpr hlen')

end PolicyDefinition

end Portcullis.Policy

import Portcullis.Proofs.Policy.Compilation
import Portcullis.Proofs.Policy.Frame

/-!
# Definitions that are left out

A lenient load leaves out a definition that does not build, but keeps its id in mind. The definition behind it that
would be the first usable one with that id is then taken for a repetition, and its rule is lost.
-/

namespace Portcullis.Policy

/-! ## Usable definitions behind others -/

theorem RuleDefinition.fault?_congr {d : RuleDefinition} {earlier other : List RuleDefinition}
    (h : d.id ∈ earlier.map (·.id) ↔ d.id ∈ other.map (·.id)) : d.fault? earlier = d.fault? other := by
  simp only [fault?, h]

/-- Of the definitions before some only the ids matter that these have. -/
theorem usable_congr {earlier other ds : List RuleDefinition}
    (h : ∀ d ∈ ds, d.id ∈ earlier.map (·.id) ↔ d.id ∈ other.map (·.id)) : usable earlier ds = usable other ds := by
  induction ds generalizing earlier other with
  | nil => rfl
  | cons d rest ih =>
    have hrest : usable (earlier ++ [d]) rest = usable (other ++ [d]) rest := ih fun x hx => by
      simp only [List.map_append, List.mem_append, h x (.tail _ hx)]
    rw [usable, usable, RuleDefinition.fault?_congr (h d List.mem_cons_self), hrest]

theorem usable_append (earlier front back : List RuleDefinition) :
    usable earlier (front ++ back) = usable earlier front ++ usable (earlier ++ front) back := by
  induction front generalizing earlier with
  | nil => rw [List.nil_append, List.append_nil, usable, List.nil_append]
  | cons d rest ih =>
    rw [List.cons_append, usable, usable, ih, List.append_assoc, List.singleton_append]
    split <;> rfl

/-- Behind one more definition those are not usable any longer that have its id. -/
theorem usable_snoc (earlier ds : List RuleDefinition) (d : RuleDefinition) :
    usable (earlier ++ [d]) ds = (usable earlier ds).filter (·.id != d.id) := by
  induction ds generalizing earlier with
  | nil => rfl
  | cons x rest ih =>
    have hswap : usable (earlier ++ [d] ++ [x]) rest = usable (earlier ++ [x] ++ [d]) rest :=
      usable_congr fun y _ => by simp only [List.map_append, List.mem_append, or_right_comm]
    rw [usable, usable, hswap, ih]
    by_cases hid : x.id = d.id
    · have hfault : x.fault? (earlier ++ [d]) = some (.repeatedRule x.id) := by simp [RuleDefinition.fault?, hid]
      rw [hfault, if_neg (Option.some_ne_none _)]
      split
      · rw [List.filter_cons_of_neg (by simp [hid])]
      · rfl
    · have hsame : x.fault? (earlier ++ [d]) = x.fault? earlier := RuleDefinition.fault?_congr (by simp [hid])
      rw [hsame]
      split
      · rw [List.filter_cons_of_pos (by simp [hid])]
      · rfl

theorem usable_of_build_error {d : RuleDefinition} {f : Defect} (hd : d.build = .error f)
    (before after : List RuleDefinition) :
    usable [] (before ++ d :: after) = usable [] before ++ (usable before after).filter (·.id != d.id) := by
  have hfault : d.fault? before ≠ none := by
    rw [RuleDefinition.fault?, hd]
    split <;> exact Option.some_ne_none _
  rw [usable_append, List.nil_append, usable, if_neg hfault, usable_snoc]

/-- A usable definition parts the definitions into those before and those behind it. -/
theorem usable_split {earlier ds front back : List RuleDefinition} {d : RuleDefinition}
    (h : usable earlier ds = front ++ d :: back) :
    ∃ before after, ds = before ++ d :: after ∧ usable earlier before = front ∧ d.fault? (earlier ++ before) = none := by
  induction ds generalizing earlier front with
  | nil => simp [usable] at h
  | cons x rest ih =>
    rw [usable] at h
    split at h
    · rename_i hx
      cases front with
      | nil =>
        obtain ⟨rfl, -⟩ := List.cons.inj h
        exact ⟨[], rest, rfl, rfl, by rwa [List.append_nil]⟩
      | cons y front =>
        obtain ⟨rfl, htail⟩ := List.cons.inj h
        obtain ⟨before, after, rfl, hbefore, hd⟩ := ih htail
        exact ⟨x :: before, after, rfl, by rw [usable, if_pos hx, hbefore], by rwa [List.append_assoc] at hd⟩
    · rename_i hx
      obtain ⟨before, after, rfl, hbefore, hd⟩ := ih h
      exact ⟨x :: before, after, rfl, by rw [usable, if_neg hx, hbefore], by rwa [List.append_assoc] at hd⟩

/-- Definitions can go before the others are looked at, if none that stays has the id of one that goes before it. -/
theorem usable_filter {k : RuleDefinition → Bool} {earlier ds : List RuleDefinition}
    (hds : ds.Pairwise fun d x => k d = false → k x = true → x.id ≠ d.id)
    (hearlier : ∀ d ∈ earlier, k d = false → ∀ x ∈ ds, k x = true → x.id ≠ d.id) :
    usable (earlier.filter k) (ds.filter k) = (usable earlier ds).filter k := by
  induction ds generalizing earlier with
  | nil => rfl
  | cons d rest ih =>
    obtain ⟨hd, hrest⟩ := List.pairwise_cons.mp hds
    have hsnoc : usable ((earlier ++ [d]).filter k) (rest.filter k) = (usable (earlier ++ [d]) rest).filter k := by
      refine ih hrest fun x hx hk y hy => ?_
      rcases List.mem_append.mp hx with hx | hx
      · exact hearlier x hx hk y (.tail _ hy)
      · obtain rfl := List.mem_singleton.mp hx
        exact hd y hy hk
    cases hk : k d with
    | false =>
      rw [List.filter_append, List.filter_singleton, hk, cond_false, List.append_nil] at hsnoc
      rw [List.filter_cons_of_neg (by simp [hk]), usable, hsnoc]
      split
      · rw [List.filter_cons_of_neg (by simp [hk])]
      · rfl
    | true =>
      have hfault : d.fault? (earlier.filter k) = d.fault? earlier := by
        refine RuleDefinition.fault?_congr ⟨fun h => (List.filter_sublist.map _).subset h, fun h => ?_⟩
        obtain ⟨x, hx, hid⟩ := List.mem_map.mp h
        cases hkx : k x with
        | false => exact absurd hid.symm (hearlier x hx hkx d List.mem_cons_self hk)
        | true => exact List.mem_map.mpr ⟨x, List.mem_filter.mpr ⟨hx, hkx⟩, hid⟩
      rw [List.filter_append, List.filter_singleton, hk, cond_true] at hsnoc
      rw [List.filter_cons_of_pos hk, usable, usable, hfault, hsnoc]
      split
      · rw [List.filter_cons_of_pos hk]
      · rfl

/-! ## Definitions without a fault -/

theorem FaultlessBehind.of_nodup {ds : List RuleDefinition} (hnodup : (ds.map (·.id)).Nodup)
    (hbuild : ∀ d ∈ ds, ∃ b, d.build = .ok b) : FaultlessBehind [] ds := by
  rintro before d after rfl
  obtain ⟨b, hb⟩ := hbuild d (by simp)
  have hnew : d.id ∉ before.map (·.id) := by
    rw [List.map_append, List.nodup_append] at hnodup
    exact fun h => hnodup.2.2 _ h _ (by simp) rfl
  rw [List.nil_append, RuleDefinition.fault?, if_neg hnew, hb]

theorem FaultlessBehind.usable_eq {earlier ds : List RuleDefinition} (h : FaultlessBehind earlier ds) :
    usable earlier ds = ds := by
  induction ds generalizing earlier with
  | nil => rfl
  | cons d rest ih =>
    have hd : d.fault? earlier = none := by simpa using h [] d rest rfl
    have hrest : FaultlessBehind (earlier ++ [d]) rest := fun before x after hsplit => by
      rw [List.append_assoc]
      exact h (d :: before) x after (by rw [hsplit]; rfl)
    rw [usable, if_pos hd, ih hrest]

theorem FaultlessBehind.nodup {ds : List RuleDefinition} (h : FaultlessBehind [] ds) : (ds.map (·.id)).Nodup :=
  h.usable_eq ▸ (nodup_usable [] ds).1

theorem FaultlessBehind.sublist {ds kept : List RuleDefinition} (h : FaultlessBehind [] ds) (hkept : kept.Sublist ds) :
    FaultlessBehind [] kept := by
  refine .of_nodup (h.nodup.sublist (hkept.map _)) fun d hd => ?_
  obtain ⟨before, after, hsplit⟩ := List.append_of_mem (hkept.subset hd)
  exact (RuleDefinition.build_of_fault_eq_none (h before d after hsplit)).2

/-! ## Rules of an engine -/

namespace PolicyDefinition

variable {p p' : PolicyDefinition} {e e' : Engine} {built built' : List BuiltIn}

/-- The rules of both phases are those of the usable definitions. -/
theorem Holds.mem_ids (h : p.Holds e built) (id : String) :
    id ∈ (e.inbound.rules ++ e.outbound.rules).map (·.id) ↔ id ∈ (usable [] p.rules).map (·.id) := by
  rw [← ids_of_built h.builds, h.inbound, h.outbound]
  simp only [List.mem_map, List.mem_append, List.mem_filter, beq_iff_eq]
  constructor
  · rintro ⟨r, ⟨hr, -⟩ | ⟨hr, -⟩, rfl⟩ <;> exact ⟨r, hr, rfl⟩
  · rintro ⟨r, hr, rfl⟩
    cases hphase : r.phase with
    | inbound => exact ⟨r, .inl ⟨hr, hphase⟩, rfl⟩
    | outbound => exact ⟨r, .inr ⟨hr, hphase⟩, rfl⟩

theorem built_unique {ds : List RuleDefinition} (h : List.Forall₂ (fun d b => d.build = .ok b) ds built)
    (h' : List.Forall₂ (fun d b => d.build = .ok b) ds built') : built = built' := by
  induction h generalizing built' with
  | nil =>
    cases h'
    rfl
  | cons hb _ ih =>
    cases h' with
    | cons hb' hrest =>
      rw [ih hrest, Except.ok.inj (hb.symm.trans hb')]

theorem exists_lenient {enforcer : Enforcer} (hs : Enforcer.ofSettings p.settings = .ok enforcer)
    (hlen : p.rules.length ≤ p.settings.maxRules) : ∃ e built, p.compile .lenient = .ok e ∧ p.Holds e built := by
  obtain ⟨built, hb, hall⟩ := buildRules_lenient noneSeen p.rules
  obtain ⟨e, he, hholds⟩ := exists_engine hlen hall hs
  exact ⟨e, built, by rw [compile_of_fit hs hlen, hb]; exact he, hholds⟩

theorem length_le_of_compile {mode : LoadMode} (h : p.compile mode = .ok e) :
    p.rules.length ≤ p.settings.maxRules := by
  rcases p.unfit_or_fit with ⟨f, hf⟩ | ⟨enforcer, -, hlen⟩
  · rw [compile_of_unfit hf] at h
    cases h
  · exact hlen

theorem faultless_of_compile (h : p.compile .strict = .ok e) : FaultlessBehind [] p.rules := by
  rcases p.unfit_or_fit with ⟨f, hf⟩ | ⟨enforcer, hs, hlen⟩
  · rw [compile_of_unfit hf] at h
    cases h
  · by_contra hfault
    obtain ⟨_, _, _, _, _, _, _, herror, _⟩ := compile_strict_of_fault hs hlen hfault
    rw [herror] at h
    cases h

/-- A policy that loads also loads with fewer definitions. -/
theorem compile_of_sublist {mode : LoadMode} (h : p.compile mode = .ok e) {kept : List RuleDefinition}
    (hkept : kept.Sublist p.rules) : ∃ e', compile { p with rules := kept } mode = .ok e' := by
  obtain ⟨built, hholds⟩ := holds_of_compile h
  obtain ⟨e', -, he', -⟩ := exists_lenient (p := { p with rules := kept }) hholds.enforcer
    (Nat.le_trans hkept.length_le (length_le_of_compile h))
  cases mode with
  | lenient => exact ⟨e', he'⟩
  | strict => exact ⟨e', by rw [compile_strict_of_faultless ((faultless_of_compile h).sublist hkept), he']⟩

/-- Leniently loaded, a policy has the same rules with a definition that does not build as without it exactly if no
definition behind it has its id and is usable without it. -/
theorem skipped_unnoticed_iff {enforcer : Enforcer} (hs : Enforcer.ofSettings p.settings = .ok enforcer)
    {before after : List RuleDefinition} {d : RuleDefinition} {f : Defect} (hd : d.build = .error f)
    (hlen : (before ++ d :: after).length ≤ p.settings.maxRules) :
    ∃ e e', compile { p with rules := before ++ d :: after } .lenient = .ok e ∧
      compile { p with rules := before ++ after } .lenient = .ok e' ∧
      (e.inbound.rules = e'.inbound.rules ∧ e.outbound.rules = e'.outbound.rules ↔
        ∀ x ∈ usable before after, x.id ≠ d.id) := by
  have hlen' : (before ++ after).length ≤ p.settings.maxRules := by
    simp only [List.length_append, List.length_cons] at hlen ⊢
    omega
  obtain ⟨e, built, he, hholds⟩ := exists_lenient (p := { p with rules := before ++ d :: after }) hs hlen
  obtain ⟨e', built', he', hholds'⟩ := exists_lenient (p := { p with rules := before ++ after }) hs hlen'
  have hwith : usable [] (before ++ d :: after) = _ := usable_of_build_error hd before after
  have hwithout : usable [] (before ++ after) = usable [] before ++ usable before after := usable_append [] before after
  refine ⟨e, e', he, he', ?_, ?_⟩
  · rintro ⟨hin, hout⟩ x hx hid
    -- the id is new behind `before`, so that only `x` can bring it in
    have hnew : d.id ∉ before.map (·.id) :=
      hid ▸ (nodup_usable before after).2 x.id (List.mem_map_of_mem hx)
    have hmem : d.id ∈ (usable [] (before ++ after)).map (·.id) := by
      rw [hwithout, List.map_append, List.mem_append, ← hid]
      exact .inr (List.mem_map_of_mem hx)
    rw [← hholds'.mem_ids, ← hin, ← hout, hholds.mem_ids, hwith, List.map_append, List.mem_append] at hmem
    rcases hmem with hmem | hmem
    · exact hnew (((usable_sublist [] before).map _).subset hmem)
    · obtain ⟨y, hy, hyid⟩ := List.mem_map.mp hmem
      exact absurd hyid (by simpa using (List.mem_filter.mp hy).2)
  · intro hnone
    have hkeep : (usable before after).filter (·.id != d.id) = usable before after :=
      List.filter_eq_self.mpr fun x hx => by simpa using hnone x hx
    have hsame : built = built' := by
      refine built_unique hholds.builds ?_
      rw [hwith, hkeep, ← hwithout]
      exact hholds'.builds
    rw [hholds.inbound, hholds'.inbound, hholds.outbound, hholds'.outbound, hsame]
    exact ⟨rfl, rfl⟩

/-- A stamp under a name that no field can have. -/
def misnamed : RuleDefinition :=
  { stamp "/a" with kind := .addHeader "Bad Header" "1" }

theorem misnamed_build : misnamed.build = .error (.rule "stamp" (.badHeaderName "Bad Header")) := by
  obtain ⟨p, hp, -⟩ := exists_pattern_a
  have hscope : misnamed.scope = .ok ⟨p, []⟩ := RuleDefinition.scope_eq_ok.mpr ⟨hp, rfl⟩
  have hid : (Text.trim misnamed.id.toList).isEmpty = false := by decide
  rw [RuleDefinition.build, RuleDefinition.buildParts, hid, hscope]
  rfl

/-- Behind the stamp that it repeats, it makes no difference. -/
theorem misnamed_unnoticed :
    (Enforcer.ofSettings {} = .ok {} ∧ misnamed.build = .error (.rule "stamp" (.badHeaderName "Bad Header")) ∧
      ([stamp "/a"] ++ misnamed :: []).length ≤ ({} : Settings).maxRules) ∧
    ∃ e e', compile { name := "stamps", rules := [stamp "/a"] ++ misnamed :: [] } .lenient = .ok e ∧
      compile { name := "stamps", rules := [stamp "/a"] ++ [] } .lenient = .ok e' ∧
      e.inbound.rules = e'.inbound.rules ∧ e.outbound.rules = e'.outbound.rules := by
  have hs : Enforcer.ofSettings {} = .ok {} := by decide
  have hlen : ([stamp "/a"] ++ misnamed :: []).length ≤ ({} : Settings).maxRules := by decide
  obtain ⟨e, e', he, he', hiff⟩ := skipped_unnoticed_iff (p := { name := "stamps" }) hs misnamed_build hlen
  exact ⟨⟨hs, misnamed_build, hlen⟩, e, e', he, he', hiff.mpr nofun⟩

/-- Before the stamp it costs the policy its only rule. -/
theorem misnamed_shadows : ∃ e e', misnamed.build = .error (.rule "stamp" (.badHeaderName "Bad Header")) ∧
    compile { name := "stamps", rules := [misnamed, stamp "/a"] } .lenient = .ok e ∧
    compile { name := "stamps", rules := [stamp "/a"] } .lenient = .ok e' ∧
    e.outbound.rules = [] ∧ e'.outbound.rules.map (·.id) = ["stamp"] := by
  obtain ⟨p, hp, -⟩ := exists_pattern_a
  have hs : Enforcer.ofSettings {} = .ok {} := by decide
  let b : BuiltIn := ⟨"stamp", ⟨p, []⟩, .addHeader ⟨⟨"x-a"⟩, ⟨[49]⟩⟩⟩
  refine ⟨{}, { outbound := ⟨[b.toRule]⟩ }, misnamed_build, ?_, ?_, rfl, rfl⟩
  · rw [compile_of_fit hs (by decide)]
    simp only [buildRules, misnamed_build]
    rfl
  · rw [compile_of_fit hs (by decide)]
    simp only [buildRules, stamp_build hp]
    rfl

end PolicyDefinition

end Portcullis.Policy

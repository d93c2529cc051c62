import Mathlib.Data.List.Forall2
import Portcullis.Policy.Build

/-! # Rules and the definitions that they are built from -/

namespace Portcullis.Policy
open Http

/-! ## Results of a build -/

theorem bind_eq_ok {α β ε : Type} {x : Except ε α} {f : α → Except ε β} {b : β} :
    x >>= f = .ok b ↔ ∃ a, x = .ok a ∧ f a = .ok b := by
  cases x <;> simp [bind, Except.bind]

theorem map_eq_ok {α β ε : Type} {x : Except ε α} {f : α → β} {b : β} :
    f <$> x = .ok b ↔ ∃ a, x = .ok a ∧ f a = b := by
  cases x <;> simp [Functor.map, Except.map]

theorem mem_of_mapM {α β ε : Type} {f : α → Except ε β} {as : List α} {bs : List β} (h : as.mapM f = .ok bs) {a : α}
    (ha : a ∈ as) : ∃ b ∈ bs, f a = .ok b := by
  induction as generalizing bs with
  | nil => cases ha
  | cons first rest ih =>
    rw [List.mapM_cons] at h
    obtain ⟨b, hb, h⟩ := bind_eq_ok.mp h
    obtain ⟨bs', hr, h⟩ := bind_eq_ok.mp h
    cases h
    rcases List.mem_cons.mp ha with rfl | ha
    · exact ⟨b, List.mem_cons_self, hb⟩
    · obtain ⟨b', hb', hfa⟩ := ih hr ha
      exact ⟨b', .tail _ hb', hfa⟩

theorem orDefect_eq_ok {α : Type} {f : RuleDefect} {v : Option α} {a : α} : orDefect f v = .ok a ↔ v = some a := by
  cases v <;> simp [orDefect]

theorem wholePattern_eq_ok {field source : String} {p : WholePattern} :
    wholePattern field source = .ok p ↔ WholePattern.ofSource? source = some p :=
  orDefect_eq_ok

/-! ## The parts of a rule -/

namespace RuleDefinition

theorem parts_of_build {d : RuleDefinition} {b : BuiltIn} (h : d.build = .ok b) :
    b.id = d.id ∧ d.scope = .ok b.scope ∧ d.kind.build = .ok b.action := by
  simp only [build] at h
  cases hparts : d.buildParts with
  | error f =>
    rw [hparts] at h
    cases h
  | ok b' =>
    rw [hparts] at h
    cases h
    simp only [buildParts] at hparts
    split at hparts
    · cases hparts
    · obtain ⟨scope, hs, hparts⟩ := bind_eq_ok.mp hparts
      obtain ⟨action, ha, hparts⟩ := bind_eq_ok.mp hparts
      cases hparts
      exact ⟨rfl, hs, ha⟩

theorem build_of_parts {d : RuleDefinition} {s : Scope} {a : Action}
    (hid : (Text.trim d.id.toList).isEmpty = false) (hs : d.scope = .ok s) (ha : d.kind.build = .ok a) :
    d.build = .ok ⟨d.id, s, a⟩ := by
  rw [build, buildParts, hid, hs, ha]
  rfl

theorem scope_eq_ok {d : RuleDefinition} {s : Scope} : d.scope = .ok s ↔
    WholePattern.ofSource? d.path = some s.pattern ∧ d.exceptions.mapM ExceptionDefinition.build = .ok s.exceptions := by
  rw [scope]
  constructor
  · intro h
    obtain ⟨p, hp, h⟩ := bind_eq_ok.mp h
    obtain ⟨xs, hx, h⟩ := bind_eq_ok.mp h
    cases h
    exact ⟨wholePattern_eq_ok.mp hp, hx⟩
  · rintro ⟨hp, hx⟩
    rw [wholePattern_eq_ok.mpr hp, hx]
    rfl

theorem build_of_pattern {d : RuleDefinition} {p : WholePattern} {a : Action}
    (hid : (Text.trim d.id.toList).isEmpty = false) (hp : WholePattern.ofSource? d.path = some p)
    (hx : d.exceptions = []) (ha : d.kind.build = .ok a) : d.build = .ok ⟨d.id, ⟨p, []⟩, a⟩ := by
  refine build_of_parts hid (scope_eq_ok.mpr ⟨hp, ?_⟩) ha
  rw [hx]
  rfl

theorem ruleId?_of_build {d : RuleDefinition} {f : Defect} (h : d.build = .error f) : f.ruleId? = some d.id := by
  simp only [build] at h
  cases hparts : d.buildParts with
  | ok b =>
    rw [hparts] at h
    cases h
  | error f' =>
    rw [hparts] at h
    cases h
    rfl

end RuleDefinition

theorem HeaderValue.bytes_of_ofText? {s : String} {v : HeaderValue} (h : HeaderValue.ofText? s = some v) :
    v.bytes = Bytes.ofText s := by
  rw [HeaderValue.ofText?, HeaderValue.ofBytes?] at h
  split at h
  · cases h
    rfl
  · cases h

theorem AddHeader.build_eq_ok {header text : String} {a : AddHeader} : AddHeader.build header text = .ok a ↔
    HeaderName.parse? header = some a.header ∧ HeaderValue.ofText? text = some a.value := by
  simp only [build, bind_eq_ok, orDefect_eq_ok, pure, Except.pure, Except.ok.injEq]
  constructor
  · rintro ⟨n, hn, v, hv, rfl⟩
    exact ⟨hn, hv⟩
  · rintro ⟨hn, hv⟩
    exact ⟨a.header, hn, a.value, hv, rfl⟩

/-- What sets a field was written as the setting of a field, with the name in any case and the value as it is. -/
theorem RuleKind.build_eq_addHeader {k : RuleKind} {a : AddHeader} : k.build = .ok (.addHeader a) ↔
    ∃ header text, k = .addHeader header text ∧ HeaderName.parse? header = some a.header ∧
      HeaderValue.ofText? text = some a.value := by
  constructor
  · intro h
    cases k with
    | addHeader header text =>
      obtain ⟨a', ha, heq⟩ := map_eq_ok.mp h
      cases heq
      exact ⟨header, text, rfl, AddHeader.build_eq_ok.mp ha⟩
    | _ =>
      simp only [build] at h
      repeat' split at h
      all_goals simp [bind_eq_ok, map_eq_ok, pure, Except.pure] at h
  · rintro ⟨header, text, rfl, ha⟩
    exact map_eq_ok.mpr ⟨a, AddHeader.build_eq_ok.mpr ha, rfl⟩

theorem ids_of_built {ds : List RuleDefinition} {built : List BuiltIn}
    (h : List.Forall₂ (fun d b => d.build = .ok b) ds built) :
    (built.map BuiltIn.toRule).map (·.id) = ds.map (·.id) := by
  induction h with
  | nil => rfl
  | cons hb _ ih => simpa [BuiltIn.toRule, (RuleDefinition.parts_of_build hb).1] using ih

theorem exists_definition {ds : List RuleDefinition} {built : List BuiltIn}
    (h : List.Forall₂ (fun d b => d.build = .ok b) ds built) {b : BuiltIn} (hb : b ∈ built) :
    ∃ d ∈ ds, d.build = .ok b := by
  induction h with
  | nil => cases hb
  | cons hd _ ih =>
    rcases List.mem_cons.mp hb with rfl | hb
    · exact ⟨_, List.mem_cons_self, hd⟩
    · obtain ⟨d, hmem, hbuild⟩ := ih hb
      exact ⟨d, .tail _ hmem, hbuild⟩

end Portcullis.Policy

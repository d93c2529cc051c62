import Portcullis.Policy.Engine
import Portcullis.Policy.Writing
import Portcullis.Proofs.Document.Json
import Portcullis.Proofs.Policy.Keys

/-!
# Policies that are read back

What a document gives as a policy is written in full, apart from what may be left out and is not there. Reading what was
written gives the policy again, as data and as JSON text.
-/

namespace Portcullis.Policy
open Document

/-! ## Fields that may be left out -/

namespace Parameters

theorem get?_field {α : Type} (n : String) (write : α → Datum) (v : Option α) (m : String) :
    get? (field? n write v) m = if n = m then v.map write else none := by
  cases v with
  | none => simp [field?, get?]
  | some a => exact get?_cons n (write a) [] m

theorem get?_listField (n : String) (items : List Datum) (m : String) :
    get? (listField? n items) m = if n = m ∧ items ≠ [] then some (.ofList items) else none := by
  cases items with
  | nil => simp [listField?, get?]
  | cons d rest =>
    simp [listField?, get?_cons, get?_nil]

theorem isSingle_of_nodup (names : List String) {b : Bag} (h : (b.map (·.1)).Nodup) :
    Datum.isSingle names b = true := by
  refine List.all_eq_true.mpr fun n _ => decide_eq_true ?_
  have hcount := List.nodup_iff_count_le_one.mp h n
  rwa [List.count, List.countP_map, List.countP_eq_length_filter] at hcount

theorem names_field {α : Type} (n : String) (write : α → Datum) (v : Option α) :
    ((field? n write v).map (·.1)).Sublist [n] := by
  cases v <;> simp [field?]

theorem names_listField (n : String) (items : List Datum) : ((listField? n items).map (·.1)).Sublist [n] := by
  cases items <;> simp [listField?]

/-! ## Values that are read back -/

theorem optional?_text {b : Bag} {n : String} {v : Option String} (h : get? b n = v.map .text) :
    optional? text? b n = some v := by
  cases v <;> simp [optional?, h, text?]

theorem code?_natDatum {n : Nat} (h : n ≤ Datum.max16) : code? (natDatum n) = some n := by
  simp [code?, natDatum, h]

theorem optional?_code {b : Bag} {n : String} {v : Option Nat} (hv : ∀ c ∈ v.toList, c ≤ Datum.max16)
    (h : get? b n = v.map natDatum) : optional? code? b n = some v := by
  cases v with
  | none => simp [optional?, h]
  | some c =>
    have hc : code? (.int c) = some c := code?_natDatum (hv c (by simp))
    simp [optional?, h, natDatum, hc]

theorem texts?_textList (l : List String) : texts? (textList l) = some l := by
  simp only [texts?, textList, Datum.ofList, Datum.elements?, Option.bind_some]
  exact mapM_eq_some.mpr (List.forall₂_map_left_iff.mpr (List.forall₂_same.mpr fun _ _ => rfl))

theorem withDefault?_texts {b : Bag} {n : String} {l : List String}
    (h : get? b n = if l.map Datum.text ≠ [] then some (textList l) else none) :
    withDefault? texts? [] b n = some l := by
  cases l with
  | nil => simp [withDefault?, h]
  | cons s rest => simp [withDefault?, h, texts?_textList]

end Parameters

/-! ## Kinds -/

namespace RuleKind

/-- The statuses among the parameters of a kind. -/
def codes : RuleKind → List Nat
  | .detectOutboundContent _ _ _ status => status.toList
  | .restrictMethod _ status => [status]
  | .requireRole _ status _ => status.toList
  | _ => []

/-- The parameters as they are written, those left out that are not there. -/
def written (k : RuleKind) : Parameters.Bag :=
  k.fields.tail

theorem fields_eq (k : RuleKind) : k.fields = ("type", .text k.label) :: k.written := by
  cases k <;> rfl

theorem names_written (k : RuleKind) : (k.written.map (·.1)).Sublist k.parameters := by
  cases k with
  | addHeader => exact List.Sublist.refl _
  | addCookieFlags => exact List.Sublist.refl _
  | restrictMethod => exact List.Sublist.refl _
  | enforceHttps => exact List.Sublist.refl _
  | replaceContent pattern replacement contentType =>
    exact (Parameters.names_field "content_type" _ contentType).cons_cons _ |>.cons_cons _
  | requireRole roles status redirect =>
    change (([("roles", textList roles)] ++ field? "status" natDatum status ++ field? "redirect" .text redirect).map
      (·.1)).Sublist _
    rw [List.map_append, List.map_append]
    exact ((List.Sublist.refl ["roles"]).append (Parameters.names_field "status" _ status)).append
      (Parameters.names_field "redirect" _ redirect)
  | detectOutboundContent pattern keywords contentType status =>
    rw [written, fields, List.tail_cons, List.map_append, List.map_append, List.map_append]
    exact (((Parameters.names_field "pattern" _ pattern).append (Parameters.names_listField "keywords" _)).append
      (Parameters.names_field "content_type" _ contentType)).append (Parameters.names_field "status" _ status)
  | virtualPatch header parameter pattern message =>
    rw [written, fields, List.tail_cons, List.map_append, List.map_append, List.map_append]
    exact (((Parameters.names_field "header" _ header).append (Parameters.names_field "parameter" _ parameter)).append
      (List.Sublist.refl ["pattern"])).append (Parameters.names_field "message" _ message)

theorem readFrom_written {k : RuleKind} (h : ∀ n ∈ k.codes, n ≤ Datum.max16) : k.ReadFrom k.written := by
  cases k with
  | addHeader header value => exact ⟨rfl, rfl⟩
  | addCookieFlags cookie secure httpOnly => exact ⟨rfl, rfl, rfl⟩
  | replaceContent pattern replacement contentType =>
    refine ⟨rfl, rfl, Parameters.optional?_text ?_⟩
    simp [written, fields, Parameters.get?_cons, Parameters.get?_field]
  | detectOutboundContent pattern keywords contentType status =>
    refine ⟨Parameters.optional?_text ?_, Parameters.withDefault?_texts ?_, Parameters.optional?_text ?_,
      Parameters.optional?_code h ?_⟩ <;>
      simp [written, fields, Parameters.get?_append, Parameters.get?_field, Parameters.get?_listField, textList]
  | restrictMethod methods status =>
    exact ⟨Parameters.texts?_textList methods, Parameters.code?_natDatum (h status List.mem_cons_self)⟩
  | enforceHttps => trivial
  | requireRole roles status redirect =>
    refine ⟨Parameters.texts?_textList roles, Parameters.optional?_code h ?_, Parameters.optional?_text ?_⟩ <;>
      simp [written, fields, Parameters.get?_cons, Parameters.get?_append, Parameters.get?_field]
  | virtualPatch header parameter pattern message =>
    refine ⟨Parameters.optional?_text ?_, Parameters.optional?_text ?_, ?_, Parameters.optional?_text ?_⟩
    all_goals
      simp [written, fields, Parameters.required?, Parameters.get?_append, Parameters.get?_cons,
        Parameters.get?_field, Parameters.text?]

theorem keys_nodup (k : RuleKind) : k.keys.Nodup := by
  cases k <;> simp [keys, parameters]

theorem names_fields (k : RuleKind) : (k.fields.map (·.1)).Sublist ("type" :: k.parameters) := by
  rw [fields_eq, List.map_cons]
  exact (names_written k).cons_cons "type"

theorem name?_label (k : RuleKind) : name? (.text k.label) = some k.label := by
  cases k <;> rfl

theorem names_fields_nodup (k : RuleKind) : (k.fields.map (·.1)).Nodup :=
  ((keys_nodup k).sublist (List.sublist_append_right ["id", "path", "exceptions"] _)).sublist (names_fields k)

theorem names_fields_not_common (k : RuleKind) : ∀ e ∈ k.fields, e.1 ∉ RuleDefinition.commonNames := by
  intro e he hcommon
  have hnodup : (RuleDefinition.commonNames ++ "type" :: k.parameters).Nodup := keys_nodup k
  exact (List.nodup_append.mp hnodup).2.2 _ hcommon _ ((names_fields k).subset (List.mem_map_of_mem he)) rfl

/-- A kind whose statuses are in range is what its fields are read as. -/
theorem ofBag?_fields {k : RuleKind} (h : ∀ n ∈ k.codes, n ≤ Datum.max16) : ofBag? k.fields = some k := by
  have hnodup := names_fields_nodup k
  rw [fields_eq, List.map_cons, List.nodup_cons] at hnodup
  have htype : ∀ e ∈ k.written, e.1 ≠ "type" := fun e he heq =>
    hnodup.1 (List.mem_map.mpr ⟨e, he, heq⟩)
  have hwritten : k.fields.filter (·.1 != "type") = k.written := by
    rw [fields_eq, List.filter_cons_of_neg (by simp), List.filter_eq_self]
    simpa using htype
  have hfirst : k.fields.filter (·.1 == "type") = [("type", .text k.label)] := by
    rw [fields_eq, List.filter_cons_of_pos (by simp), List.filter_eq_nil_iff.mpr (by simpa using htype)]
  refine ofBag?_eq_some.mpr ⟨_, _, hfirst, name?_label k, hwritten ▸ ofParameters?_eq_some.mpr ⟨rfl, ?_, ?_, ?_⟩⟩
  · exact fun e he => (names_written k).subset (List.mem_map_of_mem he)
  · exact Parameters.isSingle_of_nodup _ hnodup.2
  · exact readFrom_written h

end RuleKind

/-! ## Plain documents -/

theorem plain_natDatum {n depth : Nat} (h : n ≤ Datum.max64) : (natDatum n).Plain depth := by
  refine .int (Bool.and_eq_true_iff.mpr ⟨decide_eq_true (by omega), decide_eq_true ?_⟩)
  exact Int.ofNat_le.mpr h

theorem plain_textList (l : List String) (depth : Nat) : (textList l).Plain (depth + 1) := by
  refine .list fun d hd => ?_
  obtain ⟨s, -, rfl⟩ := List.mem_map.mp hd
  exact .text s

theorem plain_field {α : Type} {n : String} {write : α → Datum} {v : Option α} {depth : Nat}
    (h : ∀ a ∈ v.toList, (write a).Plain depth) : ∀ e ∈ field? n write v, e.2.Plain depth := by
  cases v with
  | none => simp [field?]
  | some a => simpa [field?] using h

theorem plain_listField {n : String} {items : List Datum} {depth : Nat} (h : ∀ d ∈ items, d.Plain depth) :
    ∀ e ∈ listField? n items, e.2.Plain (depth + 1) := by
  cases items with
  | nil => simp [listField?]
  | cons d rest => simpa [listField?] using Datum.Plain.list h

theorem RuleKind.plain_fields {k : RuleKind} (h : ∀ n ∈ k.codes, n ≤ Datum.max16) (depth : Nat) :
    ∀ e ∈ k.fields, e.2.Plain (depth + 1) := by
  have hcodes : ∀ n ∈ k.codes, (natDatum n).Plain (depth + 1) := fun n hn =>
    plain_natDatum (Nat.le_trans (h n hn) (by decide))
  have hnone : ∀ e ∈ ([] : Parameters.Bag), e.2.Plain (depth + 1) := fun _ he => absurd he List.not_mem_nil
  have htext : ∀ (n : String) (v : Option String), ∀ e ∈ field? n .text v, e.2.Plain (depth + 1) := fun _ _ =>
    plain_field fun s _ => .text s
  cases k <;> simp only [RuleKind.fields, List.forall_mem_append, List.forall_mem_cons]
  case addHeader header value => exact ⟨.text _, .text header, .text value, hnone⟩
  case addCookieFlags cookie secure httpOnly => exact ⟨.text _, .text cookie, .bool secure, .bool httpOnly, hnone⟩
  case replaceContent pattern replacement contentType =>
    exact ⟨⟨.text _, .text pattern, .text replacement, hnone⟩, htext _ contentType⟩
  case detectOutboundContent pattern keywords contentType status =>
    refine ⟨.text _, ⟨⟨htext _ pattern, plain_listField fun d hd => ?_⟩, htext _ contentType⟩, plain_field hcodes⟩
    obtain ⟨s, -, rfl⟩ := List.mem_map.mp hd
    exact .text s
  case restrictMethod methods status =>
    exact ⟨.text _, plain_textList methods depth, hcodes status List.mem_cons_self, hnone⟩
  case enforceHttps => exact ⟨.text _, hnone⟩
  case requireRole roles status redirect =>
    exact ⟨⟨⟨.text _, plain_textList roles depth, hnone⟩, plain_field hcodes⟩, htext _ redirect⟩
  case virtualPatch header parameter pattern message =>
    exact ⟨.text _, ⟨⟨htext _ header, htext _ parameter⟩, .text pattern, hnone⟩, htext _ message⟩

theorem ExceptionDefinition.plain_toDatum (e : ExceptionDefinition) (depth : Nat) : e.toDatum.Plain (depth + 1) := by
  cases e with
  | literal path => exact .text path
  | regex pattern => exact .fields (by simpa using .text pattern) (by simp)

/-! ## Rules -/

theorem entries?_ofFields (entries : Parameters.Bag) : (Datum.ofFields entries).entries? = some entries := by
  rw [Json.ofFields_eq, Datum.entries?, mapM_eq_some, List.forall₂_map_left_iff]
  exact List.forall₂_same.mpr fun _ _ => rfl

theorem ExceptionDefinition.ofDatum?_toDatum (e : ExceptionDefinition) (depth : Nat) :
    ofDatum? (depth + 1) e.toDatum = some e := by
  have hsettle := (e.plain_toDatum depth).settle?
  cases e with
  | literal path => rfl
  | regex pattern =>
    refine ofDatum?_record.mpr ⟨rfl, pattern, ⟨?_, .text "regex", .text pattern, rfl, ?_⟩, rfl⟩
    · simp [isFieldKey, Datum.settle?]
    · rw [Datum.settle?]

namespace RuleDefinition

/-- The entries of a rule as it is written. -/
def written (r : RuleDefinition) : Parameters.Bag :=
  [("id", .text r.id), ("path", .text r.path)] ++ listField? "exceptions" (r.exceptions.map ExceptionDefinition.toDatum)
    ++ r.kind.fields

theorem names_written (r : RuleDefinition) : (r.written.map (·.1)).Sublist r.kind.keys := by
  rw [written, List.map_append, List.map_append]
  exact ((List.Sublist.refl ["id", "path"]).append (Parameters.names_listField "exceptions" _)).append
    (RuleKind.names_fields r.kind)

theorem names_written_nodup (r : RuleDefinition) : (r.written.map (·.1)).Nodup :=
  (RuleKind.keys_nodup r.kind).sublist r.names_written

theorem plain_toDatum {r : RuleDefinition} (h : ∀ n ∈ r.kind.codes, n ≤ Datum.max16) (depth : Nat) :
    r.toDatum.Plain (depth + 3) := by
  refine .fields ?_ r.names_written_nodup
  simp only [List.forall_mem_append, List.forall_mem_cons]
  refine ⟨⟨⟨.text _, .text _, by simp⟩, plain_listField fun d hd => ?_⟩, RuleKind.plain_fields h (depth + 1)⟩
  obtain ⟨e, -, rfl⟩ := List.mem_map.mp hd
  exact e.plain_toDatum depth

theorem exceptions_written {r : RuleDefinition} (depth : Nat) :
    Datum.orElse? (Datum.listOf? (ExceptionDefinition.ofDatum? (depth + 1))) []
      (Parameters.get? r.written "exceptions") = some r.exceptions := by
  have hkind : Parameters.get? r.kind.fields "exceptions" = none := by
    refine Parameters.get?_eq_none fun hmem => ?_
    obtain ⟨e, he, heq⟩ := List.mem_map.mp hmem
    exact r.kind.names_fields_not_common e he (heq ▸ by decide)
  have hread : (r.exceptions.map ExceptionDefinition.toDatum).mapM (ExceptionDefinition.ofDatum? (depth + 1)) =
      some r.exceptions :=
    mapM_eq_some.mpr (List.forall₂_map_left_iff.mpr (List.forall₂_same.mpr fun e _ => e.ofDatum?_toDatum depth))
  have hplace : Parameters.get? r.written "exceptions" =
      if r.exceptions.map ExceptionDefinition.toDatum ≠ [] then
        some (.ofList (r.exceptions.map ExceptionDefinition.toDatum)) else none := by
    simp [written, Parameters.get?_append, Parameters.get?_cons, Parameters.get?_listField, hkind]
  rw [hplace]
  split
  · exact hread
  · rename_i hnone
    rw [← hread, Classical.not_not.mp hnone]
    rfl

theorem filter_written (r : RuleDefinition) : r.written.filter (!commonNames.contains ·.1) = r.kind.fields := by
  have hkind : r.kind.fields.filter (!commonNames.contains ·.1) = r.kind.fields := by
    rw [List.filter_eq_self]
    simpa using fun n d he => r.kind.names_fields_not_common (n, d) he
  have hexceptions : ∀ items, (listField? "exceptions" items).filter (!commonNames.contains ·.1) = [] := by
    intro items
    cases items <;> simp [listField?, commonNames]
  rw [written, List.filter_append, List.filter_append, hkind, hexceptions]
  rfl

theorem readFrom_written {r : RuleDefinition} (h : ∀ n ∈ r.kind.codes, n ≤ Datum.max16) (depth : Nat) :
    r.ReadFrom (depth + 3) r.written := by
  refine ⟨Parameters.isSingle_of_nodup _ r.names_written_nodup, rfl, rfl, exceptions_written depth, r.kind.fields, ?_,
    RuleKind.ofBag?_fields h⟩
  rw [filter_written, mapM_eq_some, List.forall₂_same]
  intro e he
  have hsettle := (RuleKind.plain_fields h (depth + 1) e he).settle?
  rw [show depth + 3 - 1 = depth + 1 + 1 from rfl, hsettle]
  rfl

/-- A rule whose statuses are in range is read back. -/
theorem ofDatum?_toDatum {r : RuleDefinition} (h : ∀ n ∈ r.kind.codes, n ≤ Datum.max16) (depth : Nat) :
    ofDatum? (depth + 3) r.toDatum = some r :=
  ofDatum?_eq_some.mpr ⟨Nat.succ_ne_zero _, r.written, entries?_ofFields r.written, readFrom_written h depth⟩

end RuleDefinition

/-! ## Policies -/

theorem fields?_ofFields {entries : Parameters.Bag} (names : List String) (h : (entries.map (·.1)).Nodup) :
    (Datum.ofFields entries).fields? names = some (names.map (Parameters.get? entries)) := by
  have hentries := entries?_ofFields entries
  rw [Datum.ofFields] at hentries ⊢
  simp only [Datum.fields?, hentries, Parameters.isSingle_of_nodup names h, Option.bind_eq_bind, Option.bind_some,
    if_true, Option.pure_def]
  rfl

theorem nat?_natDatum {n bound : Nat} (h : n ≤ bound) : (natDatum n).nat? bound = some n := by
  have hpositive : ¬(n : Int) < 0 := by omega
  simp [Datum.nat?, natDatum, hpositive, Option.filter, h]

theorem nat?_le {d : Datum} {n bound : Nat} (h : d.nat? bound = some n) : n ≤ bound := by
  simpa using (Option.filter_eq_some_iff.mp h).2

theorem orElse?_eq_some {α : Type} {read : Datum → Option α} {fallback a : α} {v : Option Datum}
    (h : Datum.orElse? read fallback v = some a) : a = fallback ∨ ∃ d, read d = some a := by
  cases v with
  | none => exact .inl (Option.some.inj h).symm
  | some d => exact .inr ⟨d, h⟩

theorem Mode.ofLabel?_label (m : Mode) : Mode.ofLabel? m.label = some m := by
  cases m <;> rfl

namespace Settings

/-- The numbers are those that a document can give. -/
structure InRange (s : Settings) : Prop where
  blockStatus : s.blockStatus ≤ Datum.max16
  maxRules : s.maxRules ≤ Datum.max64

theorem inRange_default : InRange {} :=
  ⟨by decide, by decide⟩

theorem inRange_of_ofDatum {d : Datum} {s : Settings} (h : ofDatum? d = some s) : s.InRange := by
  obtain ⟨values, -, h⟩ := Option.bind_eq_some_iff.mp h
  split at h
  · rename_i mode status location limit
    obtain ⟨mode, -, h⟩ := Option.bind_eq_some_iff.mp h
    obtain ⟨status, hstatus, h⟩ := Option.bind_eq_some_iff.mp h
    obtain ⟨location, -, h⟩ := Option.bind_eq_some_iff.mp h
    obtain ⟨limit, hlimit, h⟩ := Option.bind_eq_some_iff.mp h
    cases h
    constructor
    · rcases orElse?_eq_some hstatus with rfl | ⟨d, hd⟩
      · exact inRange_default.blockStatus
      · exact nat?_le hd
    · rcases orElse?_eq_some hlimit with rfl | ⟨d, hd⟩
      · exact inRange_default.maxRules
      · exact nat?_le hd
  · cases h

theorem ofDatum?_toDatum {s : Settings} (h : s.InRange) : ofDatum? s.toDatum = some s := by
  rw [ofDatum?, toDatum, fields?_ofFields names (by simp)]
  simp [names, Parameters.get?_cons, Datum.orElse?, nat?_natDatum h.blockStatus, nat?_natDatum h.maxRules, Datum.variant?,
    Datum.text?, Mode.ofLabel?_label]

theorem plain_toDatum {s : Settings} (h : s.InRange) (depth : Nat) : s.toDatum.Plain (depth + 1) := by
  refine .fields ?_ (by simp)
  simp only [List.forall_mem_cons]
  exact ⟨.text _, plain_natDatum (Nat.le_trans h.blockStatus (by decide)), .text _, plain_natDatum h.maxRules, by simp⟩

end Settings

/-! ## Statuses that are read -/

namespace RuleKind

theorem code?_le {d : Datum} {n : Nat} (h : Parameters.code? d = some n) : n ≤ Datum.max16 := by
  cases d with
  | int i =>
    simp only [Parameters.code?] at h
    split at h
    · cases h
      omega
    · cases h
  | _ => cases h

theorem optional?_code_le {b : Parameters.Bag} {name : String} {v : Option Nat}
    (h : Parameters.optional? Parameters.code? b name = some v) : ∀ n ∈ v.toList, n ≤ Datum.max16 := by
  unfold Parameters.optional? at h
  split at h
  · cases h
    simp
  · cases h
    simp
  · obtain ⟨n, hn, rfl⟩ := Option.map_eq_some_iff.mp h
    simpa using code?_le hn

theorem ReadFrom.codes_le {b : Parameters.Bag} {k : RuleKind} (h : k.ReadFrom b) : ∀ n ∈ k.codes, n ≤ Datum.max16 := by
  cases k with
  | detectOutboundContent => exact optional?_code_le h.2.2.2
  | requireRole => exact optional?_code_le h.2.1
  | restrictMethod methods status =>
    have hstatus := h.2
    unfold Parameters.withDefault? at hstatus
    split at hstatus
    · cases hstatus
      simp [codes, Datum.max16]
    · simpa [codes] using code?_le hstatus
  | _ => exact fun n hn => absurd hn List.not_mem_nil

end RuleKind

theorem RuleDefinition.codes_le_of_ofDatum {depth : Nat} {d : Datum} {r : RuleDefinition}
    (h : ofDatum? depth d = some r) : ∀ n ∈ r.kind.codes, n ≤ Datum.max16 := by
  obtain ⟨-, entries, -, hread⟩ := ofDatum?_eq_some.mp h
  obtain ⟨bag, -, hkind⟩ := hread.kind
  obtain ⟨_, _, -, -, hparameters⟩ := RuleKind.ofBag?_eq_some.mp hkind
  exact (RuleKind.ofParameters?_eq_some.mp hparameters).2.2.2.codes_le

namespace PolicyDefinition

/-- All numbers are those that a document can give. -/
structure InRange (p : PolicyDefinition) : Prop where
  settings : p.settings.InRange
  codes : ∀ r ∈ p.rules, ∀ n ∈ r.kind.codes, n ≤ Datum.max16

theorem inRange_of_ofDatum {d : Datum} {p : PolicyDefinition} (h : ofDatum? d = some p) : p.InRange := by
  obtain ⟨values, -, h⟩ := Option.bind_eq_some_iff.mp h
  split at h
  · rename_i name description version settings rules
    obtain ⟨name, -, h⟩ := Option.bind_eq_some_iff.mp h
    obtain ⟨description, -, h⟩ := Option.bind_eq_some_iff.mp h
    obtain ⟨version, -, h⟩ := Option.bind_eq_some_iff.mp h
    obtain ⟨settings, hsettings, h⟩ := Option.bind_eq_some_iff.mp h
    obtain ⟨rules, hrules, h⟩ := Option.bind_eq_some_iff.mp h
    cases h
    constructor
    · rcases orElse?_eq_some hsettings with rfl | ⟨d, hd⟩
      · exact Settings.inRange_default
      · exact Settings.inRange_of_ofDatum hd
    · intro r hr
      rcases orElse?_eq_some hrules with rfl | ⟨d, hd⟩
      · exact absurd hr List.not_mem_nil
      · obtain ⟨items, -, hitems⟩ := Option.bind_eq_some_iff.mp hd
        obtain ⟨item, -, hitem⟩ := exists_of_mem_mapM hitems hr
        exact RuleDefinition.codes_le_of_ofDatum hitem
  · cases h

/-- The entries of a policy as it is written. -/
def written (p : PolicyDefinition) : Parameters.Bag :=
  [("name", .text p.name)] ++ field? "description" .text p.description
    ++ [("version", .text p.version), ("settings", p.settings.toDatum),
      ("rules", .ofList (p.rules.map RuleDefinition.toDatum))]

theorem names_written_nodup (p : PolicyDefinition) : (p.written.map (·.1)).Nodup := by
  refine List.Nodup.sublist (show (p.written.map (·.1)).Sublist names from ?_) (by decide)
  rw [written, List.map_append, List.map_append]
  exact ((List.Sublist.refl ["name"]).append (Parameters.names_field "description" _ _)).append
    (List.Sublist.refl ["version", "settings", "rules"])

theorem ofDatum?_toDatum {p : PolicyDefinition} (h : p.InRange) : ofDatum? p.toDatum = some p := by
  have hrules : (Datum.ofList (p.rules.map RuleDefinition.toDatum)).listOf?
      (RuleDefinition.ofDatum? (Datum.maxDepth - 2)) = some p.rules := by
    rw [Datum.listOf?, Datum.ofList, Datum.items?, Option.bind_some, mapM_eq_some, List.forall₂_map_left_iff,
      List.forall₂_same]
    exact fun r hr => RuleDefinition.ofDatum?_toDatum (h.codes r hr) 123
  have hdescription : Datum.orElse? (Datum.option? Datum.text?) none (p.description.map .text) =
      some p.description := by
    cases p.description <;> rfl
  have hvalues : names.map (Parameters.get? p.written) = [some (.text p.name), p.description.map .text,
      some (.text p.version), some p.settings.toDatum, some (.ofList (p.rules.map RuleDefinition.toDatum))] := by
    simp [names, written, Parameters.get?_cons, Parameters.get?_append, Parameters.get?_field, Parameters.get?_nil]
  have hwritten : p.toDatum = .ofFields p.written := rfl
  rw [ofDatum?, hwritten, fields?_ofFields names p.names_written_nodup, hvalues]
  simp only [Option.bind_eq_bind, Option.bind_some, hdescription]
  simp [Datum.orElse?, Datum.text?, Settings.ofDatum?_toDatum h.settings, hrules]

theorem plain_toDatum {p : PolicyDefinition} (h : p.InRange) : p.toDatum.Plain Json.maxDepth := by
  refine .fields ?_ p.names_written_nodup
  simp only [List.forall_mem_append, List.forall_mem_cons]
  refine ⟨⟨⟨.text _, by simp⟩, plain_field fun s _ => .text s⟩, .text _, Settings.plain_toDatum h.settings _, .list ?_,
    by simp⟩
  intro d hd
  obtain ⟨r, hr, rfl⟩ := List.mem_map.mp hd
  exact RuleDefinition.plain_toDatum (h.codes r hr) _

/-! ## JSON -/

def ofJson? (text : String) : Option PolicyDefinition :=
  (Json.parse? text).bind ofDatum?

def toJson (p : PolicyDefinition) : String :=
  Json.render p.toDatum

theorem ofJson?_toJson {p : PolicyDefinition} (h : p.InRange) : ofJson? p.toJson = some p := by
  rw [ofJson?, toJson, Json.parse?_render (plain_toDatum h), Option.bind_some, ofDatum?_toDatum h]

/-- A policy that a document gives is read back from its JSON text. So a JSON document gives the same policy when it is
read, written and read again, the second text is the first one, and it compiles to the same in either load mode. -/
theorem json_read_back {d : Datum} {p : PolicyDefinition} (h : ofDatum? d = some p) :
    ofJson? p.toJson = some p ∧
    (∀ text, Json.parse? text = some d → (ofJson? text).bind (ofJson? ·.toJson) = ofJson? text) ∧
    ∀ p', ofJson? p.toJson = some p' → p'.toJson = p.toJson ∧ ∀ mode, p'.compile mode = p.compile mode := by
  have hback := ofJson?_toJson (inRange_of_ofDatum h)
  refine ⟨hback, fun text htext => ?_, fun p' hp' => ?_⟩
  · rw [ofJson?, htext, Option.bind_some, h, Option.bind_some, hback]
  · rw [hback] at hp'
    cases hp'
    exact ⟨rfl, fun _ => rfl⟩

/-- A document with a rule for each way in which a field is left out. -/
def mixed : Datum :=
  .ofFields [("name", .text "mixed"), ("settings", .ofFields [("mode", .text "log")]), ("rules", .ofList [
    .ofFields [("id", .text "stamp"), ("type", .text "add_header"), ("header", .text "x-a"), ("value", .text "\"\n"),
      ("exceptions", .ofList [.text "/a", .ofFields [("regex", .text "/b.*")]])],
    .ofFields [("id", .text "flags"), ("type", .text "add_cookie_flags")],
    .ofFields [("id", .text "leak"), ("type", .text "detect_outbound_content"), ("keywords", .ofList [.text "secret"])],
    .ofFields [("id", .text "staff"), ("type", .text "require_role"), ("status", .int 401)]])]

def mixedPolicy : PolicyDefinition where
  name := "mixed"
  settings := { mode := .log }
  rules := [
    { id := "stamp", exceptions := [.literal "/a", .regex "/b.*"], kind := .addHeader "x-a" "\"\n" },
    { id := "flags", kind := .addCookieFlags ".*" true true },
    { id := "leak", kind := .detectOutboundContent none ["secret"] none none },
    { id := "staff", kind := .requireRole [] (some 401) none }]

theorem mixed_read_back : ofDatum? mixed = some mixedPolicy ∧ ofJson? mixedPolicy.toJson = some mixedPolicy := by
  have hread : ofDatum? mixed = some mixedPolicy := by decide
  exact ⟨hread, (json_read_back hread).1⟩

end PolicyDefinition

end Portcullis.Policy

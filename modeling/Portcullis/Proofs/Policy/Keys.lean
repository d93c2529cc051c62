import Portcullis.Policy.Reading
import Portcullis.Proofs.Document.Plain

/-!
# The keys of a rule

A rule has no key but the common ones, its type, and the parameters of that type. In the object of an exception only
the key of the pattern counts. A further entry is read over, if its key names a field and its value can be held.
-/

namespace Portcullis.Policy
open Document

/-! ## Entries by name -/

namespace Parameters

theorem get?_nil (n : String) : get? [] n = none :=
  rfl

theorem get?_cons (n : String) (d : Datum) (rest : Bag) (m : String) :
    get? ((n, d) :: rest) m = if n = m then some d else get? rest m := by
  by_cases h : n = m <;> simp [get?, h]

theorem get?_append (front back : Bag) (n : String) : get? (front ++ back) n = (get? front n).or (get? back n) := by
  simp [get?, List.find?_append, Option.map_or]

theorem get?_eq_none {b : Bag} {n : String} (h : n ∉ b.map (·.1)) : get? b n = none := by
  rw [get?, List.find?_eq_none.mpr, Option.map_none]
  intro e he
  simpa using fun heq : e.1 = n => h (heq ▸ List.mem_map_of_mem he)

end Parameters

/-! ## The objects of exceptions -/

namespace ExceptionDefinition

/-- The fields of an object from which a pattern is read: all of them can be held, and one is the pattern. -/
structure HoldsPattern (depth : Nat) (fields : List (Key × Datum)) (pattern : String) : Prop where
  held : ∀ f ∈ fields, isFieldKey f.1 = true ∧ (f.2.settle? depth).isSome = true
  pattern : ∃ key value, fields.filter (isRegexKey ·.1) = [(key, value)] ∧ value.settle? depth = some (.text pattern)

theorem settleField?_of_isFieldKey {depth : Nat} {f : Key × Datum} (h : isFieldKey f.1 = true) :
    Datum.settleField? depth f = (f.2.settle? depth).map (f.1, ·) := by
  obtain ⟨k, d⟩ := f
  cases k <;> first | rfl | cases h

theorem key_of_settleField {depth : Nat} {f g : Key × Datum} (h : Datum.settleField? depth f = some g) :
    g.1 = f.1 ∧ f.2.settle? depth = some g.2 := by
  obtain ⟨k, d⟩ := f
  cases k with
  | closed w => cases h
  | _ =>
    obtain ⟨v, hv, rfl⟩ := Option.map_eq_some_iff.mp h
    exact ⟨rfl, hv⟩

/-- Settling keeps the keys, so that the fields can be picked before or after it. -/
theorem filter_settled {depth : Nat} (p : Key → Bool) {fields settled : List (Key × Datum)}
    (h : fields.mapM (Datum.settleField? depth) = some settled) :
    (fields.filter (p ·.1)).mapM (Datum.settleField? depth) = some (settled.filter (p ·.1)) := by
  rw [mapM_eq_some] at h ⊢
  induction h with
  | nil => exact .nil
  | cons hfield _ ih =>
    rw [List.filter_cons, List.filter_cons, (key_of_settleField hfield).1]
    split
    · exact .cons hfield ih
    · exact ih

theorem mapM_settleField?_isSome {depth : Nat} {fields : List (Key × Datum)}
    (h : ∀ f ∈ fields, isFieldKey f.1 = true ∧ (f.2.settle? depth).isSome = true) :
    ∃ settled, fields.mapM (Datum.settleField? depth) = some settled ∧ ∀ f ∈ settled, isFieldKey f.1 = true := by
  induction fields with
  | nil => exact ⟨[], rfl, fun _ hf => absurd hf List.not_mem_nil⟩
  | cons f rest ih =>
    rw [List.forall_mem_cons] at h
    obtain ⟨⟨hkey, hvalue⟩, hrest⟩ := h
    obtain ⟨v, hv⟩ := Option.isSome_iff_exists.mp hvalue
    obtain ⟨settled, hsettled, hkeys⟩ := ih hrest
    refine ⟨(f.1, v) :: settled, ?_, List.forall_mem_cons.mpr ⟨hkey, hkeys⟩⟩
    simp [List.mapM_cons, settleField?_of_isFieldKey hkey, hv, hsettled]

theorem ofDatum?_record {depth : Nat} {tag : Option String} {fields : List (Key × Datum)} {e : ExceptionDefinition} :
    ofDatum? (depth + 1) (.record tag fields) = some e ↔
      Datum.isVariantTag tag = false ∧ ∃ p, HoldsPattern depth fields p ∧ e = .regex p := by
  constructor
  · intro h
    obtain ⟨d, hd, h⟩ := Option.bind_eq_some_iff.mp h
    obtain ⟨htag, settled, hsettled, rfl⟩ := Datum.settle?_record_eq_some.mp hd
    simp only [Bool.not_eq_true'] at h
    split at h
    · cases h
    · rename_i hkeys
      split at h
      · rename_i key p hpicked
        cases h
        refine ⟨htag, p, ⟨fun f hf => ?_, ?_⟩, rfl⟩
        · obtain ⟨g, hg, hfg⟩ := exists_mem_of_mapM hsettled hf
          obtain ⟨hkey, hvalue⟩ := key_of_settleField hfg
          exact ⟨hkey ▸ List.all_eq_true.mp (Bool.of_not_eq_false hkeys) g hg, by rw [hvalue]; rfl⟩
        · have hpick := filter_settled isRegexKey hsettled
          rw [hpicked, mapM_eq_some] at hpick
          generalize fields.filter (isRegexKey ·.1) = picked at hpick
          cases hpick with
          | cons hfield hnone =>
            cases hnone
            exact ⟨_, _, rfl, (key_of_settleField hfield).2⟩
      · cases h
  · rintro ⟨htag, p, ⟨hheld, key, value, hpicked, hvalue⟩, rfl⟩
    obtain ⟨settled, hsettled, hkeys⟩ := mapM_settleField?_isSome hheld
    have hpick := filter_settled isRegexKey hsettled
    have hkey : isFieldKey key = true := by
      have hmem : (key, value) ∈ fields.filter (isRegexKey ·.1) := hpicked ▸ List.mem_cons_self
      exact (hheld _ (List.mem_filter.mp hmem).1).1
    have hsingle : [(key, Datum.text p)] = settled.filter (isRegexKey ·.1) := by
      simpa [hpicked, List.mapM_cons, settleField?_of_isFieldKey (f := (key, value)) hkey, hvalue] using hpick
    have hsettle := Datum.settle?_record_eq_some.mpr ⟨htag, settled, hsettled, rfl⟩
    have hall : settled.all (isFieldKey ·.1) = true := List.all_eq_true.mpr hkeys
    simp [ofDatum?, hsettle, hall, ← hsingle]

theorem exists_depth {depth : Nat} {tag : Option String} {fields : List (Key × Datum)} {e : ExceptionDefinition}
    (h : ofDatum? depth (.record tag fields) = some e) : ∃ below, depth = below + 1 := by
  cases depth with
  | zero => cases h
  | succ below => exact ⟨below, rfl⟩

/-- A further field next to a pattern is read over, unless it cannot be held or is a pattern itself. -/
theorem HoldsPattern.insert_iff {depth : Nat} {pre post : List (Key × Datum)} {pattern p : String} {k : Key} {v : Datum}
    (h : HoldsPattern depth (pre ++ post) pattern) :
    HoldsPattern depth (pre ++ (k, v) :: post) p ↔
      (isFieldKey k = true ∧ isRegexKey k = false ∧ (v.settle? depth).isSome = true) ∧ p = pattern := by
  obtain ⟨hheld, key, value, hpicked, hvalue⟩ := h
  rw [List.filter_append] at hpicked
  constructor
  · rintro ⟨hheld', key', value', hpicked', hvalue'⟩
    have hnew := hheld' (k, v) (List.mem_append_right _ List.mem_cons_self)
    rw [List.filter_append, List.filter_cons] at hpicked'
    split at hpicked'
    · have hone := congrArg List.length hpicked
      have htwo := congrArg List.length hpicked'
      simp at hone htwo
      omega
    · rename_i hother
      rw [hpicked] at hpicked'
      cases hpicked'
      rw [hvalue] at hvalue'
      cases hvalue'
      exact ⟨⟨hnew.1, by simpa using hother, hnew.2⟩, rfl⟩
  · rintro ⟨⟨hfield, hother, hsettled⟩, rfl⟩
    refine ⟨fun f hf => ?_, key, value, ?_, hvalue⟩
    · rcases List.mem_append.mp hf with hf | hf
      · exact hheld f (List.mem_append_left _ hf)
      · rcases List.mem_cons.mp hf with rfl | hf
        · exact ⟨hfield, hsettled⟩
        · exact hheld f (List.mem_append_right _ hf)
    · rw [List.filter_append, List.filter_cons_of_neg (by simp [hother]), hpicked]

end ExceptionDefinition

/-! ## The parameters of a kind -/

namespace RuleKind

/-- The name that a kind has in a document. -/
def label : RuleKind → String
  | .addHeader _ _ => "add_header"
  | .addCookieFlags _ _ _ => "add_cookie_flags"
  | .replaceContent _ _ _ => "replace_content"
  | .detectOutboundContent _ _ _ _ => "detect_outbound_content"
  | .restrictMethod _ _ => "restrict_method"
  | .enforceHttps => "enforce_https"
  | .requireRole _ _ _ => "require_role"
  | .virtualPatch _ _ _ _ => "virtual_patch"

/-- The names of the parameters of a kind. -/
def parameters : RuleKind → List String
  | .addHeader _ _ => ["header", "value"]
  | .addCookieFlags _ _ _ => ["cookie", "secure", "http_only"]
  | .replaceContent _ _ _ => ["pattern", "replacement", "content_type"]
  | .detectOutboundContent _ _ _ _ => ["pattern", "keywords", "content_type", "status"]
  | .restrictMethod _ _ => ["methods", "status"]
  | .enforceHttps => []
  | .requireRole _ _ _ => ["roles", "status", "redirect"]
  | .virtualPatch _ _ _ _ => ["header", "parameter", "pattern", "message"]

theorem parameterNames_label (k : RuleKind) : parameterNames k.label = k.parameters := by
  cases k <;> rfl

/-- The keys that the definition of a rule of a kind may have. -/
def keys (k : RuleKind) : List String :=
  ["id", "path", "exceptions", "type"] ++ k.parameters

/-- The parameters of a kind, read from entries of which none is for anything else. -/
def ReadFrom (b : Parameters.Bag) : RuleKind → Prop
  | .addHeader header value =>
    Parameters.required? Parameters.text? b "header" = some header ∧
      Parameters.required? Parameters.text? b "value" = some value
  | .addCookieFlags cookie secure httpOnly =>
    Parameters.withDefault? Parameters.text? everyPath b "cookie" = some cookie ∧
      Parameters.withDefault? Parameters.bool? true b "secure" = some secure ∧
      Parameters.withDefault? Parameters.bool? true b "http_only" = some httpOnly
  | .replaceContent pattern replacement contentType =>
    Parameters.required? Parameters.text? b "pattern" = some pattern ∧
      Parameters.required? Parameters.text? b "replacement" = some replacement ∧
      Parameters.optional? Parameters.text? b "content_type" = some contentType
  | .detectOutboundContent pattern keywords contentType status =>
    Parameters.optional? Parameters.text? b "pattern" = some pattern ∧
      Parameters.withDefault? Parameters.texts? [] b "keywords" = some keywords ∧
      Parameters.optional? Parameters.text? b "content_type" = some contentType ∧
      Parameters.optional? Parameters.code? b "status" = some status
  | .restrictMethod methods status =>
    Parameters.required? Parameters.texts? b "methods" = some methods ∧
      Parameters.withDefault? Parameters.code? 405 b "status" = some status
  | .enforceHttps => True
  | .requireRole roles status redirect =>
    Parameters.withDefault? Parameters.texts? [] b "roles" = some roles ∧
      Parameters.optional? Parameters.code? b "status" = some status ∧
      Parameters.optional? Parameters.text? b "redirect" = some redirect
  | .virtualPatch header parameter pattern message =>
    Parameters.optional? Parameters.text? b "header" = some header ∧
      Parameters.optional? Parameters.text? b "parameter" = some parameter ∧
      Parameters.required? Parameters.text? b "pattern" = some pattern ∧
      Parameters.optional? Parameters.text? b "message" = some message

theorem ofParameters?_eq_some {kind : String} {b : Parameters.Bag} {k : RuleKind} :
    ofParameters? kind b = some k ↔
      kind = k.label ∧ (∀ e ∈ b, e.1 ∈ k.parameters) ∧ Datum.isSingle k.parameters b = true ∧ k.ReadFrom b := by
  constructor
  · intro h
    dsimp only [ofParameters?] at h
    split at h
    · cases h
    · rename_i hknown
      simp only [Bool.or_eq_true, Bool.not_eq_true', not_or, Bool.not_eq_false, List.all_eq_true,
        List.contains_iff_mem] at hknown
      split at h <;>
        simp only [Option.bind_eq_bind, Option.bind_eq_some_iff, Option.pure_def, Option.some.injEq, reduceCtorEq] at h
      · obtain ⟨_, hheader, _, hvalue, rfl⟩ := h
        exact ⟨rfl, hknown.1, hknown.2, hheader, hvalue⟩
      · obtain ⟨_, hcookie, _, hsecure, _, hhttpOnly, rfl⟩ := h
        exact ⟨rfl, hknown.1, hknown.2, hcookie, hsecure, hhttpOnly⟩
      · obtain ⟨_, hpattern, _, hreplacement, _, htype, rfl⟩ := h
        exact ⟨rfl, hknown.1, hknown.2, hpattern, hreplacement, htype⟩
      · obtain ⟨_, hpattern, _, hkeywords, _, htype, _, hstatus, rfl⟩ := h
        exact ⟨rfl, hknown.1, hknown.2, hpattern, hkeywords, htype, hstatus⟩
      · obtain ⟨_, hmethods, _, hstatus, rfl⟩ := h
        exact ⟨rfl, hknown.1, hknown.2, hmethods, hstatus⟩
      · subst h
        exact ⟨rfl, hknown.1, hknown.2, trivial⟩
      · obtain ⟨_, hroles, _, hstatus, _, hredirect, rfl⟩ := h
        exact ⟨rfl, hknown.1, hknown.2, hroles, hstatus, hredirect⟩
      · obtain ⟨_, hheader, _, hparameter, _, hpattern, _, hmessage, rfl⟩ := h
        exact ⟨rfl, hknown.1, hknown.2, hheader, hparameter, hpattern, hmessage⟩
  · rintro ⟨rfl, hknown, hsingle, h⟩
    have hopen : (!b.all (k.parameters.contains ·.1) || !Datum.isSingle k.parameters b) = false := by
      simpa [hsingle] using hknown
    dsimp only [ofParameters?]
    rw [parameterNames_label, hopen, if_neg Bool.false_ne_true]
    cases k <;> simp only [ReadFrom] at h <;> simp [label, h]

theorem ofBag?_eq_some {b : Parameters.Bag} {k : RuleKind} :
    ofBag? b = some k ↔ ∃ n d, b.filter (·.1 == "type") = [(n, d)] ∧ name? d = some k.label ∧
      ofParameters? k.label (b.filter (·.1 != "type")) = some k := by
  constructor
  · intro h
    unfold ofBag? at h
    split at h
    · rename_i n d htype
      obtain ⟨kind, hname, h⟩ := Option.bind_eq_some_iff.mp h
      obtain ⟨rfl, -⟩ := ofParameters?_eq_some.mp h
      exact ⟨n, d, htype, hname, h⟩
    · cases h
  · rintro ⟨n, d, htype, hname, h⟩
    simp only [ofBag?, htype, hname, Option.bind_some, h]

end RuleKind

/-! ## The entries of a rule -/

namespace RuleDefinition

/-- A rule whose parts are read from entries: those that all rules have, and its kind from the settled rest. -/
structure ReadFrom (depth : Nat) (entries : Parameters.Bag) (r : RuleDefinition) : Prop where
  single : Datum.isSingle commonNames entries = true
  id : (Parameters.get? entries "id").bind Datum.text? = some r.id
  path : Datum.orElse? Datum.text? everyPath (Parameters.get? entries "path") = some r.path
  exceptions : Datum.orElse? (Datum.listOf? (ExceptionDefinition.ofDatum? (depth - 2))) []
    (Parameters.get? entries "exceptions") = some r.exceptions
  kind : ∃ bag, (entries.filter (!commonNames.contains ·.1)).mapM
    (fun e => (e.2.settle? (depth - 1)).map (e.1, ·)) = some bag ∧ RuleKind.ofBag? bag = some r.kind

theorem ofDatum?_eq_some {depth : Nat} {d : Datum} {r : RuleDefinition} :
    ofDatum? depth d = some r ↔ depth ≠ 0 ∧ ∃ entries, d.entries? = some entries ∧ r.ReadFrom depth entries := by
  constructor
  · intro h
    obtain ⟨entries, hentries, h⟩ := Option.bind_eq_some_iff.mp h
    split at h
    · cases h
    · rename_i hopen
      simp only [Bool.or_eq_true, decide_eq_true_eq, Bool.not_eq_true', not_or, Bool.not_eq_false] at hopen
      obtain ⟨idDatum, hidDatum, h⟩ := Option.bind_eq_some_iff.mp h
      obtain ⟨id, hid, h⟩ := Option.bind_eq_some_iff.mp h
      obtain ⟨path, hpath, h⟩ := Option.bind_eq_some_iff.mp h
      obtain ⟨exceptions, hexceptions, h⟩ := Option.bind_eq_some_iff.mp h
      obtain ⟨bag, hbag, h⟩ := Option.bind_eq_some_iff.mp h
      obtain ⟨kind, hkind, h⟩ := Option.bind_eq_some_iff.mp h
      cases h
      exact ⟨hopen.1, entries, hentries, hopen.2, Option.bind_eq_some_iff.mpr ⟨idDatum, hidDatum, hid⟩, hpath,
        hexceptions, bag, hbag, hkind⟩
  · rintro ⟨hdepth, entries, hentries, hsingle, hid, hpath, hexceptions, bag, hbag, hkind⟩
    obtain ⟨idDatum, hidDatum, hid⟩ := Option.bind_eq_some_iff.mp hid
    simp [ofDatum?, hentries, hdepth, hsingle, hidDatum, hid, hpath, hexceptions, hbag, hkind,
      -List.contains_eq_mem]

/-- All entries are common ones, the type, or parameters of the kind that the type names. -/
theorem ReadFrom.mem_keys {depth : Nat} {entries : Parameters.Bag} {r : RuleDefinition} (h : r.ReadFrom depth entries) :
    ∀ e ∈ entries, e.1 ∈ r.kind.keys := by
  intro e he
  obtain ⟨bag, hbag, hkind⟩ := h.kind
  obtain ⟨_, _, -, -, hkind⟩ := RuleKind.ofBag?_eq_some.mp hkind
  obtain ⟨-, hknown, -⟩ := RuleKind.ofParameters?_eq_some.mp hkind
  rw [RuleKind.keys, List.mem_append]
  by_cases hcommon : e.1 ∈ commonNames
  · exact .inl (List.mem_append_left ["type"] hcommon)
  · by_cases htype : e.1 = "type"
    · exact .inl (by simp [htype])
    · have hmem : e ∈ entries.filter (!commonNames.contains ·.1) := by simp [he, hcommon]
      obtain ⟨b, hb, heb⟩ := exists_mem_of_mapM hbag hmem
      obtain ⟨v, -, rfl⟩ := Option.map_eq_some_iff.mp heb
      exact .inr (hknown (e.1, v) (List.mem_filter.mpr ⟨hb, by simp [htype]⟩))

theorem ReadFrom.type_names {depth : Nat} {entries : Parameters.Bag} {r : RuleDefinition}
    (h : r.ReadFrom depth entries) :
    ∃ d, ("type", d) ∈ entries ∧ (d.settle? (depth - 1)).bind RuleKind.name? = some r.kind.label := by
  obtain ⟨bag, hbag, hkind⟩ := h.kind
  obtain ⟨n, v, htype, hname, -⟩ := RuleKind.ofBag?_eq_some.mp hkind
  obtain ⟨hmem, hn⟩ := List.mem_filter.mp (htype ▸ List.mem_cons_self : (n, v) ∈ bag.filter (·.1 == "type"))
  obtain ⟨⟨m, d⟩, hd, hsettled⟩ := exists_of_mem_mapM hbag hmem
  obtain ⟨v', hv, heq⟩ := Option.map_eq_some_iff.mp hsettled
  cases heq
  obtain rfl : m = "type" := beq_iff_eq.mp hn
  exact ⟨d, (List.mem_filter.mp hd).1, by rw [hv, Option.bind_some, hname]⟩

theorem get?_append_cons_of_ne {front back : Parameters.Bag} {n m : String} {d : Datum} (h : m ≠ n) :
    Parameters.get? (front ++ (m, d) :: back) n = Parameters.get? (front ++ back) n := by
  simp [Parameters.get?_append, Parameters.get?_cons, h]

theorem get?_append_cons_of_isSingle {names : List String} {front back : Parameters.Bag} {n : String} {d : Datum}
    (hn : n ∈ names) (h : Datum.isSingle names (front ++ (n, d) :: back) = true) :
    Parameters.get? (front ++ (n, d) :: back) n = some d := by
  have hcount := decide_eq_true_eq.mp (List.all_eq_true.mp h n hn)
  simp only [List.filter_append, List.filter_cons, beq_self_eq_true, if_true, List.length_append,
    List.length_cons] at hcount
  have hfront : n ∉ front.map (·.1) := by
    intro hmem
    obtain ⟨e, he, heq⟩ := List.mem_map.mp hmem
    have hpos : 0 < (front.filter (·.1 == n)).length :=
      List.length_pos_of_mem (List.mem_filter.mpr ⟨he, beq_iff_eq.mpr heq⟩)
    omega
  rw [Parameters.get?_append, Parameters.get?_eq_none hfront, Option.none_or, Parameters.get?_cons, if_pos rfl]

/-- The exceptions are read by themselves, so that other ones in their place make the same rule with them. -/
theorem ReadFrom.replace {depth : Nat} {front back : Parameters.Bag} {l l' : Datum} {r : RuleDefinition}
    {exceptions : List ExceptionDefinition} (h : r.ReadFrom depth (front ++ ("exceptions", l) :: back))
    (hl : l'.listOf? (ExceptionDefinition.ofDatum? (depth - 2)) = some exceptions) :
    ReadFrom depth (front ++ ("exceptions", l') :: back) { r with exceptions } := by
  have hsame (names : List String) :
      Datum.isSingle names (front ++ ("exceptions", l') :: back) =
        Datum.isSingle names (front ++ ("exceptions", l) :: back) := by
    simp only [Datum.isSingle, ← List.countP_eq_length_filter, List.countP_append, List.countP_cons]
  obtain ⟨hsingle, hid, hpath, -, bag, hbag, hkind⟩ := h
  have hsingle' := (hsame commonNames).trans hsingle
  refine ⟨hsingle', ?_, ?_, ?_, bag, ?_, hkind⟩
  · rw [get?_append_cons_of_ne (by decide)] at hid ⊢
    exact hid
  · rw [get?_append_cons_of_ne (by decide)] at hpath ⊢
    exact hpath
  · rw [get?_append_cons_of_isSingle (by decide) hsingle']
    exact hl
  · rw [List.filter_append, List.filter_cons_of_neg (by simp [commonNames])] at hbag ⊢
    exact hbag

theorem ReadFrom.listOf_exceptions {depth : Nat} {front back : Parameters.Bag} {l : Datum} {r : RuleDefinition}
    (h : r.ReadFrom depth (front ++ ("exceptions", l) :: back)) :
    l.listOf? (ExceptionDefinition.ofDatum? (depth - 2)) = some r.exceptions := by
  have hexceptions := h.exceptions
  rwa [get?_append_cons_of_isSingle (by decide) h.single] at hexceptions

theorem exists_record {d : Datum} {entries : Parameters.Bag} (h : d.entries? = some entries) (hne : entries ≠ []) :
    ∃ tag fields, d = .record tag fields := by
  cases d with
  | record tag fields => exact ⟨tag, fields, rfl⟩
  | void => cases h; exact absurd rfl hne
  | scalar s =>
    simp only [Datum.entries?] at h
    split at h <;> cases h
    exact absurd rfl hne
  | _ => cases h

/-! ## Keys that count for nothing -/

/-- A place between the fields of an object, in the list of exceptions of a rule. -/
structure Slot where
  tag : Option String
  front : List (Key × Datum)
  key : Key
  name_key : key.name? = some "exceptions"
  list : List Datum → Datum
  items_list : ∀ items, (list items).items? = some items
  before : List Datum
  objectTag : Option String
  pre : List (Key × Datum)
  post : List (Key × Datum)
  after : List Datum
  back : List (Key × Datum)

namespace Slot

/-- The object with something in the place. -/
def object (s : Slot) (more : List (Key × Datum)) : Datum :=
  .record s.objectTag (s.pre ++ (more ++ s.post))

def exceptions (s : Slot) (more : List (Key × Datum)) : Datum :=
  s.list (s.before ++ s.object more :: s.after)

def rule (s : Slot) (more : List (Key × Datum)) : Datum :=
  .record s.tag (s.front ++ (s.key, s.exceptions more) :: s.back)

theorem entries?_rule {s : Slot} {more : List (Key × Datum)} {entries : Parameters.Bag} :
    (s.rule more).entries? = some entries ↔
      ∃ front back, s.front.mapM (fun e => e.1.name?.map (·, e.2)) = some front ∧
        s.back.mapM (fun e => e.1.name?.map (·, e.2)) = some back ∧
        front ++ ("exceptions", s.exceptions more) :: back = entries := by
  rw [rule, Datum.entries?, mapM_append_cons_eq_some]
  simp [s.name_key]

theorem listOf?_exceptions {α : Type} {read : Datum → Option α} {s : Slot} {more : List (Key × Datum)} {as : List α} :
    (s.exceptions more).listOf? read = some as ↔
      ∃ x a z, s.before.mapM read = some x ∧ read (s.object more) = some a ∧ s.after.mapM read = some z ∧
        x ++ a :: z = as := by
  rw [Datum.listOf?, exceptions, s.items_list, Option.bind_some, mapM_append_cons_eq_some]

/-- A rule with another object in the same place, as long as it is read as an exception. -/
theorem ofDatum?_rule {s : Slot} {depth : Nat} {more other : List (Key × Datum)} {r : RuleDefinition}
    {e : ExceptionDefinition} (h : ofDatum? depth (s.rule more) = some r)
    (hobject : ExceptionDefinition.ofDatum? (depth - 2) (s.object more) = some e)
    (hother : ExceptionDefinition.ofDatum? (depth - 2) (s.object other) = some e) :
    ofDatum? depth (s.rule other) = some r := by
  obtain ⟨hdepth, entries, hentries, hread⟩ := ofDatum?_eq_some.mp h
  obtain ⟨front, back, hfront, hback, rfl⟩ := entries?_rule.mp hentries
  obtain ⟨x, a, z, hx, ha, hz, hlist⟩ := listOf?_exceptions.mp hread.listOf_exceptions
  rw [hobject] at ha
  cases ha
  exact ofDatum?_eq_some.mpr ⟨hdepth, _, entries?_rule.mpr ⟨front, back, hfront, hback, rfl⟩,
    hread.replace (listOf?_exceptions.mpr ⟨x, e, z, hx, hother, hz, hlist⟩)⟩

theorem exists_exception {s : Slot} {depth : Nat} {more : List (Key × Datum)} {r : RuleDefinition}
    (h : ofDatum? depth (s.rule more) = some r) :
    ∃ e ∈ r.exceptions, ExceptionDefinition.ofDatum? (depth - 2) (s.object more) = some e := by
  obtain ⟨-, entries, hentries, hread⟩ := ofDatum?_eq_some.mp h
  obtain ⟨front, back, -, -, rfl⟩ := entries?_rule.mp hentries
  obtain ⟨x, e, z, -, he, -, hlist⟩ := listOf?_exceptions.mp hread.listOf_exceptions
  exact ⟨e, hlist ▸ List.mem_append_right x List.mem_cons_self, he⟩

end Slot

/-- The keys of a rule that is read are those of the kind that its type names, and each object among its exceptions has
one pattern. A further key there is refused if it is no name of a field, if it is a pattern itself or if its value
cannot be held. Any other one changes nothing. -/
theorem keys_of_rule {depth : Nat} {d : Datum} {r : RuleDefinition} (h : ofDatum? depth d = some r) :
    ∃ tag fields, d = .record tag fields ∧
      (∀ f ∈ fields, ∃ n ∈ r.kind.keys, f.1.name? = some n) ∧
      (∃ f ∈ fields, f.1.name? = some "type" ∧
        (f.2.settle? (depth - 1)).bind RuleKind.name? = some r.kind.label) ∧
      ∀ s : Slot, d = s.rule [] →
        (∃ p, ExceptionDefinition.HoldsPattern (depth - 3) (s.pre ++ s.post) p ∧ .regex p ∈ r.exceptions) ∧
        ∀ k v, ofDatum? depth (s.rule [(k, v)]) =
          if ExceptionDefinition.isFieldKey k && !ExceptionDefinition.isRegexKey k && (v.settle? (depth - 3)).isSome
          then some r else none := by
  obtain ⟨-, entries, hentries, hread⟩ := ofDatum?_eq_some.mp h
  obtain ⟨typeDatum, htype, hname⟩ := hread.type_names
  obtain ⟨tag, fields, rfl⟩ := exists_record hentries (List.ne_nil_of_mem htype)
  refine ⟨tag, fields, rfl, fun f hf => ?_, ?_, fun s hs => ?_⟩
  · obtain ⟨e, he, hfe⟩ := exists_mem_of_mapM hentries hf
    obtain ⟨n, hn, rfl⟩ := Option.map_eq_some_iff.mp hfe
    exact ⟨n, hread.mem_keys _ he, hn⟩
  · obtain ⟨f, hf, hfe⟩ := exists_of_mem_mapM hentries htype
    obtain ⟨n, hn, heq⟩ := Option.map_eq_some_iff.mp hfe
    cases heq
    exact ⟨f, hf, hn, hname⟩
  · rw [hs] at h
    obtain ⟨e, he, hobject⟩ := s.exists_exception h
    obtain ⟨below, hbelow⟩ := ExceptionDefinition.exists_depth hobject
    obtain rfl : depth - 3 = below := by omega
    rw [hbelow] at hobject
    obtain ⟨htag, p, hpattern, rfl⟩ := ExceptionDefinition.ofDatum?_record.mp hobject
    refine ⟨⟨p, hpattern, he⟩, fun k v => ?_⟩
    split
    · rename_i hidle
      simp only [Bool.and_eq_true, Bool.not_eq_true'] at hidle
      have hpattern' := hpattern.insert_iff.mpr ⟨⟨hidle.1.1, hidle.1.2, hidle.2⟩, rfl⟩
      exact s.ofDatum?_rule h (hbelow ▸ hobject)
        (hbelow ▸ ExceptionDefinition.ofDatum?_record.mpr ⟨htag, p, hpattern', rfl⟩)
    · rename_i hrefused
      refine Option.eq_none_iff_forall_not_mem.mpr fun r' hr' => hrefused ?_
      obtain ⟨e', -, hobject'⟩ := s.exists_exception hr'
      rw [hbelow] at hobject'
      obtain ⟨-, p', hpattern', -⟩ := ExceptionDefinition.ofDatum?_record.mp hobject'
      obtain ⟨⟨hfield, hother, hvalue⟩, -⟩ := hpattern.insert_iff.mp hpattern'
      simp [hfield, hother, hvalue]

/-- A rule with one exception, an object of a pattern and a place behind it. -/
def exempted : Slot where
  tag := none
  front := [(.text "id", .text "https"), (.text "type", .text "enforce_https")]
  key := .text "exceptions"
  name_key := rfl
  list := .ofList
  items_list _ := rfl
  before := []
  objectTag := none
  pre := [(.text "regex", .text "/a")]
  post := []
  after := []
  back := []

theorem exempted_keys :
    ofDocument? (exempted.rule []) = some { id := "https", exceptions := [.regex "/a"], kind := .enforceHttps } ∧
    ofDocument? (exempted.rule [(.text "regex", .text "/b")]) = none := by
  have hread :
      ofDocument? (exempted.rule []) = some { id := "https", exceptions := [.regex "/a"], kind := .enforceHttps } := by
    decide
  obtain ⟨_, _, _, -, -, hslot⟩ := keys_of_rule hread
  exact ⟨hread, (hslot exempted rfl).2 (.text "regex") (.text "/b")⟩

/-- A note next to a pattern is neither part of it nor refused. -/
theorem note_unnoticed :
    exempted.object [(.text "note", .text "/b")] = .ofFields [("regex", .text "/a"), ("note", .text "/b")] ∧
    ofDocument? (exempted.rule [(.text "note", .text "/b")]) =
      some { id := "https", exceptions := [.regex "/a"], kind := .enforceHttps } :=
  ⟨rfl, by decide⟩

end RuleDefinition

end Portcullis.Policy

import Mathlib.Algebra.GroupWithZero.Nat
import Mathlib.Data.List.Basic
import Portcullis.Audit.Event
import Portcullis.Proofs.Text.Encoding

/-!
# What the hash of an event covers

The bytes that are hashed fix the time of an event, but not where one field ends and the next begins: a field may
hold the mark that ends it, and no message is hashed like an empty one. They fix the whole event exactly if no field
and no message holds a mark and there is a message that is not empty.
-/

namespace Portcullis.Audit

/-! ## Marked texts -/

/-- Texts with a mark behind each of them, and what follows. -/
def marked (fs : List (List Char)) (rest : List Char) : List Char :=
  fs.flatMap (· ++ ['\x00']) ++ rest

@[simp] theorem marked_nil (rest : List Char) : marked [] rest = rest :=
  rfl

@[simp] theorem marked_cons (f : List Char) (fs : List (List Char)) (rest : List Char) :
    marked (f :: fs) rest = f ++ '\x00' :: marked fs rest := by
  simp [marked]

theorem count_marked (fs : List (List Char)) (rest : List Char) :
    (marked fs rest).count '\x00' = fs.length + (fs.map (List.count '\x00')).sum + rest.count '\x00' := by
  induction fs with
  | nil => simp
  | cons f fs ih =>
    simp only [marked_cons, List.count_append, List.count_cons_self, ih, List.length_cons, List.map_cons, List.sum_cons]
    omega

/-- Texts without marks are read back from their marked form. -/
theorem marked_injective {fs gs : List (List Char)} {rest rest' : List Char} (hlen : fs.length = gs.length)
    (hfs : ∀ f ∈ fs, '\x00' ∉ f) (hgs : ∀ g ∈ gs, '\x00' ∉ g) (h : marked fs rest = marked gs rest') :
    fs = gs ∧ rest = rest' := by
  induction fs generalizing gs with
  | nil =>
    obtain rfl := List.length_eq_zero_iff.mp hlen.symm
    exact ⟨rfl, h⟩
  | cons f fs ih =>
    obtain ⟨g, gs, rfl⟩ := List.exists_cons_of_length_eq_add_one hlen.symm
    rw [marked_cons, marked_cons] at h
    obtain ⟨rfl, htail⟩ := Text.cut_first (hfs f List.mem_cons_self) (hgs g List.mem_cons_self) h
    obtain ⟨rfl, hrest⟩ := ih (Nat.succ.inj hlen) (fun x hx => hfs x (.tail _ hx)) (fun x hx => hgs x (.tail _ hx)) htail
    exact ⟨rfl, hrest⟩

theorem exists_marked (k : Nat) {cs : List Char} (h : k ≤ cs.count '\x00') :
    ∃ fs rest, fs.length = k ∧ cs = marked fs rest := by
  induction k generalizing cs with
  | zero => exact ⟨[], cs, rfl, rfl⟩
  | succ k ih =>
    have hmem : '\x00' ∈ cs := List.count_pos_iff.mp (by omega)
    obtain ⟨f, tail, rfl, hf⟩ := List.eq_append_cons_of_mem hmem
    rw [List.count_append, List.count_cons_self, List.count_eq_zero_of_not_mem hf] at h
    obtain ⟨fs, rest, hlen, rfl⟩ := @ih tail (by omega)
    exact ⟨f :: fs, rest, by rw [List.length_cons, hlen], (marked_cons f fs rest).symm⟩

namespace Event

variable {e e' : Event}

/-! ## The time -/

/-- Both numbers of a time stand behind a blank, and a brace ends it. -/
theorem exists_timeText : ∃ a b c : List Char, ∀ t, (timeText t).toList =
    a ++ ' ' :: ((toString t.seconds).toList ++ b) ++ ' ' :: (toString t.nanoseconds).toList ++ (c ++ ['\x7d']) := by
  have hparts : ∀ s t u v w : String, (s ++ t ++ u ++ v ++ w).toList =
      s.toList ++ t.toList ++ u.toList ++ v.toList ++ w.toList := by simp
  have hseconds : "SystemTime \x7b tv_sec: ".toList = "SystemTime \x7b tv_sec:".toList ++ [' '] := by decide
  have hnanoseconds : ", tv_nsec: ".toList = ", tv_nsec:".toList ++ [' '] := by decide
  have hend : " \x7d".toList = [' '] ++ ['\x7d'] := by decide
  refine ⟨"SystemTime \x7b tv_sec:".toList, ", tv_nsec:".toList, [' '], fun t => (hparts _ _ _ _ _).trans ?_⟩
  rw [hseconds, hnanoseconds, hend]
  simp only [List.append_assoc, List.cons_append, List.nil_append]

theorem blank_notMem_digits (n : Nat) : ' ' ∉ (toString n).toList := by
  rw [Nat.toString_eq_ofList_toDigits, String.toList_ofList]
  intro h
  exact absurd (Nat.isDigit_of_mem_toDigits (by decide) (by decide) h) (by decide)

theorem eq_of_digits_eq {m n : Nat} (h : (toString m).toList = (toString n).toList) : m = n := by
  rw [Nat.toString_eq_ofList_toDigits, Nat.toString_eq_ofList_toDigits, String.toList_ofList, String.toList_ofList] at h
  rw [← Nat.ofDigitChars_ten_toDigits (n := m), h, Nat.ofDigitChars_ten_toDigits]

/-- A time ends the text before it in one way only. -/
theorem append_timeText_inj {cs ds : List Char} {t u : Duration}
    (h : cs ++ (timeText t).toList = ds ++ (timeText u).toList) : cs = ds ∧ t = u := by
  obtain ⟨a, b, c, htext⟩ := exists_timeText
  simp only [htext, ← List.append_assoc, List.append_cancel_right_eq] at h
  obtain ⟨hfront, hn⟩ := Text.cut_last (blank_notMem_digits _) (blank_notMem_digits _) h
  simp only [← List.cons_append, ← List.append_assoc, List.append_cancel_right_eq] at hfront
  obtain ⟨hcs, hs⟩ := Text.cut_last (blank_notMem_digits _) (blank_notMem_digits _) hfront
  refine ⟨List.append_cancel_right hcs, ?_⟩
  obtain ⟨seconds, nanoseconds⟩ := t
  rw [Duration.mk.injEq]
  exact ⟨eq_of_digits_eq hs, eq_of_digits_eq hn⟩

/-! ## The hashed text -/

/-- What is hashed of an event before its time: the fields with their marks, and the message. -/
def content (e : Event) : List Char :=
  marked (e.markedFields.map String.toList) (e.message.getD "").toList

theorem encode_marked (fs : List String) (rest : List Char) :
    Utf8.encode (marked (fs.map String.toList) rest) =
      fs.flatMap (fun f => Bytes.ofText f ++ [0]) ++ Utf8.encode rest := by
  induction fs with
  | nil => rfl
  | cons f fs ih =>
    have hmark : Utf8.encode ('\x00' :: marked (fs.map String.toList) rest) =
        0 :: Utf8.encode (marked (fs.map String.toList) rest) := rfl
    rw [List.map_cons, marked_cons, Utf8.encode_append, hmark, ih, List.flatMap_cons, List.append_assoc,
      List.append_assoc]
    rfl

theorem ofText_getD (s : Option String) : (s.map Bytes.ofText).getD [] = Utf8.encode (s.getD "").toList := by
  cases s <;> rfl

theorem hashed_eq (e : Event) :
    e.hashed = Utf8.encode (e.content ++ (timeText e.time).toList ++ (e.previous.getD "").toList) := by
  rw [hashed, ofText_getD, ofText_getD, content, Utf8.encode_append, Utf8.encode_append, encode_marked]
  simp only [List.append_assoc]
  rfl

/-- Behind the same event, two events are hashed alike exactly if their contents and times agree. -/
theorem hashed_eq_iff (hp : e'.previous = e.previous) :
    e'.hashed = e.hashed ↔ e'.content = e.content ∧ e'.time = e.time := by
  rw [hashed_eq, hashed_eq, hp]
  constructor
  · intro h
    exact append_timeText_inj (List.append_cancel_right (Utf8.encode_injective h))
  · rintro ⟨hc, ht⟩
    rw [hc, ht]

/-! ## Sealed events -/

/-- No field and no message holds a mark, and there is a message that is not empty. -/
structure Sealed (e : Event) : Prop where
  fields : ∀ f ∈ e.markedFields, '\x00' ∉ f.toList
  message : ∃ m, e.message = some m ∧ m ≠ "" ∧ '\x00' ∉ m.toList

/-- The links of an event are those of another one. -/
structure SameLinks (e' e : Event) : Prop where
  hash : e'.hash = e.hash
  previous : e'.previous = e.previous

theorem SameLinks.hashed_eq (hl : e'.SameLinks e) (hc : e'.content = e.content) (ht : e'.time = e.time) :
    e'.hashed = e.hashed :=
  (hashed_eq_iff hl.previous).mpr ⟨hc, ht⟩

theorem eq_of_parts (hl : e'.SameLinks e) (hf : e'.markedFields = e.markedFields) (hm : e'.message = e.message)
    (ht : e'.time = e.time) : e' = e := by
  obtain ⟨id, requestId, ruleId, method, path, verdict, message, time, hash, previous⟩ := e'
  simp only [markedFields, List.cons.injEq, and_true] at hf
  obtain ⟨rfl, rfl, rfl, rfl, rfl, rfl⟩ := hf
  obtain ⟨rfl, rfl⟩ := hl
  obtain rfl := hm
  obtain rfl := ht
  rfl

theorem Sealed.count_content (h : e.Sealed) : e.content.count '\x00' = 6 := by
  obtain ⟨m, hm, -, hmark⟩ := h.message
  have hzero : ∀ f ∈ e.markedFields, f.toList.count '\x00' = 0 := fun f hf => List.count_eq_zero.mpr (h.fields f hf)
  rw [content, count_marked, hm, Option.getD_some, List.count_eq_zero.mpr hmark]
  simp only [markedFields, List.mem_cons, List.not_mem_nil, or_false, forall_eq_or_imp, forall_eq] at hzero
  simp [markedFields, hzero]

/-- An event whose content has no more marks than there are fields holds none in them. -/
theorem notMem_of_count_content (h : e.content.count '\x00' = 6) :
    (∀ f ∈ e.markedFields, '\x00' ∉ f.toList) ∧ '\x00' ∉ (e.message.getD "").toList := by
  rw [content, count_marked, List.length_map] at h
  have hlen : e.markedFields.length = 6 := rfl
  have hsum : ((e.markedFields.map String.toList).map (List.count '\x00')).sum = 0 := by omega
  refine ⟨fun f hf => List.count_eq_zero.mp ?_, List.count_eq_zero.mp (by omega)⟩
  exact List.sum_eq_zero_iff_forall_eq_nat.mp hsum _ (List.mem_map_of_mem (List.mem_map_of_mem hf))

theorem Sealed.eq_of_content (h : e.Sealed) (hl : e'.SameLinks e) (hc : e'.content = e.content)
    (ht : e'.time = e.time) : e' = e := by
  obtain ⟨m, hm, hne, hmark⟩ := h.message
  obtain ⟨hfields', hmessage'⟩ := notMem_of_count_content (hc ▸ h.count_content)
  have hmap : ∀ (e : Event), (∀ f ∈ e.markedFields, '\x00' ∉ f.toList) →
      ∀ f ∈ e.markedFields.map String.toList, '\x00' ∉ f := by
    intro e he f hf
    obtain ⟨s, hs, rfl⟩ := List.mem_map.mp hf
    exact he s hs
  obtain ⟨hf, hmsg⟩ := marked_injective (by rfl) (hmap e' hfields') (hmap e h.fields) hc
  refine eq_of_parts hl (List.map_injective_iff.mpr (fun _ _ => String.toList_inj.mp) hf) ?_ ht
  rw [hm, Option.getD_some, String.toList_inj] at hmsg
  cases hm' : e'.message with
  | none => rw [hm', Option.getD_none] at hmsg; exact absurd hmsg.symm hne
  | some m' => rw [hm', Option.getD_some] at hmsg; rw [hm, hmsg]

def withParts (e : Event) (f₁ f₂ f₃ f₄ f₅ f₆ message : List Char) : Event :=
  { e with
    id := .ofList f₁, requestId := .ofList f₂, ruleId := .ofList f₃, method := .ofList f₄, path := .ofList f₅
    verdict := .ofList f₆, message := some (.ofList message) }

theorem content_withParts (e : Event) (f₁ f₂ f₃ f₄ f₅ f₆ message : List Char) :
    (e.withParts f₁ f₂ f₃ f₄ f₅ f₆ message).content = marked [f₁, f₂, f₃, f₄, f₅, f₆] message := by
  simp [content, withParts, markedFields]

/-- A content with a mark too many can be cut into fields and a message in two ways. -/
theorem exists_two_of_content (h : 7 ≤ e.content.count '\x00') :
    ∃ e₁ e₂ : Event, e₁ ≠ e₂ ∧ (e₁.SameLinks e ∧ e₁.hashed = e.hashed) ∧ e₂.SameLinks e ∧ e₂.hashed = e.hashed := by
  obtain ⟨gs, rest, hlen, hcontent⟩ := exists_marked 7 h
  obtain ⟨g₁, g₂, g₃, g₄, g₅, g₆, g₇, rfl⟩ : ∃ g₁ g₂ g₃ g₄ g₅ g₆ g₇, gs = [g₁, g₂, g₃, g₄, g₅, g₆, g₇] := by
    match gs, hlen with
    | [g₁, g₂, g₃, g₄, g₅, g₆, g₇], _ => exact ⟨g₁, g₂, g₃, g₄, g₅, g₆, g₇, rfl⟩
  have hlinks : ∀ f₁ f₂ f₃ f₄ f₅ f₆ m, (e.withParts f₁ f₂ f₃ f₄ f₅ f₆ m).SameLinks e := fun _ _ _ _ _ _ _ => ⟨rfl, rfl⟩
  refine ⟨e.withParts g₁ g₂ g₃ g₄ g₅ g₆ (g₇ ++ '\x00' :: rest), e.withParts (g₁ ++ '\x00' :: g₂) g₃ g₄ g₅ g₆ g₇ rest,
    fun heq => ?_, ⟨hlinks .., (hlinks ..).hashed_eq ?_ rfl⟩, hlinks .., (hlinks ..).hashed_eq ?_ rfl⟩
  · have hid : g₁ = g₁ ++ '\x00' :: g₂ := String.ofList_inj.mp (congrArg Event.id heq)
    simp at hid
  · rw [content_withParts, hcontent]
    simp
  · rw [content_withParts, hcontent]
    simp

/-- An event that is not sealed is hashed like another one. -/
theorem exists_other_of_not_sealed (h : ¬e.Sealed) : ∃ e', e' ≠ e ∧ e'.SameLinks e ∧ e'.hashed = e.hashed := by
  by_cases hblank : e.message.getD "" = ""
  · -- no message and an empty one are hashed alike
    have hother : ∀ m : Option String, m ≠ e.message → m.getD "" = "" →
        ∃ e', e' ≠ e ∧ e'.SameLinks e ∧ e'.hashed = e.hashed := by
      intro m hne hm
      have hl : SameLinks { e with message := m } e := ⟨rfl, rfl⟩
      refine ⟨_, fun heq => hne (congrArg Event.message heq), hl, hl.hashed_eq ?_ rfl⟩
      rw [content, content, hm, hblank]
      rfl
    cases hm : e.message with
    | none => exact hother (some "") (by simp [hm]) rfl
    | some m => exact hother none (by simp [hm]) rfl
  · -- otherwise some text holds a mark, and the content can be cut in two ways, of which one is not the event
    have hmarks : 7 ≤ e.content.count '\x00' := by
      by_contra hle
      have hlower : 6 ≤ e.content.count '\x00' := by
        rw [content, count_marked, List.length_map]
        exact Nat.le_add_right_of_le (Nat.le_add_right_of_le (Nat.le_refl 6))
      obtain ⟨hfields, hmessage⟩ := notMem_of_count_content (e := e) (by omega)
      refine h ⟨hfields, ?_⟩
      cases hm : e.message with
      | none => simp [hm] at hblank
      | some m =>
        rw [hm, Option.getD_some] at hblank hmessage
        exact ⟨m, rfl, hblank, hmessage⟩
    obtain ⟨e₁, e₂, hne, h₁, h₂⟩ := exists_two_of_content hmarks
    by_cases he : e₁ = e
    · exact ⟨e₂, fun heq => hne (he.trans heq.symm), h₂⟩
    · exact ⟨e₁, he, h₁⟩

/-- Whoever knows the links of an event and what is hashed of it knows the event, exactly if it is sealed. -/
theorem sealed_iff : e.Sealed ↔ ∀ e' : Event, e'.SameLinks e → e'.hashed = e.hashed → e' = e := by
  constructor
  · intro h e' hl hh
    obtain ⟨hc, ht⟩ := (hashed_eq_iff hl.previous).mp hh
    exact h.eq_of_content hl hc ht
  · intro h
    by_contra hs
    obtain ⟨e', hne, hl, hh⟩ := exists_other_of_not_sealed hs
    exact hne (h e' hl hh)

end Event

end Portcullis.Audit

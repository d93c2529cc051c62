import Portcullis.Proofs.Http.Normal
import Portcullis.Proofs.Text.Encoding

/-!
# Normal forms that are normal

Normalisation reads escapes in one pass. Behind a percent sign that begins no escape, the characters that it reads can
make one with that sign, and then the normal form is not one of itself. Where each percent sign begins an escape, the
normal form has no escaped unreserved character left, and normalisation leaves it as it is.
-/

namespace Portcullis.Http
open Url

/-- An unreserved character is escaped in the text. -/
def HasEscaped (cs : List Char) : Prop :=
  ∃ front h l rest b, cs = front ++ '%' :: h :: l :: rest ∧ Ascii.hexByte? h l = some b ∧ isUnreserved b = true

/-- A percent sign in the text begins no escape. -/
def HasStray (cs : List Char) : Prop :=
  ∃ front rest, cs = front ++ '%' :: rest ∧ ∀ h l more, rest = h :: l :: more → Ascii.hexByte? h l = none

theorem HasEscaped.cons (c : Char) {cs : List Char} : HasEscaped cs → HasEscaped (c :: cs)
  | ⟨front, h, l, rest, b, hcs, hb, hu⟩ => ⟨c :: front, h, l, rest, b, by rw [hcs]; rfl, hb, hu⟩

theorem HasStray.cons (c : Char) {cs : List Char} : HasStray cs → HasStray (c :: cs)
  | ⟨front, rest, hcs, hnone⟩ => ⟨c :: front, rest, by rw [hcs]; rfl, hnone⟩

theorem HasEscaped.percent_mem {cs : List Char} : HasEscaped cs → '%' ∈ cs
  | ⟨front, h, l, rest, b, hcs, _, _⟩ => by simp [hcs]

/-- The text begins with an escaped unreserved character, or one comes behind its first character. -/
theorem hasEscaped_cons {c : Char} {cs : List Char} : HasEscaped (c :: cs) ↔
    (c = '%' ∧ ∃ h l rest b, cs = h :: l :: rest ∧ Ascii.hexByte? h l = some b ∧ isUnreserved b = true) ∨
      HasEscaped cs := by
  constructor
  · rintro ⟨front, h, l, rest, b, hcs, hb, hu⟩
    cases front with
    | nil =>
      obtain ⟨rfl, rfl⟩ := List.cons.inj hcs
      exact .inl ⟨rfl, h, l, rest, b, rfl, hb, hu⟩
    | cons d front =>
      obtain ⟨-, rfl⟩ := List.cons.inj hcs
      exact .inr ⟨front, h, l, rest, b, rfl, hb, hu⟩
  · rintro (⟨rfl, h, l, rest, b, rfl, hb, hu⟩ | hcs)
    · exact ⟨[], h, l, rest, b, rfl, hb, hu⟩
    · exact hcs.cons c

/-! ## One pass -/

theorem length_decodeUnreserved_le (cs : List Char) : (decodeUnreserved cs).length ≤ cs.length := by
  rw [decodeUnreserved_eq_scan]
  fun_induction scanUnreserved cs with
  | case1 h l rest b hb ih => simp only [List.length_cons]; omega
  | case2 h l rest hb ih => simpa using ih
  | case3 c rest hshape ih => simpa using ih
  | case4 => exact Nat.le_refl _

theorem decodeUnreserved_of_not_hasEscaped {cs : List Char} (h : ¬HasEscaped cs) : decodeUnreserved cs = cs := by
  rw [decodeUnreserved_eq_scan]
  fun_induction scanUnreserved cs with
  | case1 high low rest b hb ih =>
    obtain ⟨hbyte, hu⟩ := Option.filter_eq_some_iff.mp hb
    exact absurd ⟨[], high, low, rest, b, rfl, hbyte, hu⟩ h
  | case2 high low rest hb ih => rw [ih fun hrest => h (hrest.cons '%')]
  | case3 c rest hshape ih => rw [ih fun hrest => h (hrest.cons c)]
  | case4 => rfl

/-- What is read is shorter than what is written. -/
theorem HasEscaped.length_decodeUnreserved_lt {cs : List Char} (h : HasEscaped cs) :
    (decodeUnreserved cs).length < cs.length := by
  rw [decodeUnreserved_eq_scan]
  fun_induction scanUnreserved cs with
  | case1 high low rest b hb ih =>
    have hrest := length_decodeUnreserved_le rest
    rw [decodeUnreserved_eq_scan] at hrest
    simp only [List.length_cons]
    omega
  | case2 high low rest hb ih =>
    rw [List.length_cons, List.length_cons]
    refine Nat.succ_lt_succ (ih ?_)
    rcases hasEscaped_cons.mp h with ⟨-, h', l', rest', b, hcs, hbyte, hu⟩ | hcs
    · cases hcs
      rw [hbyte, Option.filter_some, if_pos hu] at hb
      cases hb
    · exact hcs
  | case3 c rest hshape ih =>
    rw [List.length_cons, List.length_cons]
    refine Nat.succ_lt_succ (ih ?_)
    rcases hasEscaped_cons.mp h with ⟨rfl, h', l', rest', b, rfl, -, -⟩ | hcs
    · exact absurd rfl (hshape h' l' rest' rfl)
    · exact hcs
  | case4 => exact absurd h.percent_mem List.not_mem_nil

/-! ## Reading a path with nothing to escape -/

theorem length_joinSegments_cons (s : Segment) (ss : List Segment) :
    (joinSegments (s :: ss)).length = s.length + 1 + (joinSegments ss).length := by
  rw [joinSegments_cons, List.length_cons, List.length_append]
  omega

theorem length_climb_le (done : List Segment) : (joinSegments (climb done)).length ≤ (joinSegments done).length := by
  cases done with
  | nil => exact Nat.le_refl _
  | cons s outer =>
    rw [climb]
    split
    · exact Nat.le_refl _
    · rw [length_joinSegments_cons]
      omega

theorem length_settle_le (done : List Segment) (s : Segment) :
    (joinSegments (settle done s)).length ≤ s.length + 1 + (joinSegments done).length := by
  have hclimb := length_climb_le done
  rw [settle]
  split
  · omega
  · split
    · omega
    · exact Nat.le_of_eq (length_joinSegments_cons s done)

/-- Resolution never makes a path longer. -/
theorem length_resolve_le (done segs : List Segment) :
    (joinSegments (resolve done segs)).length ≤ (joinSegments done).length + (joinSegments segs).length := by
  induction segs generalizing done with
  | nil => exact Nat.le_refl _
  | cons s rest ih =>
    rw [length_joinSegments_cons]
    cases rest with
    | nil =>
      have hclimb := length_climb_le done
      have hnil : ([] : Segment).length = 0 := rfl
      simp only [resolve]
      split
      · rw [length_joinSegments_cons]
        omega
      · split <;> rw [length_joinSegments_cons] <;> omega
    | cons t rest =>
      have hsettle := length_settle_le done s
      have hrest := ih (settle done s)
      rw [resolve_cons done s (List.cons_ne_nil t rest)]
      omega

theorem map_percentEncode_of_safe {ss : List Segment} (h : ∀ s ∈ ss, ∀ c ∈ s, pathSet c = false) :
    ss.map (percentEncode pathSet) = ss := by
  rw [List.map_congr_left fun s hs => percentEncode_of_safe (h s hs), List.map_id']

theorem length_parsePath_le {rest : List Char} (h : ∀ c ∈ rest, c ≠ '\\' ∧ pathSet c = false) :
    (parsePath ('/' :: rest)).length ≤ ('/' :: rest).length := by
  have hskip : ('/' :: rest).filter (!isSkipped ·) = '/' :: rest :=
    filter_skipped (List.forall_mem_cons.mpr ⟨by decide, fun c hc => not_skipped_of_pathSet (h c hc).2⟩)
  have hbody : body ('/' :: rest) = rest := by
    rw [body, hskip]
    rfl
  have hsegments : joinSegments (segments rest) = '/' :: rest := by
    rw [segments, map_percentEncode_of_safe fun s hs c hc => (h c (mem_of_mem_splitOnP hs c hc).1).2]
    exact joinSegments_splitOnP fun hc => (h _ hc).1 rfl
  have hlength : ∀ ss : List Segment, (joinSegments ss.reverse).length = (joinSegments ss).length := fun ss =>
    (ss.reverse_perm.flatMap_right _).length_eq
  have hresolve := length_resolve_le [] (segments rest)
  rw [hsegments] at hresolve
  rw [parsePath_eq, hbody, hlength]
  simpa [joinSegments] using hresolve

theorem pathSet_of_isUnreserved {b : UInt8} (h : isUnreserved b = true) :
    Char.ofNat b.toNat ≠ '%' ∧ Char.ofNat b.toNat ≠ '\\' ∧ pathSet (Char.ofNat b.toNat) = false := by
  have hall : ∀ n < 256, isUnreserved (UInt8.ofNat n) = true →
      Char.ofNat n ≠ '%' ∧ Char.ofNat n ≠ '\\' ∧ pathSet (Char.ofNat n) = false := by
    decide +kernel
  exact hall b.toNat b.toNat_lt (by rwa [UInt8.ofNat_toNat])

theorem mem_decodeUnreserved {cs : List Char} {c : Char} (h : c ∈ decodeUnreserved cs) :
    c ∈ cs ∨ ∃ b, isUnreserved b = true ∧ c = Char.ofNat b.toNat := by
  rw [decodeUnreserved_eq_scan] at h
  fun_induction scanUnreserved cs with
  | case1 high low rest b hb ih =>
    rcases List.mem_cons.mp h with rfl | h
    · exact .inr ⟨b, (Option.filter_eq_some_iff.mp hb).2, rfl⟩
    · exact (ih h).imp_left fun hc => .tail _ (.tail _ (.tail _ hc))
  | case2 high low rest hb ih =>
    rcases List.mem_cons.mp h with rfl | h
    · exact .inl List.mem_cons_self
    · exact (ih h).imp_left (.tail _)
  | case3 d rest hshape ih =>
    rcases List.mem_cons.mp h with rfl | h
    · exact .inl List.mem_cons_self
    · exact (ih h).imp_left (.tail _)
  | case4 => cases h

/-- A written path with an escaped unreserved character is not its own normal form, which is shorter. -/
theorem normalize_ne_of_hasEscaped {path : List Char} (hw : Written path) (h : HasEscaped path) :
    parsePath (decodeUnreserved path) ≠ path := by
  obtain ⟨rest, rfl⟩ := hw.head
  have hread : decodeUnreserved ('/' :: rest) = '/' :: decodeUnreserved rest := decodeUnreserved_cons (by decide) rest
  have hsafe : ∀ c ∈ decodeUnreserved rest, c ≠ '\\' ∧ pathSet c = false := by
    intro c hc
    rcases mem_decodeUnreserved hc with hc | ⟨b, hb, rfl⟩
    · exact hw.not_mem (.tail _ hc)
    · exact (pathSet_of_isUnreserved hb).2
  have hle := length_parsePath_le hsafe
  have hlt := h.length_decodeUnreserved_lt
  rw [← hread] at hle
  intro heq
  rw [heq] at hle
  omega

/-! ## Texts of escapes -/

theorem isSafe_of_isHex {c : Char} (hc : Ascii.isHex c = true) : c ≠ '%' ∧ isSafe c = true :=
  forall_of_isHex (P := fun c => c ≠ '%' ∧ isSafe c = true) (by decide +kernel) hc

theorem isSafe_of_hexByte? {h l : Char} {b : UInt8} (hb : Ascii.hexByte? h l = some b) :
    (h ≠ '%' ∧ isSafe h = true) ∧ l ≠ '%' ∧ isSafe l = true := by
  obtain ⟨hh, hl⟩ := isHex_of_hexByte? hb
  exact ⟨isSafe_of_isHex hh, isSafe_of_isHex hl⟩

/-- The text does not go on with the two digits of an escape. -/
def NoDigits (cs : List Char) : Prop :=
  ∀ h l rest, cs = h :: l :: rest → Ascii.hexByte? h l = none

/-- A text is made of characters, escapes, and percent signs that begin none. -/
@[elab_as_elim]
theorem escape_induction {motive : List Char → Prop} (nil : motive [])
    (char : ∀ {c rest}, c ≠ '%' → motive rest → motive (c :: rest))
    (escape : ∀ {h l b rest}, Ascii.hexByte? h l = some b → motive rest → motive ('%' :: h :: l :: rest))
    (stray : ∀ {rest}, NoDigits rest → motive rest → motive ('%' :: rest)) : ∀ cs, motive cs
  | [] => nil
  | c :: rest => by
    have ih := escape_induction nil char escape stray rest
    by_cases hc : c = '%'
    · subst hc
      match rest, ih with
      | [], ih => exact stray (fun _ _ _ h => by cases h) ih
      | [_], ih => exact stray (fun _ _ _ h => by cases h) ih
      | h :: l :: more, ih =>
        cases hbyte : Ascii.hexByte? h l with
        | none =>
          refine stray (fun _ _ _ heq => ?_) ih
          cases heq
          exact hbyte
        | some b => exact escape hbyte (escape_induction nil char escape stray more)
    · exact char hc ih

theorem decodeUnreserved_stray {rest : List Char} (hnone : NoDigits rest) :
    decodeUnreserved ('%' :: rest) = '%' :: decodeUnreserved rest := by
  rw [decodeUnreserved_eq_scan, decodeUnreserved_eq_scan]
  match rest, hnone with
  | [], _ => rfl
  | [_], _ => rfl
  | h :: l :: more, hnone => rw [scanUnreserved, hnone h l more rfl, Option.filter_none]

theorem decodeUnreserved_kept {h l : Char} {b : UInt8} (hbyte : Ascii.hexByte? h l = some b)
    (hb : isUnreserved b = false) (rest : List Char) :
    decodeUnreserved ('%' :: h :: l :: rest) = '%' :: h :: l :: decodeUnreserved rest := by
  obtain ⟨⟨hh, -⟩, hl, -⟩ := isSafe_of_hexByte? hbyte
  rw [decodeUnreserved_eq_scan, decodeUnreserved_eq_scan, scanUnreserved, hbyte, Option.filter_some, hb,
    if_neg Bool.false_ne_true]
  dsimp only
  rw [scanUnreserved_cons hh, scanUnreserved_cons hl]

theorem decodeUnreserved_read {h l : Char} {b : UInt8} (hbyte : Ascii.hexByte? h l = some b)
    (hb : isUnreserved b = true) (rest : List Char) :
    decodeUnreserved ('%' :: h :: l :: rest) = Char.ofNat b.toNat :: decodeUnreserved rest := by
  rw [decodeUnreserved_eq_scan, decodeUnreserved_eq_scan, scanUnreserved, hbyte, Option.filter_some, if_pos hb]

theorem filter_escape {h l : Char} {b : UInt8} (hb : Ascii.hexByte? h l = some b) (rest : List Char) :
    ('%' :: h :: l :: rest).filter (!isSkipped ·) = '%' :: h :: l :: rest.filter (!isSkipped ·) := by
  obtain ⟨⟨-, hh⟩, -, hl⟩ := isSafe_of_hexByte? hb
  simp only [List.filter_cons, not_skipped_of_pathSet (isSafe_iff.mp hh).2, not_skipped_of_pathSet (isSafe_iff.mp hl).2,
    show isSkipped '%' = false from rfl, Bool.not_false, if_true]

theorem splitOnP_escape {h l : Char} {b : UInt8} (hb : Ascii.hexByte? h l = some b) (rest : List Char) :
    ('%' :: h :: l :: rest).splitOnP isSlash = (rest.splitOnP isSlash).modifyHead ('%' :: h :: l :: ·) := by
  obtain ⟨⟨-, hh⟩, -, hl⟩ := isSafe_of_hexByte? hb
  obtain ⟨first, others, hsplit⟩ := List.exists_cons_of_ne_nil (List.splitOnP_ne_nil isSlash rest)
  simp only [List.splitOnP_cons_eq_if_modifyHead, (isSafe_iff.mp hh).1, (isSafe_iff.mp hl).1, hsplit, Bool.false_eq_true,
    if_false, List.modifyHead_cons, show isSlash '%' = false from rfl]

theorem percentEncode_escape {h l : Char} {b : UInt8} (hb : Ascii.hexByte? h l = some b) (rest : List Char) :
    percentEncode pathSet ('%' :: h :: l :: rest) = '%' :: h :: l :: percentEncode pathSet rest := by
  obtain ⟨⟨-, hh⟩, -, hl⟩ := isSafe_of_hexByte? hb
  have hsafe : ∀ c ∈ ['%', h, l], pathSet c = false := by
    simp [(isSafe_iff.mp hh).2, (isSafe_iff.mp hl).2, show pathSet '%' = false from rfl]
  have happend := percentEncode_append pathSet ['%', h, l] rest
  rwa [percentEncode_of_safe hsafe] at happend

theorem hexByte?_escape (b : UInt8) :
    Ascii.hexByte? (Ascii.upperHexDigit (b.toNat / 16)) (Ascii.upperHexDigit (b.toNat % 16)) = some b := by
  have hall : ∀ n < 256, Ascii.hexByte? (Ascii.upperHexDigit (n / 16)) (Ascii.upperHexDigit (n % 16)) =
      some (UInt8.ofNat n) := by
    decide +kernel
  have hb := hall b.toNat b.toNat_lt
  rwa [UInt8.ofNat_toNat] at hb

/-- The text is made of characters and of escapes that stay. -/
inductive Sound : List Char → Prop where
  | nil : Sound []
  | char {c : Char} {rest : List Char} : c ≠ '%' → Sound rest → Sound (c :: rest)
  | escape {h l : Char} {b : UInt8} {rest : List Char} : Ascii.hexByte? h l = some b → isUnreserved b = false →
      Sound rest → Sound ('%' :: h :: l :: rest)

namespace Sound

theorem tail {c : Char} {rest : List Char} (hc : c ≠ '%') (h : Sound (c :: rest)) : Sound rest := by
  cases h with
  | char _ h => exact h
  | escape => exact absurd rfl hc

theorem append {cs ds : List Char} (hcs : Sound cs) (hds : Sound ds) : Sound (cs ++ ds) := by
  induction hcs with
  | nil => exact hds
  | char hc _ ih => exact .char hc ih
  | escape hb hu _ ih => exact .escape hb hu ih

theorem not_hasEscaped {cs : List Char} (h : Sound cs) : ¬HasEscaped cs := by
  induction h with
  | nil => exact fun h => absurd h.percent_mem List.not_mem_nil
  | char hc _ ih => exact fun h => (hasEscaped_cons.mp h).elim (fun h => hc h.1) ih
  | escape hb hu _ ih =>
    obtain ⟨⟨hh, -⟩, hl, -⟩ := isSafe_of_hexByte? hb
    intro h
    rcases hasEscaped_cons.mp h with ⟨-, h', l', rest', b', hcs, hb', hu'⟩ | h
    · cases hcs
      cases hb.symm.trans hb'
      rw [hu] at hu'
      cases hu'
    · rcases hasEscaped_cons.mp h with ⟨hh', -⟩ | h
      · exact hh hh'
      · exact (hasEscaped_cons.mp h).elim (fun h => hl h.1) ih

theorem filter {cs : List Char} (h : Sound cs) : Sound (cs.filter (!isSkipped ·)) := by
  induction h with
  | nil => exact .nil
  | @char c rest hc _ ih =>
    cases hs : isSkipped c with
    | true => rwa [List.filter_cons_of_neg (by simp [hs])]
    | false =>
      rw [List.filter_cons_of_pos (by simp [hs])]
      exact .char hc ih
  | escape hb hu _ ih =>
    rw [filter_escape hb]
    exact .escape hb hu ih

theorem splitOnP {cs : List Char} (h : Sound cs) : ∀ s ∈ cs.splitOnP isSlash, Sound s := by
  induction h with
  | nil => simpa using Sound.nil
  | @char c rest hc _ ih =>
    obtain ⟨first, others, hsplit⟩ := List.exists_cons_of_ne_nil (List.splitOnP_ne_nil isSlash rest)
    rw [List.splitOnP_cons_eq_if_modifyHead, hsplit]
    rw [hsplit, List.forall_mem_cons] at ih
    split
    · exact List.forall_mem_cons.mpr ⟨.nil, List.forall_mem_cons.mpr ih⟩
    · exact List.forall_mem_cons.mpr ⟨.char hc ih.1, ih.2⟩
  | @escape h l b rest hb hu _ ih =>
    obtain ⟨first, others, hsplit⟩ := List.exists_cons_of_ne_nil (List.splitOnP_ne_nil isSlash rest)
    rw [hsplit, List.forall_mem_cons] at ih
    rw [splitOnP_escape hb, hsplit, List.modifyHead_cons]
    exact List.forall_mem_cons.mpr ⟨.escape hb hu ih.1, ih.2⟩

theorem of_escape {b : UInt8} (h : isUnreserved b = false) {rest : List Char} (hrest : Sound rest) :
    Sound (Url.escape b ++ rest) :=
  .escape (hexByte?_escape b) h hrest

theorem flatMap_escape {bs : Bytes} (h : ∀ b ∈ bs, isUnreserved b = false) {rest : List Char} (hrest : Sound rest) :
    Sound (bs.flatMap Url.escape ++ rest) := by
  induction bs with
  | nil => exact hrest
  | cons b bs ih =>
    rw [List.forall_mem_cons] at h
    rw [List.flatMap_cons, List.append_assoc]
    exact of_escape h.1 (ih h.2)

end Sound

/-- What a path escapes is not unreserved. -/
theorem not_isUnreserved_of_pathSet {c : Char} (h : pathSet c = true) :
    ∀ b ∈ String.utf8EncodeChar c, isUnreserved b = false := by
  rcases Utf8.encodeChar_cases c with ⟨hlt, hbytes⟩ | hbeyond
  · have hall : ∀ n < 0x80, pathSet (Char.ofNat n) = true → isUnreserved (UInt8.ofNat n) = false := by decide +kernel
    rw [hbytes, List.forall_mem_singleton]
    exact hall c.toNat hlt (by rwa [Char.ofNat_toNat])
  · have hall : ∀ n < 256, 0x80 ≤ n → isUnreserved (UInt8.ofNat n) = false := by decide +kernel
    intro b hb
    have hthis := hall b.toNat b.toNat_lt (UInt8.le_iff_toNat_le.mp (hbeyond b hb))
    rwa [UInt8.ofNat_toNat] at hthis

theorem Sound.percentEncode {cs : List Char} (h : Sound cs) : Sound (percentEncode pathSet cs) := by
  have hcons : ∀ (c : Char) (rest : List Char), Url.percentEncode pathSet (c :: rest) =
      (if pathSet c then (String.utf8EncodeChar c).flatMap Url.escape else [c]) ++ Url.percentEncode pathSet rest :=
    fun _ _ => List.flatMap_cons
  induction h with
  | nil => exact .nil
  | @char c rest hc _ ih =>
    rw [hcons]
    split
    · rename_i hset
      exact Sound.flatMap_escape (not_isUnreserved_of_pathSet hset) ih
    · exact .char hc ih
  | escape hb hu _ ih =>
    rw [percentEncode_escape hb]
    exact .escape hb hu ih

theorem Sound.parsePath {cs : List Char} (h : Sound cs) : Sound (parsePath cs) := by
  have hbody : Sound (body cs) := by
    have hfilter := h.filter
    unfold body
    split
    · rename_i c rest heq
      rw [heq] at hfilter
      split
      · rename_i hslash
        refine hfilter.tail ?_
        rintro rfl
        cases hslash
      · exact hfilter
    · exact .nil
  have hsegments : ∀ s ∈ segments (body cs), Sound s := by
    intro s hs
    obtain ⟨raw, hraw, rfl⟩ := List.mem_map.mp hs
    exact (hbody.splitOnP raw hraw).percentEncode
  have hresolve : ∀ s ∈ (resolve [] (segments (body cs))).reverse, Sound s := fun s hs =>
    resolve_forall .nil (fun _ h => absurd h List.not_mem_nil) (fun s hs _ => hsegments s hs) s (List.mem_reverse.mp hs)
  rw [parsePath_eq]
  generalize (resolve [] (segments (body cs))).reverse = ss at hresolve
  induction ss with
  | nil => exact .nil
  | cons s rest ih =>
    rw [List.forall_mem_cons] at hresolve
    rw [joinSegments_cons]
    exact .char (by decide) (hresolve.1.append (ih hresolve.2))

/-- Without a stray percent sign, one pass reads all escapes of unreserved characters and makes no new one. -/
theorem sound_decodeUnreserved {cs : List Char} (h : ¬HasStray cs) : Sound (decodeUnreserved cs) := by
  induction cs using escape_induction with
  | nil => exact .nil
  | char hc ih =>
    rw [decodeUnreserved_cons hc]
    exact .char hc (ih fun hr => h (hr.cons _))
  | @escape high low b rest hbyte ih =>
    have hrest := ih fun hr => h (((hr.cons low).cons high).cons '%')
    cases hb : isUnreserved b with
    | true =>
      rw [decodeUnreserved_read hbyte hb]
      exact .char (pathSet_of_isUnreserved hb).1 hrest
    | false =>
      rw [decodeUnreserved_kept hbyte hb]
      exact .escape hbyte hb hrest
  | @stray rest hnone _ => exact absurd ⟨[], rest, rfl, hnone⟩ h

/-! ## The normal form of a normal form -/

/-- A normal form is its own one exactly if no unreserved character is escaped in it. One is only if the path has a
percent sign that begins no escape. -/
theorem normalizePath_stable_iff (p : String) :
    (normalizePath (normalizePath p) = normalizePath p ↔ ¬HasEscaped (normalizePath p).toList) ∧
    (HasEscaped (normalizePath p).toList → HasStray p.toList) := by
  have htoList : (normalizePath p).toList = normalize p.toList := String.toList_ofList
  rw [normalizePath, htoList, normalizePath, String.ofList_inj]
  generalize p.toList = path
  by_cases hplain : isPlain path = true
  · rw [normalize_of_isPlain hplain, normalize_of_isPlain hplain]
    have hnot : ¬HasEscaped path := fun h => (isPlain_iff.mp hplain).1 h.percent_mem
    exact ⟨iff_of_true rfl hnot, fun h => absurd h hnot⟩
  · have hform : normalize path = parsePath (decodeUnreserved path) := by rw [normalize, if_neg hplain]
    have hwritten := written_parsePath (decodeUnreserved path)
    rw [hform, normalize_parsePath]
    refine ⟨⟨fun heq h => normalize_ne_of_hasEscaped hwritten h heq, fun h => ?_⟩, fun h => ?_⟩
    · rw [decodeUnreserved_of_not_hasEscaped h, hwritten.parsePath]
    · exact Classical.byContradiction fun hstray => (sound_decodeUnreserved hstray).parsePath.not_hasEscaped h

/-- A stray percent sign makes an escape with a digit that was escaped itself. -/
theorem assembled_escape : normalizePath "/%%361" = "/%61" ∧ HasEscaped (normalizePath "/%%361").toList ∧
    normalizePath (normalizePath "/%%361") = "/a" := by
  have hform : normalizePath "/%%361" = "/%61" := by decide
  rw [hform]
  exact ⟨rfl, ⟨['/'], '6', '1', [], 0x61, rfl, by decide, by decide⟩, by decide⟩

end Portcullis.Http

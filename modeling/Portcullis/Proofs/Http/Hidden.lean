import Portcullis.Proofs.Http.Dots
import Portcullis.Proofs.Http.Stable

/-!
# Segments that hide what they are

Once a path is written as that of a URL, its normal form comes from a second resolution, of what the first one left.
The first one knows nothing of escapes: it takes a segment that hides a dot segment or a drive letter for any other,
and a climb removes it. Without such a climb both resolutions lead where one without the escapes leads.
-/

namespace Portcullis.Http
open Url

/-- As it stands the segment is no dot segment or no drive letter, and without its escapes it is one. -/
def Hides (s : Segment) : Prop :=
  isPlainSegment s = true ∧ isPlainSegment (decodeUnreserved s) = false ∨
    isDriveLetter s = false ∧ isDriveLetter (decodeUnreserved s) = true

instance (s : Segment) : Decidable (Hides s) :=
  inferInstanceAs (Decidable (_ ∨ _))

/-- No segment climbs over one that hides what it is. -/
def ClimbsOpenly : List Segment → List Segment → Prop
  | _, [] => True
  | done, s :: rest => (isDoubleDot s = true → ∀ t ∈ done.head?, ¬Hides t) ∧ ClimbsOpenly (settle done s) rest

/-! ## Decoding segment by segment -/

theorem NoDigits.of_prefix {cs ds : List Char} (h : NoDigits ds) (hfront : cs <+: ds) : NoDigits cs := by
  rintro high low more rfl
  obtain ⟨rest, rfl⟩ := hfront
  exact h high low (more ++ rest) rfl

theorem exists_percent_of_pathSet {c : Char} (h : pathSet c = true) (rest : List Char) :
    ∃ more, percentEncode pathSet (c :: rest) = '%' :: more := by
  obtain ⟨b, bs, hbytes⟩ := List.exists_cons_of_ne_nil (String.utf8EncodeChar_ne_nil (c := c))
  simp only [percentEncode, List.flatMap_cons, h, if_true, hbytes, escape, List.cons_append]
  exact ⟨_, rfl⟩

theorem percentEncode_cons {c : Char} (h : pathSet c = false) (rest : List Char) :
    percentEncode pathSet (c :: rest) = c :: percentEncode pathSet rest := by
  simp [percentEncode, h]

/-- Escaping makes no digits. -/
theorem NoDigits.percentEncode {cs : List Char} (h : NoDigits cs) : NoDigits (percentEncode pathSet cs) := by
  intro high low more heq
  cases hbyte : Ascii.hexByte? high low with
  | none => rfl
  | some b =>
    obtain ⟨⟨hhigh, -⟩, hlow, -⟩ := isSafe_of_hexByte? hbyte
    have hkept : ∀ {c d : Char} {rest tail : List Char}, c ≠ '%' → Url.percentEncode pathSet (d :: rest) = c :: tail →
        d = c ∧ Url.percentEncode pathSet rest = tail := by
      intro c d rest tail hc hd
      cases hset : pathSet d with
      | true =>
        obtain ⟨_, hpercent⟩ := exists_percent_of_pathSet hset rest
        rw [hpercent] at hd
        exact absurd (List.cons.inj hd).1.symm hc
      | false =>
        rw [percentEncode_cons hset] at hd
        exact List.cons.inj hd
    obtain _ | ⟨c, _ | ⟨d, rest⟩⟩ := cs
    · cases heq
    · cases (hkept hhigh heq).2
    · obtain ⟨rfl, htail⟩ := hkept hhigh heq
      obtain ⟨rfl, -⟩ := hkept hlow htail
      rw [← hbyte]
      exact h c d rest rfl

theorem decodeUnreserved_flatMap_escape {bs : Bytes} (h : ∀ b ∈ bs, isUnreserved b = false) (rest : List Char) :
    decodeUnreserved (bs.flatMap escape ++ rest) = bs.flatMap escape ++ decodeUnreserved rest := by
  induction bs with
  | nil => rfl
  | cons b bs ih =>
    rw [List.forall_mem_cons] at h
    have hkept := decodeUnreserved_kept (hexByte?_escape b) h.1 (bs.flatMap escape ++ rest)
    rw [List.flatMap_cons, List.append_assoc, List.append_assoc, ← ih h.2]
    exact hkept

theorem percentEncode_decodeUnreserved (cs : List Char) :
    percentEncode pathSet (decodeUnreserved cs) = decodeUnreserved (percentEncode pathSet cs) := by
  induction cs using escape_induction with
  | nil => rfl
  | @char c rest hc ih =>
    rw [decodeUnreserved_cons hc]
    cases hset : pathSet c with
    | true =>
      have hcons : ∀ tail, percentEncode pathSet (c :: tail) =
          (String.utf8EncodeChar c).flatMap escape ++ percentEncode pathSet tail := fun tail => by
        simp [percentEncode, hset]
      rw [hcons, hcons, decodeUnreserved_flatMap_escape (not_isUnreserved_of_pathSet hset), ih]
    | false => rw [percentEncode_cons hset, percentEncode_cons hset, decodeUnreserved_cons hc, ih]
  | @escape h l b rest hbyte ih =>
    rw [percentEncode_escape hbyte]
    cases hb : isUnreserved b with
    | true =>
      rw [decodeUnreserved_read hbyte hb, decodeUnreserved_read hbyte hb,
        percentEncode_cons (pathSet_of_isUnreserved hb).2.2, ih]
    | false => rw [decodeUnreserved_kept hbyte hb, decodeUnreserved_kept hbyte hb, percentEncode_escape hbyte, ih]
  | stray hnone ih =>
    rw [decodeUnreserved_stray hnone, percentEncode_cons (by decide), percentEncode_cons (by decide),
      decodeUnreserved_stray hnone.percentEncode, ih]

theorem isSafe_of_isUnreserved {b : UInt8} (hb : isUnreserved b = true) : isSafe (Char.ofNat b.toNat) = true := by
  have hall : ∀ n < 256, isUnreserved (UInt8.ofNat n) = true → isSafe (Char.ofNat n) = true := by decide +kernel
  exact hall b.toNat b.toNat_lt (by rwa [UInt8.ofNat_toNat])

theorem ne_colon_of_isUnreserved {b : UInt8} (hb : isUnreserved b = true) :
    Char.ofNat b.toNat ≠ ':' ∧ Char.ofNat b.toNat ≠ '|' := by
  have hall : ∀ n < 256, isUnreserved (UInt8.ofNat n) = true → Char.ofNat n ≠ ':' ∧ Char.ofNat n ≠ '|' := by
    decide +kernel
  exact hall b.toNat b.toNat_lt (by rwa [UInt8.ofNat_toNat])

theorem isSafe_decodeUnreserved {s : Segment} (h : ∀ c ∈ s, isSafe c = true) :
    ∀ c ∈ decodeUnreserved s, isSafe c = true := by
  intro c hc
  rcases mem_decodeUnreserved hc with hc | ⟨b, hb, rfl⟩
  · exact h c hc
  · exact isSafe_of_isUnreserved hb

theorem prefix_of_splitOnP {p : Char → Bool} {cs first : List Char} {others : List (List Char)}
    (h : cs.splitOnP p = first :: others) : first <+: cs := by
  induction cs generalizing first others with
  | nil =>
    rw [List.splitOnP_nil] at h
    obtain ⟨rfl, -⟩ := List.cons.inj h
    exact List.nil_prefix
  | cons c rest ih =>
    obtain ⟨next, more, hsplit⟩ := List.exists_cons_of_ne_nil (List.splitOnP_ne_nil p rest)
    rw [List.splitOnP_cons_eq_if_modifyHead, hsplit] at h
    split at h
    · obtain ⟨rfl, -⟩ := List.cons.inj h
      exact List.nil_prefix
    · obtain ⟨rfl, -⟩ := List.cons.inj h
      exact (List.prefix_cons_inj c).mpr (ih hsplit)

/-- Slashes are no digits, so that escapes are read in each segment on its own. -/
theorem splitOnP_decodeUnreserved (cs : List Char) :
    (decodeUnreserved cs).splitOnP isSlash = (cs.splitOnP isSlash).map decodeUnreserved := by
  induction cs using escape_induction with
  | nil => rfl
  | @char c rest hc ih =>
    obtain ⟨first, others, hsplit⟩ := List.exists_cons_of_ne_nil (List.splitOnP_ne_nil isSlash rest)
    rw [decodeUnreserved_cons hc, List.splitOnP_cons_eq_if_modifyHead, List.splitOnP_cons_eq_if_modifyHead, ih, hsplit]
    split
    · rfl
    · rw [List.modifyHead_cons, List.map_cons, List.map_cons, List.modifyHead_cons, decodeUnreserved_cons hc]
  | @escape h l b rest hbyte ih =>
    obtain ⟨first, others, hsplit⟩ := List.exists_cons_of_ne_nil (List.splitOnP_ne_nil isSlash rest)
    rw [splitOnP_escape hbyte, hsplit, List.modifyHead_cons, List.map_cons]
    rw [hsplit, List.map_cons] at ih
    cases hb : isUnreserved b with
    | true =>
      rw [decodeUnreserved_read hbyte hb, decodeUnreserved_read hbyte hb, List.splitOnP_cons_eq_if_modifyHead,
        if_neg (by simp [(isSafe_iff.mp (isSafe_of_isUnreserved hb)).1]), ih, List.modifyHead_cons]
    | false =>
      rw [decodeUnreserved_kept hbyte hb, decodeUnreserved_kept hbyte hb, splitOnP_escape hbyte, ih,
        List.modifyHead_cons]
  | @stray rest hnone ih =>
    obtain ⟨first, others, hsplit⟩ := List.exists_cons_of_ne_nil (List.splitOnP_ne_nil isSlash rest)
    have hfirst := hnone.of_prefix (prefix_of_splitOnP hsplit)
    rw [decodeUnreserved_stray hnone, List.splitOnP_cons_eq_if_modifyHead, List.splitOnP_cons_eq_if_modifyHead, ih,
      hsplit, if_neg (by decide), if_neg (by decide), List.modifyHead_cons, List.map_cons, List.map_cons, List.modifyHead_cons,
      decodeUnreserved_stray hfirst]

theorem segments_decodeUnreserved (cs : List Char) :
    segments (decodeUnreserved cs) = (segments cs).map decodeUnreserved := by
  rw [segments, splitOnP_decodeUnreserved, segments, List.map_map, List.map_map]
  exact List.map_congr_left fun s _ => percentEncode_decodeUnreserved s

theorem body_rooted {cs : List Char} (h : ∀ c ∈ cs, isSkipped c = false) : body ('/' :: cs) = cs := by
  rw [body, filter_skipped (List.forall_mem_cons.mpr ⟨by decide, h⟩)]
  rfl

theorem decodeUnreserved_joinSegments (ss : List Segment) :
    decodeUnreserved (joinSegments ss) = joinSegments (ss.map decodeUnreserved) := by
  induction ss with
  | nil => rfl
  | cons s rest ih =>
    rw [joinSegments_cons, decodeUnreserved_cons (by decide), List.map_cons, joinSegments_cons, ← ih]
    cases rest with
    | nil => simp [joinSegments, decodeUnreserved_of_no_percent]
    | cons t more => rw [joinSegments_cons, decodeUnreserved_append (by decide)]

/-- The second resolution starts over with what the first one left, without its escapes. -/
theorem parsePath_decode_parsePath {cs : List Char} (h : ∀ c ∈ cs, isSkipped c = false) :
    parsePath (decodeUnreserved (parsePath ('/' :: cs))) =
      joinSegments (resolve [] ((resolve [] (segments cs)).reverse.map decodeUnreserved)).reverse := by
  rw [parsePath_eq ('/' :: cs), body_rooted h, decodeUnreserved_joinSegments, parsePath_joinSegments]
  · intro hnil
    exact resolve_ne_nil [] (segments_ne_nil cs) (List.reverse_eq_nil_iff.mp (List.map_eq_nil_iff.mp hnil))
  · intro s hs
    obtain ⟨t, ht, rfl⟩ := List.mem_map.mp hs
    exact isSafe_decodeUnreserved (clean_of_mem_resolve t (List.mem_reverse.mp ht)).safe

theorem parsePath_decode {cs : List Char} (h : ∀ c ∈ cs, isSkipped c = false) :
    parsePath (decodeUnreserved ('/' :: cs)) =
      joinSegments (resolve [] ((segments cs).map decodeUnreserved)).reverse := by
  have hdecoded : ∀ c ∈ decodeUnreserved cs, isSkipped c = false := fun c hc => by
    rcases mem_decodeUnreserved hc with hc | ⟨b, hb, rfl⟩
    · exact h c hc
    · exact not_skipped_of_pathSet (pathSet_of_isUnreserved hb).2.2
  rw [decodeUnreserved_cons (by decide), parsePath_eq, body_rooted hdecoded, segments_decodeUnreserved]

/-! ## The second resolution -/

/-- The stack of the second resolution after the segments that are on the stack of the first one. -/
def reread (done : List Segment) : List Segment :=
  (done.reverse.map decodeUnreserved).foldl settle []

theorem reread_cons (s : Segment) (done : List Segment) :
    reread (s :: done) = settle (reread done) (decodeUnreserved s) := by
  simp [reread, List.foldl_append]

theorem reread_of_plain {done : List Segment} (h : ∀ s ∈ done, isPlainSegment (decodeUnreserved s) = true) :
    reread done = done.map decodeUnreserved := by
  induction done with
  | nil => rfl
  | cons s rest ih =>
    rw [List.forall_mem_cons] at h
    rw [reread_cons, settle_of_plain h.1, ih h.2, List.map_cons]

theorem decodeUnreserved_fullStop {a : List Char} (ha : a ∈ fullStops) : decodeUnreserved a = ['.'] := by
  simp only [fullStops, List.mem_cons, List.not_mem_nil, or_false] at ha
  obtain rfl | rfl | rfl := ha <;> decide

theorem isSingleDot_decodeUnreserved {s : Segment} (h : isSingleDot s = true) :
    isSingleDot (decodeUnreserved s) = true := by
  rw [decodeUnreserved_fullStop (isSingleDot_iff.mp h)]
  decide

theorem isDoubleDot_decodeUnreserved {s : Segment} (h : isDoubleDot s = true) :
    isDoubleDot (decodeUnreserved s) = true := by
  obtain ⟨a, ha, b, hb, rfl⟩ := isDoubleDot_iff.mp h
  have hspelled : ∀ a ∈ fullStops, ∀ b ∈ fullStops, isDoubleDot (decodeUnreserved (a ++ b)) = true := by decide
  exact hspelled a ha b hb

theorem isDriveLetter_decodeUnreserved {s : Segment} (h : isDriveLetter s = true) :
    isDriveLetter (decodeUnreserved s) = true := by
  rwa [decodeUnreserved_of_no_percent (percent_notMem_of_isDriveLetter h)]

theorem not_isPlainSegment_decodeUnreserved {s : Segment} (h : isPlainSegment s = false) :
    isPlainSegment (decodeUnreserved s) = false :=
  isPlainSegment_eq_false.mpr
    ((isPlainSegment_eq_false.mp h).imp isDoubleDot_decodeUnreserved isSingleDot_decodeUnreserved)

/-- Without a climb over a hidden segment, the stacks of both resolutions move on alike. -/
theorem settle_reread {done : List Segment} {s : Segment} (hdone : ∀ t ∈ done, isPlainSegment t = true)
    (h : isDoubleDot s = true → ∀ t ∈ done.head?, ¬Hides t) :
    settle (reread done) (decodeUnreserved s) = reread (settle done s) := by
  cases hplain : isPlainSegment s with
  | true => rw [settle_of_plain hplain, reread_cons]
  | false =>
    rcases isPlainSegment_eq_false.mp hplain with hdouble | hsingle
    · rw [settle_of_doubleDot hdouble, settle_of_doubleDot (isDoubleDot_decodeUnreserved hdouble)]
      cases done with
      | nil => rfl
      | cons t outer =>
        have hshown := h hdouble t rfl
        simp only [Hides, hdone t List.mem_cons_self, true_and, not_or, Bool.not_eq_false] at hshown
        rw [reread_cons, settle_of_plain hshown.1, climb, climb]
        cases hletter : isDriveLetter t with
        | true =>
          rw [if_pos (isDriveLetter_decodeUnreserved hletter), if_pos rfl, reread_cons, settle_of_plain hshown.1]
        | false => rw [if_neg fun hhidden => hshown.2 ⟨hletter, hhidden⟩, if_neg Bool.false_ne_true]
    · rw [settle_of_singleDot hsingle, settle_of_singleDot (isSingleDot_decodeUnreserved hsingle)]

/-- Without such climbs, the second resolution leads where one without the escapes leads. -/
theorem resolve_reread {done segs : List Segment} (hdone : ∀ t ∈ done, isPlainSegment t = true) (hne : segs ≠ [])
    (h : ClimbsOpenly done segs) :
    resolve [] ((resolve done segs).reverse.map decodeUnreserved) =
      resolve (reread done) (segs.map decodeUnreserved) := by
  induction segs generalizing done with
  | nil => exact absurd rfl hne
  | cons s rest ih =>
    obtain ⟨hclimb, hrest⟩ := h
    have hsettle := settle_reread hdone hclimb
    cases rest with
    | nil =>
      rw [resolve_singleton, List.map_singleton, resolve_singleton (reread done)]
      cases hplain : isPlainSegment s with
      | true =>
        rw [if_pos rfl, List.reverse_cons, List.map_append, resolve_append _ _ (by simp)]
        exact resolve_singleton (reread done) (decodeUnreserved s)
      | false =>
        rw [if_neg Bool.false_ne_true, not_isPlainSegment_decodeUnreserved hplain, if_neg Bool.false_ne_true, hsettle,
          List.reverse_cons, List.map_append, resolve_append _ _ (by simp)]
        exact resolve_singleton (reread (settle done s)) []
    | cons t more =>
      rw [resolve_cons done s (List.cons_ne_nil t more), List.map_cons,
        resolve_cons (reread done) (decodeUnreserved s) (by simp), hsettle]
      exact ih (settle_forall hdone id) (List.cons_ne_nil t more) hrest

/-- A path in which no segment climbs over one that hides what it is has the same normal form after it was read as the
path of a URL. -/
theorem settled_of_climbsOpenly {cs : List Char} (hplain : isPlain ('/' :: cs) = false)
    (hkept : ∀ c ∈ cs, isSkipped c = false) (h : ClimbsOpenly [] (segments cs)) : Settled ('/' :: cs) := by
  rw [Settled, if_neg (by simp [hplain]), parsePath_decode_parsePath hkept, parsePath_decode hkept,
    resolve_reread (List.forall_mem_nil _) (segments_ne_nil cs) h]
  rfl

/-! ## Paths without stray percent signs -/

theorem decodeUnreserved_eq_nil {cs : List Char} (h : decodeUnreserved cs = []) : cs = [] := by
  induction cs using escape_induction with
  | nil => rfl
  | char hc _ =>
    rw [decodeUnreserved_cons hc] at h
    cases h
  | @escape _ _ b _ hbyte _ =>
    cases hb : isUnreserved b with
    | true =>
      rw [decodeUnreserved_read hbyte hb] at h
      cases h
    | false =>
      rw [decodeUnreserved_kept hbyte hb] at h
      cases h
  | stray hnone _ =>
    rw [decodeUnreserved_stray hnone] at h
    cases h

/-- What stands first without the escapes stood there as it is, or was escaped. -/
theorem decodeUnreserved_eq_cons {c : Char} {cs rest : List Char} (hc : c ≠ '%')
    (h : decodeUnreserved cs = c :: rest) :
    ∃ t, decodeUnreserved t = rest ∧ (cs = c :: t ∨ ∃ high low b, cs = '%' :: high :: low :: t ∧
      Ascii.hexByte? high low = some b ∧ isUnreserved b = true ∧ Char.ofNat b.toNat = c) := by
  induction cs using escape_induction with
  | nil => cases h
  | @char d t hd _ =>
    rw [decodeUnreserved_cons hd] at h
    obtain ⟨rfl, ht⟩ := List.cons.inj h
    exact ⟨t, ht, .inl rfl⟩
  | @escape high low b t hbyte _ =>
    cases hb : isUnreserved b with
    | true =>
      rw [decodeUnreserved_read hbyte hb] at h
      obtain ⟨hchar, ht⟩ := List.cons.inj h
      exact ⟨t, ht, .inr ⟨high, low, b, rfl, hbyte, hb, hchar⟩⟩
    | false =>
      rw [decodeUnreserved_kept hbyte hb] at h
      exact absurd (List.cons.inj h).1.symm hc
  | stray hnone _ =>
    rw [decodeUnreserved_stray hnone] at h
    exact absurd (List.cons.inj h).1.symm hc

theorem mem_fullStops_of_hexByte? {h l : Char} {b : UInt8} (hbyte : Ascii.hexByte? h l = some b)
    (hb : Char.ofNat b.toNat = '.') : ['%', h, l] ∈ fullStops := by
  have hbytes : ∀ n < 256, Char.ofNat n = '.' → n = 0x2E := by decide +kernel
  have hstop := hbytes b.toNat b.toNat_lt hb
  obtain ⟨hh, hl⟩ := isHex_of_hexByte? hbyte
  obtain ⟨m, hm, hhigh⟩ := exists_of_isHex hh
  obtain ⟨n, hn, hlow⟩ := exists_of_isHex hl
  obtain ⟨rfl, rfl⟩ : m = 2 ∧ n = 14 := by
    rw [Ascii.hexByte?, hhigh, hlow] at hbyte
    rw [← Option.some.inj hbyte, UInt8.toNat_ofNat'] at hstop
    omega
  obtain rfl : h = '2' :=
    forall_of_isHex (P := fun c => Ascii.hexValue? c = some 2 → c = '2') (by decide +kernel) hh hhigh
  obtain rfl | rfl : l = 'e' ∨ l = 'E' :=
    forall_of_isHex (P := fun c => Ascii.hexValue? c = some 14 → c = 'e' ∨ c = 'E') (by decide +kernel) hl hlow
  · decide
  · decide

theorem exists_fullStop {cs rest : List Char} (h : decodeUnreserved cs = '.' :: rest) :
    ∃ a ∈ fullStops, ∃ t, cs = a ++ t ∧ decodeUnreserved t = rest := by
  obtain ⟨t, ht, rfl | ⟨high, low, b, rfl, hbyte, -, hb⟩⟩ := decodeUnreserved_eq_cons (by decide) h
  · exact ⟨['.'], by decide, t, rfl, ht⟩
  · exact ⟨['%', high, low], mem_fullStops_of_hexByte? hbyte hb, t, rfl, ht⟩

namespace Sound

variable {s : Segment}

theorem eq_of_fullStop {a rest : List Char} (h : Sound (a ++ rest)) (ha : a ∈ fullStops) : a = ['.'] := by
  have hescape : ∀ {l : Char}, Ascii.hexByte? '2' l = some 0x2E → ¬Sound ('%' :: '2' :: l :: rest) := by
    intro l hl hsound
    cases hsound with
    | char hc => exact hc rfl
    | escape hb hu =>
      obtain rfl := Option.some.inj (hl.symm.trans hb)
      exact absurd hu (by decide)
  simp only [fullStops, List.mem_cons, List.not_mem_nil, or_false] at ha
  obtain rfl | rfl | rfl := ha
  · rfl
  · exact absurd h (hescape (by decide))
  · exact absurd h (hescape (by decide))

theorem mem_fullStops (h : Sound (Http.decodeUnreserved s)) (hs : Http.decodeUnreserved s ∈ fullStops) :
    s ∈ fullStops := by
  rw [← List.append_nil (Http.decodeUnreserved s)] at h
  have hstop : Http.decodeUnreserved s = ['.'] := h.eq_of_fullStop hs
  obtain ⟨a, ha, t, rfl, ht⟩ := exists_fullStop hstop
  rwa [decodeUnreserved_eq_nil ht, List.append_nil]

/-- A dot segment is one with its escapes as well. -/
theorem isDots (h : Sound (Http.decodeUnreserved s)) (hs : IsDots (Http.decodeUnreserved s)) : IsDots s := by
  rcases hs with hs | ⟨a, ha, b, hb, heq⟩
  · exact .inl (h.mem_fullStops hs)
  · have hfirst : a = ['.'] := eq_of_fullStop (heq ▸ h) ha
    subst hfirst
    obtain ⟨a', ha', t, rfl, ht⟩ := exists_fullStop heq
    rw [heq] at h
    have hrest : Sound (Http.decodeUnreserved t) := ht ▸ h.tail (by decide)
    exact .inr ⟨a', ha', t, hrest.mem_fullStops (ht ▸ hb), rfl⟩

theorem isPlainSegment (h : Sound (Http.decodeUnreserved s)) (hs : isPlainSegment s = true) :
    isPlainSegment (Http.decodeUnreserved s) = true :=
  isPlainSegment_iff.mpr fun hdots => isPlainSegment_iff.mp hs (h.isDots hdots)

/-- What such a segment can hide is a drive letter: its letter is escaped. -/
theorem hides_iff (h : Sound (Http.decodeUnreserved s)) : Hides s ↔ ∃ high low b d, s = ['%', high, low, d] ∧
    Ascii.hexByte? high low = some b ∧ (Char.ofNat b.toNat).isAlpha = true ∧ (d = ':' ∨ d = '|') := by
  have hpercent : ∀ {d : Char}, d = ':' ∨ d = '|' → d ≠ '%' := by
    rintro d (rfl | rfl)
    · decide
    · decide
  constructor
  · rintro (⟨hplain, hdots⟩ | ⟨hs, hletter⟩)
    · rw [h.isPlainSegment hplain] at hdots
      cases hdots
    · obtain ⟨c, d, hcd, hc, hd⟩ := isDriveLetter_iff.mp hletter
      have hne : c ≠ '%' := by
        rintro rfl
        exact absurd hc (by decide)
      obtain ⟨t, ht, hfirst⟩ := decodeUnreserved_eq_cons hne hcd
      obtain ⟨u, hu, rfl | ⟨_, _, b, -, -, hb, heq⟩⟩ := decodeUnreserved_eq_cons (hpercent hd) ht
      · obtain rfl := decodeUnreserved_eq_nil hu
        rcases hfirst with rfl | ⟨high, low, b, rfl, hbyte, -, hb⟩
        · rw [isDriveLetter_iff.mpr ⟨c, d, rfl, hc, hd⟩] at hs
          cases hs
        · exact ⟨high, low, b, d, rfl, hbyte, hb ▸ hc, hd⟩
      · obtain ⟨hcolon, hbar⟩ := ne_colon_of_isUnreserved hb
        exact absurd hd (not_or.mpr ⟨heq ▸ hcolon, heq ▸ hbar⟩)
  · rintro ⟨high, low, b, d, rfl, hbyte, hc, hd⟩
    have hb : isUnreserved b = true := by simp [isUnreserved, Char.isAlphanum, hc]
    refine .inr ⟨rfl, isDriveLetter_iff.mpr ⟨Char.ofNat b.toNat, d, ?_, hc, hd⟩⟩
    rw [decodeUnreserved_read hbyte hb, decodeUnreserved_cons (hpercent hd)]
    rfl

end Sound

theorem sound_segments {cs : List Char} (h : ¬HasStray cs) : ∀ s ∈ segments cs, Sound (decodeUnreserved s) := by
  intro s hs
  have hmem : decodeUnreserved s ∈ segments (decodeUnreserved cs) := by
    rw [segments_decodeUnreserved]
    exact List.mem_map_of_mem hs
  obtain ⟨raw, hraw, heq⟩ := List.mem_map.mp hmem
  rw [← heq]
  exact ((sound_decodeUnreserved h).splitOnP raw hraw).percentEncode

/-- The stack of the second resolution is ahead of that of the first one: it has a drive letter that no climb removes
on top of no less than what the first one has below the segments that came since. -/
def Ahead (stack done : List Segment) : Prop :=
  ∃ above below letter base, done = above ++ below ∧ stack = above.map decodeUnreserved ++ letter :: base ∧
    isDriveLetter letter = true ∧ below.length ≤ base.length

theorem climb_length_le (done : List Segment) : (climb done).length ≤ done.length := by
  cases done with
  | nil => exact Nat.le_refl _
  | cons s outer =>
    rw [climb]
    split
    · exact Nat.le_refl _
    · exact Nat.le_succ _

namespace Ahead

variable {stack done : List Segment}

theorem length_lt (h : Ahead stack done) : done.length < stack.length := by
  obtain ⟨above, below, letter, base, rfl, rfl, -, hle⟩ := h
  simp only [List.length_append, List.length_map, List.length_cons]
  omega

theorem climb (h : Ahead stack done) : Ahead (climb stack) (climb done) := by
  obtain ⟨above, below, letter, base, rfl, rfl, hletter, hle⟩ := h
  cases above with
  | nil =>
    have hbelow := climb_length_le below
    refine ⟨[], Url.climb below, letter, base, rfl, ?_, hletter, by omega⟩
    rw [List.map_nil, List.nil_append, Url.climb, if_pos hletter]
  | cons t above =>
    rw [List.map_cons, List.cons_append, List.cons_append, Url.climb, Url.climb]
    cases ht : isDriveLetter t with
    | true =>
      rw [if_pos (isDriveLetter_decodeUnreserved ht), if_pos rfl]
      exact ⟨t :: above, below, letter, base, rfl, rfl, hletter, hle⟩
    | false =>
      rw [if_neg Bool.false_ne_true]
      cases hhidden : isDriveLetter (decodeUnreserved t) with
      | true =>
        -- another hidden drive letter goes, and is now the one that stays
        rw [if_pos rfl]
        refine ⟨[], above ++ below, decodeUnreserved t, _, rfl, rfl, hhidden, ?_⟩
        simp only [List.length_append, List.length_map, List.length_cons]
        omega
      | false =>
        rw [if_neg Bool.false_ne_true]
        exact ⟨above, below, letter, base, rfl, rfl, hletter, hle⟩

variable {s : Segment}

theorem settle (h : Ahead stack done) (hs : isPlainSegment s = true → isPlainSegment (decodeUnreserved s) = true) :
    Ahead (settle stack (decodeUnreserved s)) (settle done s) := by
  cases hplain : isPlainSegment s with
  | true =>
    rw [settle_of_plain hplain, settle_of_plain (hs hplain)]
    obtain ⟨above, below, letter, base, rfl, rfl, hletter, hle⟩ := h
    exact ⟨s :: above, below, letter, base, rfl, rfl, hletter, hle⟩
  | false =>
    rcases isPlainSegment_eq_false.mp hplain with hdouble | hsingle
    · rw [settle_of_doubleDot hdouble, settle_of_doubleDot (isDoubleDot_decodeUnreserved hdouble)]
      exact h.climb
    · rwa [settle_of_singleDot hsingle, settle_of_singleDot (isSingleDot_decodeUnreserved hsingle)]

theorem length_resolve_lt {rest : List Segment}
    (h : Ahead (Url.settle stack (decodeUnreserved s)) (Url.settle done s))
    (hplain : ∀ t ∈ s :: rest, isPlainSegment t = true → isPlainSegment (decodeUnreserved t) = true) :
    (resolve done (s :: rest)).length < (resolve stack ((s :: rest).map decodeUnreserved)).length := by
  induction rest generalizing stack done s with
  | nil =>
    have hlt := h.length_lt
    rw [resolve_singleton, List.map_singleton, resolve_singleton]
    cases hs : isPlainSegment s with
    | true =>
      have hs' := hplain s List.mem_cons_self hs
      rw [settle_of_plain hs, settle_of_plain hs'] at hlt
      rwa [if_pos rfl, hs', if_pos rfl]
    | false =>
      rw [if_neg Bool.false_ne_true, not_isPlainSegment_decodeUnreserved hs, if_neg Bool.false_ne_true]
      exact Nat.succ_lt_succ hlt
  | cons t more ih =>
    rw [resolve_cons done s (List.cons_ne_nil t more), List.map_cons, resolve_cons stack _ (by simp)]
    exact ih (h.settle (hplain t (by simp))) fun u hu => hplain u (.tail _ hu)

end Ahead

section
variable {segs : List Segment}
    (hplain : ∀ s ∈ segs, isPlainSegment s = true → isPlainSegment (decodeUnreserved s) = true)
include hplain

/-- A climb over a hidden drive letter takes from the first resolution what stays in one without the escapes. -/
theorem length_lt_of_not_climbsOpenly {done : List Segment}
    (hdone : ∀ t ∈ done, isPlainSegment t = true ∧ isPlainSegment (decodeUnreserved t) = true)
    (h : ¬ClimbsOpenly done segs) :
    (resolve done segs).length < (resolve (reread done) (segs.map decodeUnreserved)).length := by
  induction segs generalizing done with
  | nil => exact absurd trivial h
  | cons s rest ih =>
    by_cases hclimb : isDoubleDot s = true → ∀ t ∈ done.head?, ¬Hides t
    · have hrest : ¬ClimbsOpenly (settle done s) rest := fun hrest => h ⟨hclimb, hrest⟩
      have hne : rest ≠ [] := by
        rintro rfl
        exact hrest trivial
      rw [resolve_cons done s hne, List.map_cons, resolve_cons (reread done) _ (by simpa using hne),
        settle_reread (fun t ht => (hdone t ht).1) hclimb]
      exact ih (fun t ht => hplain t (.tail _ ht))
        (settle_forall hdone fun hs => ⟨hs, hplain s List.mem_cons_self hs⟩) hrest
    · obtain ⟨hdouble, hhides⟩ := Classical.not_imp.mp hclimb
      cases done with
      | nil => exact absurd nofun hhides
      | cons t outer =>
        obtain ⟨⟨ht, hdecoded⟩, houter⟩ := List.forall_mem_cons.mp hdone
        have hhidden : isDriveLetter t = false ∧ isDriveLetter (decodeUnreserved t) = true := by
          simpa [Hides, ht, hdecoded] using hhides
        refine Ahead.length_resolve_lt ?_ hplain
        rw [settle_of_doubleDot hdouble, settle_of_doubleDot (isDoubleDot_decodeUnreserved hdouble), reread_cons,
          settle_of_plain hdecoded, reread_of_plain fun u hu => (houter u hu).2, climb, climb, if_pos hhidden.2,
          hhidden.1, if_neg Bool.false_ne_true]
        exact ⟨[], outer, decodeUnreserved t, outer.map decodeUnreserved, rfl, rfl, hhidden.2, by simp⟩

/-- What the first resolution leaves stays in the second one, but without its escapes. -/
theorem length_resolve_decoded :
    (resolve [] ((resolve [] segs).reverse.map decodeUnreserved)).length = (resolve [] segs).length := by
  have hleft : ∀ s ∈ resolve [] segs, isPlainSegment (decodeUnreserved s) = true :=
    resolve_forall (by decide) (List.forall_mem_nil _) hplain
  have hdecoded : ∀ s ∈ (resolve [] segs).reverse.map decodeUnreserved, isPlainSegment s = true := by
    intro s hs
    obtain ⟨t, ht, rfl⟩ := List.mem_map.mp hs
    exact hleft t (List.mem_reverse.mp ht)
  rw [resolve_of_plain hdecoded]
  simp

end

theorem count_slash_joinSegments {ss : List Segment} (h : ∀ s ∈ ss, ∀ c ∈ s, isSafe c = true) :
    (joinSegments ss).count '/' = ss.length := by
  induction ss with
  | nil => rfl
  | cons s rest ih =>
    rw [List.forall_mem_cons] at h
    have hslash : '/' ∉ s := fun hs => absurd (h.1 '/' hs) (by decide)
    rw [joinSegments_cons, List.count_cons_self, List.count_append, List.count_eq_zero.mpr hslash, ih h.2, Nat.zero_add,
      List.length_cons]

/-- Where every percent sign begins an escape, the paths with the same normal form after they were read as the paths of
URLs are those in which no segment climbs over a hidden drive letter. -/
theorem settled_iff_climbsOpenly {cs : List Char} (hplain : isPlain ('/' :: cs) = false)
    (hkept : ∀ c ∈ cs, isSkipped c = false) (hstray : ¬HasStray ('/' :: cs)) :
    Settled ('/' :: cs) ↔ ClimbsOpenly [] (segments cs) := by
  refine ⟨fun h => ?_, settled_of_climbsOpenly hplain hkept⟩
  by_contra hclimbs
  have hsound := sound_segments fun hs => hstray (hs.cons '/')
  have hshown : ∀ s ∈ segments cs, isPlainSegment s = true → isPlainSegment (decodeUnreserved s) = true :=
    fun s hs => (hsound s hs).isPlainSegment
  have hlt := length_lt_of_not_climbsOpenly hshown (List.forall_mem_nil _) hclimbs
  have hlength := length_resolve_decoded hshown
  have hsafe : ∀ {ss : List Segment}, (∀ s ∈ ss, ∀ c ∈ s, isSafe c = true) →
      ∀ s ∈ (resolve [] (ss.map decodeUnreserved)).reverse, ∀ c ∈ s, isSafe c = true := by
    intro ss hss s hs
    refine resolve_forall (P := fun s => ∀ c ∈ s, isSafe c = true) nofun (List.forall_mem_nil _) (fun t ht _ => ?_) s
      (List.mem_reverse.mp hs)
    obtain ⟨u, hu, rfl⟩ := List.mem_map.mp ht
    exact isSafe_decodeUnreserved (hss u hu)
  -- one slash stands before each segment, so that paths of one text have equally many
  rw [Settled, if_neg (by simp [hplain]), parsePath_decode_parsePath hkept, parsePath_decode hkept] at h
  have hcount := congrArg (List.count '/') h
  rw [count_slash_joinSegments (hsafe fun s hs => (clean_of_mem_resolve s (List.mem_reverse.mp hs)).safe),
    count_slash_joinSegments (hsafe fun s hs => isSafe_of_mem_segments hs), List.length_reverse,
    List.length_reverse] at hcount
  have hstack : reread [] = [] := rfl
  rw [hstack] at hlt
  omega

-- the first resolution drops what turns out to be a drive letter, which no climb removes
example : ¬Settled "/%43:/../x".toList := by
  decide

end Portcullis.Http

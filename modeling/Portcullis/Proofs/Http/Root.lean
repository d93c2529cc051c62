import Portcullis.Proofs.Http.Normal
import Portcullis.Proofs.Url.Nested
import Portcullis.Url.Parse

/-!
# Paths with the root as their normal form

An escaped blank stays in every normal form, so that no path with one behind it is a spelling of the root.
-/

namespace Portcullis.Http
open Url

theorem plainDots_append {c : Char} (h2 : c ≠ '2') (he : c ≠ 'e') (hE : c ≠ 'E') (cs rest : List Char) :
    plainDots (cs ++ c :: rest) = plainDots cs ++ plainDots (c :: rest) := by
  fun_induction plainDots cs with
  | case1 tail ih => simp [plainDots, ih]
  | case2 tail ih => simp [plainDots, ih]
  | case3 d tail hsmall hlarge ih =>
    rw [List.cons_append, plainDots, ih]
    · rfl
    · rintro more hd heq
      obtain _ | ⟨x, _ | ⟨y, tail⟩⟩ := tail
      · exact h2 (List.cons.inj heq).1
      · exact he (List.cons.inj (List.cons.inj heq).2).1
      · simp only [List.cons_append, List.cons.injEq] at heq
        exact hsmall tail hd (by rw [heq.1, heq.2.1])
    · rintro more hd heq
      obtain _ | ⟨x, _ | ⟨y, tail⟩⟩ := tail
      · exact h2 (List.cons.inj heq).1
      · exact hE (List.cons.inj (List.cons.inj heq).2).1
      · simp only [List.cons_append, List.cons.injEq] at heq
        exact hlarge tail hd (by rw [heq.1, heq.2.1])
  | case4 => rfl

/-! ## Escaped blanks -/

theorem plainDots_escape {b : UInt8} (h : b.toNat ≤ 0x20) : plainDots (escape b) = escape b := by
  have hall : ∀ n ≤ 0x20, plainDots (escape (UInt8.ofNat n)) = escape (UInt8.ofNat n) := by decide
  simpa using hall b.toNat h

theorem decodeUnreserved_escape {b : UInt8} (h : b.toNat ≤ 0x20) :
    decodeUnreserved (escape b ++ ['/']) = escape b ++ ['/'] := by
  have hall : ∀ n ≤ 0x20, decodeUnreserved (escape (UInt8.ofNat n) ++ ['/']) = escape (UInt8.ofNat n) ++ ['/'] := by
    decide +kernel
  simpa using hall b.toNat h

theorem percentEncode_blank {c : Char} (h : Parse.isEdge c = true) :
    percentEncode pathSet [c] = escape (UInt8.ofNat c.toNat) := by
  have hall : ∀ n ≤ 0x20, percentEncode pathSet [Char.ofNat n] = escape (UInt8.ofNat n) := by decide +kernel
  simpa using hall c.toNat (by simpa [Parse.isEdge] using h)

theorem byte_of_blank {c : Char} (h : Parse.isEdge c = true) : (UInt8.ofNat c.toNat).toNat ≤ 0x20 := by
  have hedge : c.toNat ≤ 0x20 := by simpa [Parse.isEdge] using h
  rw [UInt8.toNat_ofNat']
  omega

theorem percent_mem_escape (b : UInt8) : '%' ∈ escape b :=
  List.mem_cons_self

theorem isPlainSegment_escape {b : UInt8} (h : b.toNat ≤ 0x20) (cs : List Char) :
    isPlainSegment (cs ++ escape b) = true := by
  have happend := plainDots_append (c := '%') (by decide) (by decide) (by decide) cs (escape b).tail
  have hmem : '%' ∈ plainDots (cs ++ escape b) := by
    rw [show escape b = '%' :: (escape b).tail from rfl, happend]
    rw [show '%' :: (escape b).tail = escape b from rfl, plainDots_escape h]
    exact List.mem_append_right _ (percent_mem_escape b)
  have h1 : plainDots (cs ++ escape b) ≠ ['.'] := fun heq => by rw [heq] at hmem; exact absurd hmem (by decide)
  have h2 : plainDots (cs ++ escape b) ≠ ['.', '.'] := fun heq => by rw [heq] at hmem; exact absurd hmem (by decide)
  simp [isPlainSegment, isSingleDot, isDoubleDot, h1, h2]

theorem body_append (cs : List Char) {rest : List Char} (hne : rest ≠ []) (hhead : ∀ c ∈ rest.head?, isSlash c = false)
    (h : ∀ c ∈ rest, isSkipped c = false) : ∃ front, body (cs ++ rest) = front ++ rest := by
  unfold body
  rw [List.filter_append, filter_skipped h]
  cases cs.filter (!isSkipped ·) with
  | nil =>
    obtain ⟨c, more, rfl⟩ := List.exists_cons_of_ne_nil hne
    refine ⟨[], ?_⟩
    simp only [List.nil_append, hhead c rfl, Bool.false_eq_true, if_false]
  | cons c front =>
    rw [List.cons_append]
    dsimp only
    split
    · exact ⟨front, rfl⟩
    · exact ⟨c :: front, rfl⟩

theorem escape_mem_parsePath {b : UInt8} (h : b.toNat ≤ 0x20) (cs : List Char) :
    '%' ∈ parsePath (cs ++ (escape b ++ ['/'])) := by
  have hsafe := fun c (hc : c ∈ escape b) => isSafe_iff.mp (isSafe_escape b hc)
  have hskip : ∀ c ∈ escape b ++ ['/'], isSkipped c = false := by
    intro c hc
    obtain hc | hc := List.mem_append.mp hc
    · exact not_skipped_of_pathSet (hsafe c hc).2
    · obtain rfl := List.mem_singleton.mp hc
      decide
  obtain ⟨front, hbody⟩ := body_append cs
    (List.append_ne_nil_of_right_ne_nil _ (List.cons_ne_nil _ _)) (by simp [escape]; decide) hskip
  obtain ⟨init, last, -, hlast⟩ := segments_snoc front
  have hseg : segments (front ++ (escape b ++ ['/'])) = init ++ [last ++ escape b] ++ [[]] := by
    rw [← List.append_assoc, segments_append _ [] (by decide), hlast _ fun c hc => (hsafe c hc).1,
      percentEncode_of_safe fun c hc => (hsafe c hc).2]
    rfl
  have hresolve : resolve [] (init ++ [last ++ escape b] ++ [[]]) =
      [] :: (last ++ escape b) :: init.foldl settle [] := by
    rw [resolve_append _ _ (List.cons_ne_nil _ _), List.foldl_append, List.foldl_cons, List.foldl_nil,
      settle_of_plain (isPlainSegment_escape h last)]
    rfl
  rw [parsePath_eq, hbody, hseg, hresolve]
  refine List.mem_flatMap.mpr ⟨last ++ escape b, by simp, ?_⟩
  exact List.mem_cons_of_mem _ (List.mem_append_right _ (percent_mem_escape b))

/-- An escaped blank before the slash at the end of a path is still there in the normal form. -/
theorem percent_mem_normalize {b : UInt8} (h : b.toNat ≤ 0x20) (cs : List Char) :
    '%' ∈ normalize (cs ++ (escape b ++ ['/'])) := by
  have hplain : ¬isPlain (cs ++ (escape b ++ ['/'])) = true := fun hp =>
    (isPlain_iff.mp hp).1 (List.mem_append_right _ (List.mem_append_left _ (percent_mem_escape b)))
  have hdecode : decodeUnreserved (cs ++ (escape b ++ ['/'])) = decodeUnreserved cs ++ (escape b ++ ['/']) := by
    rw [show escape b ++ ['/'] = '%' :: ((escape b).tail ++ ['/']) from rfl, decodeUnreserved_append (by decide)]
    rw [show '%' :: ((escape b).tail ++ ['/']) = escape b ++ ['/'] from rfl, decodeUnreserved_escape h]
  rw [normalize, if_neg hplain, hdecode]
  exact escape_mem_parsePath h _

/-! ## The root -/

theorem normalize_replicate (n : Nat) : normalize (List.replicate n '/') = List.replicate n '/' := by
  refine normalize_of_isPlain (isPlain_iff.mpr ⟨?_, fun s hs => ?_⟩)
  · intro h
    exact absurd (List.eq_of_mem_replicate h) (by decide)
  · have hdot : '.' ∉ s := fun hc =>
      absurd (List.eq_of_mem_replicate (mem_of_mem_splitOnP hs '.' hc).1) (by decide)
    constructor <;> rintro rfl <;> simp at hdot

theorem eq_slash_of_drop {b : UInt8} (h : b.toNat ≤ 0x20) {n : Nat} (hn : n ≤ 4)
    (hroot : normalize ((escape b ++ ['/']).drop n) = ['/']) : (escape b ++ ['/']).drop n = ['/'] := by
  have hall : ∀ b ≤ 0x20, ∀ n ≤ 4, normalize ((escape (UInt8.ofNat b) ++ ['/']).drop n) = ['/'] →
      (escape (UInt8.ofNat b) ++ ['/']).drop n = ['/'] := by
    decide +kernel
  have hb : UInt8.ofNat b.toNat = b := UInt8.ofNat_toNat
  have hthis := hall b.toNat h n hn
  rw [hb] at hthis
  exact hthis hroot

/-- Of the ends of a path that has an escaped blank before its last slash, only that slash is a spelling of the
root. -/
theorem eq_slash_of_blank {b : UInt8} (h : b.toNat ≤ 0x20) {cs front tail : List Char}
    (heq : cs ++ (escape b ++ ['/']) = front ++ tail) (htail : normalize tail = ['/']) : tail = ['/'] := by
  obtain ⟨more, -, hmore⟩ | ⟨more, hcs, rfl⟩ := List.append_eq_append_iff.mp heq
  -- the tail begins in the escape or at the slash
  · have hdrop : tail = (escape b ++ ['/']).drop more.length := by rw [hmore, List.drop_left]
    have hlength : more.length ≤ 4 := by
      have hcount := congrArg List.length hmore
      simp only [escape, List.length_append, List.length_cons, List.length_nil] at hcount
      omega
    rw [hdrop] at htail ⊢
    exact eq_slash_of_drop h hlength htail
  -- the whole escape is in the tail, and the root has no percent sign
  · have hmem := percent_mem_normalize h more
    rw [htail] at hmem
    exact absurd hmem (by decide)

theorem parsePath_blank {path blanks : List Char} {c : Char} (hne : path ≠ [])
    (hpath : ∀ c ∈ path.head?, isSlash c = true) (hskip : ∀ c ∈ path, isSkipped c = false)
    (hblanks : ∀ d ∈ blanks ++ [c], Parse.isEdge d = true ∧ isSkipped d = false) :
    ∃ cs, parsePath (path ++ (blanks ++ [c] ++ ['/'])) = cs ++ (escape (UInt8.ofNat c.toNat) ++ ['/']) := by
  obtain ⟨slash, rest, rfl⟩ := List.exists_cons_of_ne_nil hne
  have hall : ∀ d ∈ slash :: rest ++ (blanks ++ [c]), isSkipped d = false := fun d hd =>
    (List.mem_append.mp hd).elim (hskip d) fun h => (hblanks d h).2
  have hedge := (hblanks c (List.mem_append_right _ List.mem_cons_self)).1
  have hnoslash : ∀ d ∈ blanks ++ [c], isSlash d = false := by
    intro d hd
    have hd' := (hblanks d hd).1
    simp only [Parse.isEdge, decide_eq_true_eq] at hd'
    cases hs : isSlash d with
    | false => rfl
    | true =>
      simp only [isSlash, Bool.or_eq_true, beq_iff_eq] at hs
      obtain rfl | rfl := hs <;> exact absurd hd' (by decide)
  obtain ⟨init, last, -, hlast⟩ := segments_snoc rest
  have hstack : stack (slash :: rest ++ (blanks ++ [c])) =
      (last ++ percentEncode pathSet blanks ++ escape (UInt8.ofNat c.toNat)) :: init.foldl settle [] := by
    rw [List.cons_append, stack, hlast _ hnoslash, List.foldl_append, List.foldl_cons, List.foldl_nil,
      percentEncode_append, percentEncode_blank hedge, ← List.append_assoc,
      settle_of_plain (isPlainSegment_escape (byte_of_blank hedge) _)]
  refine ⟨joinSegments (init.foldl settle []).reverse ++ '/' :: (last ++ percentEncode pathSet blanks), ?_⟩
  rw [← List.append_assoc, parsePath_slash (by simpa using hpath) hall, hstack, List.reverse_cons,
    joinSegments_append]
  simp [joinSegments]

/-- What is left of the form of a backend's root behind the backend's own path is the root itself, or no spelling
of it. -/
theorem eq_slash_of_root {path blanks tail : List Char} {n : Nat} (hpath : ∀ c ∈ path.head?, isSlash c = true)
    (hskip : ∀ c ∈ path, isSkipped c = false)
    (hblanks : ∀ c ∈ blanks, Parse.isEdge c = true ∧ isSkipped c = false) (hone : n = 0 ∨ blanks = [])
    (hnil : path = [] → blanks = [])
    (heq : parsePath (path ++ (blanks ++ ['/'])) =
      Text.dropEndWhile (· == '/') (parsePath (path ++ List.replicate n '/')) ++ tail)
    (htail : normalize tail = ['/']) : tail = ['/'] := by
  cases hlast : blanks.getLast? with
  | none =>
    obtain rfl := List.getLast?_eq_none_iff.mp hlast
    obtain ⟨m, hm⟩ := parsePath_slashes hpath hskip n
    obtain ⟨gone, hgone, hslashes⟩ := Text.dropEndWhile_append (· == '/') (joinSegments (stack path).reverse)
    obtain ⟨k, rfl⟩ : ∃ k, gone = List.replicate k '/' :=
      ⟨gone.length, List.eq_replicate_iff.mpr ⟨rfl, fun c hc => by simpa using hslashes c hc⟩⟩
    rw [List.nil_append, parsePath_slash hpath hskip, hm, Text.dropEndWhile_append_of_forall (by simp), hgone,
      List.append_assoc, ← hgone] at heq
    have htail' := List.append_cancel_left heq
    rw [← List.replicate_succ'] at htail'
    rw [← htail', normalize_replicate] at htail
    rw [← htail', htail]
  | some c =>
    obtain ⟨init, rfl⟩ := List.getLast?_eq_some_iff.mp hlast
    have hne : path ≠ [] := fun h => absurd (hnil h) (List.append_ne_nil_of_right_ne_nil _ (List.cons_ne_nil c []))
    obtain rfl : n = 0 := hone.resolve_right (List.append_ne_nil_of_right_ne_nil _ (List.cons_ne_nil c []))
    obtain ⟨cs, hcs⟩ := parsePath_blank hne hpath hskip hblanks
    have hedge := (hblanks c (List.mem_append_right _ List.mem_cons_self)).1
    exact eq_slash_of_blank (byte_of_blank hedge) (hcs ▸ heq) htail

end Portcullis.Http

import Portcullis.Proofs.Text.Blank
import Portcullis.Proofs.Url.Written

/-!
# Paths behind paths

A path that stays inside of itself comes out behind another path as it comes out alone.
-/

namespace Portcullis.Url

/-- The finished segments of a path that more is written behind, innermost first. -/
def stack : List Char → List Segment
  | [] => []
  | _ :: cs => (segments cs).foldl settle []

variable {path : List Char}

theorem body_cons {c : Char} {cs : List Char} (hc : isSlash c = true) (h : ∀ d ∈ c :: cs, isSkipped d = false) :
    body (c :: cs) = cs := by
  unfold body
  rw [filter_skipped h]
  exact if_pos hc

theorem parsePath_alone {cs : List Char} (h : ∀ c ∈ '/' :: cs, isSkipped c = false) :
    parsePath ('/' :: cs) = joinSegments (resolve [] (segments cs)).reverse := by
  rw [parsePath_eq, body_cons (by decide) h]

theorem parsePath_behind (hpath : ∀ c ∈ path.head?, isSlash c = true) {cs : List Char}
    (h : ∀ c ∈ path ++ '/' :: cs, isSkipped c = false) :
    parsePath (path ++ '/' :: cs) = joinSegments (resolve (stack path) (segments cs)).reverse := by
  cases path with
  | nil => exact parsePath_alone h
  | cons c rest =>
    rw [List.cons_append] at h ⊢
    rw [parsePath_eq, body_cons (hpath c rfl) h, segments_append rest cs (by decide),
      resolve_append [] _ (segments_ne_nil cs)]
    rfl

theorem parsePath_slash (hpath : ∀ c ∈ path.head?, isSlash c = true) (h : ∀ c ∈ path, isSkipped c = false) :
    parsePath (path ++ ['/']) = joinSegments (stack path).reverse ++ ['/'] := by
  have hskip : ∀ c ∈ path ++ ['/'], isSkipped c = false := by
    intro c hc
    obtain hc | hc := List.mem_append.mp hc
    · exact h c hc
    · obtain rfl := List.mem_singleton.mp hc
      decide
  have hplain : resolve (stack path) (segments []) = [] :: stack path := rfl
  rw [parsePath_behind hpath hskip, hplain, List.reverse_cons, joinSegments_append]
  rfl

theorem parsePath_append (hpath : ∀ c ∈ path.head?, isSlash c = true) {cs : List Char}
    (h : ∀ c ∈ path ++ '/' :: cs, isSkipped c = false) (hin : Inside [] (segments cs)) :
    parsePath (path ++ '/' :: cs) = joinSegments (stack path).reverse ++ parsePath ('/' :: cs) := by
  have hresolve := resolve_of_inside hin (stack path)
  rw [List.nil_append] at hresolve
  rw [parsePath_behind hpath h, parsePath_alone fun c hc => h c (List.mem_append_right _ hc), hresolve,
    List.reverse_append, joinSegments_append]

/-! ## The last segment -/

theorem segments_snoc (cs : List Char) : ∃ init last, segments cs = init ++ [last] ∧
    ∀ more : List Char, (∀ c ∈ more, isSlash c = false) →
      segments (cs ++ more) = init ++ [last ++ percentEncode pathSet more] := by
  obtain ⟨last, hcs, hlast⟩ := Text.dropEndWhile_append (!isSlash ·) cs
  have hno : ∀ more : List Char, (∀ c ∈ more, isSlash c = false) → ∀ c ∈ last ++ more, isSlash c = false := by
    intro more hmore c hc
    obtain hc | hc := List.mem_append.mp hc
    · simpa using hlast c hc
    · exact hmore c hc
  obtain hnil | ⟨front, c, hfront, hc⟩ := Text.dropEndWhile_eq_nil_or (!isSlash ·) cs
  · rw [hnil, List.nil_append] at hcs
    subst hcs
    refine ⟨[], percentEncode pathSet cs, ?_, fun more hmore => ?_⟩
    · exact segments_of_no_slash fun c hc => hno [] (by simp) c (by simpa using hc)
    · rw [segments_of_no_slash (hno more hmore), percentEncode_append]
      rfl
  · have hslash : isSlash c = true := by simpa using hc
    rw [hfront, List.append_assoc, List.singleton_append] at hcs
    subst hcs
    refine ⟨segments front, percentEncode pathSet last, ?_, fun more hmore => ?_⟩
    · have hsegment : segments last = [percentEncode pathSet last] :=
        segments_of_no_slash fun c hc => hno [] (by simp) c (by simpa using hc)
      rw [segments_append front last hslash, hsegment]
    · rw [List.append_assoc, List.cons_append, segments_append front _ hslash,
        segments_of_no_slash (hno more hmore), percentEncode_append]

theorem segments_replicate (n : Nat) : segments (List.replicate n '/') = List.replicate (n + 1) [] := by
  induction n with
  | zero => rfl
  | succ n ih =>
    have happend := segments_append [] (List.replicate n '/') (c := '/') (by decide)
    rw [List.nil_append] at happend
    rw [List.replicate_succ, happend, ih]
    rfl

theorem joinSegments_replicate (n : Nat) : joinSegments (List.replicate n []) = List.replicate n '/' := by
  induction n with
  | zero => rfl
  | succ n ih => rw [List.replicate_succ, joinSegments_cons, List.nil_append, ih]; rfl

/-- Slashes at the end of a path, or the lack of one, do not change what is on the stack. -/
theorem parsePath_slashes (hpath : ∀ c ∈ path.head?, isSlash c = true) (h : ∀ c ∈ path, isSkipped c = false)
    (n : Nat) : ∃ m, parsePath (path ++ List.replicate n '/') =
      joinSegments (stack path).reverse ++ List.replicate m '/' := by
  cases n with
  | zero =>
    rw [List.replicate_zero, List.append_nil]
    cases path with
    | nil => exact ⟨1, rfl⟩
    | cons c rest =>
      obtain ⟨init, last, hsplit, -⟩ := segments_snoc rest
      rw [parsePath_eq, body_cons (hpath c rfl) h, stack, hsplit, resolve_append [] init (List.cons_ne_nil last []),
        List.foldl_append, List.foldl_cons, List.foldl_nil, resolve_singleton]
      split
      · exact ⟨0, by rw [settle_of_plain ‹_›, List.replicate_zero, List.append_nil]⟩
      · exact ⟨1, by rw [List.reverse_cons, joinSegments_append]; rfl⟩
  | succ n =>
    have hskip : ∀ c ∈ path ++ '/' :: List.replicate n '/', isSkipped c = false := by
      intro c hc
      obtain hc | hc := List.mem_append.mp hc
      · exact h c hc
      · rw [List.eq_of_mem_replicate (by simpa [List.replicate_succ] using hc : c ∈ List.replicate (n + 1) '/')]
        decide
    refine ⟨n + 1, ?_⟩
    rw [List.replicate_succ, parsePath_behind hpath hskip, segments_replicate,
      resolve_of_plain (fun s hs => by rw [List.eq_of_mem_replicate hs]; decide), List.reverse_append,
      List.reverse_reverse, joinSegments_append, joinSegments_replicate]
    rfl

end Portcullis.Url

import Portcullis.Proofs.Text.Blank
import Portcullis.Proofs.Url.Cut

/-!
# Writing behind an address

What is written behind an address of the web goes to its path and query, behind what it has there already.
-/

namespace Portcullis.Url
open Parse

theorem Cut.Reads.withBehind {d : Cut} {v : Web} (h : d.Reads v) (behind : List Char)
    (hb : ∀ c ∈ behind.head?, endsAuthority true c = true) :
    Cut.Reads { d with behind := behind }
      { v with path := (pathAndQuery behind).1, query := (pathAndQuery behind).2 } where
  letter := h.letter
  scheme := h.scheme
  slashes := h.slashes
  nonempty := h.nonempty
  authority := h.authority
  behind := hb
  isWeb := h.isWeb
  name := h.name
  server := h.server
  path := rfl
  query := rfl

theorem Cut.Valid.not_slash_of_front {d : Cut} (h : d.Valid) {c : Char} (hc : d.front.getLast? = some c) : c ≠ '/' := by
  have hlast : d.authority.getLast? = some c := by
    obtain ⟨init, a, ha⟩ := List.eq_nil_or_concat d.authority |>.resolve_left h.nonempty
    simpa [Cut.front, ha, List.getLast?_append, List.getLast?_cons] using hc
  rintro rfl
  exact absurd (h.authority '/' (List.mem_of_getLast? hlast)) (by decide)

/-- Slashes at the end of an address are behind its authority. -/
theorem Cut.Valid.behind_of_slashes {d : Cut} (h : d.Valid) {cs : List Char} {n : Nat}
    (hd : d.chars = cs ++ List.replicate n '/') :
    ∃ X, d.behind = X ++ List.replicate n '/' ∧ cs = d.front ++ X := by
  obtain ⟨X, hcs, hX⟩ | ⟨c', hfront, hslashes⟩ := List.append_eq_append_iff.mp hd
  · exact ⟨X, hX, hcs⟩
  · cases hlast : c'.getLast? with
    | none =>
      obtain rfl := List.getLast?_eq_none_iff.mp hlast
      exact ⟨[], hslashes.symm, by rw [hfront, List.append_nil, List.append_nil]⟩
    | some c =>
      have hslash : c = '/' :=
        List.eq_of_mem_replicate (hslashes ▸ List.mem_append_left _ (List.mem_of_getLast? hlast))
      refine absurd hslash (h.not_slash_of_front ?_)
      rw [hfront, List.getLast?_append, hlast, Option.some_or]

/-- The address without what does not count, up to its end. -/
def lead (cs : List Char) : List Char :=
  (cs.dropWhile isEdge).filter (!isSkipped ·)

theorem isEdge_of_isSkipped {c : Char} (h : isSkipped c = true) : isEdge c = true := by
  simp only [isSkipped, Bool.or_eq_true, beq_iff_eq] at h
  obtain (rfl | rfl) | rfl := h <;> decide

theorem not_skipped_of_not_edge {c : Char} (h : isEdge c = false) : isSkipped c = false := by
  cases hs : isSkipped c with
  | false => rfl
  | true => exact absurd (isEdge_of_isSkipped hs) (by simp [h])

/-- All of what is written behind an address counts if it holds neither blanks nor controls. -/
theorem clean_append (cs : List Char) {more : List Char} (hne : more ≠ []) (h : ∀ c ∈ more, isEdge c = false) :
    clean (cs ++ more) = lead cs ++ more := by
  have hdrop : (cs ++ more).dropWhile isEdge = cs.dropWhile isEdge ++ more := by
    rw [List.dropWhile_append]
    split
    · rename_i hnil
      rw [List.isEmpty_iff.mp hnil, List.nil_append]
      obtain ⟨c, rest, rfl⟩ := List.exists_cons_of_ne_nil hne
      rw [List.dropWhile_cons_of_neg (by simp [h c List.mem_cons_self])]
    · rfl
  rw [clean, hdrop, Text.dropEndWhile_append_right _ hne h, List.filter_append,
    filter_skipped fun c hc => not_skipped_of_not_edge (h c hc)]
  rfl

theorem no_edge_slashes (n : Nat) : ∀ c ∈ List.replicate n '/', isEdge c = false := by
  intro c hc
  rw [List.eq_of_mem_replicate hc]
  decide

theorem no_edge_slash : ∀ c ∈ ['/'], isEdge c = false :=
  no_edge_slashes 1

theorem parse?_append (cs : List Char) {more : List Char} (hne : more ≠ []) (h : ∀ c ∈ more, isEdge c = false) :
    parse? (String.ofList (cs ++ more)) = read (lead cs ++ more) := by
  rw [parse?_eq, String.toList_ofList, clean_append cs hne h]

theorem mem_of_mem_lead {cs : List Char} {c : Char} (h : c ∈ lead cs) : c ∈ cs ∧ isSkipped c = false := by
  obtain ⟨hmem, hskip⟩ := List.mem_filter.mp h
  exact ⟨List.dropWhile_subset isEdge hmem, by simpa using hskip⟩

/-- What stands behind the authority of an address, and what any text written behind the address becomes. -/
theorem parse?_behind {cs : List Char} {v : Web} (h : parse? (String.ofList (cs ++ ['/'])) = .ok (.web v)) :
    ∃ X, (∀ c ∈ X.head?, endsAuthority true c = true) ∧ (∀ c ∈ X, c ∈ cs ∧ isSkipped c = false) ∧
      ∀ more, (∀ c ∈ more, isEdge c = false) → (∃ c rest, more = c :: rest ∧ endsAuthority true c = true) →
        parse? (String.ofList (cs ++ more)) = .ok (.web { v with
          path := (pathAndQuery (X ++ more)).1, query := (pathAndQuery (X ++ more)).2 }) := by
  rw [parse?_append cs (List.cons_ne_nil _ _) no_edge_slash] at h
  obtain ⟨d, hd, hreads⟩ := read_web.mp h
  obtain ⟨X, hbehind, hlead⟩ := hreads.toValid.behind_of_slashes (n := 1) hd
  have hX : ∀ c ∈ X.head?, endsAuthority true c = true := by
    intro c hc
    refine hreads.behind c ?_
    rw [hbehind, List.head?_append, Option.mem_def.mp hc]
    rfl
  refine ⟨X, hX, fun c hc => mem_of_mem_lead (hlead ▸ List.mem_append_right _ hc), ?_⟩
  rintro more hmore ⟨c, rest, rfl, hends⟩
  rw [parse?_append cs (List.cons_ne_nil c rest) hmore]
  refine read_web.mpr ⟨{ d with behind := X ++ c :: rest }, ?_, hreads.withBehind _ ?_⟩
  · rw [hlead, List.append_assoc]
    rfl
  · intro a ha
    cases X with
    | nil => obtain rfl := Option.some.inj ha; exact hends
    | cons x X => exact hX a ha

/-! ## Slashes at the end of an address -/

theorem lead_eq (cs : List Char) :
    ∃ blanks, lead cs = clean cs ++ blanks ∧ ∀ c ∈ blanks, isEdge c = true ∧ isSkipped c = false := by
  obtain ⟨gone, hcs, hgone⟩ := Text.dropEndWhile_append isEdge (cs.dropWhile isEdge)
  refine ⟨gone.filter (!isSkipped ·), ?_, ?_⟩
  · rw [lead, hcs, List.filter_append]
    rfl
  · intro c hc
    obtain ⟨hmem, hskip⟩ := List.mem_filter.mp hc
    exact ⟨hgone c hmem, by simpa using hskip⟩

theorem not_endsAuthority_of_isEdge {c : Char} (h : isEdge c = true) : endsAuthority true c = false := by
  simp only [isEdge, decide_eq_true_eq] at h
  cases hends : endsAuthority true c with
  | false => rfl
  | true =>
    simp only [endsAuthority, Bool.true_and, Bool.or_eq_true, beq_iff_eq] at hends
    obtain ((rfl | rfl) | rfl) | rfl := hends <;> exact absurd h (by decide)

theorem exists_slashes (cs : List Char) : ∃ n, cs = Text.dropEndWhile (· == '/') cs ++ List.replicate n '/' := by
  obtain ⟨gone, hcs, hgone⟩ := Text.dropEndWhile_append (· == '/') cs
  have hslashes : gone = List.replicate gone.length '/' :=
    List.eq_replicate_iff.mpr ⟨rfl, fun c hc => by simpa using hgone c hc⟩
  exact ⟨gone.length, hslashes ▸ hcs⟩

/-- How an address with its slashes at the end and the same address with one slash in their place differ: by the
number of slashes, or by blanks that do not count at the very end. -/
structure Ends (w v : Web) (path blanks : List Char) (slashes : Nat) : Prop where
  head : ∀ c ∈ path.head?, endsAuthority true c = true
  edges : ∀ c ∈ blanks, isEdge c = true ∧ isSkipped c = false
  one : slashes = 0 ∨ blanks = []
  nil : path = [] → blanks = []
  all : (pathAndQuery (path ++ List.replicate slashes '/')).1 = w.path
  trimmed : (pathAndQuery (path ++ (blanks ++ ['/']))).1 = v.path

theorem ends_of_blanks {cs : List Char} {w v : Web} (hw : read (clean cs) = .ok (.web w))
    (hv : read (lead cs ++ ['/']) = .ok (.web v)) :
    ∃ path blanks, Ends w v path blanks 0 ∧ ∀ c ∈ path, c ∈ clean cs := by
  obtain ⟨d, hd, hdw⟩ := read_web.mp hw
  obtain ⟨e, he, hev⟩ := read_web.mp hv
  obtain ⟨blanks, hlead, hblanks⟩ := lead_eq cs
  rw [hlead, ← hd] at he
  cases hbehind : d.behind with
  | nil =>
    -- the blanks belong to the authority, behind which there is nothing but the slash
    have hvalid : Cut.Valid { d with authority := d.authority ++ blanks, behind := ['/'] } := {
      letter := hdw.letter
      scheme := hdw.scheme
      slashes := hdw.slashes
      nonempty := List.append_ne_nil_of_left_ne_nil hdw.nonempty _
      authority := fun c hc => (List.mem_append.mp hc).elim (hdw.authority c)
        fun hc => not_endsAuthority_of_isEdge (hblanks c hc).1
      behind := by simp [endsAuthority] }
    have hunique := hev.toValid.behind_unique hvalid (by simp [he, Cut.chars_eq, hbehind])
    refine ⟨[], [], ⟨?_, ?_, .inl rfl, fun _ => rfl, ?_, ?_⟩, ?_⟩
    · simp
    · simp
    · rw [← hdw.path, hbehind]
      rfl
    · rw [← hev.path, hunique]
      rfl
    · simp
  | cons c rest =>
    have hends : endsAuthority true c = true := hdw.behind c (by rw [hbehind]; rfl)
    have hvalid : Cut.Valid { d with behind := c :: rest ++ (blanks ++ ['/']) } := {
      letter := hdw.letter
      scheme := hdw.scheme
      slashes := hdw.slashes
      nonempty := hdw.nonempty
      authority := hdw.authority
      behind := by simpa using hends }
    have hunique := hev.toValid.behind_unique hvalid (by simp [he, Cut.chars_eq, hbehind])
    refine ⟨c :: rest, blanks, ⟨?_, hblanks, .inl rfl, ?_, ?_, ?_⟩, ?_⟩
    · simpa using hends
    · exact fun h => absurd h (List.cons_ne_nil c rest)
    · rw [← hdw.path, hbehind, List.replicate_zero, List.append_nil]
    · rw [← hev.path, hunique]
    · intro a ha
      rw [← hd, Cut.chars, hbehind]
      exact List.mem_append_right _ ha

theorem ends_of_slashes {cs : List Char} {w v : Web} {n : Nat}
    (hw : read (lead cs ++ List.replicate n '/') = .ok (.web w)) (hv : read (lead cs ++ ['/']) = .ok (.web v)) :
    ∃ path, Ends w v path [] n ∧ ∀ c ∈ path, c ∈ lead cs := by
  obtain ⟨d, hd, hdw⟩ := read_web.mp hw
  obtain ⟨e, he, hev⟩ := read_web.mp hv
  obtain ⟨path, hbehind, hlead⟩ := hdw.toValid.behind_of_slashes hd
  have hhead : ∀ c ∈ path.head?, endsAuthority true c = true := by
    intro c hc
    refine hdw.behind c ?_
    rw [hbehind, List.head?_append, Option.mem_def.mp hc]
    rfl
  have hreads := hdw.withBehind (path ++ ['/']) (by
    intro c hc
    cases path with
    | nil => obtain rfl := Option.some.inj hc; decide
    | cons x path => exact hhead c hc)
  have hunique := hev.toValid.behind_unique hreads.toValid (by rw [he, hlead, List.append_assoc]; rfl)
  refine ⟨path, ⟨hhead, by simp, .inr rfl, fun _ => rfl, ?_, ?_⟩, ?_⟩
  · rw [← hbehind, hdw.path]
  · rw [← hev.path, hunique]
    rfl
  · intro c hc
    rw [hlead]
    exact List.mem_append_right _ hc

theorem mem_of_mem_clean {cs : List Char} {c : Char} (h : c ∈ clean cs) : c ∈ cs ∧ isSkipped c = false := by
  obtain ⟨hmem, hskip⟩ := List.mem_filter.mp h
  exact ⟨List.dropWhile_subset isEdge (Text.mem_of_mem_dropEndWhile hmem), by simpa using hskip⟩

theorem exists_ends {cs : List Char} {w v : Web} (hw : parse? (String.ofList cs) = .ok (.web w))
    (hv : parse? (String.ofList (Text.dropEndWhile (· == '/') cs ++ ['/'])) = .ok (.web v)) :
    ∃ path blanks slashes, Ends w v path blanks slashes ∧ ∀ c ∈ path, c ∈ cs ∧ isSkipped c = false := by
  rw [parse?_append _ (List.cons_ne_nil _ _) no_edge_slash] at hv
  obtain ⟨n, hcs⟩ := exists_slashes cs
  cases n with
  | zero =>
    rw [List.replicate_zero, List.append_nil] at hcs
    rw [← hcs] at hv
    rw [parse?_eq, String.toList_ofList] at hw
    obtain ⟨path, blanks, hends, hmem⟩ := ends_of_blanks hw hv
    exact ⟨path, blanks, 0, hends, fun c hc => mem_of_mem_clean (hmem c hc)⟩
  | succ n =>
    rw [hcs, parse?_append _ (by simp [List.replicate_succ]) (no_edge_slashes (n + 1))] at hw
    obtain ⟨path, hends, hmem⟩ := ends_of_slashes hw hv
    refine ⟨path, [], n + 1, hends, fun c hc => ?_⟩
    obtain ⟨hlead, hskip⟩ := mem_of_mem_lead (hmem c hc)
    exact ⟨Text.mem_of_mem_dropEndWhile hlead, hskip⟩

/-- What is left of an address without its slashes at the end: its authority, something behind that or nothing, and
blanks that do not count at the very end. -/
theorem exists_stem {cs : List Char} {w : Web} (hw : parse? (String.ofList cs) = .ok (.web w)) :
    ∃ (d : Cut) (path blanks : List Char), d.Reads w ∧
      lead (Text.dropEndWhile (· == '/') cs) = d.front ++ (path ++ blanks) ∧ (∀ c ∈ blanks, isEdge c = true) ∧
      ∀ c ∈ path.head?, endsAuthority true c = true := by
  obtain ⟨n, hcs⟩ := exists_slashes cs
  cases n with
  | zero =>
    rw [List.replicate_zero, List.append_nil] at hcs
    rw [← hcs]
    rw [parse?_eq, String.toList_ofList] at hw
    obtain ⟨d, hd, hreads⟩ := read_web.mp hw
    obtain ⟨blanks, hlead, hblanks⟩ := lead_eq cs
    exact ⟨d, d.behind, blanks, hreads, by rw [hlead, ← hd, Cut.chars, List.append_assoc],
      fun c hc => (hblanks c hc).1, hreads.behind⟩
  | succ n =>
    rw [hcs, parse?_append _ (by simp [List.replicate_succ]) (no_edge_slashes (n + 1))] at hw
    obtain ⟨d, hd, hreads⟩ := read_web.mp hw
    obtain ⟨path, hbehind, hlead⟩ := hreads.toValid.behind_of_slashes hd
    refine ⟨d, path, [], hreads, by rw [hlead, List.append_nil], fun c hc => absurd hc List.not_mem_nil, fun c hc => ?_⟩
    refine hreads.behind c ?_
    rw [hbehind, List.head?_append, Option.mem_def.mp hc]
    rfl

end Portcullis.Url

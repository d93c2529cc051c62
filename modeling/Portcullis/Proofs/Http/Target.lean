import Portcullis.Http.Uri
import Portcullis.Proofs.Http.Normal
import Portcullis.Proofs.Url.Cut

/-!
# Request targets

What a target that was read may hold, and the targets whose path comes out of a URL as it is matched.
-/

namespace Portcullis.Http.Uri
open Url

/-- What reading a target makes sure of. -/
structure WellFormed (uri : Uri) : Prop where
  path : ∀ c ∈ uri.rawPath.toList, isPathChar c = true
  query : ∀ text ∈ uri.query, ∀ c ∈ text.toList, isQueryChar c = true
  bare : uri.scheme = none → uri.authority ≠ "" → uri.rawPath = "" ∧ uri.query = none

theorem parsePath?_eq_some {cs : List Char} {path : String} {query : Option String}
    (h : parsePath? cs = some (path, query)) : (∀ c ∈ path.toList, isPathChar c = true) ∧
      ∀ text ∈ query, ∀ c ∈ text.toList, isQueryChar c = true := by
  unfold parsePath? at h
  dsimp only at h
  split at h
  · cases h
  · rename_i hpath
    simp only [Bool.not_eq_true', Bool.not_eq_false, List.all_eq_true] at hpath
    split at h
    · split at h
      · rename_i hquery
        cases h
        rw [List.all_eq_true] at hquery
        refine ⟨by simpa using hpath, ?_⟩
        rintro text htext
        obtain rfl := Option.some.inj htext
        simpa using hquery
      · cases h
    · cases h
      exact ⟨by simpa using hpath, by simp⟩

theorem wellFormed_of_parse? {s : String} {uri : Uri} (h : parse? s = some uri) : uri.WellFormed := by
  unfold parse? at h
  dsimp only at h
  split at h
  · cases h
  · split at h
    · cases h
    · cases h
      exact ⟨List.all_eq_true.mp rfl, by simp, by simp⟩
    · obtain ⟨⟨path, query⟩, hread, rfl⟩ := Option.map_eq_some_iff.mp h
      obtain ⟨hpath, hquery⟩ := parsePath?_eq_some hread
      exact ⟨hpath, hquery, fun _ hne => absurd rfl hne⟩
    · split at h
      · cases h
        exact ⟨by simp, by simp, fun _ _ => ⟨rfl, rfl⟩⟩
      · cases h
    · obtain ⟨⟨scheme, rest⟩, -, h⟩ := Option.bind_eq_some_iff.mp h
      dsimp only at h
      split at h
      · cases h
      · split at h
        · split at h
          · cases h
            exact ⟨by simp, by simp, fun _ _ => ⟨rfl, rfl⟩⟩
          · cases h
        · rename_i hscheme
          split at h
          · cases h
          · obtain ⟨⟨path, query⟩, hread, h⟩ := Option.bind_eq_some_iff.mp h
            cases h
            obtain ⟨hpath, hquery⟩ := parsePath?_eq_some hread
            exact ⟨hpath, hquery, fun hnone => absurd (Option.isNone_iff_eq_none.mpr hnone) hscheme⟩

theorem not_edge_of_isPathChar {c : Char} (h : isPathChar c = true) : Parse.isEdge c = false := by
  simp only [isPathChar, Bool.or_eq_true, Bool.and_eq_true, beq_iff_eq, decide_eq_true_eq] at h
  simp only [Parse.isEdge, decide_eq_false_iff_not]
  omega

theorem not_mark_of_isPathChar {c : Char} (h : isPathChar c = true) : c ≠ '?' ∧ c ≠ '#' := by
  constructor <;> rintro rfl <;> exact absurd h (by decide)

theorem not_edge_of_isQueryChar {c : Char} (h : isQueryChar c = true) : Parse.isEdge c = false := by
  simp only [isQueryChar, Bool.or_eq_true, Bool.and_eq_true, beq_iff_eq, decide_eq_true_eq] at h
  simp only [Parse.isEdge, decide_eq_false_iff_not]
  omega

variable {uri : Uri}

/-! ## Targets of any form -/

/-- The target for the server as a whole. -/
def asterisk : Uri :=
  { rawPath := "*" }

theorem parsePath?_head {cs : List Char} (hcs : ∀ c ∈ cs.head?, endsAuthority c = true) {path : String}
    {query : Option String} (h : parsePath? cs = some (path, query)) :
    path = "" ∨ path.toList.head? = some '/' := by
  have hpath : path = String.ofList (cs.takeWhile fun c => c != '?' && c != '#') := by
    unfold parsePath? at h
    dsimp only at h
    repeat' split at h
    all_goals cases h
    all_goals rfl
  rw [hpath]
  cases cs with
  | nil => exact .inl rfl
  | cons c rest =>
    have hc := hcs c rfl
    simp only [endsAuthority, Bool.or_eq_true, beq_iff_eq] at hc
    obtain (rfl | rfl) | rfl := hc
    · exact .inr (by simp)
    · exact .inl (by simp)
    · exact .inl (by simp)

/-- The path of a target is empty or starts with a slash, or the target is the asterisk. -/
theorem rawPath_of_parse? {s : String} (h : parse? s = some uri) :
    uri = asterisk ∨ uri.rawPath = "" ∨ uri.rawPath.toList.head? = some '/' := by
  unfold parse? at h
  dsimp only at h
  split at h
  · cases h
  · split at h
    · cases h
    · cases h
      exact .inl rfl
    · rename_i rest hcs
      obtain ⟨⟨path, query⟩, hread, rfl⟩ := Option.map_eq_some_iff.mp h
      refine .inr (parsePath?_head (fun c hc => ?_) hread)
      rw [hcs] at hc
      obtain rfl := Option.some.inj hc
      rfl
    · split at h
      · cases h
        exact .inr (.inl rfl)
      · cases h
    · obtain ⟨⟨scheme, rest⟩, -, h⟩ := Option.bind_eq_some_iff.mp h
      dsimp only at h
      split at h
      · cases h
      · split at h
        · split at h
          · cases h
            exact .inr (.inl rfl)
          · cases h
        · split at h
          · cases h
          · obtain ⟨⟨path, query⟩, hread, h⟩ := Option.bind_eq_some_iff.mp h
            cases h
            refine .inr (parsePath?_head (fun c hc => ?_) hread)
            simpa using not_of_head_dropWhile hc

theorem pathAndQuery?_getD (uri : Uri) :
    uri.pathAndQuery?.getD "/" = "/" ∨
      uri.pathAndQuery?.getD "/" = uri.rawPath ++ (uri.query.map ("?" ++ ·)).getD "" ∧
        (uri.rawPath ≠ "" ∨ ∃ text, uri.query = some text) := by
  unfold pathAndQuery?
  split
  · exact .inl rfl
  · dsimp only
    rw [Option.getD_some]
    split
    · exact .inl rfl
    · rename_i hne
      refine .inr ⟨rfl, ?_⟩
      cases hq : uri.query with
      | none =>
        rw [hq] at hne
        exact .inl fun hraw => hne (by rw [hraw]; rfl)
      | some text => exact .inr ⟨text, rfl⟩

/-- What is sent on of a target holds neither blanks nor controls. -/
theorem WellFormed.not_edge (h : uri.WellFormed) : ∀ c ∈ (uri.pathAndQuery?.getD "/").toList, Parse.isEdge c = false := by
  intro c hc
  rcases uri.pathAndQuery?_getD with heq | ⟨heq, -⟩
  · rw [heq] at hc
    obtain rfl := List.mem_singleton.mp hc
    decide
  · rw [heq, String.toList_append] at hc
    rcases List.mem_append.mp hc with hc | hc
    · exact not_edge_of_isPathChar (h.path c hc)
    · cases hq : uri.query with
      | none =>
        rw [hq] at hc
        cases hc
      | some text =>
        rw [hq, Option.map_some, Option.getD_some, String.toList_append] at hc
        rcases List.mem_append.mp hc with hc | hc
        · obtain rfl := List.mem_singleton.mp hc
          decide
        · exact not_edge_of_isQueryChar (h.query text hq c hc)

/-- What is sent on of a target starts with a slash or a question mark, unless it is the asterisk. -/
theorem head_of_parse? {s : String} (h : parse? s = some uri) :
    uri = asterisk ∨ ∃ c rest, (uri.pathAndQuery?.getD "/").toList = c :: rest ∧ (c = '/' ∨ c = '?') := by
  rcases rawPath_of_parse? h with rfl | hraw
  · exact .inl rfl
  · refine .inr ?_
    rcases uri.pathAndQuery?_getD with heq | ⟨heq, hsome⟩
    · exact ⟨'/', [], by rw [heq]; rfl, .inl rfl⟩
    · rw [heq, String.toList_append]
      rcases hraw with hraw | hraw
      · obtain ⟨text, htext⟩ := hsome.resolve_left fun hne => hne hraw
        exact ⟨'?', text.toList, by rw [hraw, htext]; simp, .inr rfl⟩
      · obtain ⟨rest, hrest⟩ := List.head?_eq_some_iff.mp hraw
        exact ⟨'/', _, by rw [hrest]; rfl, .inl rfl⟩

/-! ## Targets with a path -/

/-- A target that was read and whose path starts with a slash. -/
structure Rooted (uri : Uri) : Prop where
  read : ∃ s, parse? s = some uri
  slash : uri.path.toList.head? = some '/'

/-- The target is not a query alone: its path is written, or there is nothing else either. -/
def WritesPath (uri : Uri) : Prop :=
  uri.rawPath ≠ "" ∨ uri.query = none

/-- No segment of the path climbs out of the root. -/
def StaysInside (uri : Uri) : Prop :=
  Inside [] (segments uri.rawPath.toList.tail)

/-- A target whose path comes out behind any path as it is matched: there is a path to forward, no segment of it climbs
out of the root, and its normal form is the one that it has in a URL. -/
structure Faithful (uri : Uri) : Prop where
  written : uri.WritesPath
  inside : uri.StaysInside
  settled : Settled uri.rawPath.toList

/-- What is written behind a backend for the path of the target. -/
def writtenPath (uri : Uri) : List Char :=
  if uri.rawPath = "" ∧ uri.query = none then ['/'] else uri.rawPath.toList

theorem Rooted.wellFormed (h : uri.Rooted) : uri.WellFormed := by
  obtain ⟨s, hs⟩ := h.read
  exact wellFormed_of_parse? hs

theorem Rooted.isPathChar_of_mem (h : uri.Rooted) {c : Char} (hc : c ∈ uri.writtenPath) : isPathChar c = true := by
  unfold writtenPath at hc
  split at hc
  · obtain rfl := List.mem_singleton.mp hc
    decide
  · exact h.wellFormed.path c hc

theorem Rooted.rawPath_eq_cons (h : uri.Rooted) (hraw : uri.rawPath ≠ "") :
    uri.rawPath.toList = '/' :: uri.rawPath.toList.tail := by
  have hslash := h.slash
  rw [Uri.path, if_neg (by simp [hraw])] at hslash
  obtain ⟨cs, hcs⟩ := List.head?_eq_some_iff.mp hslash
  rw [hcs]
  rfl

theorem Rooted.pathAndQuery? (h : uri.Rooted) :
    uri.pathAndQuery?.getD "/" = if uri.rawPath = "" ∧ uri.query = none then "/"
      else uri.rawPath ++ (uri.query.map ("?" ++ ·)).getD "" := by
  have hform : (uri.scheme.isNone && !uri.authority.isEmpty) = false := by
    cases hb : uri.scheme.isNone && !uri.authority.isEmpty with
    | false => rfl
    | true =>
      simp only [Bool.and_eq_true, Option.isNone_iff_eq_none, Bool.not_eq_true', String.isEmpty_eq_false_iff] at hb
      obtain ⟨hpath, hquery⟩ := h.wellFormed.bare hb.1 hb.2
      have hslash := h.slash
      simp [Uri.path, hb.1, hpath, hquery] at hslash
  unfold Uri.pathAndQuery?
  rw [hform]
  cases hq : uri.query with
  | none => simp
  | some query => simp

/-- The target as it is sent on: its path, and a query behind it. -/
theorem Rooted.toList_target (h : uri.Rooted) :
    ∃ rest, (uri.pathAndQuery?.getD "/").toList = uri.writtenPath ++ rest ∧ (∀ c ∈ rest, Parse.isEdge c = false) ∧
      ∀ c ∈ rest.head?, c = '?' := by
  rw [h.pathAndQuery?]
  unfold writtenPath
  split
  · exact ⟨[], rfl, by simp, by simp⟩
  · cases hq : uri.query with
    | none => exact ⟨[], by simp, by simp, by simp⟩
    | some query =>
      refine ⟨'?' :: query.toList, by simp, ?_, by simp⟩
      refine List.forall_mem_cons.mpr ⟨by decide, fun c hc => ?_⟩
      exact not_edge_of_isQueryChar (h.wellFormed.query query hq c hc)

theorem Rooted.ne_asterisk (h : uri.Rooted) : uri ≠ asterisk := by
  rintro rfl
  exact absurd h.slash (by decide)

theorem Rooted.head_target (h : uri.Rooted) :
    ∃ c rest, (uri.pathAndQuery?.getD "/").toList = c :: rest ∧ (c = '/' ∨ c = '?') := by
  obtain ⟨s, hs⟩ := h.read
  exact (head_of_parse? hs).resolve_left h.ne_asterisk

theorem Rooted.writtenPath_eq_cons (h : uri.Rooted) (hwritten : uri.WritesPath) :
    uri.writtenPath = '/' :: uri.rawPath.toList.tail := by
  unfold writtenPath
  split
  · rename_i hnone
    rw [hnone.1]
    rfl
  · rename_i hsome
    exact h.rawPath_eq_cons fun hraw => hsome ⟨hraw, hwritten.resolve_left fun hne => hne hraw⟩

theorem Rooted.path_eq (h : uri.Rooted) (hwritten : uri.WritesPath) : uri.path.toList = uri.writtenPath := by
  unfold writtenPath
  by_cases hraw : uri.rawPath = ""
  · rw [if_pos ⟨hraw, hwritten.resolve_left fun hne => hne hraw⟩]
    have hslash := h.slash
    unfold Uri.path at hslash ⊢
    split
    · rfl
    · rename_i hscheme
      rw [if_neg hscheme, hraw] at hslash
      cases hslash
  · rw [if_neg fun hc => hraw hc.1, Uri.path, if_neg (by simp [hraw])]

theorem settled_writtenPath (uri : Uri) : Settled uri.writtenPath ↔ Settled uri.rawPath.toList := by
  unfold writtenPath
  split
  · rename_i hnone
    rw [hnone.1]
    exact iff_of_true ((settled_iff []).mpr rfl) (by simp [Settled, isPlain])
  · rfl

def root : Uri :=
  { rawPath := "/" }

theorem root_rooted : root.Rooted :=
  ⟨⟨"/", by decide⟩, by decide⟩

theorem root_faithful : root.Faithful where
  written := .inr rfl
  inside := by
    unfold StaysInside
    decide
  settled := (settled_iff []).mpr rfl

end Portcullis.Http.Uri

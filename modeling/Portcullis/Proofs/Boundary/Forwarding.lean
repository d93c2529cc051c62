import Portcullis.Boundary.Forward
import Portcullis.Proofs.Boundary.Inspection
import Portcullis.Proofs.Http.Root
import Portcullis.Proofs.Http.Target
import Portcullis.Proofs.Url.Behind

/-!
# What the backend serves

A rule is matched against the normal form of the path that the client wrote, and the backend serves what the reader
of URLs makes of that path behind the path of the backend. For which targets and backends the two agree.
-/

namespace Portcullis.Boundary
open Http Url
open Url.Parse (pathAndQuery)

/-- The configuration is accepted, and its backend has neither query nor fragment. -/
structure Config.Fronts (c : Config) : Prop where
  accepted : ∃ address, c.check = .ok address
  pathOnly : ∀ ch ∈ c.backendUrl.toList, ch ≠ '?' ∧ ch ≠ '#'

namespace Forward

/-- The path of a backend without slashes at its end. -/
def basePath (w : Web) : List Char :=
  Text.dropEndWhile (· == '/') w.path

/-- The backend serves what the rules matched: behind its own path there is a path with the same normal form. -/
def Serves (backendUrl : String) (r : Request) : Prop :=
  ∃ w out tail, parse? backendUrl = .ok (.web w) ∧ outgoing? backendUrl r = some out ∧
    out.url.path = basePath w ++ tail ∧ normalizePath (String.ofList tail) = r.path

/-- Under some policy and in some state, the inspection lets a request for the target through to be forwarded, as
`sent`. -/
def Sends (config : Config) (uri : Uri) (sent : Request) : Prop :=
  ∃ (g : Guard) (request : Request) (l : Ledger) (marks : Marks) (send : Outgoing → Reply), g.config = config ∧
    request.uri = uri ∧ (g.inspect l marks request (application config.backendUrl send)).reached = some sent

def trimmed (backendUrl : String) : List Char :=
  Text.dropEndWhile (· == '/') backendUrl.toList

/-- The root of the backend, as it is written for the target `/`, is the path of the backend and one slash. Blanks at
the end of a backend or several slashes between its segments and them break this. -/
def Joins (backendUrl : String) : Prop :=
  ∃ w v, parse? backendUrl = .ok (.web w) ∧ parse? (String.ofList (trimmed backendUrl ++ ['/'])) = .ok (.web v) ∧
    v.path = basePath w ++ ['/']

/-- The backend has no path of its own. -/
def Bare (backendUrl : String) : Prop :=
  ∃ w, parse? backendUrl = .ok (.web w) ∧ basePath w = []

theorem Sends.uri {config : Config} {uri : Uri} {sent : Request} (h : Sends config uri sent) : sent.uri = uri := by
  obtain ⟨g, request, l, marks, send, -, rfl, hreached⟩ := h
  rw [Guard.inspect_reached] at hreached
  split at hreached
  · cases hreached
  · split at hreached
    · cases hreached
    · cases hreached
      unfold Guard.identified
      split <;> rfl

/-- Without rules a request for any target is let through. -/
theorem sends_identified (config : Config) (uri : Uri) :
    Sends config uri (({ config } : Guard).identified { uri }) := by
  refine ⟨{ config }, { uri }, .ofCapacity 0, default, fun _ => .failed, rfl, rfl, ?_⟩
  rw [Guard.inspect_reached]
  rfl

/-! ## Backends that join -/

theorem urlText_eq (backendUrl : String) (uri : Uri) :
    urlText backendUrl uri = String.ofList (trimmed backendUrl ++ (uri.pathAndQuery?.getD "/").toList) := by
  rw [String.ofList_append, String.ofList_toList]
  rfl

theorem isSlash_of_endsAuthority {c : Char} (h : Parse.endsAuthority true c = true) (hc : c ≠ '?' ∧ c ≠ '#') :
    isSlash c = true := by
  simpa [Parse.endsAuthority, isSlash, hc.1, hc.2] using h

/-- A backend that joins: `base` stands behind its authority, and whatever is written behind it goes on from there. -/
structure Mount (backendUrl : String) (w : Web) (base : List Char) : Prop where
  parsed : parse? backendUrl = .ok (.web w)
  head : ∀ c ∈ base.head?, isSlash c = true
  marks : ∀ c ∈ base, c ≠ '?' ∧ c ≠ '#'
  skip : ∀ c ∈ base, isSkipped c = false
  path : joinSegments (stack base).reverse = basePath w
  opens : ∃ v : Web, ∀ more, (∀ c ∈ more, Parse.isEdge c = false) →
    (∃ c rest, more = c :: rest ∧ Parse.endsAuthority true c = true) →
      parse? (String.ofList (trimmed backendUrl ++ more)) = .ok (.web { v with
        path := (pathAndQuery (base ++ more)).1, query := (pathAndQuery (base ++ more)).2 })

theorem pathAndQuery_slash {base : List Char} (hhead : ∀ c ∈ base.head?, isSlash c = true)
    (hmarks : ∀ c ∈ base, c ≠ '?' ∧ c ≠ '#') (hskip : ∀ c ∈ base, isSkipped c = false) :
    (pathAndQuery (base ++ ['/'])).1 = joinSegments (stack base).reverse ++ ['/'] := by
  have hslashed : ∀ c ∈ base ++ ['/'], c ≠ '?' ∧ c ≠ '#' := fun c hc =>
    (List.mem_append.mp hc).elim (hmarks c) fun h => by rw [List.mem_singleton.mp h]; decide
  rw [pathAndQuery_of_path hslashed, parsePath_slash hhead hskip]

theorem Mount.joins {backendUrl : String} {w : Web} {base : List Char} (h : Mount backendUrl w base) :
    Joins backendUrl := by
  obtain ⟨v, hopens⟩ := h.opens
  refine ⟨w, _, h.parsed, hopens ['/'] no_edge_slash ⟨'/', [], rfl, by decide⟩, ?_⟩
  rw [← h.path, ← pathAndQuery_slash h.head h.marks h.skip]

theorem Joins.exists_mount {backendUrl : String} (h : Joins backendUrl)
    (hchars : ∀ c ∈ backendUrl.toList, c ≠ '?' ∧ c ≠ '#') : ∃ w base, Mount backendUrl w base := by
  obtain ⟨w, v, hw, hv, hpath⟩ := h
  obtain ⟨base, hhead, hmem, hbehind⟩ := parse?_behind hv
  have hmarks : ∀ c ∈ base, c ≠ '?' ∧ c ≠ '#' := fun c hc =>
    hchars c (Text.mem_of_mem_dropEndWhile (hmem c hc).1)
  have hslash : ∀ c ∈ base.head?, isSlash c = true := fun c hc =>
    isSlash_of_endsAuthority (hhead c hc) (hmarks c (List.mem_of_mem_head? hc))
  refine ⟨w, base, hw, hslash, hmarks, fun c hc => (hmem c hc).2, ?_, v, hbehind⟩
  have hroot := hv.symm.trans (hbehind ['/'] no_edge_slash ⟨'/', [], rfl, by decide⟩)
  have hv' := congrArg Web.path (Parsed.web.inj (Except.ok.inj hroot))
  dsimp only at hv'
  rw [hpath, pathAndQuery_slash hslash hmarks fun c hc => (hmem c hc).2] at hv'
  exact (List.append_cancel_right hv').symm

/-! ## Targets -/

variable {backendUrl : String} {w : Web} {base : List Char} {r : Request}

theorem normalizePath_ofList {tail : List Char} {path : String} :
    normalizePath (String.ofList tail) = normalizePath path ↔ normalize tail = normalize path.toList := by
  unfold normalizePath
  rw [String.toList_ofList, String.ofList_inj]

theorem Mount.serve (h : Mount backendUrl w base) (hr : r.uri.Rooted) :
    ∃ out, outgoing? backendUrl r = some out ∧ out.url.path = parsePath (base ++ r.uri.writtenPath) := by
  obtain ⟨v, hopens⟩ := h.opens
  obtain ⟨rest, htarget, hrest, hquery⟩ := hr.toList_target
  obtain ⟨c, more, hcons, hc⟩ := hr.head_target
  have hedge : ∀ c ∈ r.uri.writtenPath ++ rest, Parse.isEdge c = false := fun c hc =>
    (List.mem_append.mp hc).elim (fun h => Uri.not_edge_of_isPathChar (hr.isPathChar_of_mem h)) (hrest c)
  have hends : Parse.endsAuthority true c = true := by
    obtain rfl | rfl := hc <;> decide
  have hparse := hopens _ hedge ⟨c, more, htarget ▸ hcons, hends⟩
  have hfst : (pathAndQuery (base ++ r.uri.writtenPath ++ rest)).1 = parsePath (base ++ r.uri.writtenPath) :=
    pathAndQuery_fst (fun c hc => (List.mem_append.mp hc).elim (h.marks c) fun h =>
      Uri.not_mark_of_isPathChar (hr.isPathChar_of_mem h)) hquery
  rw [← htarget, ← urlText_eq] at hparse
  rw [List.append_assoc, ← htarget] at hfst
  unfold outgoing?
  rw [hparse]
  exact ⟨_, rfl, hfst⟩

theorem Mount.serves_iff (h : Mount backendUrl w base) (hr : r.uri.Rooted) : Serves backendUrl r ↔
      ∃ tail, parsePath (base ++ r.uri.writtenPath) = basePath w ++ tail ∧
        normalize tail = normalize r.uri.path.toList := by
  obtain ⟨out, hout, hpath⟩ := h.serve hr
  constructor
  · rintro ⟨w', out', tail, hw, hout', htail, hnormal⟩
    rw [h.parsed] at hw
    cases hw
    rw [hout] at hout'
    cases hout'
    exact ⟨tail, hpath ▸ htail, normalizePath_ofList.mp hnormal⟩
  · rintro ⟨tail, htail, hnormal⟩
    exact ⟨w, out, tail, h.parsed, hout, hpath.trans htail, normalizePath_ofList.mpr hnormal⟩

theorem eq_nil_of_joinSegments {ss : List Segment} (h : joinSegments ss = []) : ss = [] := by
  cases ss with
  | nil => rfl
  | cons s rest => rw [joinSegments_cons] at h; cases h

/-- Behind a backend that joins, a target that stays inside comes out as it does alone, and so does any target behind
a backend without a path. -/
theorem Mount.parsePath_eq (h : Mount backendUrl w base) (hr : r.uri.Rooted) (hwritten : r.uri.WritesPath)
    (hstay : basePath w = [] ∨ r.uri.StaysInside) :
    parsePath (base ++ r.uri.writtenPath) = basePath w ++ parsePath r.uri.writtenPath := by
  have hedge : ∀ c ∈ r.uri.writtenPath, isSkipped c = false := fun c hc =>
    not_skipped_of_not_edge (Uri.not_edge_of_isPathChar (hr.isPathChar_of_mem hc))
  have hskip : ∀ c ∈ base ++ r.uri.writtenPath, isSkipped c = false := fun c hc =>
    (List.mem_append.mp hc).elim (h.skip c) (hedge c)
  rw [hr.writtenPath_eq_cons hwritten] at hedge hskip ⊢
  obtain hbare | hinside := hstay
  · have hstack := List.reverse_eq_nil_iff.mp (eq_nil_of_joinSegments (h.path.trans hbare))
    rw [hbare, parsePath_behind h.head hskip, hstack, parsePath_alone hedge]
    rfl
  · rw [parsePath_append h.head hskip hinside, h.path]

/-- Then it is served as matched exactly if its path is settled. -/
theorem Mount.serves_iff_settled (h : Mount backendUrl w base) (hr : r.uri.Rooted) (hwritten : r.uri.WritesPath)
    (hstay : basePath w = [] ∨ r.uri.StaysInside) : Serves backendUrl r ↔ Settled r.uri.rawPath.toList := by
  rw [h.serves_iff hr, h.parsePath_eq hr hwritten hstay, hr.path_eq hwritten, ← Uri.settled_writtenPath,
    hr.writtenPath_eq_cons hwritten, settled_iff]
  constructor
  · rintro ⟨tail, htail, hnormal⟩
    rw [List.append_cancel_left htail]
    exact hnormal
  · exact fun hnormal => ⟨_, rfl, hnormal⟩

/-! ## Backends with a long path -/

/-- A configuration whose backend has one segment of `n + 1` letters. -/
def deep (n : Nat) : Config :=
  { backendUrl := String.ofList (['h', 't', 't', 'p', ':', '/', '/', 'h'] ++ '/' :: List.replicate (n + 1) 'a') }

def deepPath (n : Nat) : List Char :=
  '/' :: List.replicate (n + 1) 'a'

theorem forall_mem_deepPath {P : Char → Prop} (hslash : P '/') (ha : P 'a') (n : Nat) : ∀ c ∈ deepPath n, P c :=
  List.forall_mem_cons.mpr ⟨hslash, fun c hc => by rw [List.eq_of_mem_replicate hc]; exact ha⟩

theorem parse?_host {more : List Char} (h : ∀ c ∈ more, Parse.isEdge c = false)
    (hends : ∃ c rest, more = c :: rest ∧ Parse.endsAuthority true c = true) :
    parse? (String.ofList (['h', 't', 't', 'p', ':', '/', '/', 'h'] ++ more)) =
      .ok (.web ⟨"http", ⟨[], none, .domain ['h'], none⟩, (pathAndQuery more).1, (pathAndQuery more).2⟩) := by
  obtain ⟨c, rest, rfl, hc⟩ := hends
  rw [parse?_append _ (List.cons_ne_nil c rest) h, read_web]
  have hname : ∀ c ∈ ['h', 't', 't', 'p'], Parse.isSchemeChar c = true := List.all_eq_true.mp rfl
  have hslashes : ∀ c ∈ ['/', '/'], isSlash c = true := List.all_eq_true.mp rfl
  have hserver : ∀ c ∈ ['h'], Parse.endsAuthority true c = false := fun c hc => by
    rw [List.mem_singleton.mp hc]
    rfl
  refine ⟨⟨['h', 't', 't', 'p'], ['/', '/'], ['h'], c :: rest⟩, rfl, ⟨rfl, hname, hslashes, ?_, hserver, ?_⟩,
    .inl rfl, rfl, rfl, rfl, rfl⟩
  · exact List.cons_ne_nil _ _
  · simpa using hc

theorem clean_replicate (n : Nat) : Clean (List.replicate (n + 1) 'a') := by
  have hsafe : ∀ c ∈ List.replicate (n + 1) 'a', isSafe c = true := by
    intro c hc
    rw [List.eq_of_mem_replicate hc]
    decide
  have hdots : plainDots (List.replicate (n + 1) 'a') = List.replicate (n + 1) 'a' := by
    refine plainDots_of_no_percent fun hc => ?_
    exact absurd (List.eq_of_mem_replicate hc) (by decide)
  refine ⟨?_, hsafe⟩
  simp only [isPlainSegment, isSingleDot, isDoubleDot, hdots]
  simp [List.replicate_succ]

theorem stack_deepPath (n : Nat) : stack (deepPath n) = [List.replicate (n + 1) 'a'] := by
  have hclean := clean_replicate n
  rw [deepPath, stack, segments_of_no_slash hclean.no_slash, hclean.percentEncode]
  exact settle_of_plain hclean.plain []

theorem written_deepPath (n : Nat) : Written (deepPath n) := by
  refine ⟨[List.replicate (n + 1) 'a'], List.cons_ne_nil _ _, ?_, by simp [deepPath, joinSegments]⟩
  intro s hs
  rw [List.mem_singleton.mp hs]
  exact clean_replicate n

theorem dropEndWhile_deepPath (cs : List Char) (n : Nat) :
    Text.dropEndWhile (· == '/') (cs ++ deepPath n) = cs ++ deepPath n := by
  have hlast : ∀ c ∈ List.replicate (n + 1) 'a', (c == '/') = false := by
    intro c hc
    rw [List.eq_of_mem_replicate hc]
    decide
  have hkeep := Text.dropEndWhile_append_right (cs ++ ['/']) (by simp [List.replicate_succ]) hlast
  rwa [List.append_assoc] at hkeep

theorem trimmed_deep (n : Nat) :
    trimmed (deep n).backendUrl = ['h', 't', 't', 'p', ':', '/', '/', 'h'] ++ deepPath n := by
  rw [trimmed, deep, String.toList_ofList]
  exact dropEndWhile_deepPath _ n

theorem deep_mount (n : Nat) :
    Mount (deep n).backendUrl ⟨"http", ⟨[], none, .domain ['h'], none⟩, deepPath n, none⟩ (deepPath n) := by
  have hmarks : ∀ c ∈ deepPath n, c ≠ '?' ∧ c ≠ '#' := forall_mem_deepPath (by decide) (by decide) n
  have hedge : ∀ c ∈ deepPath n, Parse.isEdge c = false := forall_mem_deepPath (by decide) (by decide) n
  refine ⟨?_, ?_, hmarks, fun c hc => not_skipped_of_not_edge (hedge c hc), ?_, ⟨"http", ⟨[], none, .domain ['h'], none⟩, [], none⟩, ?_⟩
  · have hparse := parse?_host hedge ⟨'/', _, rfl, by decide⟩
    rw [pathAndQuery_of_path hmarks, (written_deepPath n).parsePath] at hparse
    exact hparse
  · simp [deepPath, isSlash]
  · have hkeep := dropEndWhile_deepPath [] n
    rw [stack_deepPath]
    simpa [basePath, joinSegments, deepPath] using hkeep.symm
  · intro more hmore _
    have hall : ∀ c ∈ deepPath n ++ more, Parse.isEdge c = false := fun c hc =>
      (List.mem_append.mp hc).elim (hedge c) (hmore c)
    rw [trimmed_deep, List.append_assoc]
    exact parse?_host hall ⟨'/', _, rfl, by decide⟩

theorem deep_fronts (n : Nat) : (deep n).Fronts where
  accepted := by
    obtain ⟨a, ha⟩ := Option.isSome_iff_exists.mp (by decide : (Config.address? {}).isSome = true)
    have hdeep : (deep n).address? = some a := ha
    have hlimits : ((deep n).maxBodyBytes = 0 || (deep n).maxResponseBytes = 0) = false := rfl
    refine ⟨a, ?_⟩
    rw [Config.check, (deep_mount n).parsed]
    simp only [hlimits, hdeep, Bool.false_eq_true, if_false]
  pathOnly := by
    have hhost : ∀ c ∈ ['h', 't', 't', 'p', ':', '/', '/', 'h'], c ≠ '?' ∧ c ≠ '#' := by simp
    rw [deep, String.toList_ofList]
    intro c hc
    exact (List.mem_append.mp hc).elim (hhost c) ((deep_mount n).marks c)

/-! ## Faithful targets -/

variable {uri : Uri}

theorem deep_serves_iff {n : Nat} (hr : r.uri.Rooted) :
    Serves (deep n).backendUrl r ↔ ∃ tail, parsePath (deepPath n ++ r.uri.writtenPath) = deepPath n ++ tail ∧
      normalize tail = normalize r.uri.path.toList := by
  rw [(deep_mount n).serves_iff hr]
  have hkeep := dropEndWhile_deepPath [] n
  rw [List.nil_append] at hkeep
  rw [basePath, hkeep]

/-- A target that is served as matched behind every long path has a path to forward. -/
theorem written_of_serves (hr : r.uri.Rooted)
    (h : Serves (deep 0).backendUrl r) : r.uri.WritesPath := by
  obtain ⟨tail, htail, hnormal⟩ := (deep_serves_iff hr).mp h
  by_cases hraw : r.uri.rawPath = ""
  · by_cases hquery : r.uri.query = none
    · exact .inr hquery
    · have hnone : r.uri.writtenPath = [] := by simp [Uri.writtenPath, hraw, hquery]
      have hroot : r.uri.path = "/" := by
        rw [Uri.path, if_pos]
        simp [hraw, Option.isSome_iff_ne_none, hquery]
      rw [hnone, List.append_nil, (written_deepPath 0).parsePath] at htail
      obtain rfl := List.self_eq_append_right.mp htail
      rw [hroot] at hnormal
      exact absurd hnormal (by decide)
  · exact .inl hraw

theorem not_isDriveLetter_replicate (n : Nat) : isDriveLetter (List.replicate (n + 1) 'a') = false := by
  match n with
  | 0 => rfl
  | 1 => rfl
  | n + 2 => rfl

/-- Behind a path that is longer than its own, a target that climbs out of it would have to be shorter than it is. -/
theorem inside_of_serves (hr : r.uri.Rooted)
    (hwritten : r.uri.WritesPath) (h : ∀ n, Serves (deep n).backendUrl r) :
    r.uri.StaysInside := by
  refine Classical.byContradiction fun hout => ?_
  have hpath := hr.writtenPath_eq_cons hwritten
  have hskip : ∀ c ∈ '/' :: r.uri.rawPath.toList.tail, isSkipped c = false := fun c hc =>
    not_skipped_of_not_edge (Uri.not_edge_of_isPathChar (hr.isPathChar_of_mem (hpath ▸ hc)))
  -- a backend whose path is longer than all that the target comes to by itself
  let n := (parsePath ('/' :: r.uri.rawPath.toList.tail)).length
  have hall : ∀ c ∈ deepPath n ++ '/' :: r.uri.rawPath.toList.tail, isSkipped c = false := fun c hc =>
    (List.mem_append.mp hc).elim ((deep_mount n).skip c) (hskip c)
  have hclimb := resolve_of_not_inside (not_isDriveLetter_replicate n) hout
  rw [List.nil_append] at hclimb
  obtain ⟨tail, htail, -⟩ := (deep_serves_iff hr).mp (h n)
  rw [hpath, parsePath_behind (deep_mount n).head hall, stack_deepPath, hclimb, ← parsePath_alone hskip] at htail
  have hlength := congrArg List.length htail
  simp only [List.length_append, deepPath, List.length_cons, List.length_replicate] at hlength
  omega

theorem faithful_of_serves (hr : r.uri.Rooted)
    (h : ∀ n, Serves (deep n).backendUrl r) : r.uri.Faithful := by
  have hwritten := written_of_serves hr (h 0)
  have hinside := inside_of_serves hr hwritten h
  exact ⟨hwritten, hinside, ((deep_mount 0).serves_iff_settled hr hwritten (.inr hinside)).mp (h 0)⟩

theorem Joins.serves_iff_settled (h : Joins backendUrl) (hchars : ∀ c ∈ backendUrl.toList, c ≠ '?' ∧ c ≠ '#')
    (hr : r.uri.Rooted) (hwritten : r.uri.WritesPath) (hstay : Bare backendUrl ∨ r.uri.StaysInside) :
    Serves backendUrl r ↔ Settled r.uri.rawPath.toList := by
  obtain ⟨w, base, hmount⟩ := h.exists_mount hchars
  refine hmount.serves_iff_settled hr hwritten (hstay.imp_left ?_)
  rintro ⟨w', hw', hbare⟩
  rw [hmount.parsed] at hw'
  cases hw'
  exact hbare

/-! ## The root of a backend -/

theorem joins_of_serves (hchars : ∀ c ∈ backendUrl.toList, c ≠ '?' ∧ c ≠ '#') (hr : r.uri = .root)
    (h : Serves backendUrl r) : Joins backendUrl := by
  obtain ⟨w, out, tail, hw, hout, hpath, hnormal⟩ := h
  have hv : parse? (String.ofList (trimmed backendUrl ++ ['/'])) = .ok (.web out.url) := by
    unfold outgoing? at hout
    rw [urlText_eq, hr] at hout
    split at hout
    · rename_i url hparse
      cases hout
      exact hparse
    · cases hout
  refine ⟨w, out.url, hw, hv, ?_⟩
  rw [← String.ofList_toList (s := backendUrl)] at hw
  obtain ⟨path, blanks, n, hends, hmem⟩ := exists_ends hw hv
  have hmarks : ∀ c ∈ path, c ≠ '?' ∧ c ≠ '#' := fun c hc => hchars c (hmem c hc).1
  have hhead : ∀ c ∈ path.head?, isSlash c = true := fun c hc =>
    isSlash_of_endsAuthority (hends.head c hc) (hmarks c (List.mem_of_mem_head? hc))
  have hall : parsePath (path ++ List.replicate n '/') = w.path := by
    have hslashes : ∀ c ∈ List.replicate n '/', c ≠ '?' ∧ c ≠ '#' := by
      intro c hc
      rw [List.eq_of_mem_replicate hc]
      decide
    rw [← hends.all, pathAndQuery_of_path fun c hc => (List.mem_append.mp hc).elim (hmarks c) (hslashes c)]
  have htrim : parsePath (path ++ (blanks ++ ['/'])) = out.url.path := by
    have hrest : ∀ c ∈ blanks ++ ['/'], c ≠ '?' ∧ c ≠ '#' := by
      intro c hc
      obtain hc | hc := List.mem_append.mp hc
      · have hedge := (hends.edges c hc).1
        constructor <;> rintro rfl <;> exact absurd hedge (by decide)
      · rw [List.mem_singleton.mp hc]
        decide
    rw [← hends.trimmed, pathAndQuery_of_path fun c hc => (List.mem_append.mp hc).elim (hmarks c) (hrest c)]
  have htail : tail = ['/'] := by
    refine eq_slash_of_root hhead (fun c hc => (hmem c hc).2) hends.edges hends.one hends.nil ?_ ?_
    · rw [htrim, hall, hpath]
      rfl
    · rw [Request.path, normalizePath_ofList, hr] at hnormal
      exact hnormal
  rw [hpath, htail]

/-! ## Both together -/

/-- Behind a backend that joins, a target that stays inside is served as it was matched exactly if it is settled. Over
all backends that join, the targets that are served as they were matched are the faithful ones; and over all faithful
targets, the backends that serve them so are those that join. -/
theorem serves_iff_faithful {config : Config} (hfronts : config.Fronts) {uri : Uri} (hrooted : uri.Rooted) :
    (Joins config.backendUrl → uri.WritesPath → Bare config.backendUrl ∨ uri.StaysInside →
      ∀ sent, Sends config uri sent → (Serves config.backendUrl sent ↔ Settled uri.rawPath.toList)) ∧
    (uri.Faithful ↔ ∀ other : Config, other.Fronts → Joins other.backendUrl →
      ∀ sent, Sends other uri sent → Serves other.backendUrl sent) ∧
    (Joins config.backendUrl ↔ ∀ target : Uri, target.Rooted → target.Faithful →
      ∀ sent, Sends config target sent → Serves config.backendUrl sent) := by
  have hserves : ∀ other : Config, other.Fronts → Joins other.backendUrl → ∀ target : Uri, target.Rooted →
      target.Faithful → ∀ sent, Sends other target sent → Serves other.backendUrl sent := by
    intro other hother hjoins target htarget hfaithful sent hsends
    obtain rfl := hsends.uri
    exact (hjoins.serves_iff_settled hother.pathOnly htarget hfaithful.written (.inr hfaithful.inside)).mpr
      hfaithful.settled
  refine ⟨?_, ⟨?_, ?_⟩, ⟨?_, ?_⟩⟩
  · intro hjoins hwritten hstay sent hsends
    obtain rfl := hsends.uri
    exact hjoins.serves_iff_settled hfronts.pathOnly hrooted hwritten hstay
  · intro hfaithful other hother hjoins
    exact hserves other hother hjoins uri hrooted hfaithful
  · intro h
    refine faithful_of_serves (r := { uri }) hrooted fun n => ?_
    exact h (deep n) (deep_fronts n) (deep_mount n).joins { uri } (sends_identified (deep n) uri)
  · exact fun hjoins => hserves config hfronts hjoins
  · intro h
    have hsends := sends_identified config Uri.root
    exact joins_of_serves hfronts.pathOnly hsends.uri (h .root Uri.root_rooted Uri.root_faithful _ hsends)

/-- A backend with a path of its own and a slash at its end. -/
def appConfig : Config :=
  { backendUrl := "http://127.0.0.1:3000/app/" }

/-- A target that climbs within its own path, in escapes, to an escaped name. -/
def climbing : Uri :=
  { rawPath := "/public/%2E%2e/%61dmin", query := some "x=1" }

theorem appConfig_fronts : appConfig.Fronts :=
  ⟨⟨_, rfl⟩, by simp [appConfig]⟩

theorem appConfig_joins : Joins appConfig.backendUrl :=
  ⟨_, _, rfl, rfl, by decide⟩

theorem climbing_rooted : climbing.Rooted :=
  ⟨⟨"/public/%2E%2e/%61dmin?x=1", by decide⟩, by decide⟩

theorem climbing_faithful : climbing.Faithful where
  written := .inl (by decide)
  inside := by
    unfold Uri.StaysInside
    decide
  settled := by decide

theorem climbing_served : appConfig.Fronts ∧ climbing.Rooted ∧ Joins appConfig.backendUrl ∧ climbing.Faithful ∧
    Sends appConfig climbing { uri := climbing } ∧ Serves appConfig.backendUrl { uri := climbing } := by
  have hsends : Sends appConfig climbing { uri := climbing } := sends_identified appConfig climbing
  refine ⟨appConfig_fronts, climbing_rooted, appConfig_joins, climbing_faithful, hsends, ?_⟩
  have hserves := (serves_iff_faithful appConfig_fronts climbing_rooted).2.1.mp climbing_faithful
  exact hserves appConfig appConfig_fronts appConfig_joins { uri := climbing } hsends

/-- A target whose dot segment stands between backslashes: nothing in it calls for normalisation. -/
def backslashed : Uri :=
  { rawPath := "/public\\..\\admin" }

theorem backslashed_not_served : ({} : Config).Fronts ∧ backslashed.Rooted ∧
    Sends {} backslashed { uri := backslashed } ∧ ¬Serves ({} : Config).backendUrl { uri := backslashed } := by
  have hrooted : backslashed.Rooted := ⟨⟨"/public\\..\\admin", by decide⟩, by decide⟩
  refine ⟨⟨⟨_, rfl⟩, by simp⟩, hrooted, sends_identified {} backslashed, ?_⟩
  rintro ⟨w, out, tail, hw, hout, hpath, hnormal⟩
  cases hw
  cases hout
  have htail : ['/', 'a', 'd', 'm', 'i', 'n'] = tail := hpath
  rw [← htail] at hnormal
  exact absurd hnormal (by decide)

end Forward

end Portcullis.Boundary

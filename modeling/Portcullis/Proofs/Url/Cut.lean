import Portcullis.Proofs.Url.Written
import Portcullis.Url.Parse

/-!
# The parts of an address

An address of the web is cut into its parts in one way, and what is written behind it goes to its path and query.
-/

namespace Portcullis.Url
open Parse

/-- An address cut into its parts: the scheme, the slashes behind its colon, the authority and what is behind it. -/
structure Cut where
  scheme : List Char
  slashes : List Char
  authority : List Char
  behind : List Char

namespace Cut

def front (d : Cut) : List Char :=
  d.scheme ++ ':' :: (d.slashes ++ d.authority)

def chars (d : Cut) : List Char :=
  d.front ++ d.behind

/-- Each part ends where the next one begins. -/
structure Valid (d : Cut) : Prop where
  letter : d.scheme.head?.any Char.isAlpha = true
  scheme : ∀ c ∈ d.scheme, isSchemeChar c = true
  slashes : ∀ c ∈ d.slashes, isSlash c = true
  nonempty : d.authority ≠ []
  authority : ∀ c ∈ d.authority, endsAuthority true c = false
  behind : ∀ c ∈ d.behind.head?, endsAuthority true c = true

/-- The parts are those of the web address `v`. -/
structure Reads (d : Cut) (v : Web) : Prop extends d.Valid where
  isWeb : v.scheme = "http" ∨ v.scheme = "https"
  name : String.ofList (d.scheme.map Char.toLower) = v.scheme
  server : Parse.authority v.scheme d.authority = .ok v.authority
  path : (pathAndQuery d.behind).1 = v.path
  query : (pathAndQuery d.behind).2 = v.query

end Cut

/-! ## Cutting -/

theorem takeWhile_append_of_head {p : Char → Bool} {xs ys : List Char} (hx : ∀ c ∈ xs, p c = true)
    (hy : ∀ c ∈ ys.head?, p c = false) : (xs ++ ys).takeWhile p = xs := by
  rw [List.takeWhile_append_of_pos hx]
  cases ys with
  | nil => rw [List.takeWhile_nil, List.append_nil]
  | cons c rest => rw [List.takeWhile_cons_of_neg (by simp [hy c rfl]), List.append_nil]

theorem dropWhile_append_of_head {p : Char → Bool} {xs ys : List Char} (hx : ∀ c ∈ xs, p c = true)
    (hy : ∀ c ∈ ys.head?, p c = false) : (xs ++ ys).dropWhile p = ys := by
  rw [List.dropWhile_append_of_pos hx]
  cases ys with
  | nil => rfl
  | cons c rest => rw [List.dropWhile_cons_of_neg (by simp [hy c rfl])]

theorem not_of_head_dropWhile {p : Char → Bool} {cs : List Char} {c : Char} (h : c ∈ (cs.dropWhile p).head?) :
    p c = false := by
  induction cs with
  | nil => simp at h
  | cons d rest ih =>
    rw [List.dropWhile_cons] at h
    split at h
    · exact ih h
    · obtain rfl := Option.some.inj h
      simpa using ‹¬p d = true›

theorem endsAuthority_of_isSlash {c : Char} (h : isSlash c = true) : endsAuthority true c = true := by
  simp only [isSlash, Bool.or_eq_true, beq_iff_eq] at h
  obtain rfl | rfl := h <;> decide

theorem not_isSchemeChar_colon : isSchemeChar ':' = false := by
  decide

namespace Cut
variable {d : Cut}

theorem Valid.head_authority (h : d.Valid) : ∀ c ∈ (d.authority ++ d.behind).head?, isSlash c = false := by
  intro c hc
  obtain ⟨a, rest, ha⟩ := List.exists_cons_of_ne_nil h.nonempty
  rw [ha, List.cons_append, List.head?_cons, Option.mem_some_iff] at hc
  subst hc
  have hends := h.authority a (ha ▸ List.mem_cons_self)
  cases hs : isSlash a with
  | false => rfl
  | true => rw [endsAuthority_of_isSlash hs] at hends; cases hends

theorem chars_eq (d : Cut) : d.chars = d.scheme ++ ':' :: (d.slashes ++ (d.authority ++ d.behind)) := by
  simp [chars, front]

theorem Valid.scheme? (h : d.Valid) : Parse.scheme? d.chars =
    some (String.ofList (d.scheme.map Char.toLower), d.slashes ++ (d.authority ++ d.behind)) := by
  have hcolon : ∀ c ∈ (':' :: (d.slashes ++ (d.authority ++ d.behind))).head?, isSchemeChar c = false := by
    intro c hc
    obtain rfl := Option.some.inj hc
    exact not_isSchemeChar_colon
  have hhead : (d.chars.head?.any Char.isAlpha) = true := by
    have hletter := h.letter
    rw [chars_eq]
    cases hs : d.scheme with
    | nil => rw [hs] at hletter; cases hletter
    | cons c rest => rw [hs] at hletter; exact hletter
  rw [Parse.scheme?, hhead, chars_eq, takeWhile_append_of_head h.scheme hcolon,
    dropWhile_append_of_head h.scheme hcolon]
  rfl

theorem Valid.web (h : d.Valid) (scheme : String) :
    Parse.web scheme (d.slashes ++ (d.authority ++ d.behind)) = (Parse.authority scheme d.authority).map fun a =>
      ⟨scheme, a, (pathAndQuery d.behind).1, (pathAndQuery d.behind).2⟩ := by
  have hin : ∀ c ∈ d.authority, (!endsAuthority true c) = true := fun c hc => by simp [h.authority c hc]
  have hout : ∀ c ∈ d.behind.head?, (!endsAuthority true c) = false := fun c hc => by simp [h.behind c hc]
  unfold Parse.web
  rw [dropWhile_append_of_head h.slashes h.head_authority]
  dsimp only
  rw [takeWhile_append_of_head hin hout, dropWhile_append_of_head hin hout]
  cases Parse.authority scheme d.authority <;> rfl

/-- An address is cut in one way. -/
theorem Valid.behind_unique {e : Cut} (hd : d.Valid) (he : e.Valid) (h : d.chars = e.chars) : d.behind = e.behind := by
  have hscheme := hd.scheme?.symm.trans ((congrArg Parse.scheme? h).trans he.scheme?)
  have hrest := (Prod.mk.inj (Option.some.inj hscheme)).2
  have hslashes := congrArg (List.dropWhile isSlash) hrest
  rw [dropWhile_append_of_head hd.slashes hd.head_authority,
    dropWhile_append_of_head he.slashes he.head_authority] at hslashes
  have hbehind := congrArg (List.dropWhile (!endsAuthority true ·)) hslashes
  rwa [dropWhile_append_of_head (fun c hc => by simp [hd.authority c hc]) (fun c hc => by simp [hd.behind c hc]),
    dropWhile_append_of_head (fun c hc => by simp [he.authority c hc]) (fun c hc => by simp [he.behind c hc])]
    at hbehind

end Cut

/-! ## Reading -/

/-- Reads an address without blanks around it and without line breaks. -/
def read (cs : List Char) : Except Defect Parsed :=
  match Parse.scheme? cs with
  | none => .error .noScheme
  | some (scheme, rest) =>
    if scheme == "http" || scheme == "https" then (Parse.web scheme rest).map .web
    else if (usualPort? scheme).isSome then (Parse.web scheme rest).map fun _ => .other scheme
    else (Parse.other scheme rest).map fun _ => .other scheme

def clean (cs : List Char) : List Char :=
  (Text.dropEndWhile isEdge (cs.dropWhile isEdge)).filter (!isSkipped ·)

theorem parse?_eq (s : String) : parse? s = read (clean s.toList) :=
  rfl

theorem scheme?_eq_some {cs rest : List Char} {scheme : String} (h : Parse.scheme? cs = some (scheme, rest)) :
    cs.head?.any Char.isAlpha = true ∧ cs = cs.takeWhile isSchemeChar ++ ':' :: rest ∧
      scheme = String.ofList ((cs.takeWhile isSchemeChar).map Char.toLower) := by
  unfold Parse.scheme? at h
  split at h
  · cases h
  · rename_i halpha
    split at h
    · rename_i rest' hdrop
      cases h
      refine ⟨by simpa using halpha, ?_, rfl⟩
      rw [← hdrop, List.takeWhile_append_dropWhile]
    · cases h

/-- Cuts what follows the colon of a scheme. -/
def cutAt (scheme rest : List Char) : Cut :=
  let cs := rest.dropWhile isSlash
  ⟨scheme, rest.takeWhile isSlash, cs.takeWhile (!endsAuthority true ·), cs.dropWhile (!endsAuthority true ·)⟩

theorem web_eq_ok {scheme : String} {rest : List Char} {v : Web} (h : Parse.web scheme rest = .ok v)
    (name : List Char) : v.scheme = scheme ∧ Parse.authority scheme (cutAt name rest).authority = .ok v.authority ∧
      (pathAndQuery (cutAt name rest).behind).1 = v.path ∧ (pathAndQuery (cutAt name rest).behind).2 = v.query := by
  unfold Parse.web at h
  dsimp only at h
  cases ha : Parse.authority scheme (cutAt name rest).authority with
  | error e => rw [show List.takeWhile _ _ = (cutAt name rest).authority from rfl, ha] at h; cases h
  | ok a =>
    rw [show List.takeWhile _ _ = (cutAt name rest).authority from rfl, ha] at h
    cases h
    exact ⟨rfl, rfl, rfl, rfl⟩

theorem authority_nil (scheme : String) : Parse.authority scheme [] = .error .emptyHost :=
  rfl

theorem cutAt_valid {cs rest : List Char} (halpha : cs.head?.any Char.isAlpha = true)
    (hcs : cs = cs.takeWhile isSchemeChar ++ ':' :: rest)
    (hne : (cutAt (cs.takeWhile isSchemeChar) rest).authority ≠ []) :
    (cutAt (cs.takeWhile isSchemeChar) rest).Valid where
  letter := by
    cases hname : cs.takeWhile isSchemeChar with
    | nil =>
      rw [hname, List.nil_append] at hcs
      rw [hcs] at halpha
      exact absurd halpha (by decide : ¬Char.isAlpha ':' = true)
    | cons c name =>
      rw [hname] at hcs
      rw [hcs] at halpha
      exact halpha
  scheme := List.all_eq_true.mp List.all_takeWhile
  slashes := List.all_eq_true.mp List.all_takeWhile
  nonempty := hne
  authority := fun c hc => by simpa using List.all_eq_true.mp List.all_takeWhile c hc
  behind := fun c hc => by simpa using not_of_head_dropWhile hc

theorem read_web {cs : List Char} {v : Web} : read cs = .ok (.web v) ↔ ∃ d : Cut, d.chars = cs ∧ d.Reads v := by
  constructor
  · intro h
    unfold read at h
    split at h
    · cases h
    · rename_i scheme rest hs
      obtain ⟨halpha, hcs, hname⟩ := scheme?_eq_some hs
      split at h
      · rename_i hweb
        cases hw : Parse.web scheme rest with
        | error e => rw [hw] at h; cases h
        | ok w =>
          rw [hw] at h
          cases h
          obtain ⟨hscheme, hserver, hpath, hquery⟩ := web_eq_ok hw (cs.takeWhile isSchemeChar)
          refine ⟨cutAt (cs.takeWhile isSchemeChar) rest, ?_, cutAt_valid halpha hcs ?_, ?_, ?_, ?_, hpath, hquery⟩
          · rw [Cut.chars_eq]
            simp only [cutAt, List.takeWhile_append_dropWhile]
            exact hcs.symm
          · intro hnil
            rw [hnil, authority_nil] at hserver
            cases hserver
          · simpa [hscheme] using hweb
          · rw [hscheme, hname]
            rfl
          · rw [hscheme]
            exact hserver
      · split at h
        · cases hw : Parse.web scheme rest <;> rw [hw] at h <;> cases h
        · cases hw : Parse.other scheme rest <;> rw [hw] at h <;> cases h
  · rintro ⟨d, rfl, h⟩
    rw [read, h.scheme?, h.name]
    have hweb : (v.scheme == "http" || v.scheme == "https") = true := by simpa using h.isWeb
    simp only [hweb, if_true, h.toValid.web, h.server]
    rw [h.path, h.query]
    rfl

theorem pathAndQuery_fst {path rest : List Char} (hpath : ∀ c ∈ path, c ≠ '?' ∧ c ≠ '#')
    (hrest : ∀ c ∈ rest.head?, c = '?') : (pathAndQuery (path ++ rest)).1 = parsePath path := by
  have hin : ∀ c ∈ path, (c != '?' && c != '#') = true := fun c hc => by simp [hpath c hc]
  have hout : ∀ c ∈ rest.head?, (c != '?' && c != '#') = false := fun c hc => by simp [hrest c hc]
  unfold pathAndQuery
  dsimp only
  rw [takeWhile_append_of_head hin hout]

theorem pathAndQuery_of_path {path : List Char} (hpath : ∀ c ∈ path, c ≠ '?' ∧ c ≠ '#') :
    pathAndQuery path = (parsePath path, none) := by
  have hin : ∀ c ∈ path, (c != '?' && c != '#') = true := fun c hc => by simp [hpath c hc]
  have hdrop : (path ++ []).dropWhile _ = [] := dropWhile_append_of_head hin (by simp)
  have htake : (path ++ []).takeWhile _ = path := takeWhile_append_of_head hin (by simp)
  rw [List.append_nil] at hdrop htake
  unfold pathAndQuery
  dsimp only
  rw [hdrop, htake]

end Portcullis.Url

import Portcullis.Proofs.Http.Target
import Portcullis.Proofs.Net.Address

/-!
# Hosts and locations

A host is a name, or an address of sixteen bytes in brackets. It is found in an authority, with or without a port. What
is put together of the secure scheme, a host and the path and query of a target is read as a target with these parts.
-/

namespace Portcullis.Http
open Url

/-! ## Hosts -/

/-- A character that an authority may hold and that separates no parts of it. -/
def isNameChar (c : Char) : Bool :=
  Uri.isAuthorityChar c && !":@[]".toList.contains c

/-- A host: a name, or an address of sixteen bytes in brackets. -/
inductive IsHost : List Char → Prop where
  | name {cs : List Char} : cs ≠ [] → (∀ c ∈ cs, isNameChar c = true) → IsHost cs
  | address {cs : List Char} {a : Net.Ipv6} : Net.Ipv6.read? cs = some (a, []) → IsHost ('[' :: (cs ++ [']']))

/-- What may stand behind a host: nothing, or a colon and a port. -/
def IsPort (tail : List Char) : Prop :=
  tail = [] ∨ ∃ digits, (∀ c ∈ digits, c.isDigit = true) ∧ tail = ':' :: digits

theorem isNameChar_iff {c : Char} : isNameChar c = true ↔
    Uri.isAuthorityChar c = true ∧ c ≠ ':' ∧ c ≠ '@' ∧ c ≠ '[' ∧ c ≠ ']' := by
  simp [isNameChar]

theorem isNameChar_of_isHex {c : Char} (h : Ascii.isHex c = true) : isNameChar c = true :=
  forall_of_isHex (P := (isNameChar · = true)) (by decide +kernel) h

/-- The inside of brackets is made of characters of names and colons. -/
theorem isNameChar_of_isAddressChar {c : Char} (h : Net.isAddressChar c = true) : c = ':' ∨ isNameChar c = true := by
  simp only [Net.isAddressChar, Bool.or_eq_true, beq_iff_eq] at h
  obtain (h | rfl) | rfl := h
  · exact .inr (isNameChar_of_isHex h)
  · exact .inl rfl
  · exact .inr (by decide)

theorem isNameChar_of_mem_address {cs : List Char} {a : Net.Ipv6} (h : Net.Ipv6.read? cs = some (a, [])) :
    ∀ c ∈ cs, c = ':' ∨ isNameChar c = true := fun c hc =>
  isNameChar_of_isAddressChar ((Net.Ipv6.chars_of_read? h).1 c hc)

theorem IsHost.isAuthorityChar {host : List Char} (h : IsHost host) :
    ∀ c ∈ host, Uri.isAuthorityChar c = true ∧ c ≠ '@' := by
  have hname : ∀ {c}, isNameChar c = true → Uri.isAuthorityChar c = true ∧ c ≠ '@' := fun hc =>
    ⟨(isNameChar_iff.mp hc).1, (isNameChar_iff.mp hc).2.2.1⟩
  cases h with
  | name _ hchars => exact fun c hc => hname (hchars c hc)
  | address hread =>
    simp only [List.mem_cons, List.mem_append, List.not_mem_nil, or_false]
    rintro c (rfl | hc | rfl)
    · decide
    · rcases isNameChar_of_mem_address hread c hc with rfl | hc
      · decide
      · exact hname hc
    · decide

theorem IsHost.ne_nil {host : List Char} (h : IsHost host) : host ≠ [] := by
  cases h with
  | name hne => exact hne
  | address => exact List.cons_ne_nil _ _

theorem IsPort.head {tail : List Char} (h : IsPort tail) : ∀ c ∈ tail.head?, c = ':' := by
  rcases h with rfl | ⟨digits, -, rfl⟩
  · simp
  · simp

theorem IsPort.ne {tail : List Char} (h : IsPort tail) {d : Char} (hcolon : d ≠ ':') (hdigit : d.isDigit = false) :
    ∀ c ∈ tail, c ≠ d := by
  rintro c hc rfl
  rcases h with rfl | ⟨digits, hdigits, rfl⟩
  · cases hc
  · rcases List.mem_cons.mp hc with hc | hc
    · exact hcolon hc
    · rw [hdigits c hc] at hdigit
      cases hdigit

namespace Uri

/-! ## Authorities -/

theorem push_of_isNameChar {c : Char} (h : isNameChar c = true) {s : AuthorityScan} (hs : s.lastAt = false) :
    s.push c = some s := by
  obtain ⟨hc, hcolon, hat, hopen, hclose⟩ := isNameChar_iff.mp h
  have hpercent : c ≠ '%' := by
    rintro rfl
    exact absurd hc (by decide)
  simp [AuthorityScan.push, hc, hcolon, hat, hopen, hclose, hpercent, ← hs]

theorem foldlM_push_name {cs : List Char} (h : ∀ c ∈ cs, isNameChar c = true) :
    cs.foldlM AuthorityScan.push {} = some {} := by
  induction cs with
  | nil => rfl
  | cons c rest ih =>
    obtain ⟨hc, hrest⟩ := List.forall_mem_cons.mp h
    rw [List.foldlM_cons, push_of_isNameChar hc rfl, Option.bind_eq_bind, Option.bind_some, ih hrest]

/-- The scan counts the colons in brackets, of which there may be eight. -/
theorem foldlM_push_address {cs : List Char} (h : ∀ c ∈ cs, Net.isAddressChar c = true) {n : Nat}
    (hcount : n + cs.count ':' ≤ 8) :
    cs.foldlM AuthorityScan.push { colons := n, opened := true } =
      some { colons := n + cs.count ':', opened := true } := by
  induction cs generalizing n with
  | nil => rfl
  | cons c rest ih =>
    obtain ⟨hc, hrest⟩ := List.forall_mem_cons.mp h
    rw [List.foldlM_cons]
    rcases isNameChar_of_isAddressChar hc with rfl | hc
    · rw [List.count_cons_self] at hcount ⊢
      have hpush : AuthorityScan.push { colons := n, opened := true } ':' =
          some { colons := n + 1, opened := true } := by
        simp [AuthorityScan.push]
        omega
      rw [hpush, Option.bind_eq_bind, Option.bind_some, ih hrest (by omega)]
      simp only [Option.some.injEq, AuthorityScan.mk.injEq, and_true]
      omega
    · have hne : c ≠ ':' := (isNameChar_iff.mp hc).2.1
      rw [List.count_cons_of_ne hne] at hcount ⊢
      rw [push_of_isNameChar hc rfl, Option.bind_eq_bind, Option.bind_some, ih hrest hcount]

theorem isAuthority_of_isHost {host : List Char} (h : IsHost host) : isAuthority host = true := by
  cases h with
  | name _ hchars =>
    rw [isAuthority, foldlM_push_name hchars]
    rfl
  | @address cs _ hread =>
    obtain ⟨hchars, hcount⟩ := Net.Ipv6.chars_of_read? hread
    have hopen : AuthorityScan.push {} '[' = some { opened := true } := rfl
    rw [isAuthority, List.foldlM_cons, hopen, Option.bind_eq_bind, Option.bind_some, List.foldlM_append,
      foldlM_push_address hchars (by omega)]
    rfl

/-- The authority ends in the text, and if there is more, that is user information. -/
def EndsIn (authority text : List Char) : Prop :=
  authority = text ∨ ∃ user, authority = user ++ '@' :: text

theorem host_of_endsIn {u : Uri} {host tail : List Char} (hhost : IsHost host) (hport : IsPort tail)
    (h : EndsIn u.authority.toList (host ++ tail)) : u.host = String.ofList host := by
  have hat : ∀ c ∈ (host ++ tail).reverse, (c != '@') = true := by
    intro c hc
    rcases List.mem_append.mp (List.mem_reverse.mp hc) with hc | hc
    · exact bne_iff_ne.mpr (hhost.isAuthorityChar c hc).2
    · exact bne_iff_ne.mpr (hport.ne (by decide) (by decide) c hc)
  have hbehind : (u.authority.toList.reverse.takeWhile (· != '@')).reverse = host ++ tail := by
    rcases h with h | ⟨user, h⟩
    · rw [h, List.takeWhile_eq_self_iff.mpr hat, List.reverse_reverse]
    · rw [h, List.reverse_append, List.reverse_cons, List.append_assoc, takeWhile_append_of_head hat (by simp),
        List.reverse_reverse]
  rw [Uri.host, hbehind]
  cases hhost with
  | name hne hchars =>
    have hcolon : ∀ c ∈ host, (c != ':') = true := fun c hc =>
      bne_iff_ne.mpr (isNameChar_iff.mp (hchars c hc)).2.1
    have htake : (host ++ tail).takeWhile (· != ':') = host :=
      takeWhile_append_of_head hcolon fun c hc => by rw [hport.head c hc]; rfl
    split
    · rename_i rest heq
      obtain ⟨first, more, rfl⟩ := List.exists_cons_of_ne_nil hne
      obtain rfl : first = '[' := (List.cons.inj heq).1
      exact absurd (hchars _ (.head _)) (by decide)
    · rw [htake]
  | @address cs _ hread =>
    have hclose : ∀ c ∈ '[' :: cs, (c != ']') = true := by
      rintro c (_ | ⟨_, hc⟩)
      · decide
      · rcases isNameChar_of_mem_address hread c hc with rfl | hc
        · decide
        · exact bne_iff_ne.mpr (isNameChar_iff.mp hc).2.2.2.2
    have htake : (('[' :: cs) ++ ']' :: tail).takeWhile (· != ']') = '[' :: cs :=
      takeWhile_append_of_head hclose (by simp)
    have hdrop : (('[' :: cs) ++ ']' :: tail).dropWhile (· != ']') = ']' :: tail :=
      dropWhile_append_of_head hclose (by simp)
    have hsplit : '[' :: (cs ++ [']']) ++ tail = ('[' :: cs) ++ ']' :: tail := by simp
    rw [hsplit, htake, hdrop]
    rfl

/-! ## Locations -/

theorem endsAuthority_of_isAuthorityChar {c : Char} (h : isAuthorityChar c = true) : endsAuthority c = false := by
  rw [Bool.eq_false_iff]
  intro hends
  simp only [endsAuthority, Bool.or_eq_true, beq_iff_eq] at hends
  obtain (rfl | rfl) | rfl := hends <;> exact absurd h (by decide)

/-- What is behind the secure scheme is cut into an authority and the rest of the target. -/
theorem parse?_https {s : String} {authority rest : List Char}
    (hs : s.toList = "https://".toList ++ (authority ++ rest)) (hauthority : ∀ c ∈ authority, endsAuthority c = false)
    (hrest : ∀ c ∈ rest.head?, endsAuthority c = true) {u : Uri} : parse? s = some u ↔
      s.utf8ByteSize ≤ maxLength ∧ isAuthority authority = true ∧ authority ≠ [] ∧
        ∃ path query, parsePath? rest = some (path, query) ∧
          { scheme := some "https", authority := String.ofList authority, rawPath := path, query } = u := by
  have htake : (authority ++ rest).takeWhile (!endsAuthority ·) = authority :=
    takeWhile_append_of_head (fun c hc => by rw [hauthority c hc]; rfl) fun c hc => by rw [hrest c hc]; rfl
  have hdrop : (authority ++ rest).dropWhile (!endsAuthority ·) = rest :=
    dropWhile_append_of_head (fun c hc => by rw [hauthority c hc]; rfl) fun c hc => by rw [hrest c hc]; rfl
  have hchars : s.toList = 'h' :: 't' :: 't' :: 'p' :: 's' :: ':' :: '/' :: '/' :: (authority ++ rest) := hs
  have hscheme : cutScheme? s.toList = some (some "https", authority ++ rest) := by
    rw [hchars]
    rfl
  -- of the forms that a target can have, the first letter leaves the one with a scheme
  unfold parse?
  simp only [hscheme]
  rw [hchars]
  simp only [Option.bind_eq_bind, Option.bind_some, htake, hdrop]
  by_cases hlong : s.utf8ByteSize > maxLength
  · rw [if_pos hlong]
    exact iff_of_false nofun fun h => Nat.not_le.mpr hlong h.1
  rw [if_neg hlong]
  by_cases hscan : isAuthority authority = true
  · by_cases hempty : authority = []
    · simp [hempty]
    · simp [hscan, hempty, Nat.le_of_not_lt hlong, Option.bind_eq_some_iff]
  · simp [hscan]

theorem scheme_of_parse?_https {s : String} {cs : List Char} (hs : s.toList = "https://".toList ++ cs) {u : Uri}
    (h : parse? s = some u) : u.scheme = some "https" := by
  rw [← List.takeWhile_append_dropWhile (p := (!endsAuthority ·)) (l := cs)] at hs
  have hauthority : ∀ c ∈ cs.takeWhile (!endsAuthority ·), endsAuthority c = false := fun c hc => by
    simpa using List.mem_takeWhile_imp hc
  have hrest : ∀ c ∈ (cs.dropWhile (!endsAuthority ·)).head?, endsAuthority c = true := fun c hc => by
    simpa using not_of_head_dropWhile hc
  obtain ⟨-, -, -, _, _, -, rfl⟩ := (parse?_https hs hauthority hrest).mp h
  rfl

/-- A path and a query are read as they are written. -/
theorem parsePath?_written {path : String} {query : Option String} (hpath : ∀ c ∈ path.toList, isPathChar c = true)
    (hquery : ∀ text ∈ query, ∀ c ∈ text.toList, isQueryChar c = true) :
    parsePath? (path ++ (query.map ("?" ++ ·)).getD "").toList = some (path, query) := by
  have hin : ∀ c ∈ path.toList, (c != '?' && c != '#') = true := fun c hc => by
    simp [not_mark_of_isPathChar (hpath c hc)]
  have hplain : path.toList.all isPathChar = true := List.all_eq_true.mpr hpath
  cases query with
  | none =>
    have htake : path.toList.takeWhile (fun c => c != '?' && c != '#') = path.toList :=
      List.takeWhile_eq_self_iff.mpr hin
    have hdrop : path.toList.dropWhile (fun c => c != '?' && c != '#') = [] := List.dropWhile_eq_nil_iff.mpr hin
    simp [parsePath?, htake, hdrop, hplain]
  | some text =>
    have htext : ∀ c ∈ text.toList, (c != '#') = true := by
      rintro c hc
      rw [bne_iff_ne]
      rintro rfl
      exact absurd (hquery text rfl _ hc) (by decide)
    have htake : (path.toList ++ '?' :: text.toList).takeWhile (fun c => c != '?' && c != '#') = path.toList :=
      takeWhile_append_of_head hin (by simp)
    have hdrop : (path.toList ++ '?' :: text.toList).dropWhile (fun c => c != '?' && c != '#') = '?' :: text.toList :=
      dropWhile_append_of_head hin (by simp)
    have hwhole : text.toList.takeWhile (· != '#') = text.toList := List.takeWhile_eq_self_iff.mpr htext
    have hvalid : text.toList.all isQueryChar = true := List.all_eq_true.mpr (hquery text rfl)
    simp [parsePath?, htake, hdrop, hwhole, hplain, hvalid]

variable {uri : Uri}

theorem path_or_root (uri : Uri) :
    (if uri.path = "" then "/" else uri.path) = if uri.rawPath = "" then "/" else uri.rawPath := by
  by_cases hraw : uri.rawPath = ""
  · rw [path, hraw]
    split
    · rfl
    · rfl
  · have hpath : uri.path = uri.rawPath := if_neg (by simp [hraw])
    rw [hpath]

/-- What is sent on of a target is read as its path and query, with the root for no path. -/
theorem WellFormed.exists_parsePath? (h : uri.WellFormed) : ∃ path,
    parsePath? (uri.pathAndQuery?.getD "/").toList = some (path, uri.query) ∧
      (if path = "" then "/" else path) = if uri.path = "" then "/" else uri.path := by
  have hroot : uri.rawPath = "" → uri.query = none → ∃ path, parsePath? "/".toList = some (path, uri.query) ∧
      (if path = "" then "/" else path) = if uri.rawPath = "" then "/" else uri.rawPath := fun hraw hquery =>
    ⟨"/", by rw [hquery]; rfl, by rw [hraw]; rfl⟩
  rw [path_or_root, pathAndQuery?]
  split
  · rename_i hbare
    simp only [Bool.and_eq_true, Option.isNone_iff_eq_none, Bool.not_eq_true', Bool.eq_false_iff, ne_eq,
      String.isEmpty_iff] at hbare
    obtain ⟨hraw, hquery⟩ := h.bare hbare.1 hbare.2
    exact hroot hraw hquery
  · dsimp only
    rw [Option.getD_some]
    split
    · rename_i hempty
      rw [String.isEmpty_iff, String.append_eq_empty_iff] at hempty
      obtain ⟨hraw, hquery⟩ := hempty
      refine hroot hraw ?_
      cases hq : uri.query with
      | none => rfl
      | some text =>
        rw [hq] at hquery
        simp at hquery
    · exact ⟨uri.rawPath, parsePath?_written h.path h.query, rfl⟩

/-- The location of a target at a host by secure connection. -/
def location (host : List Char) (uri : Uri) : String :=
  "https://" ++ String.ofList host ++ uri.pathAndQuery?.getD "/"

/-- The place of a target at a host by secure connection: the authority is the host without a port, and the path and
query are those of the target, with the root for no path. -/
structure IsSecured (u : Uri) (host : List Char) (uri : Uri) : Prop where
  scheme : u.scheme = some "https"
  authority : u.authority = String.ofList host
  host : u.host = String.ofList host
  path : u.path = if uri.path = "" then "/" else uri.path
  query : u.query = uri.query

theorem toList_location (host : List Char) (uri : Uri) :
    (location host uri).toList = "https://".toList ++ (host ++ (uri.pathAndQuery?.getD "/").toList) := by
  simp only [location, String.toList_append, String.toList_ofList, List.append_assoc]

/-- The asterisk ends no authority, and becomes a part of it. -/
theorem authority_of_location_asterisk {host : List Char} (hhost : IsHost host) {u : Uri}
    (h : parse? (location host asterisk) = some u) : u.authority = String.ofList (host ++ ['*']) := by
  have hchars : (location host asterisk).toList = "https://".toList ++ ((host ++ ['*']) ++ []) := by
    rw [toList_location, List.append_nil]
    rfl
  have hends : ∀ c ∈ host ++ ['*'], endsAuthority c = false := by
    intro c hc
    rcases List.mem_append.mp hc with hc | hc
    · exact endsAuthority_of_isAuthorityChar (hhost.isAuthorityChar c hc).1
    · obtain rfl := List.mem_singleton.mp hc
      decide
  obtain ⟨-, -, -, _, _, -, rfl⟩ := (parse?_https hchars hends (by simp)).mp h
  rfl

/-- A location is read as the place that it is written for, unless the target is the asterisk, or the location is too
long to be read at all. -/
theorem parse?_location_iff {t : String} {host : List Char} (ht : parse? t = some uri) (hhost : IsHost host) :
    (∃ u, parse? (location host uri) = some u ∧ u.IsSecured host uri) ↔
      uri ≠ asterisk ∧ (location host uri).utf8ByteSize ≤ maxLength := by
  rcases head_of_parse? ht with rfl | ⟨first, rest, htarget, hfirst⟩
  · refine iff_of_false ?_ fun h => h.1 rfl
    rintro ⟨u, hu, hsecured⟩
    have hlength := congrArg String.length (hsecured.authority.symm.trans (authority_of_location_asterisk hhost hu))
    simp at hlength
  · have hne : uri ≠ asterisk := by
      rintro rfl
      obtain rfl : '*' = first := (List.cons.inj htarget).1
      simp at hfirst
    have hends : ∀ c ∈ host, endsAuthority c = false := fun c hc =>
      endsAuthority_of_isAuthorityChar (hhost.isAuthorityChar c hc).1
    have hbehind : ∀ c ∈ (uri.pathAndQuery?.getD "/").toList.head?, endsAuthority c = true := by
      intro c hc
      rw [htarget] at hc
      obtain rfl := Option.some.inj hc
      rcases hfirst with rfl | rfl <;> rfl
    have hparse := @parse?_https _ _ _ (toList_location host uri) hends hbehind
    obtain ⟨path, hpath, hroot⟩ := (wellFormed_of_parse? ht).exists_parsePath?
    constructor
    · rintro ⟨u, hu, -⟩
      exact ⟨hne, (hparse.mp hu).1⟩
    · rintro ⟨-, hlength⟩
      refine ⟨_, hparse.mpr ⟨hlength, isAuthority_of_isHost hhost, hhost.ne_nil, path, _, hpath, rfl⟩, ?_⟩
      refine ⟨rfl, rfl, host_of_endsIn hhost (.inl rfl) (.inl ?_), ?_, rfl⟩
      · rw [String.toList_ofList, List.append_nil]
      · rw [← hroot, Uri.path]
        simp

end Uri

end Portcullis.Http

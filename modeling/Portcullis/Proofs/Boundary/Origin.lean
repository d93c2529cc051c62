import Portcullis.Boundary.Forward
import Portcullis.Proofs.Boundary.Forwarding
import Portcullis.Proofs.Url.Asterisk

/-!
# The origin of forwarded requests

What is sent on for a request goes to the scheme, the host and the port of the backend, whatever the target is. The
one exception is the asterisk: behind a backend that ends with its authority it makes another host of this.
-/

namespace Portcullis.Url
open Parse

/-- What gets behind the authority of an address is read with it. -/
theorem Cut.Reads.read_intruded {d : Cut} {w : Web} (h : d.Reads w) {more behind : List Char}
    (hmore : ∀ c ∈ more, isStray c = true) (hbehind : ∀ c ∈ behind.head?, endsAuthority true c = true) :
    read (d.front ++ (more ++ behind)) = (Parse.authority w.scheme (d.authority ++ more)).map fun a =>
      .web ⟨w.scheme, a, (pathAndQuery behind).1, (pathAndQuery behind).2⟩ := by
  let e : Cut := { d with authority := d.authority ++ more, behind }
  have hvalid : e.Valid := {
    letter := h.letter
    scheme := h.scheme
    slashes := h.slashes
    nonempty := List.append_ne_nil_of_left_ne_nil h.nonempty _
    authority := fun c hc => (List.mem_append.mp hc).elim (h.authority c) fun hc => by
      have hstray := hmore c hc
      rw [isStray, Bool.or_eq_true, beq_iff_eq] at hstray
      rcases hstray with hedge | rfl
      · exact not_endsAuthority_of_isEdge hedge
      · decide
    behind := hbehind }
  have hchars : d.front ++ (more ++ behind) = e.chars := by simp [e, Cut.chars, Cut.front]
  have hweb : (w.scheme == "http" || w.scheme == "https") = true := by simpa using h.isWeb
  have hname : String.ofList (e.scheme.map Char.toLower) = w.scheme := h.name
  rw [hchars, read, hvalid.scheme?, hname]
  simp only [hweb, if_true, hvalid.web]
  cases Parse.authority w.scheme e.authority <;> rfl

/-- What gets behind the authority of an address makes another host of it, or no address at all. -/
theorem Cut.Reads.intruded {d : Cut} {w : Web} (h : d.Reads w) {more behind : List Char}
    (hmore : ∀ c ∈ more, isStray c = true) (hsome : more ≠ [])
    (hbehind : ∀ c ∈ behind.head?, endsAuthority true c = true) {parsed : Parsed}
    (hparsed : read (d.front ++ (more ++ behind)) = .ok parsed) :
    (∀ c ∈ more, c = '*') ∧ ∃ v, parsed = .web v ∧ v.authority.host ≠ w.authority.host := by
  rw [h.read_intruded hmore hbehind] at hparsed
  cases hserver : Parse.authority w.scheme (d.authority ++ more) with
  | error defect =>
    rw [hserver] at hparsed
    cases hparsed
  | ok a =>
    rw [hserver] at hparsed
    cases hparsed
    obtain ⟨hall, hhost⟩ := authority_append h.server hmore hsome hserver
    exact ⟨hall, _, rfl, hhost⟩

end Portcullis.Url

namespace Portcullis.Boundary
open Http Url

theorem Config.web_of_check {c : Config} {a : Net.SocketAddress} (h : c.check = .ok a) :
    ∃ w, parse? c.backendUrl = .ok (.web w) := by
  unfold check at h
  split at h
  · cases h
  · cases h
  · exact ⟨_, ‹_›⟩

namespace Forward

/-- What is sent on for the target goes to the backend, if it can be sent at all. -/
def KeepsOrigin (backendUrl : String) (uri : Uri) : Prop :=
  ∀ w parsed, parse? backendUrl = .ok (.web w) → parse? (urlText backendUrl uri) = .ok parsed →
    ∃ v, parsed = .web v ∧ v.scheme = w.scheme ∧ v.authority.host = w.authority.host ∧
      v.authority.port = w.authority.port

/-- Something is written behind the authority of the backend, slashes at the very end apart. -/
def HasTail (backendUrl : String) : Prop :=
  ∃ d : Cut, d.Valid ∧ d.chars = lead (trimmed backendUrl) ∧ d.behind ≠ []

/-- A backend with its slashes at the end taken off: what it has behind its authority, and blanks at the very end. -/
structure Stem (backendUrl : String) (w : Web) (d : Cut) (path blanks : List Char) : Prop where
  parsed : parse? backendUrl = .ok (.web w)
  reads : d.Reads w
  lead_eq : lead (trimmed backendUrl) = d.front ++ (path ++ blanks)
  edges : ∀ c ∈ blanks, Parse.isEdge c = true
  head : ∀ c ∈ path.head?, Parse.endsAuthority true c = true

variable {backendUrl : String} {uri : Uri} {w : Web} {d : Cut} {path blanks : List Char}

theorem exists_stem (h : parse? backendUrl = .ok (.web w)) : ∃ d path blanks, Stem backendUrl w d path blanks := by
  have hlist : parse? (String.ofList backendUrl.toList) = .ok (.web w) := by rwa [String.ofList_toList]
  obtain ⟨d, path, blanks, hreads, hlead, hedges, hhead⟩ := Url.exists_stem hlist
  exact ⟨d, path, blanks, h, hreads, hlead, hedges, hhead⟩

theorem Stem.hasTail_iff (h : Stem backendUrl w d path blanks) : HasTail backendUrl ↔ path ≠ [] := by
  constructor
  · rintro ⟨e, hvalid, hchars, hne⟩ rfl
    refine hne ?_
    have hbare : Cut.Valid { d with authority := d.authority ++ blanks, behind := [] } := {
      letter := h.reads.letter
      scheme := h.reads.scheme
      slashes := h.reads.slashes
      nonempty := List.append_ne_nil_of_left_ne_nil h.reads.nonempty _
      authority := fun c hc => (List.mem_append.mp hc).elim (h.reads.authority c)
        fun hc => not_endsAuthority_of_isEdge (h.edges c hc)
      behind := by simp }
    refine hvalid.behind_unique hbare ?_
    rw [hchars, h.lead_eq]
    simp [Cut.chars, Cut.front]
  · intro hne
    obtain ⟨c, rest, rfl⟩ := List.exists_cons_of_ne_nil hne
    have hreads := h.reads.withBehind (c :: rest ++ blanks) h.head
    exact ⟨{ d with behind := c :: rest ++ blanks }, hreads.toValid, h.lead_eq.symm, List.cons_ne_nil _ _⟩

/-- What is written behind a backend with something behind its authority, or begins with the end of an authority, goes
to its path and query. -/
theorem Stem.keepsOrigin (h : Stem backendUrl w d path blanks) {target : List Char}
    (hparse : parse? (urlText backendUrl uri) = read (d.front ++ (path ++ (blanks ++ target))))
    (hhead : ∀ c ∈ (path ++ (blanks ++ target)).head?, Parse.endsAuthority true c = true) :
    KeepsOrigin backendUrl uri := by
  intro w' parsed hw' hparsed
  obtain rfl : w = w' := Parsed.web.inj (Except.ok.inj (h.parsed.symm.trans hw'))
  have hread := read_web.mpr ⟨{ d with behind := path ++ (blanks ++ target) }, rfl, h.reads.withBehind _ hhead⟩
  obtain rfl := Except.ok.inj (hparsed.symm.trans (hparse.trans hread))
  exact ⟨_, rfl, rfl, rfl, rfl⟩

/-- What is written behind a backend that ends with its authority gets into the authority. -/
theorem Stem.leavesOrigin (h : Stem backendUrl w d [] blanks) {more behind : List Char}
    (hparse : parse? (urlText backendUrl uri) = read (d.front ++ (more ++ behind)))
    (hmore : ∀ c ∈ more, isStray c = true) (hsome : more ≠ [])
    (hbehind : ∀ c ∈ behind.head?, Parse.endsAuthority true c = true) {parsed : Parsed}
    (hparsed : parse? (urlText backendUrl uri) = .ok parsed) : (∀ c ∈ more, c = '*') ∧ ¬KeepsOrigin backendUrl uri := by
  obtain ⟨hall, v, rfl, hhost⟩ := h.reads.intruded hmore hsome hbehind (hparse.symm.trans hparsed)
  refine ⟨hall, fun hkeeps => hhost ?_⟩
  obtain ⟨v', hv', -, hhost', -⟩ := hkeeps w _ h.parsed hparsed
  rw [Parsed.web.inj hv', hhost']

/-- A target that starts with a slash or a question mark is written behind the authority, or there is no URL. -/
theorem Stem.keepsOrigin_of_head (h : Stem backendUrl w d path blanks) {c : Char} {rest : List Char}
    (hparse : parse? (urlText backendUrl uri) = read (d.front ++ (path ++ (blanks ++ c :: rest))))
    (hc : Parse.endsAuthority true c = true) : KeepsOrigin backendUrl uri := by
  cases path with
  | cons x path => exact h.keepsOrigin hparse h.head
  | nil =>
    cases blanks with
    | nil => exact h.keepsOrigin hparse (by simpa using hc)
    | cons b blanks =>
      -- the blanks get into the authority, and no authority holds one
      intro w' parsed _ hparsed
      have hstray : ∀ a ∈ b :: blanks, isStray a = true := fun a ha => by rw [isStray, h.edges a ha, Bool.true_or]
      have hcut : parse? (urlText backendUrl uri) = read (d.front ++ (b :: blanks ++ c :: rest)) := hparse
      obtain ⟨hall, -⟩ := h.leavesOrigin hcut hstray (List.cons_ne_nil b blanks) (by simpa using hc) hparsed
      have hb : Parse.isEdge '*' = true := hall b List.mem_cons_self ▸ h.edges b List.mem_cons_self
      exact absurd hb (by decide)

theorem Stem.parse?_eq (h : Stem backendUrl w d path blanks) (huri : uri.WellFormed) {target : List Char}
    (htarget : (uri.pathAndQuery?.getD "/").toList = target) (hne : target ≠ []) :
    parse? (urlText backendUrl uri) = read (d.front ++ (path ++ (blanks ++ target))) := by
  subst htarget
  rw [urlText_eq, parse?_append _ hne huri.not_edge, h.lead_eq, List.append_assoc, List.append_assoc]

theorem Stem.parse?_asterisk (h : Stem backendUrl w d path blanks) :
    parse? (urlText backendUrl Uri.asterisk) = read (d.front ++ (path ++ (blanks ++ ['*']))) :=
  h.parse?_eq (Uri.wellFormed_of_parse? (show Uri.parse? "*" = some Uri.asterisk by decide)) rfl (List.cons_ne_nil _ _)

theorem Stem.parse?_bare (h : Stem backendUrl w d [] blanks) :
    parse? (urlText backendUrl Uri.asterisk) = read (d.front ++ (blanks ++ ['*'] ++ [])) := by
  rw [h.parse?_asterisk, List.nil_append, List.append_nil]

theorem isStray_of_blanks (h : ∀ c ∈ blanks, Parse.isEdge c = true) : ∀ c ∈ blanks ++ ['*'], isStray c = true := by
  intro c hc
  rcases List.mem_append.mp hc with hc | hc
  · rw [isStray, h c hc, Bool.true_or]
  · exact isStray_asterisk c hc

/-- The asterisk is kept out of the authority by what stands behind that, and by nothing else. -/
theorem Stem.keepsOrigin_asterisk_iff (h : Stem backendUrl w d path blanks) :
    KeepsOrigin backendUrl Uri.asterisk ↔
      HasTail backendUrl ∨ ∃ defect, parse? (urlText backendUrl Uri.asterisk) = .error defect := by
  rw [h.hasTail_iff]
  cases hparsed : parse? (urlText backendUrl Uri.asterisk) with
  | error defect =>
    refine iff_of_true (fun w' parsed _ hok => ?_) (.inr ⟨defect, rfl⟩)
    rw [hparsed] at hok
    cases hok
  | ok parsed =>
    cases path with
    | cons x path => exact iff_of_true (h.keepsOrigin h.parse?_asterisk h.head) (.inl (List.cons_ne_nil x path))
    | nil =>
      obtain ⟨-, hleaves⟩ := h.leavesOrigin h.parse?_bare (isStray_of_blanks h.edges) (by simp) (by simp) hparsed
      refine iff_of_false hleaves ?_
      rintro (hne | ⟨defect, herror⟩)
      · exact hne rfl
      · cases herror

/-- With the asterisk, a backend that ends with its authority is no URL exactly if blanks stand behind it, if there is
a colon for a port, if its host stands in brackets, or if the last label of this is in Punycode. -/
theorem Stem.error_asterisk_iff (h : Stem backendUrl w d [] blanks) :
    (∃ defect, parse? (urlText backendUrl Uri.asterisk) = .error defect) ↔
      blanks ≠ [] ∨ portPart d.authority ≠ [] ∨ (hostPart d.authority).head? = some '[' ∨
        EndsEncoded (hostPart d.authority) := by
  cases blanks with
  | nil =>
    rw [h.parse?_bare, List.nil_append, h.reads.read_intruded isStray_asterisk (by simp), exists_error_map,
      authority_asterisk h.reads.server]
    simp
  | cons b rest =>
    refine iff_of_true (exists_error_iff.mpr ?_) (.inl (List.cons_ne_nil b rest))
    rintro ⟨parsed, hok⟩
    obtain ⟨hall, -⟩ := h.leavesOrigin h.parse?_bare (isStray_of_blanks h.edges) (by simp) (by simp) hok
    have hb : Parse.isEdge '*' = true := hall b (by simp) ▸ h.edges b List.mem_cons_self
    exact absurd hb (by decide)

/-- Forwarding keeps to the origin of every accepted backend, for every target but the asterisk. For the asterisk it
does so exactly if the backend has something behind its authority, or if there is nothing to be sent, as
`Stem.error_asterisk_iff` has it. -/
theorem keepsOrigin_iff {c : Config} {address : Net.SocketAddress} (hc : c.check = .ok address) {text : String}
    {uri : Uri} (huri : Uri.parse? text = some uri) :
    KeepsOrigin c.backendUrl uri ↔ (uri = Uri.asterisk →
      HasTail c.backendUrl ∨ ∃ defect, parse? (urlText c.backendUrl Uri.asterisk) = .error defect) := by
  obtain ⟨w, hw⟩ := Config.web_of_check hc
  obtain ⟨d, path, blanks, h⟩ := exists_stem hw
  rcases Uri.head_of_parse? huri with rfl | ⟨x, rest, htarget, hx⟩
  · rw [h.keepsOrigin_asterisk_iff]
    exact ⟨fun htail _ => htail, fun htail => htail rfl⟩
  · have hwellFormed := Uri.wellFormed_of_parse? huri
    have hends : Parse.endsAuthority true x = true := by rcases hx with rfl | rfl <;> rfl
    refine iff_of_true (h.keepsOrigin_of_head (h.parse?_eq hwellFormed htarget (List.cons_ne_nil x rest)) hends) ?_
    rintro rfl
    obtain rfl : '*' = x := (List.cons.inj htarget).1
    exact absurd hends (by decide)

/-- A backend that ends with its authority. -/
def bareConfig : Config :=
  { backendUrl := "http://backend" }

theorem bareConfig_accepted : ∃ address, bareConfig.check = .ok address :=
  ⟨_, rfl⟩

/-- A target whose path reads like another authority. -/
def elsewhere : Uri :=
  { rawPath := "//elsewhere/x" }

theorem elsewhere_keeps_origin : (∃ address, bareConfig.check = .ok address) ∧
    Uri.parse? "//elsewhere/x" = some elsewhere ∧
    (∃ parsed, parse? (urlText bareConfig.backendUrl elsewhere) = .ok parsed) ∧
    KeepsOrigin bareConfig.backendUrl elsewhere := by
  obtain ⟨address, haddress⟩ := bareConfig_accepted
  have hread : Uri.parse? "//elsewhere/x" = some elsewhere := by decide
  refine ⟨⟨address, haddress⟩, hread, ⟨_, rfl⟩, (keepsOrigin_iff haddress hread).mpr fun hstar => ?_⟩
  exact absurd hstar (by decide)

theorem asterisk_leaves_origin : (∃ address, bareConfig.check = .ok address) ∧ Uri.parse? "*" = some Uri.asterisk ∧
    ¬KeepsOrigin bareConfig.backendUrl Uri.asterisk := by
  refine ⟨bareConfig_accepted, by decide, fun hkeeps => ?_⟩
  obtain ⟨v, hv, -, hhost, -⟩ := hkeeps _ _ rfl rfl
  cases hv
  exact absurd hhost (by decide)

end Forward

end Portcullis.Boundary

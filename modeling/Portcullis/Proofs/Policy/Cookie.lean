import Portcullis.Proofs.Text.Blank
import Portcullis.Proofs.Text.Encoding
import Portcullis.Policy.Action.Headers

/-!
# Cookies as text

A cookie is read twice, with two marks: its name ends at the first equals sign, and its attributes begin behind the
first semicolon. What a rule writes behind a cookie is found again among the attributes, so that a cookie that was
hardened needs nothing more, whatever its text was.
-/

namespace Portcullis

open Http

namespace Http.HeaderValue

/-- The characters of a value that can be read as text. -/
def IsReadableChar (c : Char) : Prop :=
  c.toNat = 9 ∨ (32 ≤ c.toNat ∧ c.toNat < 127)

theorem isReadableChar_of_chars? {v : HeaderValue} {cs : List Char} (h : v.chars? = some cs) :
    ∀ c ∈ cs, IsReadableChar c := by
  simp only [chars?] at h
  split at h
  · rename_i hall
    cases h
    intro c hc
    obtain ⟨b, hb, rfl⟩ := List.mem_map.mp hc
    have hreadable := List.all_eq_true.mp hall b hb
    simp only [isReadable, Bool.or_eq_true, Bool.and_eq_true, beq_iff_eq, decide_eq_true_eq, ge_iff_le,
      UInt8.le_iff_toNat_le, UInt8.lt_iff_toNat_lt, ← UInt8.toNat_inj, UInt8.reduceToNat] at hreadable
    have hcode : ∀ n < 127, (Char.ofNat n).toNat = n := by decide
    rwa [IsReadableChar, hcode _ (by omega)]
  · cases h

/-- They are single bytes that are read as themselves. -/
theorem byte_of_isReadableChar {c : Char} (h : IsReadableChar c) :
    ∃ b, String.utf8EncodeChar c = [b] ∧ isAllowed b = true ∧ isReadable b = true ∧ Char.ofNat b.toNat = c := by
  have hbyte : ∀ n < 127, n = 9 ∨ 32 ≤ n → String.utf8EncodeChar (Char.ofNat n) = [UInt8.ofNat n] ∧
      isAllowed (UInt8.ofNat n) = true ∧ isReadable (UInt8.ofNat n) = true ∧
      Char.ofNat (UInt8.ofNat n).toNat = Char.ofNat n := by decide
  rw [IsReadableChar] at h
  have hc := hbyte c.toNat (by omega) (by omega)
  rw [Char.ofNat_toNat] at hc
  exact ⟨_, hc⟩

theorem exists_readable {cs : List Char} (h : ∀ c ∈ cs, IsReadableChar c) :
    ∃ v, ofBytes? (Utf8.encode cs) = some v ∧ v.chars? = some cs := by
  have hall : (Utf8.encode cs).all isAllowed = true ∧ (Utf8.encode cs).all isReadable = true ∧
      (Utf8.encode cs).map (fun b => Char.ofNat b.toNat) = cs := by
    induction cs with
    | nil => exact ⟨rfl, rfl, rfl⟩
    | cons c rest ih =>
      obtain ⟨b, hb, hallowed, hreadable, hc⟩ := byte_of_isReadableChar (h c List.mem_cons_self)
      obtain ⟨ha, hr, hmap⟩ := ih fun x hx => h x (.tail _ hx)
      have hencode : Utf8.encode (c :: rest) = b :: Utf8.encode rest := by
        rw [Utf8.encode, List.flatMap_cons, hb]
        rfl
      simp [hencode, hallowed, hreadable, hc, ha, hr, hmap]
  exact ⟨⟨Utf8.encode cs⟩, if_pos hall.1, by rw [chars?, if_pos hall.2.1, hall.2.2]⟩

end Http.HeaderValue

namespace Policy

namespace HardenCookies

/-! ## Parts of a cookie -/

/-- The text before the first semicolon. -/
def firstPart (cookie : List Char) : List Char :=
  cookie.takeWhile (· != ';')

def withFlags (cookie : List Char) (flags : List String) : List Char :=
  cookie ++ flags.flatMap fun f => "; ".toList ++ f.toList

/-- The cookie without the blanks at its end, and then without the semicolons at its end. -/
def stripped (cookie : List Char) : List Char :=
  Text.dropEndWhile (· == ';') (Text.trimEnd cookie)

theorem attributes_append (cs rest : List Char) :
    attributes (cs ++ ';' :: rest) = attributes cs ++ (rest.splitOn ';').map Text.trim := by
  obtain ⟨first, others, hsplit⟩ := List.exists_cons_of_ne_nil (List.splitOn_ne_nil ';' cs)
  rw [attributes, attributes, Text.splitOn_append_cons, hsplit]
  simp

theorem attributes_trimEnd (cs : List Char) : attributes (Text.trimEnd cs) = attributes cs := by
  obtain ⟨gone, hsplit, hblank⟩ := Text.dropEndWhile_append Text.isBlank cs
  have hparts := Text.map_trim_splitOn_append (show Text.isBlank ';' = false by decide) hblank (Text.trimEnd cs)
  rw [attributes, attributes, List.map_drop, List.map_drop, ← hparts]
  exact congrArg (fun parts => (List.map Text.trim (List.splitOn ';' parts)).drop 1) hsplit.symm

theorem attributes_semicolons (cs : List Char) {gone : List Char} (h : ∀ c ∈ gone, (c == ';') = true) :
    ∀ part ∈ attributes (cs ++ gone), part ∈ attributes cs ∨ part = [] := by
  induction gone generalizing cs with
  | nil =>
    intro part hp
    rw [List.append_nil] at hp
    exact .inl hp
  | cons c rest ih =>
    obtain rfl := beq_iff_eq.mp (h c List.mem_cons_self)
    intro part hp
    -- a semicolon at the end opens one more attribute, and that has no text
    rw [List.append_cons] at hp
    rcases ih (cs ++ [';']) (fun x hx => h x (.tail _ hx)) part hp with hp | hp
    · rw [attributes_append] at hp
      simpa [Text.trim, Text.trimEnd, Text.dropEndWhile] using hp
    · exact .inr hp

/-! ## The name of a cookie -/

/-- The text from the first semicolon to the first equals sign behind it. -/
def lead (cookie : List Char) : List Char :=
  (cookie.dropWhile (· != ';')).takeWhile (· != '=')

/-- Of two cookies with the same first part these have the same name. -/
def NamedAlike (cs ds : List Char) : Prop :=
  '=' ∈ firstPart cs ∨ Text.trimEnd (lead cs) = Text.trimEnd (lead ds)

theorem firstPart_append (cs : List Char) : firstPart cs ++ cs.dropWhile (· != ';') = cs :=
  List.takeWhile_append_dropWhile

theorem semicolon_notMem_firstPart (cs : List Char) : ';' ∉ firstPart cs := fun h => by
  have hkept := List.mem_takeWhile_imp h
  simp at hkept

theorem ne_of_notMem {mark : Char} {cs : List Char} (h : mark ∉ cs) : ∀ c ∈ cs, (c != mark) = true := fun c hc => by
  rw [bne_iff_ne]
  rintro rfl
  exact h hc

theorem cookieName_of_firstPart {cs name value : List Char} (h : firstPart cs = name ++ '=' :: value)
    (hname : '=' ∉ name) : cookieName cs = Text.trim name := by
  rw [cookieName, ← firstPart_append cs, h, List.append_assoc, List.takeWhile_append_of_pos (ne_of_notMem hname),
    List.cons_append, List.takeWhile_cons_of_neg (by simp), List.append_nil]

/-- Where the first part has no equals sign, the name goes on behind it. -/
theorem cookieName_of_notMem {cs : List Char} (h : '=' ∉ firstPart cs) :
    cookieName cs = Text.trim (firstPart cs ++ lead cs) := by
  rw [cookieName, lead, ← List.takeWhile_append_of_pos (ne_of_notMem h), firstPart_append]

theorem lead_cases (cs : List Char) : lead cs = [] ∨ ∃ rest, lead cs = ';' :: rest := by
  rw [lead]
  cases hbehind : cs.dropWhile (· != ';') with
  | nil => exact .inl rfl
  | cons c rest =>
    have hhead := List.head?_dropWhile_not (· != ';') cs
    rw [hbehind] at hhead
    obtain rfl : c = ';' := by simpa using hhead
    exact .inr ⟨_, List.takeWhile_cons_of_pos (by decide)⟩

theorem semicolon_mem_trimEnd_lead {cs rest : List Char} (h : lead cs = ';' :: rest) :
    ';' ∈ Text.trimEnd (lead cs) :=
  Text.mem_dropEndWhile (h ▸ List.mem_cons_self) (by decide)

theorem semicolon_mem_cookieName {cs rest : List Char} (hnone : '=' ∉ firstPart cs) (h : lead cs = ';' :: rest) :
    ';' ∈ cookieName cs := by
  rw [cookieName_of_notMem hnone, h, Text.trim_append_cons (by decide), ← h]
  exact List.mem_append_right _ (semicolon_mem_trimEnd_lead h)

theorem semicolon_notMem_cookieName {cs : List Char} (hnone : '=' ∉ firstPart cs) (h : lead cs = []) :
    ';' ∉ cookieName cs := fun hmem => by
  rw [cookieName_of_notMem hnone, h, List.append_nil] at hmem
  exact semicolon_notMem_firstPart cs ((List.dropWhile_sublist _).subset (Text.mem_of_mem_dropEndWhile hmem))

/-- A name that goes on differs from one that ends with the first part. -/
theorem cookieName_ne {cs ds rest : List Char} (hcs : '=' ∉ firstPart cs) (hds : '=' ∉ firstPart ds)
    (hc : lead cs = []) (hd : lead ds = ';' :: rest) :
    cookieName cs ≠ cookieName ds ∧ Text.trimEnd (lead cs) ≠ Text.trimEnd (lead ds) := by
  refine ⟨fun hname => ?_, fun hlead => ?_⟩
  · exact semicolon_notMem_cookieName hcs hc (hname ▸ semicolon_mem_cookieName hds hd)
  · have hmem := hlead ▸ semicolon_mem_trimEnd_lead hd
    rw [hc] at hmem
    cases Text.mem_of_mem_dropEndWhile hmem

theorem cookieName_eq_iff {cs ds : List Char} (h : firstPart cs = firstPart ds) :
    cookieName cs = cookieName ds ↔ NamedAlike cs ds := by
  by_cases heq : '=' ∈ firstPart cs
  · obtain ⟨name, value, hsplit, hname⟩ := List.eq_append_cons_of_mem heq
    refine iff_of_true ?_ (.inl heq)
    rw [cookieName_of_firstPart hsplit hname, cookieName_of_firstPart (h ▸ hsplit) hname]
  · have heq' : '=' ∉ firstPart ds := h ▸ heq
    rw [NamedAlike, or_iff_right heq]
    rcases lead_cases cs with hc | ⟨c, hc⟩ <;> rcases lead_cases ds with hd | ⟨d, hd⟩
    · rw [cookieName_of_notMem heq, cookieName_of_notMem heq', hc, hd, h]
      exact iff_of_true rfl rfl
    · obtain ⟨hname, hlead⟩ := cookieName_ne heq heq' hc hd
      exact iff_of_false hname hlead
    · obtain ⟨hname, hlead⟩ := cookieName_ne heq' heq hd hc
      exact iff_of_false hname.symm hlead.symm
    · -- where both names go on, they begin alike
      rw [cookieName_of_notMem heq, cookieName_of_notMem heq', hc, hd, h, Text.trim_append_cons (by decide),
        Text.trim_append_cons (by decide), List.append_right_inj]

/-! ## Flags -/

/-- The attributes that the rule asks for, as it writes them. -/
def flags (a : HardenCookies) : List String :=
  (if a.secure then ["Secure"] else []) ++ if a.httpOnly then ["HttpOnly"] else []

/-- The name in the cookie is one that the rule is for. -/
def Concerns (a : HardenCookies) (cookie : List Char) : Prop :=
  a.cookie.isMatch (String.ofList (cookieName cookie)) = true

/-- The cookie has all attributes that the rule asks for, in any case of the letters. -/
def Complete (a : HardenCookies) (cookie : List Char) : Prop :=
  ∀ f ∈ a.flags, hasAttribute cookie f = true

def lacking (a : HardenCookies) (cookie : List Char) : List String :=
  a.flags.filter fun f => !hasAttribute cookie f

variable {a : HardenCookies} {cs : List Char} {v w : HeaderValue}

theorem mem_flags {f : String} (h : f ∈ a.flags) : f = "Secure" ∨ f = "HttpOnly" := by
  rcases List.mem_append.mp h with h | h
  · split at h
    · exact .inl (List.mem_singleton.mp h)
    · cases h
  · split at h
    · exact .inr (List.mem_singleton.mp h)
    · cases h

theorem lacking_eq_nil : a.lacking cs = [] ↔ a.Complete cs := by
  simp [lacking, Complete, List.filter_eq_nil_iff]

theorem hasAttribute_congr {f g : String} (h : f.toList.map Char.toLower = g.toList.map Char.toLower) (cs : List Char) :
    hasAttribute cs f = hasAttribute cs g := by
  simp only [hasAttribute, Ascii.sameLetters, h]

theorem missing_eq (a : HardenCookies) (cs : List Char) :
    a.missing cs = (a.lacking cs).flatMap fun f => "; ".toList ++ f.toList := by
  have hsecure : hasAttribute cs "Secure" = hasAttribute cs "secure" := hasAttribute_congr (by decide) cs
  have hhttpOnly : hasAttribute cs "HttpOnly" = hasAttribute cs "httponly" := hasAttribute_congr (by decide) cs
  rw [missing, lacking, flags]
  cases a.secure <;> cases a.httpOnly <;> cases hs : hasAttribute cs "secure" <;>
    cases hh : hasAttribute cs "httponly" <;> simp [hsecure, hhttpOnly, hs, hh]

theorem attributes_withFlags {fs : List String} (h : ∀ f ∈ fs, f = "Secure" ∨ f = "HttpOnly") (cs : List Char) :
    attributes (withFlags cs fs) = attributes cs ++ fs.map String.toList := by
  induction fs generalizing cs with
  | nil => simp [withFlags]
  | cons f rest ih =>
    have hstep : withFlags cs (f :: rest) = withFlags (cs ++ ';' :: ' ' :: f.toList) rest := by
      simp [withFlags]
    have hpart : ((' ' :: f.toList).splitOn ';').map Text.trim = [f.toList] := by
      rcases h f List.mem_cons_self with rfl | rfl <;> decide
    rw [hstep, ih fun g hg => h g (.tail _ hg), attributes_append, hpart, List.append_assoc, List.map_cons,
      List.singleton_append]

/-- What a cookie has it keeps when its end is stripped. -/
theorem hasAttribute_stripped {f : String} (hf : f.toList ≠ []) (h : hasAttribute cs f = true) :
    hasAttribute (stripped cs) f = true := by
  obtain ⟨part, hpart, hsame⟩ := List.any_eq_true.mp h
  obtain ⟨gone, hsplit, hgone⟩ := Text.dropEndWhile_append (· == ';') (Text.trimEnd cs)
  rw [← attributes_trimEnd, hsplit] at hpart
  rcases attributes_semicolons _ hgone part hpart with hpart | rfl
  · exact List.any_eq_true.mpr ⟨part, hpart, hsame⟩
  · rw [Ascii.sameLetters, beq_iff_eq, List.map_nil, eq_comm, List.map_eq_nil_iff] at hsame
    exact absurd hsame hf

/-- With the flags that a cookie lacks it has all of them. -/
theorem complete_withFlags (a : HardenCookies) (cs : List Char) :
    a.Complete (withFlags (stripped cs) (a.lacking cs)) := by
  intro f hf
  have hlack : ∀ g ∈ a.lacking cs, g = "Secure" ∨ g = "HttpOnly" := fun g hg => mem_flags (List.mem_filter.mp hg).1
  rw [hasAttribute, attributes_withFlags hlack, List.any_append, Bool.or_eq_true]
  cases hhas : hasAttribute cs f with
  | true =>
    have hne : f.toList ≠ [] := by rcases mem_flags hf with rfl | rfl <;> decide
    exact .inl (hasAttribute_stripped hne hhas)
  | false =>
    have hlacking : f ∈ a.lacking cs := List.mem_filter.mpr ⟨hf, by rw [hhas]; rfl⟩
    exact .inr (List.any_eq_true.mpr ⟨f.toList, List.mem_map_of_mem hlacking, beq_self_eq_true _⟩)

theorem isReadableChar_withFlags (h : ∀ c ∈ cs, HeaderValue.IsReadableChar c) :
    ∀ c ∈ withFlags (stripped cs) (a.lacking cs), HeaderValue.IsReadableChar c := by
  intro c hc
  rcases List.mem_append.mp hc with hc | hc
  · exact h c (Text.mem_of_mem_dropEndWhile (Text.mem_of_mem_dropEndWhile hc))
  · obtain ⟨f, hf, hc⟩ := List.mem_flatMap.mp hc
    have hall : ("; ".toList ++ f.toList).all (fun c => 32 ≤ c.toNat && c.toNat < 127) = true := by
      rcases mem_flags (List.mem_filter.mp hf).1 with rfl | rfl <;> decide
    exact .inr (by simpa using List.all_eq_true.mp hall c hc)

/-! ## One value -/

/-- What becomes of a value: it stays, unless it is the text of a cookie that the rule is for and that lacks a flag. -/
inductive Hardened (a : HardenCookies) (v : HeaderValue) : HeaderValue → Prop where
  | unreadable (chars : v.chars? = none) : Hardened a v v
  | unconcerned {cs : List Char} (chars : v.chars? = some cs) (other : ¬a.Concerns cs) : Hardened a v v
  | complete {cs : List Char} (chars : v.chars? = some cs) (complete : a.Complete cs) : Hardened a v v
  | extended {cs : List Char} {w : HeaderValue} (chars : v.chars? = some cs) (concerned : a.Concerns cs)
    (incomplete : ¬a.Complete cs) (written : w.chars? = some (withFlags (stripped cs) (a.lacking cs))) : Hardened a v w

/-- If the value is the text of a cookie that the rule is for, the cookie lacks no flag. -/
def Settled (a : HardenCookies) (v : HeaderValue) : Prop :=
  ∀ cs, v.chars? = some cs → a.Concerns cs → a.Complete cs

theorem harden?_of_incomplete (hc : a.Concerns cs) (hi : ¬a.Complete cs) :
    a.harden? cs = some (withFlags (stripped cs) (a.lacking cs)) := by
  have hmore : (a.missing cs).isEmpty = false := by
    obtain ⟨f, rest, hlacking⟩ := List.exists_cons_of_ne_nil (mt lacking_eq_nil.mp hi)
    rw [missing_eq, hlacking]
    rfl
  rw [Concerns] at hc
  rw [withFlags, ← missing_eq]
  simp only [harden?, hc, hmore, Bool.not_true, Bool.false_eq_true, if_false]
  rfl

theorem harden?_eq_none (h : a.Concerns cs → a.Complete cs) : a.harden? cs = none := by
  rw [harden?]
  split
  · rfl
  · rename_i hmatch
    have hc : a.Concerns cs := by simpa [Concerns] using hmatch
    have hmore : (a.missing cs).isEmpty = true := by rw [missing_eq, lacking_eq_nil.mpr (h hc)]; rfl
    exact if_pos hmore

theorem hardened?_of_incomplete (hv : v.chars? = some cs) (hc : a.Concerns cs) (hi : ¬a.Complete cs) :
    ∃ w, a.hardened? v = some w ∧ w.chars? = some (withFlags (stripped cs) (a.lacking cs)) := by
  obtain ⟨w, hw, hchars⟩ := HeaderValue.exists_readable
    (isReadableChar_withFlags (a := a) (HeaderValue.isReadableChar_of_chars? hv))
  exact ⟨w, by rw [hardened?, hv, Option.bind_some, harden?_of_incomplete hc hi, Option.bind_some, hw], hchars⟩

theorem Settled.hardened?_eq_none (h : a.Settled v) : a.hardened? v = none := by
  cases hv : v.chars? with
  | none => rw [hardened?, hv]; rfl
  | some cs => rw [hardened?, hv, Option.bind_some, harden?_eq_none (h cs hv)]; rfl

theorem hardened_getD (a : HardenCookies) (v : HeaderValue) : a.Hardened v ((a.hardened? v).getD v) := by
  by_cases hsettled : a.Settled v
  · rw [hsettled.hardened?_eq_none, Option.getD_none]
    cases hv : v.chars? with
    | none => exact .unreadable hv
    | some cs =>
      by_cases hc : a.Concerns cs
      · exact .complete hv (hsettled cs hv hc)
      · exact .unconcerned hv hc
  · simp only [Settled, not_forall] at hsettled
    obtain ⟨cs, hv, hc, hi⟩ := hsettled
    obtain ⟨w, hw, hchars⟩ := hardened?_of_incomplete hv hc hi
    rw [hw]
    exact .extended hv hc hi hchars

/-- A value that the rule is for has all flags afterwards. -/
theorem Hardened.complete_of_concerns (h : a.Hardened v w) (hv : v.chars? = some cs) (hc : a.Concerns cs) :
    ∃ ds, w.chars? = some ds ∧ a.Complete ds := by
  cases h with
  | unreadable chars => rw [chars] at hv; cases hv
  | unconcerned chars other =>
    cases hv.symm.trans chars
    exact absurd hc other
  | complete chars complete => exact ⟨_, chars, complete⟩
  | extended chars concerned incomplete written => exact ⟨_, written, complete_withFlags a _⟩

theorem Hardened.settled (h : a.Hardened v w) : a.Settled w := by
  intro ds hw hd
  cases h with
  | unreadable chars => rw [chars] at hw; cases hw
  | unconcerned chars other =>
    cases hw.symm.trans chars
    exact absurd hd other
  | complete chars complete =>
    cases hw.symm.trans chars
    exact complete
  | extended chars concerned incomplete written =>
    cases hw.symm.trans written
    exact complete_withFlags a _

theorem hardened?_eq_none_iff : a.hardened? v = none ↔ a.Settled v := by
  refine ⟨fun h => ?_, Settled.hardened?_eq_none⟩
  have hsettled := (hardened_getD a v).settled
  rwa [h, Option.getD_none] at hsettled

/-- What is written instead of a value differs from it. -/
theorem getD_eq_self_iff : (a.hardened? v).getD v = v ↔ a.Settled v := by
  refine ⟨fun h => h ▸ (hardened_getD a v).settled, fun h => ?_⟩
  rw [h.hardened?_eq_none, Option.getD_none]

end HardenCookies
end Policy
end Portcullis

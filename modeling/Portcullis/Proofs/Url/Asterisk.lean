import Portcullis.Proofs.Url.Server

/-!
# An asterisk behind an authority

Most authorities take an asterisk behind their host and then are those of another one. There are three that do not: a
port takes nothing but digits, a host in brackets ends with one, and a name that ends with a label in Punycode is none
with an asterisk in this.
-/

namespace Portcullis.Url
open Parse

/-! ## Names -/

theorem Punycode.decode?_eq_none {cs : List Char} {c : Char} (hdigit : digitValue? c = none) (hhyphen : c ≠ '-') :
    decode? (cs ++ [c]) = none := by
  have hmem : c ∈ ((cs ++ [c]).reverse.takeWhile (· != '-')).reverse := by simp [hhyphen]
  unfold decode?
  dsimp only
  rw [mapM_eq_none hmem hdigit]
  rfl

namespace Domain

/-- The last label of the name is written as one in Punycode. -/
def EndsEncoded (name : List Char) : Prop :=
  ∃ front label, (name.flatMap fold).splitOn '.' = front ++ [label] ∧ encodedMark <+: label

theorem asciiLabel?_asterisk {cs label : List Char} (h : asciiLabel? cs = some label) :
    asciiLabel? (cs ++ ['*']) = none ↔ encodedMark <+: cs := by
  by_cases hmark : encodedMark <+: cs
  · refine iff_of_true ?_ hmark
    obtain ⟨rest, rfl⟩ := hmark
    have hmarked : encodedMark.isPrefixOf (encodedMark ++ rest ++ ['*']) = true :=
      List.isPrefixOf_iff_prefix.mpr ⟨rest ++ ['*'], (List.append_assoc _ _ _).symm⟩
    have hdecode : Punycode.decode? (rest ++ ['*']) = none := Punycode.decode?_eq_none (by decide) (by decide)
    have hdrop : (encodedMark ++ rest ++ ['*']).drop 4 = rest ++ ['*'] := rfl
    rw [asciiLabel?, if_pos hmarked, hdrop, hdecode]
  · refine iff_of_false ?_ hmark
    have hmarked : ¬encodedMark.isPrefixOf cs = true := fun hp => hmark (List.isPrefixOf_iff_prefix.mp hp)
    have hmarked' : ¬encodedMark.isPrefixOf (cs ++ ['*']) = true := by
      intro hp
      rcases List.prefix_concat_iff.mp (List.isPrefixOf_iff_prefix.mp hp) with heq | hp
      · have hmem : '*' ∈ encodedMark := by simp [heq]
        exact absurd hmem (by decide)
      · exact hmark hp
    have hascii : isAscii (cs ++ ['*']) = isAscii cs := by simp [isAscii]
    rw [asciiLabel?, if_neg hmarked] at h
    rw [asciiLabel?, if_neg hmarked', hascii]
    split at h
    · rename_i hcs
      rw [if_pos hcs]
      split at h
      · cases h
      · rename_i hallowed
        rw [if_neg (by simpa [show isForbidden '*' = false by decide] using hallowed)]
        exact Option.some_ne_none _
    · rename_i hcs
      rw [if_neg hcs]
      split at h
      · rename_i hlabel
        have hne : cs ≠ [] := by
          rintro rfl
          exact hcs rfl
        have hlabel' : isLabel (cs ++ ['*']) = true := by
          simpa [isLabel, List.head?_append_of_ne_nil _ hne, show isAllowed '*' = true by decide] using hlabel
        rw [if_pos hlabel']
        exact Option.some_ne_none _
      · cases h

theorem exists_last_label (cs : List Char) : ∃ front label, cs.splitOn '.' = front ++ [label] ∧
    ∀ more, '.' ∉ more → (cs ++ more).splitOn '.' = front ++ [label ++ more] := by
  by_cases hstop : '.' ∈ cs
  · obtain ⟨front, label, rfl, hlabel⟩ := Text.exists_last hstop
    refine ⟨front.splitOn '.', label, ?_, fun more hmore => ?_⟩
    · rw [Text.splitOn_append_cons, Text.splitOn_of_notMem hlabel]
    · have hlast : '.' ∉ label ++ more := by simp [hlabel, hmore]
      rw [List.append_assoc, List.cons_append, Text.splitOn_append_cons, Text.splitOn_of_notMem hlast]
  · exact ⟨[], cs, Text.splitOn_of_notMem hstop, fun more hmore => Text.splitOn_of_notMem (by simp [hstop, hmore])⟩

theorem fold_asterisk (name : List Char) : (name ++ ['*']).flatMap fold = name.flatMap fold ++ ['*'] := by
  rw [List.flatMap_append]
  rfl

/-- Of the labels of a name, an asterisk behind the name concerns the last one. -/
theorem ascii?_asterisk {name ascii : List Char} (h : ascii? name = some ascii) :
    ascii? (name ++ ['*']) = none ↔ EndsEncoded name := by
  obtain ⟨labels, hlabels, -⟩ := Option.map_eq_some_iff.mp h
  obtain ⟨front, label, hsplit, hmore⟩ := exists_last_label (name.flatMap fold)
  have hsplit' := hmore ['*'] (by decide)
  have hencoded : EndsEncoded name ↔ encodedMark <+: label := by
    constructor
    · rintro ⟨front', label', hsplit'', hmark⟩
      rw [hsplit] at hsplit''
      rwa [(List.append_inj' hsplit'' rfl).2 |> List.cons.inj |>.1]
    · exact fun hmark => ⟨front, label, hsplit, hmark⟩
  rw [hsplit] at hlabels
  obtain ⟨asciis, last, -, hfront, hlast, -⟩ := mapM_append_cons_eq_some.mp hlabels
  rw [hencoded, ← asciiLabel?_asterisk hlast, ascii?, fold_asterisk, hsplit', Option.map_eq_none_iff]
  cases hlabel : asciiLabel? (label ++ ['*']) with
  | none => exact iff_of_true (mapM_eq_none (by simp) hlabel) rfl
  | some starred =>
    have hall := mapM_append_cons_eq_some.mpr ⟨asciis, starred, [], hfront, hlabel, List.mapM_nil, rfl⟩
    exact iff_of_false (by rw [hall]; exact Option.some_ne_none _) (Option.some_ne_none _)

/-- A name with an asterisk in its last label is no address. -/
theorem not_endsInNumber {name ascii : List Char} (h : ascii? (name ++ ['*']) = some ascii) :
    endsInNumber ascii = false := by
  obtain ⟨labels, hlabels, rfl⟩ := Option.map_eq_some_iff.mp h
  have hstops : ∀ l ∈ labels, '.' ∉ l := by
    intro l hl
    obtain ⟨part, hpart, hascii⟩ := exists_of_mem_mapM hlabels hl
    have hnone : '.' ∉ part := fun hmem => absurd (mem_of_mem_splitOnP hpart '.' hmem).2 (by decide)
    rw [← List.count_eq_zero, count_asciiLabel? Punycode.digit_ne_stop (by decide) (by decide) hascii,
      List.count_eq_zero]
    exact hnone
  obtain ⟨front, label, -, hmore⟩ := exists_last_label (name.flatMap fold)
  rw [fold_asterisk, hmore ['*'] (by decide)] at hlabels
  obtain ⟨asciis, last, none, -, hlast, hnone, rfl⟩ := mapM_append_cons_eq_some.mp hlabels
  cases hnone
  have hmem : '*' ∈ last := by
    rw [← List.count_pos_iff, count_asciiLabel? Punycode.digit_ne_asterisk (by decide) (by decide) hlast]
    simp
  have hparts : (addressParts (['.'].intercalate (asciis ++ [last]))).getLast? = some last := by
    have hsplit : (['.'].intercalate (asciis ++ [last])).splitOn '.' = asciis ++ [last] :=
      List.splitOn_intercalate '.' hstops (by simp)
    have hne : last ≠ [] := List.ne_nil_of_mem hmem
    simp [addressParts, hsplit, hne]
  have hdigits : last.all Char.isDigit = false := List.all_eq_false.mpr ⟨'*', hmem, by decide⟩
  simp [endsInNumber, hparts, hdigits, number?_eq_none hmem]

end Domain

/-! ## Hosts and authorities -/

/-- The host is a name that ends with a label in Punycode. -/
def EndsEncoded (cs : List Char) : Prop :=
  ∃ name, hostText? cs = some name ∧ Domain.EndsEncoded name

/-- The host with an asterisk behind it is none exactly if it stands in brackets or ends with a label in Punycode. -/
theorem host_asterisk {cs : List Char} {h : Host} (hok : host cs = .ok h) (hne : cs ≠ []) :
    (∃ defect, host (cs ++ ['*']) = .error defect) ↔ cs.head? = some '[' ∨ EndsEncoded cs := by
  have hhead : (cs ++ ['*']).head? = cs.head? := List.head?_append_of_ne_nil _ hne
  rcases host_eq_ok hok with ⟨hopen, -⟩ | ⟨hopen, name, ascii, hname, hascii, -⟩
  · refine iff_of_true ⟨.badIpv6, ?_⟩ (.inl hopen)
    simp [host, hhead, hopen, bracketed?]
  · have hname' : hostText? (cs ++ ['*']) = some (name ++ ['*']) := hostText?_append hname isStray_asterisk
    have hencoded : EndsEncoded cs ↔ Domain.EndsEncoded name := by
      constructor
      · rintro ⟨name', hname', hends⟩
        rwa [Option.some.inj (hname.symm.trans hname')]
      · exact fun hends => ⟨name, hname, hends⟩
    have hhost : ¬((cs ++ ['*']).head? == some '[') = true := by simpa [hhead] using hopen
    rw [hencoded, host, if_neg hhost, ← hostText?, hname', Option.bind_some]
    cases hstarred : Domain.ascii? (name ++ ['*']) with
    | none => exact iff_of_true ⟨.badDomain, rfl⟩ (.inr ((Domain.ascii?_asterisk hascii).mp hstarred))
    | some starred =>
      have hcount : 0 < starred.count '*' := by
        rw [Domain.count_ascii? hstarred, Domain.fold_asterisk]
        simp
      obtain ⟨c, rest, rfl⟩ := List.exists_cons_of_ne_nil (List.ne_nil_of_mem (List.count_pos_iff.mp hcount))
      refine iff_of_false ?_ ?_
      · rintro ⟨defect, herror⟩
        simp [Domain.not_endsInNumber hstarred] at herror
      · rintro (hbracket | hends)
        · exact hopen hbracket
        · rw [(Domain.ascii?_asterisk hascii).mpr hends] at hstarred
          cases hstarred

/-- The text of the host in an authority, and that of its port behind a colon. -/
def hostPart (authority : List Char) : List Char :=
  (cutHost false (cutUser authority).2).1

def portPart (authority : List Char) : List Char :=
  (cutHost false (cutUser authority).2).2

theorem exists_authority_iff {scheme : String} {cs : List Char} : (∃ a, authority scheme cs = .ok a) ↔
    hostPart cs ≠ [] ∧ (∃ h, host (hostPart cs) = .ok h) ∧ ∃ port, port? (portPart cs) = .ok port := by
  constructor
  · rintro ⟨a, ha⟩
    obtain ⟨hne, hhost, hport⟩ := authority_eq_ok ha
    exact ⟨hne, ⟨_, hhost⟩, hport⟩
  · rintro ⟨hne, ⟨h, hhost⟩, port, hport⟩
    unfold hostPart at hne hhost
    unfold portPart at hport
    unfold authority
    dsimp only
    rw [if_neg (by simpa using hne), hhost, hport]
    exact ⟨_, rfl⟩

/-- An authority takes no asterisk exactly if there is a colon for its port, or if its host takes none. -/
theorem authority_asterisk {scheme : String} {cs : List Char} {a : Authority} (h : authority scheme cs = .ok a) :
    (∃ defect, authority scheme (cs ++ ['*']) = .error defect) ↔
      portPart cs ≠ [] ∨ (hostPart cs).head? = some '[' ∨ EndsEncoded (hostPart cs) := by
  obtain ⟨hne, hhost, -⟩ := authority_eq_ok h
  have hcut : cutHost false (cutUser (cs ++ ['*'])).2 =
      if portPart cs = [] then (hostPart cs ++ ['*'], []) else (hostPart cs, portPart cs ++ ['*']) := by
    rw [cutUser_append cs (by decide)]
    exact cutHost_append false (cutUser cs).2 isStray_asterisk
  rw [exists_error_iff, exists_authority_iff]
  by_cases hport : portPart cs = []
  · rw [if_pos hport] at hcut
    have hhost' : hostPart (cs ++ ['*']) = hostPart cs ++ ['*'] := congrArg Prod.fst hcut
    have hport' : portPart (cs ++ ['*']) = [] := congrArg Prod.snd hcut
    have hok : ∃ port, port? [] = .ok port := ⟨none, rfl⟩
    have hstarred : (∃ defect, host (hostPart cs ++ ['*']) = .error defect) ↔
        (hostPart cs).head? = some '[' ∨ EndsEncoded (hostPart cs) := host_asterisk hhost hne
    rw [hhost', hport', ← hstarred, exists_error_iff]
    simp [hport, hok]
  · rw [if_neg hport] at hcut
    have hport' : portPart (cs ++ ['*']) = portPart cs ++ ['*'] := congrArg Prod.snd hcut
    refine iff_of_true ?_ (.inl hport)
    rintro ⟨-, -, port, hok⟩
    rw [hport', port?_append hport isStray_asterisk (List.cons_ne_nil _ _)] at hok
    cases hok

end Portcullis.Url

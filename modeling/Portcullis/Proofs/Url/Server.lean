import Portcullis.Proofs.Text.Encoding
import Portcullis.Proofs.Url.Cut
import Portcullis.Proofs.Url.Name

/-!
# Writing behind an authority

An authority with blanks or an asterisk behind it is none any more, or that of another host.
-/

namespace Portcullis.Url
open Parse

/-! ## Blanks and asterisks -/

/-- The characters that can get behind the authority of an address without ending it: blanks and controls that belong
to the address, and the asterisk. -/
def isStray (c : Char) : Bool :=
  isEdge c || c == '*'

theorem forall_of_isStray {P : Char → Prop} (h : ∀ n < 43, isStray (Char.ofNat n) = true → P (Char.ofNat n)) {c : Char}
    (hc : isStray c = true) : P c := by
  have hlt : c.toNat < 43 := by
    simp only [isStray, isEdge, Bool.or_eq_true, decide_eq_true_eq, beq_iff_eq] at hc
    rcases hc with hc | rfl
    · omega
    · decide
  rw [← Char.ofNat_toNat c] at hc ⊢
  exact h c.toNat hlt hc

theorem isStray_asterisk : ∀ c ∈ ['*'], isStray c = true :=
  List.forall_mem_singleton.mpr (by decide)

theorem not_mark_of_isStray {c : Char} (h : isStray c = true) :
    c ≠ '@' ∧ c ≠ ':' ∧ c ≠ '[' ∧ c ≠ ']' ∧ Ascii.hexValue? c = none :=
  forall_of_isStray (P := fun c => c ≠ '@' ∧ c ≠ ':' ∧ c ≠ '[' ∧ c ≠ ']' ∧ Ascii.hexValue? c = none) (by decide) h

theorem fold_of_isStray {c : Char} (h : isStray c = true) : Domain.fold c = [c] :=
  forall_of_isStray (P := fun c => Domain.fold c = [c]) (by decide) h

theorem unnameable_of_isEdge {c : Char} (h : isEdge c = true) : Domain.Unnameable c := by
  have hall : isEdge c = true → c.toNat < 0x80 ∧ Domain.isForbidden c = true ∧ Punycode.digitValue? c = none ∧ c ≠ '-' :=
    forall_of_isStray (P := fun c => isEdge c = true → c.toNat < 0x80 ∧ Domain.isForbidden c = true ∧
      Punycode.digitValue? c = none ∧ c ≠ '-') (by decide) (by rw [isStray, h]; rfl)
  obtain ⟨hascii, hforbidden, hdigit, hhyphen⟩ := hall h
  exact ⟨hascii, hforbidden, hdigit, hhyphen⟩

/-- They are single bytes that are read as themselves. -/
theorem byte_of_isStray {c : Char} (h : isStray c = true) :
    ∃ b, String.utf8EncodeChar c = [b] ∧ b ≠ 0x25 ∧ Char.ofNat b.toNat = c ∧ b < 0x80 :=
  forall_of_isStray
    (P := fun c => ∃ b, String.utf8EncodeChar c = [b] ∧ b ≠ 0x25 ∧ Char.ofNat b.toNat = c ∧ b < 0x80)
    (fun n hn hstray => ⟨UInt8.ofNat n, by revert n; decide⟩) h

/-! ## Texts of hosts -/

theorem percentDecode_cons {b : UInt8} {rest : Bytes}
    (h : b = 0x25 → ∀ x y more, rest = x :: y :: more →
      Ascii.hexByte? (Char.ofNat x.toNat) (Char.ofNat y.toNat) = none) :
    percentDecode (b :: rest) = b :: percentDecode rest := by
  by_cases hb : b = 0x25
  · subst hb
    match rest with
    | [] => rfl
    | [x] => rfl
    | x :: y :: more => simp only [percentDecode, h rfl x y more rfl]
  · exact percentDecode.eq_3 b rest fun _ _ _ hb' => absurd hb' hb

theorem hexByte?_eq_none {x y : Char} (h : Ascii.hexValue? x = none ∨ Ascii.hexValue? y = none) :
    Ascii.hexByte? x y = none := by
  rw [Ascii.hexByte?]
  rcases h with h | h
  · rw [h]
  · rw [h]
    cases Ascii.hexValue? x <;> rfl

/-- An escape does not go beyond a byte that is no hexadecimal digit. -/
theorem percentDecode_append (bs : Bytes) {more : Bytes}
    (h : ∀ b ∈ more.head?, Ascii.hexValue? (Char.ofNat b.toNat) = none) :
    percentDecode (bs ++ more) = percentDecode bs ++ percentDecode more := by
  induction bs using percentDecode.induct with
  | case1 => rfl
  | case2 x y rest b hb ih => simp only [List.cons_append, percentDecode, hb, ih]
  | case3 x y rest hb ih =>
    simp only [List.cons_append] at ih
    simp only [List.cons_append, percentDecode, hb, ih]
  | case4 b rest hplain ih =>
    have hfront : percentDecode (b :: rest) = b :: percentDecode rest := percentDecode.eq_3 b rest hplain
    have hback : percentDecode (b :: (rest ++ more)) = b :: percentDecode (rest ++ more) := by
      refine percentDecode_cons fun hb x y more' hrest => hexByte?_eq_none ?_
      match rest with
      | [] =>
        obtain rfl : more = x :: y :: more' := hrest
        exact .inl (h x rfl)
      | [_] =>
        obtain rfl : more = y :: more' := (List.cons.inj hrest).2
        exact .inr (h y rfl)
      | x' :: y' :: rest => exact (hplain x' y' rest hb rfl).elim
    rw [List.cons_append, hback, ih, hfront, List.cons_append]

/-- The text of a host, before its name is looked at. -/
def hostText? (cs : List Char) : Option (List Char) :=
  Utf8.decode? (percentDecode (Utf8.encode cs))

theorem hostText?_of_isStray {cs : List Char} (h : ∀ c ∈ cs, isStray c = true) : hostText? cs = some cs := by
  suffices percentDecode (Utf8.encode cs) = Utf8.encode cs ∧ Utf8.decode? (Utf8.encode cs) = some cs by
    rw [hostText?, this.1, this.2]
  induction cs with
  | nil => exact ⟨rfl, rfl⟩
  | cons c rest ih =>
    obtain ⟨b, hb, hpercent, hchar, hascii⟩ := byte_of_isStray (h c List.mem_cons_self)
    obtain ⟨hdecode, htext⟩ := ih fun x hx => h x (.tail _ hx)
    have hencode : Utf8.encode (c :: rest) = b :: Utf8.encode rest := by
      rw [Utf8.encode, List.flatMap_cons, hb]
      rfl
    rw [hencode]
    refine ⟨by rw [percentDecode_cons fun hb => absurd hb hpercent, hdecode], ?_⟩
    have hone : Utf8.decode? [b] = some [c] := by
      rw [Utf8.decode?, Utf8.items, Utf8.lead, if_pos hascii, hchar]
      rfl
    exact Utf8.decode?_append hone htext

theorem hostText?_append {cs more text : List Char} (h : hostText? cs = some text)
    (hmore : ∀ c ∈ more, isStray c = true) : hostText? (cs ++ more) = some (text ++ more) := by
  have hhex : ∀ b ∈ (Utf8.encode more).head?, Ascii.hexValue? (Char.ofNat b.toNat) = none := by
    intro b hb
    cases more with
    | nil => cases hb
    | cons c rest =>
      obtain ⟨b', hb', -, hchar, -⟩ := byte_of_isStray (hmore c List.mem_cons_self)
      have hbyte : b' = b := by
        rw [Utf8.encode, List.flatMap_cons, hb'] at hb
        exact Option.some.inj hb
      rw [← hbyte, hchar]
      exact (not_mark_of_isStray (hmore c List.mem_cons_self)).2.2.2.2
  rw [hostText?, Utf8.encode_append, percentDecode_append _ hhex]
  exact Utf8.decode?_append h (hostText?_of_isStray hmore)

/-! ## Hosts -/

theorem ofDigits?_eq_none {base : Nat} {cs : List Char} {c : Char} (hc : c ∈ cs) (h : Ascii.hexValue? c = none) :
    Ascii.ofDigits? base cs = none := by
  suffices ∀ n : Nat, cs.foldlM (fun n c => (Ascii.hexValue? c).bind fun d =>
      if d < base then some (base * n + d) else none) n = none from this 0
  induction cs with
  | nil => cases hc
  | cons d rest ih =>
    intro n
    rw [List.foldlM_cons]
    rcases List.mem_cons.mp hc with rfl | hc
    · rw [h]
      rfl
    · cases (Ascii.hexValue? d).bind fun d => if d < base then some (base * n + d) else none with
      | none => rfl
      | some m => exact ih hc m

theorem number?_eq_none {cs : List Char} (h : '*' ∈ cs) : number? cs = none := by
  have hvalue : Ascii.hexValue? '*' = none := by decide
  unfold number?
  split
  · rfl
  · exact ofDigits?_eq_none (by simpa using h) hvalue
  · exact ofDigits?_eq_none (by simpa using h) hvalue
  · exact ofDigits?_eq_none (by simpa using h) hvalue
  · exact ofDigits?_eq_none h hvalue

theorem exists_addressPart {cs : List Char} {c : Char} (h : c ∈ cs) (hstop : c ≠ '.') :
    ∃ part ∈ addressParts cs, c ∈ part := by
  have hsplit : ['.'].intercalate (cs.splitOn '.') = cs := List.intercalate_splitOn '.'
  obtain ⟨part, hpart, hc⟩ := (Domain.mem_intercalate (hsplit ▸ h)).resolve_left hstop
  refine ⟨part, ?_, hc⟩
  unfold addressParts
  dsimp only
  split
  · rename_i hlast
    simp only [Bool.and_eq_true, beq_iff_eq] at hlast
    rw [← List.dropLast_append_getLast? [] hlast.2] at hpart
    rcases List.mem_append.mp hpart with hpart | hpart
    · exact hpart
    · rw [List.mem_singleton.mp hpart] at hc
      cases hc
  · exact hpart

theorem asterisk_notMem_of_ipv4? {name : List Char} {a : Net.Ipv4} (h : ipv4? name = some a) : '*' ∉ name := by
  intro hmem
  obtain ⟨part, hpart, hc⟩ := exists_addressPart hmem (by decide)
  unfold ipv4? at h
  dsimp only at h
  rw [mapM_eq_none hpart (number?_eq_none hc)] at h
  split at h <;> cases h

/-- A host in brackets ends with one, and any other is the ASCII form of its text or the address that this writes. -/
theorem host_eq_ok {cs : List Char} {h : Host} (hok : host cs = .ok h) :
    cs.head? = some '[' ∧ cs.getLast? = some ']' ∨
      cs.head? ≠ some '[' ∧ ∃ text name, hostText? cs = some text ∧ Domain.ascii? text = some name ∧
        (h = .domain name ∨ ∃ a, ipv4? name = some a ∧ h = .ipv4 a) := by
  unfold host at hok
  split at hok
  · rename_i hhead
    refine .inl ⟨by simpa using hhead, ?_⟩
    unfold bracketed? at hok
    split at hok
    · cases hok
    · rename_i hlast
      simpa using hlast
  · rename_i hhead
    refine .inr ⟨by simpa using hhead, ?_⟩
    rw [← hostText?] at hok
    cases htext : hostText? cs with
    | none =>
      rw [htext] at hok
      cases hok
    | some text =>
      rw [htext, Option.bind_some] at hok
      refine ⟨text, ?_⟩
      split at hok
      · cases hok
      · cases hok
      · rename_i name _ hname
        refine ⟨name, rfl, hname, ?_⟩
        split at hok
        · split at hok
          · rename_i a ha
            cases hok
            exact .inr ⟨a, ha, rfl⟩
          · cases hok
        · cases hok
          exact .inl rfl

/-- What gets behind a host makes another one of it, or none. -/
theorem host_append {cs more : List Char} {h h' : Host} (hok : host cs = .ok h) (hne : cs ≠ [])
    (hmore : ∀ c ∈ more, isStray c = true) (hsome : more ≠ []) (hok' : host (cs ++ more) = .ok h') :
    (∀ c ∈ more, c = '*') ∧ h' ≠ h := by
  have hhead : (cs ++ more).head? = cs.head? := by
    obtain ⟨c, rest, rfl⟩ := List.exists_cons_of_ne_nil hne
    rfl
  rcases host_eq_ok hok' with ⟨-, hlast⟩ | ⟨hopen', text', name', htext', hname', hh'⟩
  · obtain ⟨init, c, rfl⟩ := List.eq_nil_or_concat more |>.resolve_left hsome
    have hc : c = ']' := by simpa [List.getLast?_append] using hlast
    exact absurd hc (not_mark_of_isStray (hmore c (by simp))).2.2.2.1
  · rcases host_eq_ok hok with ⟨hopen, -⟩ | ⟨-, text, name, htext, hname, hh⟩
    · exact absurd (hhead.trans hopen) hopen'
    · obtain rfl : text ++ more = text' := Option.some.inj ((hostText?_append htext hmore).symm.trans htext')
      have hall : ∀ c ∈ more, c = '*' := by
        intro c hc
        cases hedge : isEdge c with
        | true =>
          rw [Domain.ascii?_eq_none (unnameable_of_isEdge hedge) (fold_of_isStray (hmore c hc))
            (List.mem_append_right _ hc)] at hname'
          cases hname'
        | false =>
          have hstray := hmore c hc
          rw [isStray, hedge] at hstray
          simpa using hstray
      have hfold : more.flatMap Domain.fold = more := by
        rw [List.flatMap_congr fun c hc => fold_of_isStray (hmore c hc), List.flatMap_singleton']
      have hcount : name'.count '*' = name.count '*' + more.length := by
        rw [Domain.count_ascii? hname', Domain.count_ascii? hname, List.flatMap_append, hfold, List.count_append,
          List.count_eq_length.mpr fun c hc => (hall c hc).symm]
      have hpos : 0 < more.length := List.length_pos_of_ne_nil hsome
      refine ⟨hall, ?_⟩
      -- the same name would have more asterisks than itself, and an address has none
      rintro rfl
      rcases hh' with rfl | ⟨a, ha, -⟩
      · rcases hh with hname | ⟨a, -, hname⟩
        · rw [Host.domain.inj hname] at hcount
          omega
        · cases hname
      · exact asterisk_notMem_of_ipv4? ha (List.count_pos_iff.mp (by omega))

/-! ## Authorities -/

theorem cutUser_of_notMem {cs : List Char} (h : '@' ∉ cs) : cutUser cs = (none, cs) := by
  rw [cutUser, if_neg (by simpa using h)]

theorem cutUser_of_last {front behind : List Char} (h : '@' ∉ behind) :
    cutUser (front ++ '@' :: behind) = (some front, behind) := by
  rw [cutUser, if_pos (by simp)]
  dsimp only
  rw [Text.behind_last h, Text.before_last]

theorem cutUser_append (cs : List Char) {more : List Char} (h : '@' ∉ more) :
    cutUser (cs ++ more) = ((cutUser cs).1, (cutUser cs).2 ++ more) := by
  by_cases hat : '@' ∈ cs
  · obtain ⟨front, behind, rfl, hbehind⟩ := Text.exists_last hat
    rw [List.append_assoc, List.cons_append, cutUser_of_last hbehind, cutUser_of_last (by simp [hbehind, h])]
  · rw [cutUser_of_notMem hat, cutUser_of_notMem (by simp [hat, h])]

theorem cutHost_of_forall {cs : List Char} (h : ∀ c ∈ cs, isStray c = true) (inside : Bool) :
    cutHost inside cs = (cs, []) := by
  induction cs generalizing inside with
  | nil => rfl
  | cons c rest ih =>
    obtain ⟨-, hcolon, hopen, hclose, -⟩ := not_mark_of_isStray (h c List.mem_cons_self)
    have hrest := ih fun x hx => h x (.tail _ hx)
    simp [cutHost, hcolon, hopen, hclose, hrest]

/-- What gets behind an authority belongs to the port if there is a colon for one, and else to the host. -/
theorem cutHost_append (inside : Bool) (cs : List Char) {more : List Char} (h : ∀ c ∈ more, isStray c = true) :
    cutHost inside (cs ++ more) =
      if (cutHost inside cs).2 = [] then ((cutHost inside cs).1 ++ more, [])
      else ((cutHost inside cs).1, (cutHost inside cs).2 ++ more) := by
  induction cs generalizing inside with
  | nil => exact cutHost_of_forall h inside
  | cons c rest ih =>
    rw [List.cons_append, cutHost, cutHost]
    split
    · rfl
    · dsimp only
      generalize (if c == '[' then true else if c == ']' then false else inside) = next
      rw [ih]
      by_cases hnone : (cutHost next rest).2 = []
      · rw [if_pos hnone, if_pos hnone]
        rfl
      · rw [if_neg hnone, if_neg hnone]

theorem port?_append {cs more : List Char} (hne : cs ≠ []) (hmore : ∀ c ∈ more, isStray c = true) (hsome : more ≠ []) :
    port? (cs ++ more) = .error .badPort := by
  obtain ⟨colon, digits, rfl⟩ := List.exists_cons_of_ne_nil hne
  obtain ⟨c, rest, rfl⟩ := List.exists_cons_of_ne_nil hsome
  have hnone : Ascii.decimal? (digits ++ c :: rest) = none := by
    rw [Ascii.decimal?, if_neg (by simp)]
    exact ofDigits?_eq_none (List.mem_append_right _ List.mem_cons_self)
      (not_mark_of_isStray (hmore c List.mem_cons_self)).2.2.2.2
  rw [List.cons_append]
  unfold port?
  split
  · rename_i h
    cases h
  · rename_i h
    simp at h
  · rename_i h
    obtain ⟨rfl, rfl⟩ := List.cons.inj h
    rw [hnone]
    rfl

theorem authority_eq_ok {scheme : String} {cs : List Char} {a : Authority} (h : authority scheme cs = .ok a) :
    (cutHost false (cutUser cs).2).1 ≠ [] ∧ host (cutHost false (cutUser cs).2).1 = .ok a.host ∧
      ∃ port, port? (cutHost false (cutUser cs).2).2 = .ok port := by
  unfold authority at h
  dsimp only at h
  split at h
  · cases h
  · rename_i hne
    cases hhost : host (cutHost false (cutUser cs).2).1 with
    | error e =>
      rw [hhost] at h
      cases h
    | ok name =>
      rw [hhost] at h
      cases hport : port? (cutHost false (cutUser cs).2).2 with
      | error e =>
        rw [hport] at h
        cases h
      | ok port =>
        rw [hport] at h
        cases h
        exact ⟨by simpa using hne, rfl, port, rfl⟩

/-- Nothing but asterisks can get behind an authority, and then the host is another one. -/
theorem authority_append {scheme scheme' : String} {cs more : List Char} {a a' : Authority}
    (h : authority scheme cs = .ok a) (hmore : ∀ c ∈ more, isStray c = true) (hsome : more ≠ [])
    (h' : authority scheme' (cs ++ more) = .ok a') : (∀ c ∈ more, c = '*') ∧ a'.host ≠ a.host := by
  have hat : '@' ∉ more := fun hmem => (not_mark_of_isStray (hmore _ hmem)).1 rfl
  obtain ⟨hne, hhost, -⟩ := authority_eq_ok h
  obtain ⟨-, hhost', port, hport'⟩ := authority_eq_ok h'
  rw [cutUser_append cs hat, cutHost_append _ _ hmore] at hhost' hport'
  split at hport'
  · rename_i hnone
    rw [if_pos hnone] at hhost'
    exact host_append hhost hne hmore hsome hhost'
  · rename_i hcolon
    rw [port?_append hcolon hmore hsome] at hport'
    cases hport'

end Portcullis.Url

import Portcullis.Regex.ClassParser

/-!
# Reading in front of a closing parenthesis

A pattern is read by itself, and with a closing parenthesis and a dollar sign behind it. As long as the pattern
lasts, every reader does the same on both texts. A reader that fails for want of text may go on with the closing.
-/

namespace Portcullis.Regex

/-- What stands behind a pattern that has to match whole texts. -/
def closing : List Char :=
  [')', '$']

/-- What is left of two texts, the second with the closing behind it. A comment at the end takes the closing in. -/
inductive Closes : List Char → List Char → Prop
  | text (cs : List Char) : Closes cs (cs ++ closing)
  | comment : Closes [] []

/-- Two readings, of a text by itself and with the closing behind it. `late` describes what the second leaves where
it alone succeeds. -/
inductive Agrees {α : Type} (late : List Char → Prop) (cs cs' : List Char) : Option (α × List Char) → Option (α × List Char) → Prop
  | fails : Agrees late cs cs' none none
  | both {x : α} {r r' : List Char} : Closes r r' → r.length ≤ cs.length → r'.length ≤ cs'.length →
      Agrees late cs cs' (some (x, r)) (some (x, r'))
  | late {x : α} {r' : List Char} : late r' → Agrees late cs cs' none (some (x, r'))

variable {α β : Type} {late : List Char → Prop} {cs cs' rest rest' : List Char} {verbose : Bool}

namespace Closes

theorem cons_iff {c : Char} : Closes (c :: rest) cs' ↔ ∃ rest', cs' = c :: rest' ∧ rest' = rest ++ closing := by
  constructor
  · rintro ⟨⟩
    exact ⟨_, rfl, rfl⟩
  · rintro ⟨_, rfl, rfl⟩
    exact .text (c :: rest)

theorem nil_iff : Closes [] cs' ↔ cs' = closing ∨ cs' = [] := by
  constructor
  · rintro (_ | _)
    · exact .inl rfl
    · exact .inr rfl
  · rintro (rfl | rfl)
    · exact .text []
    · exact .comment

theorem dropped (comment : Bool) (cs : List Char) :
    Closes (dropComments comment cs) (dropComments comment (cs ++ closing)) := by
  induction cs generalizing comment with
  | nil =>
    cases comment with
    | true => exact .comment
    | false => exact .text []
  | cons c cs ih =>
    cases comment with
    | true => exact ih (c != '\n')
    | false =>
      simp only [List.cons_append, Regex.dropComments]
      split
      · exact ih false
      · split
        · exact ih true
        · exact .text (c :: cs)

theorem skipped (verbose : Bool) (hc : Closes cs cs') : Closes (skip verbose cs) (skip verbose cs') := by
  cases hc with
  | text =>
    cases verbose with
    | true => exact dropped false cs
    | false => exact .text cs
  | comment => cases verbose <;> exact .comment

end Closes

theorem dropComments_suffix (comment : Bool) (cs : List Char) : dropComments comment cs <:+ cs := by
  induction cs generalizing comment with
  | nil => cases comment <;> exact List.suffix_refl _
  | cons c cs ih =>
    cases comment with
    | true => exact (ih _).trans (List.suffix_cons c cs)
    | false =>
      simp only [dropComments]
      split
      · exact (ih _).trans (List.suffix_cons c cs)
      · split
        · exact (ih _).trans (List.suffix_cons c cs)
        · exact List.suffix_refl _

theorem skip_suffix (verbose : Bool) (cs : List Char) : skip verbose cs <:+ cs := by
  cases verbose with
  | true => exact dropComments_suffix false cs
  | false => exact List.suffix_refl _

theorem length_skip_le (verbose : Bool) (cs : List Char) : (skip verbose cs).length ≤ cs.length :=
  (skip_suffix verbose cs).length_le

namespace Agrees

theorem mono {a b : Option (α × List Char)} {late' : List Char → Prop} {r r' : List Char} (h : Agrees late r r' a b)
    (hr : r.length ≤ cs.length) (hr' : r'.length ≤ cs'.length) (hl : ∀ l, late l → late' l) : Agrees late' cs cs' a b := by
  cases h with
  | fails => exact .fails
  | both hc h₁ h₂ => exact .both hc (Nat.le_trans h₁ hr) (Nat.le_trans h₂ hr')
  | late hs => exact .late (hl _ hs)

theorem shorter {a b : Option (α × List Char)} {r r' : List Char} (h : Agrees late r r' a b)
    (hr : r.length < cs.length) (hr' : r'.length < cs'.length) : Agrees late cs cs' a b :=
  h.mono (Nat.le_of_lt hr) (Nat.le_of_lt hr') fun _ => id

theorem bind {a b : Option (α × List Char)} {late' : List Char → Prop} {f : α × List Char → Option (β × List Char)}
    (h : Agrees late cs cs' a b)
    (hboth : ∀ x r r', Closes r r' → r.length ≤ cs.length → r'.length ≤ cs'.length →
      Agrees late' cs cs' (f (x, r)) (f (x, r')))
    (hlate : ∀ x r', late r' → Agrees late' cs cs' none (f (x, r'))) :
    Agrees late' cs cs' (a.bind f) (b.bind f) := by
  cases h with
  | fails => exact .fails
  | both hc h₁ h₂ => exact hboth _ _ _ hc h₁ h₂
  | late hs => exact hlate _ _ hs

theorem map {a b : Option (α × List Char)} (f : α → β) (h : Agrees late cs cs' a b) :
    Agrees late cs cs' (a.map fun p => (f p.1, p.2)) (b.map fun p => (f p.1, p.2)) := by
  cases h with
  | fails => exact .fails
  | both hc h₁ h₂ => exact .both hc h₁ h₂
  | late hs => exact .late hs

end Agrees

/-- What comes next is the same in both texts, as long as there is something left. -/
theorem Closes.skip_cases (verbose : Bool) (hc : Closes cs cs') :
    (skip verbose cs = [] ∧ skip verbose cs' = closing) ∨ (skip verbose cs = [] ∧ skip verbose cs' = []) ∨
      ∃ c r r', skip verbose cs = c :: r ∧ skip verbose cs' = c :: r' ∧ Closes r r' ∧ r.length < cs.length ∧
        r'.length < cs'.length := by
  have hskip := hc.skipped verbose
  have hle := length_skip_le verbose cs
  have hle' := length_skip_le verbose cs'
  generalize skip verbose cs = l at *
  generalize skip verbose cs' = l' at *
  cases l with
  | nil =>
    rcases Closes.nil_iff.mp hskip with rfl | rfl
    · exact .inl ⟨rfl, rfl⟩
    · exact .inr (.inl ⟨rfl, rfl⟩)
  | cons c r =>
    obtain ⟨r', rfl, rfl⟩ := Closes.cons_iff.mp hskip
    exact .inr (.inr ⟨c, r, _, rfl, rfl, .text r, hle, hle'⟩)

theorem length_lt_of_skip {c : Char} (h : skip verbose cs = c :: rest) : rest.length < cs.length := by
  have := length_skip_le verbose cs
  rwa [h] at this

theorem Closes.head_cases (hc : Closes cs cs') {c : Char} (hne : c ≠ ')') :
    (∃ r r', cs = c :: r ∧ cs' = c :: r' ∧ Closes r r') ∨
      (∀ r, cs = c :: r → False) ∧ ∀ r, cs' = c :: r → False := by
  cases cs with
  | nil =>
    refine .inr ⟨fun r hr => (List.cons_ne_nil c r hr.symm).elim, fun r hr => ?_⟩
    rcases Closes.nil_iff.mp hc with rfl | rfl
    · exact hne (List.cons.inj hr).1.symm
    · cases hr
  | cons d rest =>
    obtain ⟨rest', rfl, rfl⟩ := Closes.cons_iff.mp hc
    by_cases hd : d = c
    · exact .inl ⟨rest, _, by rw [hd], by rw [hd], .text rest⟩
    · exact .inr ⟨fun r hr => hd (List.cons.inj hr).1, fun r hr => hd (List.cons.inj hr).1⟩

theorem Agrees.skipped {x : α} {r r' : List Char} (hr : Closes r r') (hl : r.length < cs.length)
    (hl' : r'.length < cs'.length) : Agrees late cs cs' (some (x, skip verbose r)) (some (x, skip verbose r')) :=
  .both (hr.skipped verbose) (Nat.le_trans (length_skip_le _ _) (Nat.le_of_lt hl))
    (Nat.le_trans (length_skip_le _ _) (Nat.le_of_lt hl'))

theorem skip_closing : skip verbose closing = closing := by
  cases verbose <;> rfl

/-! ## Escapes -/

theorem hexDigits?_agrees (hc : Closes cs cs') (k n : Nat) :
    Agrees late cs cs' (hexDigits? verbose k n cs) (hexDigits? verbose k n cs') := by
  induction k generalizing n cs cs' with
  | zero => exact .both hc (Nat.le_refl _) (Nat.le_refl _)
  | succ k ih =>
    cases cs with
    | nil => rcases Closes.nil_iff.mp hc with rfl | rfl <;> exact .fails
    | cons c rest =>
      obtain ⟨rest', rfl, rfl⟩ := Closes.cons_iff.mp hc
      simp only [hexDigits?, Option.bind_eq_bind]
      cases Ascii.hexValue? c with
      | none => exact .fails
      | some d =>
        exact (ih ((Closes.text rest).skipped verbose) (16 * n + d)).mono (Nat.le_succ_of_le (length_skip_le _ _))
          (Nat.le_succ_of_le (length_skip_le _ _)) fun _ => id

theorem hexBrace?_agrees (hc : Closes cs cs') {fuel fuel' : Nat} (hf : cs.length < fuel) (hf' : cs'.length < fuel')
    (n : Option Nat) : Agrees late cs cs' (hexBrace? verbose fuel n cs) (hexBrace? verbose fuel' n cs') := by
  induction fuel generalizing fuel' n cs cs' with
  | zero => cases hf
  | succ fuel ih =>
    obtain ⟨fuel', rfl⟩ := Nat.exists_eq_add_of_lt (Nat.zero_lt_of_lt hf')
    rw [Nat.zero_add] at hf' ⊢
    rcases hc.skip_cases verbose with ⟨h, h'⟩ | ⟨h, h'⟩ | ⟨c, r, r', h, h', hr, hl, hl'⟩
    · simp only [hexBrace?, h, h', closing]
      exact .fails
    · simp only [hexBrace?, h, h']
      exact .fails
    · by_cases hb : c = '}'
      · subst hb
        simp only [hexBrace?, h, h']
        cases n with
        | none => exact .fails
        | some n => exact .skipped hr hl hl'
      · simp only [hexBrace?, h, h']
        cases Ascii.hexValue? c with
        | none => exact .fails
        | some d => exact (ih hr (by omega) (by omega) _).shorter hl hl'

theorem hexLiteral?_agrees (hc : Closes cs cs') (digits : Nat) :
    Agrees late cs cs' (hexLiteral? verbose digits cs) (hexLiteral? verbose digits cs') := by
  -- behind the digits only a scalar value is taken
  have hvalue : ∀ byteForm a b, Agrees late cs cs' a b →
      Agrees late cs cs' (a.bind fun p => (scalar? p.1).bind fun c => some (⟨c, byteForm⟩, p.2))
        (b.bind fun p => (scalar? p.1).bind fun c => some ((⟨c, byteForm⟩ : Literal), p.2)) := by
    intro byteForm a b hab
    refine hab.bind (fun n r r' hr hl hl' => ?_) fun n r' hr' => ?_
    · simp only
      cases scalar? n with
      | none => exact .fails
      | some c => exact .both hr hl hl'
    · simp only
      cases scalar? n with
      | none => exact .fails
      | some c => exact .late hr'
  rcases (hc.skipped verbose).head_cases (c := '{') (by decide) with ⟨r, r', h, h', hr⟩ | ⟨h, h'⟩
  · simp only [hexLiteral?, h, h']
    exact hvalue _ _ _ ((hexBrace?_agrees hr (Nat.lt_succ_self _) (Nat.lt_succ_self _) none).shorter
      (length_lt_of_skip h) (length_lt_of_skip h'))
  · simp only [hexLiteral?]
    exact hvalue _ _ _ ((hexDigits?_agrees (hc.skipped verbose) digits 0).mono (length_skip_le _ _) (length_skip_le _ _)
      fun _ => id)

theorem braced?_eq_none {fuel : Nat} {acc : List Char} (hc : '}' ∉ cs) : braced? verbose fuel acc cs = none := by
  induction fuel generalizing acc cs with
  | zero => rfl
  | succ fuel ih =>
    have hsub := (skip_suffix verbose cs).subset
    simp only [braced?]
    split
    · rfl
    · rename_i h
      exact absurd (hsub (h ▸ List.mem_cons_self)) hc
    · rename_i c rest _ h
      exact ih fun hmem => hc (hsub (h ▸ List.mem_cons_of_mem c hmem))

theorem braced?_agrees (hc : Closes cs cs') {fuel fuel' : Nat} (hf : cs.length < fuel) (hf' : cs'.length < fuel')
    (acc : List Char) : Agrees late cs cs' (braced? verbose fuel acc cs) (braced? verbose fuel' acc cs') := by
  induction fuel generalizing fuel' acc cs cs' with
  | zero => cases hf
  | succ fuel ih =>
    obtain ⟨fuel', rfl⟩ := Nat.exists_eq_add_of_lt (Nat.zero_lt_of_lt hf')
    rw [Nat.zero_add] at hf' ⊢
    rcases hc.skip_cases verbose with ⟨h, h'⟩ | ⟨h, h'⟩ | ⟨c, r, r', h, h', hr, hl, hl'⟩
    · simp only [braced?, h, h']
      have hlost : braced? verbose fuel' (')' :: acc) ['$'] = none := braced?_eq_none (by decide)
      change Agrees late cs cs' none (braced? verbose fuel' (')' :: acc) ['$'])
      rw [hlost]
      exact .fails
    · simp only [braced?, h, h']
      exact .fails
    · by_cases hb : c = '}'
      · subst hb
        simp only [braced?, h, h']
        exact .both hr (Nat.le_of_lt hl) (Nat.le_of_lt hl')
      · simp only [braced?, h, h']
        exact (ih hr (by omega) (by omega) _).shorter hl hl'

theorem property?_agrees (hc : Closes cs cs') (negated : Bool) :
    Agrees (· <:+ ['$']) cs cs' (property? verbose negated cs) (property? verbose negated cs') := by
  rcases hc.skip_cases verbose with ⟨h, h'⟩ | ⟨h, h'⟩ | ⟨c, r, r', h, h', hr, hl, hl'⟩
  · simp only [property?, h, h', closing]
    exact .late (skip_suffix verbose _)
  · simp only [property?, h, h']
    exact .fails
  · by_cases hb : c = '{'
    · subst hb
      simp only [property?, h, h']
      have hname : Agrees (· <:+ ['$']) cs cs' (braced? verbose (r.length + 1) [] r)
          (braced? verbose (r'.length + 1) [] r') :=
        (braced?_agrees hr (Nat.lt_succ_self _) (Nat.lt_succ_self _) []).shorter hl hl'
      exact hname.bind (fun _ _ _ hc h₁ h₂ => .both hc h₁ h₂) fun _ _ hs => .late hs
    · by_cases hs : c = '\\'
      · subst hs
        simp only [property?, h, h']
        exact .fails
      · simp only [property?, h, h']
        exact .skipped hr hl hl'

/-- Reads characters of one kind. Edge names, digits and blanks of counts are read this way. -/
def scanWhile (verbose : Bool) (p : Char → Bool) : Nat → List Char → List Char → List Char × List Char
  | 0, acc, cs => (acc.reverse, cs)
  | fuel + 1, acc, cs =>
    match cs with
    | c :: rest => if p c then scanWhile verbose p fuel (c :: acc) (skip verbose rest) else (acc.reverse, cs)
    | [] => (acc.reverse, [])

theorem edgeName_eq (fuel : Nat) (acc cs : List Char) :
    edgeName verbose fuel acc cs = scanWhile verbose isEdgeChar fuel acc cs := by
  induction fuel generalizing acc cs with
  | zero => rfl
  | succ fuel ih => cases cs <;> simp only [edgeName, scanWhile, ih]

theorem scanWhile_nil {p : Char → Bool} (fuel : Nat) (acc : List Char) :
    scanWhile verbose p fuel acc [] = (acc.reverse, []) := by
  cases fuel <;> rfl

theorem scanWhile_closing {p : Char → Bool} (hp : p ')' = false) (fuel : Nat) (acc : List Char) :
    scanWhile verbose p fuel acc closing = (acc.reverse, closing) := by
  cases fuel <;> simp [scanWhile, closing, hp]

theorem scanWhile_agrees {p : Char → Bool} (hp : p ')' = false) (hc : Closes cs cs') {fuel fuel' : Nat}
    (hf : cs.length ≤ fuel) (hf' : cs'.length ≤ fuel') (acc : List Char) :
    Agrees late cs cs' (some (scanWhile verbose p fuel acc cs)) (some (scanWhile verbose p fuel' acc cs')) := by
  induction fuel generalizing fuel' acc cs cs' with
  | zero =>
    obtain rfl := List.eq_nil_of_length_eq_zero (Nat.le_zero.mp hf)
    rcases Closes.nil_iff.mp hc with rfl | rfl
    · rw [scanWhile_nil, scanWhile_closing hp]
      exact .both (.text []) (Nat.le_refl _) (Nat.le_refl _)
    · rw [scanWhile_nil, scanWhile_nil]
      exact .both .comment (Nat.le_refl _) (Nat.le_refl _)
  | succ fuel ih =>
    cases cs with
    | nil =>
      rcases Closes.nil_iff.mp hc with rfl | rfl
      · rw [scanWhile_nil, scanWhile_closing hp]
        exact .both (.text []) (Nat.le_refl _) (Nat.le_refl _)
      · rw [scanWhile_nil, scanWhile_nil]
        exact .both .comment (Nat.le_refl _) (Nat.le_refl _)
    | cons c r =>
      obtain ⟨r', rfl, hr⟩ := Closes.cons_iff.mp hc
      have hskip := (Closes.text r).skipped verbose
      rw [← hr] at hskip
      have hle := length_skip_le verbose r
      have hle' := length_skip_le verbose r'
      obtain ⟨fuel', rfl⟩ := Nat.exists_eq_add_of_lt (Nat.lt_of_lt_of_le (Nat.succ_pos _) hf')
      simp only [List.length_cons] at hf hf'
      rw [Nat.zero_add] at hf' ⊢
      simp only [scanWhile]
      split
      · exact (ih hskip (by omega) (by omega) _).shorter (Nat.lt_succ_of_le hle) (Nat.lt_succ_of_le hle')
      · exact .both hc (Nat.le_refl _) (Nat.le_refl _)

theorem wordEdge?_agrees (hc : Closes cs cs') :
    Agrees late cs cs' (wordEdge? verbose cs) (wordEdge? verbose cs') := by
  have hplain : Agrees late cs cs' (some (Anchor.wordEdge, cs)) (some (Anchor.wordEdge, cs')) :=
    .both hc (Nat.le_refl _) (Nat.le_refl _)
  rcases hc.head_cases (c := '{') (by decide) with ⟨r, r', rfl, rfl, hr⟩ | ⟨h, h'⟩
  · rcases hr.skip_cases verbose with ⟨h, h'⟩ | ⟨h, h'⟩ | ⟨c, more, more', h, h', hmore, hl, hl'⟩
    · simp only [wordEdge?, h, h', closing]
      exact hplain
    · simp only [wordEdge?, h, h']
      exact hplain
    · simp only [wordEdge?, h, h']
      split
      · exact hplain
      · have hname : Agrees late (c :: more) (c :: more') (some (edgeName verbose (more.length + 1) [] (c :: more)))
            (some (edgeName verbose (more'.length + 1) [] (c :: more'))) := by
          rw [edgeName_eq, edgeName_eq]
          exact scanWhile_agrees (by decide) (h ▸ h' ▸ hr.skipped verbose) (Nat.le_refl _) (Nat.le_refl _) []
        generalize edgeName verbose (more.length + 1) [] (c :: more) = p at hname
        generalize edgeName verbose (more'.length + 1) [] (c :: more') = p' at hname
        cases hname with
        | both hrest h₁ h₂ =>
          simp only [List.length_cons] at h₁ h₂
          rcases hrest.head_cases (c := '}') (by decide) with ⟨l, l', rfl, rfl, hl⟩ | ⟨hno, hno'⟩
          · simp only [List.length_cons] at h₁ h₂
            cases edgeOfName? _ with
            | none => exact .fails
            | some a =>
              exact .both hl (by simp only [List.length_cons]; omega) (by simp only [List.length_cons]; omega)
          · simp only
            exact .fails
  · simp only [wordEdge?]
    exact hplain

theorem escape?_agrees (hc : Closes cs cs') : Agrees (· <:+ ['$']) cs cs' (escape? verbose cs) (escape? verbose cs') := by
  cases cs with
  | nil =>
    rcases Closes.nil_iff.mp hc with rfl | rfl
    · exact .late (List.suffix_refl _)
    · exact .fails
  | cons c rest =>
    obtain ⟨rest', rfl, hrest⟩ := Closes.cons_iff.mp hc
    have hr : Closes rest rest' := hrest ▸ .text rest
    have hplain : ∀ p : Primitive, Agrees (· <:+ ['$']) (c :: rest) (c :: rest') (some (p, rest)) (some (p, rest')) :=
      fun p => .both hr (Nat.le_succ _) (Nat.le_succ _)
    have hhex : ∀ n, Agrees (· <:+ ['$']) (c :: rest) (c :: rest')
        ((hexLiteral? verbose n rest).map fun p => (Primitive.literal p.1, p.2))
        ((hexLiteral? verbose n rest').map fun p => (Primitive.literal p.1, p.2)) :=
      fun n => ((hexLiteral?_agrees hr n).shorter (Nat.lt_succ_self _) (Nat.lt_succ_self _)).map Primitive.literal
    have hproperty : ∀ negated, Agrees (· <:+ ['$']) (c :: rest) (c :: rest')
        ((property? verbose negated rest).map fun p => (Primitive.item p.1, p.2))
        ((property? verbose negated rest').map fun p => (Primitive.item p.1, p.2)) :=
      fun negated => ((property?_agrees hr negated).shorter (Nat.lt_succ_self _) (Nat.lt_succ_self _)).map Primitive.item
    have hedge : Agrees (· <:+ ['$']) (c :: rest) (c :: rest')
        ((wordEdge? verbose rest).map fun p => (Primitive.anchor p.1, p.2))
        ((wordEdge? verbose rest').map fun p => (Primitive.anchor p.1, p.2)) :=
      ((wordEdge?_agrees hr).shorter (Nat.lt_succ_self _) (Nat.lt_succ_self _)).map Primitive.anchor
    simp only [escape?]
    split
    case h_1 | h_2 | h_3 => exact hhex _
    case h_4 | h_5 => exact hproperty _
    case h_20 => exact hedge
    case h_24 =>
      split
      · exact hplain _
      · exact .fails
    all_goals exact hplain _

end Portcullis.Regex

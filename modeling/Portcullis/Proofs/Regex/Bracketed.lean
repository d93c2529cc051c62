import Mathlib.Data.List.TakeWhile
import Portcullis.Proofs.Regex.Closing

/-!
# Bracketed classes in front of a closing parenthesis

A class that is open at the end of a pattern takes the closing in and stays open.
-/

namespace Portcullis.Regex

variable {late : List Char → Prop} {cs cs' rest rest' : List Char} {verbose : Bool}

/-! ## What is left of the closing -/

theorem suffix_closing (h : rest <:+ closing) : rest = closing ∨ rest = ['$'] ∨ rest = [] := by
  rcases List.suffix_cons_iff.mp h with rfl | h
  · exact .inl rfl
  · rcases List.suffix_cons_iff.mp h with rfl | h
    · exact .inr (.inl rfl)
    · exact .inr (.inr (List.suffix_nil.mp h))

theorem skip_of_suffix_closing (h : rest <:+ closing) : skip verbose rest = rest := by
  rcases suffix_closing h with rfl | rfl | rfl <;> cases verbose <;> rfl

/-- Up to a character that the closing does not have, both texts read the same. -/
theorem Closes.cut (hc : Closes cs cs') {p : Char → Bool} (hp : closing.all p = true) :
    (cs.dropWhile p = [] ∧ cs'.dropWhile p = []) ∨
      ∃ c r r', cs.dropWhile p = c :: r ∧ cs'.dropWhile p = c :: r' ∧ Closes r r' ∧
        cs'.takeWhile p = cs.takeWhile p ∧ r.length < cs.length ∧ r'.length < cs'.length := by
  cases hc with
  | comment => exact .inl ⟨rfl, rfl⟩
  | text =>
    induction cs with
    | nil => exact .inl ⟨rfl, List.dropWhile_eq_nil_iff.mpr (List.all_eq_true.mp hp)⟩
    | cons c cs ih =>
      by_cases hpc : p c = true
      · simp only [List.cons_append, List.dropWhile_cons_of_pos hpc, List.takeWhile_cons_of_pos hpc]
        rcases ih with h | ⟨d, r, r', h, h', hr, ht, hl, hl'⟩
        · exact .inl h
        · exact .inr ⟨d, r, r', h, h', hr, by rw [ht], Nat.lt_succ_of_lt hl, Nat.lt_succ_of_lt hl'⟩
      · simp only [List.cons_append, List.dropWhile_cons_of_neg hpc, List.takeWhile_cons_of_neg hpc]
        exact .inr ⟨c, cs, _, rfl, rfl, .text cs, trivial, Nat.lt_succ_self _, Nat.lt_succ_self _⟩

/-! ## Named classes -/

/-- A named class behind its colon and the sign of negation. -/
def asciiName? (negated : Bool) (cs : List Char) : Option (ClassItem × List Char) :=
  match cs.dropWhile (· != ':') with
  | ':' :: ']' :: rest =>
    let name := String.ofList (cs.takeWhile (· != ':'))
    if asciiNames.contains name then some (.ascii negated name, rest) else none
  | _ => none

theorem asciiName?_agrees (hc : Closes cs cs') (negated : Bool) :
    Agrees late cs cs' (asciiName? negated cs) (asciiName? negated cs') := by
  rcases hc.cut (p := (· != ':')) (by decide) with ⟨h, h'⟩ | ⟨c, r, r', h, h', hr, ht, hl, hl'⟩
  · simp only [asciiName?, h, h']
    exact .fails
  · by_cases hcolon : c = ':'
    · subst hcolon
      rcases hr.head_cases (c := ']') (by decide) with ⟨l, l', rfl, rfl, hcl⟩ | ⟨hno, hno'⟩
      · simp only [List.length_cons] at hl hl'
        simp only [asciiName?, h, h', ht]
        split
        · exact .both hcl (by omega) (by omega)
        · exact .fails
      · have hd : ∀ l, ':' :: r = ':' :: ']' :: l → False := fun l hl => hno l (List.cons.inj hl).2
        have hd' : ∀ l, ':' :: r' = ':' :: ']' :: l → False := fun l hl => hno' l (List.cons.inj hl).2
        simp only [asciiName?, h, h']
        exact .fails
    · simp only [asciiName?, h, h', List.cons.injEq, hcolon, false_and, false_imp_iff, implies_true]
      exact .fails

theorem asciiClass?_agrees (hc : Closes cs cs') : Agrees late cs cs' (asciiClass? cs) (asciiClass? cs') := by
  rcases hc.head_cases (c := ':') (by decide) with ⟨r, r', rfl, rfl, hr⟩ | ⟨h, h'⟩
  · rcases hr.head_cases (c := '^') (by decide) with ⟨l, l', rfl, rfl, hl⟩ | ⟨h, h'⟩
    · exact (asciiName?_agrees hl true).mono (by simp only [List.length_cons]; omega)
        (by simp only [List.length_cons]; omega) fun _ => id
    · have hplain : ∀ {cs}, (∀ r, cs = '^' :: r → False) → asciiClass? (':' :: cs) = asciiName? false cs := by
        intro cs hno
        simp only [asciiClass?]
        rfl
      rw [hplain h, hplain h']
      exact (asciiName?_agrees hr false).shorter (Nat.lt_succ_self _) (Nat.lt_succ_self _)
  · simp only [asciiClass?]
    exact .fails

/-! ## Beginnings -/

theorem leadingHyphens_agrees (hc : Closes cs cs') {fuel fuel' : Nat} (hf : cs.length < fuel)
    (hf' : cs'.length < fuel') (l : ClassLevel) :
    Agrees (· <:+ closing) cs cs' (leadingHyphens verbose fuel l cs) (leadingHyphens verbose fuel' l cs') := by
  induction fuel generalizing fuel' l cs cs' with
  | zero => cases hf
  | succ fuel ih =>
    obtain ⟨fuel', rfl⟩ := Nat.exists_eq_add_of_lt (Nat.zero_lt_of_lt hf')
    rw [Nat.zero_add] at hf' ⊢
    cases cs with
    | nil =>
      rcases Closes.nil_iff.mp hc with rfl | rfl
      · exact .late (List.suffix_refl _)
      · exact .fails
    | cons c r =>
      obtain ⟨r', rfl, hr⟩ := Closes.cons_iff.mp hc
      have hskip := (Closes.text r).skipped verbose
      rw [← hr] at hskip
      have hle := length_skip_le verbose r
      have hle' := length_skip_le verbose r'
      simp only [List.length_cons] at hf hf'
      by_cases hh : c = '-'
      · subst hh
        exact (ih hskip (by omega) (by omega) _).shorter (Nat.lt_succ_of_le hle) (Nat.lt_succ_of_le hle')
      · simp only [leadingHyphens, List.cons.injEq, hh, false_and, false_imp_iff, implies_true]
        exact .both hc (Nat.le_refl _) (Nat.le_refl _)

/-- A class behind the sign of negation. -/
def openItems? (verbose negated : Bool) (cs : List Char) : Option (ClassLevel × List Char) :=
  match leadingHyphens verbose (cs.length + 1) ⟨negated, none, []⟩ cs with
  | none => none
  | some (l, cs) =>
    match l.items, cs with
    | [], ']' :: rest =>
      match skip verbose rest with
      | [] => none
      | rest => some (l.push (.literal ⟨']', false⟩), rest)
    | _, _ => some (l, cs)

theorem openItems?_agrees (hc : Closes cs cs') (negated : Bool) :
    Agrees (· <:+ closing) cs cs' (openItems? verbose negated cs) (openItems? verbose negated cs') := by
  have hh : Agrees (· <:+ closing) cs cs' (leadingHyphens verbose (cs.length + 1) ⟨negated, none, []⟩ cs)
      (leadingHyphens verbose (cs'.length + 1) ⟨negated, none, []⟩ cs') :=
    leadingHyphens_agrees hc (Nat.lt_succ_self _) (Nat.lt_succ_self _) _
  simp only [openItems?]
  generalize leadingHyphens verbose (cs.length + 1) ⟨negated, none, []⟩ cs = a at hh
  generalize leadingHyphens verbose (cs'.length + 1) ⟨negated, none, []⟩ cs' = b at hh
  cases hh with
  | fails => exact .fails
  | @both l r r' hr hle hle' =>
    simp only
    cases hitems : l.items with
    | cons i is => exact .both hr hle hle'
    | nil =>
      rcases hr.head_cases (c := ']') (by decide) with ⟨m, m', rfl, rfl, hm⟩ | ⟨hno, hno'⟩
      · simp only [List.length_cons] at hle hle'
        rcases hm.skip_cases verbose with ⟨h, h'⟩ | ⟨h, h'⟩ | ⟨c, n, n', h, h', hn, hl, hl'⟩
        · simp only [h, h', closing]
          exact .late (List.suffix_refl _)
        · simp only [h, h']
          exact .fails
        · simp only [h, h']
          exact .both (h ▸ h' ▸ hm.skipped verbose) (by simp only [List.length_cons]; omega)
            (by simp only [List.length_cons]; omega)
      · have hd : ∀ m, ([] : List ClassItem) = [] → r = ']' :: m → False := fun m _ => hno m
        have hd' : ∀ m, ([] : List ClassItem) = [] → r' = ']' :: m → False := fun m _ => hno' m
        simp only
        exact .both hr hle hle'
  | @late l r' hr =>
    simp only
    split
    · rename_i hmem
      exact absurd (hr.subset List.mem_cons_self) (by decide)
    · exact .late hr

theorem openClass?_agrees (hc : Closes cs cs') :
    Agrees (· <:+ closing) cs cs' (openClass? verbose cs) (openClass? verbose cs') := by
  have hle := length_skip_le verbose cs
  have hle' := length_skip_le verbose cs'
  rcases (hc.skipped verbose).head_cases (c := '^') (by decide) with ⟨r, r', h, h', hr⟩ | ⟨h, h'⟩
  · have hl := length_lt_of_skip h
    have hl' := length_lt_of_skip h'
    have heq : ∀ {cs r}, skip verbose cs = '^' :: r → openClass? verbose cs = openItems? verbose true (skip verbose r) := by
      intro cs r h
      simp only [openClass?, h]
      rfl
    rw [heq h, heq h']
    exact (openItems?_agrees (hr.skipped verbose) true).mono ((length_skip_le _ _).trans (Nat.le_of_lt hl))
      ((length_skip_le _ _).trans (Nat.le_of_lt hl')) fun _ => id
  · have heq : ∀ {cs}, (∀ r, skip verbose cs = '^' :: r → False) →
        openClass? verbose cs = openItems? verbose false (skip verbose cs) := by
      intro cs h
      simp only [openClass?]
      rfl
    rw [heq h, heq h']
    exact (openItems?_agrees (hc.skipped verbose) false).mono hle hle' fun _ => id

/-! ## Items -/

theorem classPrimitive?_cons_agrees (hc : Closes cs cs') (c : Char) :
    Agrees (· <:+ closing) cs cs' (classPrimitive? verbose (c :: cs)) (classPrimitive? verbose (c :: cs')) := by
  by_cases hs : c = '\\'
  · subst hs
    exact (escape?_agrees hc).mono (Nat.le_refl _) (Nat.le_refl _) fun l hl => hl.trans (List.suffix_cons _ _)
  · simp only [classPrimitive?]
    exact .both hc (Nat.le_refl _) (Nat.le_refl _)

theorem classPrimitive?_agrees (hc : Closes cs cs') :
    Agrees (· <:+ closing) cs cs' (classPrimitive? verbose cs) (classPrimitive? verbose cs') := by
  cases cs with
  | nil =>
    rcases Closes.nil_iff.mp hc with rfl | rfl
    · exact .late (List.suffix_cons _ _)
    · exact .fails
  | cons c r =>
    obtain ⟨r', rfl, rfl⟩ := Closes.cons_iff.mp hc
    exact (classPrimitive?_cons_agrees (.text r) c).shorter (Nat.lt_succ_self _) (Nat.lt_succ_self _)

theorem peekBlank_append {c : Char} (hne : c ∉ closing) (cs : List Char) :
    (peekBlank (cs ++ closing) == some c) = (peekBlank cs == some c) := by
  have hparen : ')' ≠ c := fun h => hne (h ▸ List.mem_cons_self)
  induction cs with
  | nil => simpa [peekBlank, closing, Text.isBlank] using hparen
  | cons d cs ih =>
    simp only [List.cons_append, peekBlank, List.find?_append]
    split
    · exact ih
    · split
      · cases cs.find? (!Text.isBlank ·) with
        | some e => rfl
        | none => simpa [closing, Text.isBlank] using hparen
      · rfl

theorem Closes.peek_eq (verbose : Bool) (hc : Closes cs cs') {c : Char} (hne : c ∉ closing) :
    (peek verbose cs' == some c) = (peek verbose cs == some c) := by
  cases hc with
  | comment => rfl
  | text =>
    cases verbose with
    | true => exact peekBlank_append hne cs
    | false =>
      cases cs with
      | nil => simpa [peek, closing] using fun h : ')' = c => hne (h ▸ List.mem_cons_self)
      | cons d cs => rfl

theorem classItem?_agrees (hc : Closes cs cs') (c : Char) :
    Agrees (· <:+ closing) cs cs' (classItem? verbose (c :: cs)) (classItem? verbose (c :: cs')) := by
  refine (classPrimitive?_cons_agrees hc c).bind (fun first r r' hr hl hl' => ?_) fun first r' hr' => ?_
  · rcases hr.skip_cases verbose with ⟨h, h'⟩ | ⟨h, h'⟩ | ⟨c, m, m', h, h', hm, hlt, hlt'⟩
    · simp only [h, h', closing]
      cases first with
      | literal l => exact .late (List.suffix_refl _)
      | item i => exact .late (List.suffix_refl _)
      | anchor a => exact .fails
    · simp only [h, h']
      exact .fails
    · simp only [h, h', hm.peek_eq verbose (c := ']') (by decide), hm.peek_eq verbose (c := '-') (by decide)]
      split
      · have hm' := hr.skipped verbose
        have hle : (skip verbose r).length ≤ cs.length := by rw [h, List.length_cons]; omega
        have hle' : (skip verbose r').length ≤ cs'.length := by rw [h', List.length_cons]; omega
        rw [h, h'] at hm'
        rw [h] at hle
        rw [h'] at hle'
        cases first with
        | literal l => exact .both hm' hle hle'
        | item i => exact .both hm' hle hle'
        | anchor a => exact .fails
      · have hlast : Agrees (· <:+ closing) cs cs' (classPrimitive? verbose (skip verbose m))
            (classPrimitive? verbose (skip verbose m')) :=
          (classPrimitive?_agrees (hm.skipped verbose)).mono (by have := length_skip_le verbose m; omega)
            (by have := length_skip_le verbose m'; omega) fun _ => id
        refine hlast.bind (fun last l l' hl hle hle' => ?_) fun last l' hl => ?_
        · cases first with
          | literal a =>
            cases last with
            | literal b =>
              simp only
              split
              · exact .both hl hle hle'
              · exact .fails
            | _ => exact .fails
          | _ => exact .fails
        · cases first with
          | literal a =>
            cases last with
            | literal b =>
              simp only
              split
              · exact .late hl
              · exact .fails
            | _ => exact .fails
          | _ => exact .fails
  · -- the closing itself was taken for an item
    simp only [skip_of_suffix_closing hr']
    rcases suffix_closing hr' with rfl | rfl | rfl
    · cases first with
      | literal l => exact .late (List.suffix_refl _)
      | item i => exact .late (List.suffix_refl _)
      | anchor a => exact .fails
    · cases first with
      | literal l => exact .late (List.suffix_cons _ _)
      | item i => exact .late (List.suffix_cons _ _)
      | anchor a => exact .fails
    · exact .fails

/-! ## Whole classes -/

/-- What is left of the closing does not end a class. -/
theorem classLoop?_closing {fuel : Nat} {outer : List ClassLevel} {l : ClassLevel} (h : rest <:+ closing) :
    classLoop? verbose fuel outer l rest = none := by
  have hnil : ∀ fuel l, classLoop? verbose fuel outer l [] = none := by
    intro fuel l
    cases fuel <;> cases verbose <;> rfl
  have hdollar : ∀ fuel l, classLoop? verbose fuel outer l ['$'] = none := by
    intro fuel l
    cases fuel <;> cases verbose <;> rfl
  rcases suffix_closing h with rfl | rfl | rfl
  · cases fuel with
    | zero => rfl
    | succ fuel => cases verbose <;> exact hdollar fuel _
  · exact hdollar fuel l
  · exact hnil fuel l

/-- Goes on with a class behind an item, if one is read. -/
def afterItem? (verbose : Bool) (fuel : Nat) (outer : List ClassLevel) (l : ClassLevel)
    (item : Option (ClassItem × List Char)) : Option (ClassItem × List Char) :=
  match item with
  | some (item, rest) => classLoop? verbose fuel outer (l.push item) rest
  | none => none

theorem classLoop?_agrees (hc : Closes cs cs') {fuel fuel' : Nat} (hf : cs.length < fuel) (hf' : cs'.length < fuel')
    (outer : List ClassLevel) (l : ClassLevel) :
    Agrees late cs cs' (classLoop? verbose fuel outer l cs) (classLoop? verbose fuel' outer l cs') := by
  induction fuel generalizing fuel' outer l cs cs' with
  | zero => cases hf
  | succ fuel ih =>
    obtain ⟨fuel', rfl⟩ := Nat.exists_eq_add_of_lt (Nat.zero_lt_of_lt hf')
    rw [Nat.zero_add] at hf' ⊢
    rcases hc.skip_cases verbose with ⟨h, h'⟩ | ⟨h, h'⟩ | ⟨c, r, r', h, h', hr, hl, hl'⟩
    · have hlost : classLoop? verbose (fuel' + 1) outer l cs' = classLoop? verbose (fuel' + 1) outer l closing := by
        simp only [classLoop?, h', skip_closing]
      rw [hlost, classLoop?_closing (List.suffix_refl _)]
      simp only [classLoop?, h]
      exact .fails
    · simp only [classLoop?, h, h']
      exact .fails
    · have hitem : Agrees late cs cs'
          (afterItem? verbose fuel outer l (classItem? verbose (c :: r)))
          (afterItem? verbose fuel' outer l (classItem? verbose (c :: r'))) := by
        have hi : Agrees (· <:+ closing) r r' (classItem? verbose (c :: r)) (classItem? verbose (c :: r')) :=
          classItem?_agrees hr c
        generalize classItem? verbose (c :: r) = a at hi
        generalize classItem? verbose (c :: r') = b at hi
        cases hi with
        | fails => exact .fails
        | both hm hle hle' => exact (ih hm (by omega) (by omega) _ _).mono (by omega) (by omega) fun _ => id
        | late hs =>
          simp only [afterItem?, classLoop?_closing hs]
          exact .fails
      by_cases hopen : c = '['
      · subst hopen
        simp only [classLoop?, h, h']
        have ha : Agrees (fun _ => False) r r' (asciiClass? r) (asciiClass? r') := asciiClass?_agrees hr
        generalize asciiClass? r = a at ha
        generalize asciiClass? r' = b at ha
        cases ha with
        | both hm hle hle' => exact (ih hm (by omega) (by omega) _ _).mono (by omega) (by omega) fun _ => id
        | late hs => exact hs.elim
        | fails =>
          have ho : Agrees (· <:+ closing) r r' (openClass? verbose r) (openClass? verbose r') := openClass?_agrees hr
          generalize openClass? verbose r = a at ho
          generalize openClass? verbose r' = b at ho
          cases ho with
          | fails => exact .fails
          | both hm hle hle' => exact (ih hm (by omega) (by omega) _ _).mono (by omega) (by omega) fun _ => id
          | late hs =>
            simp only [classLoop?_closing hs]
            exact .fails
      · by_cases hclose : c = ']'
        · subst hclose
          simp only [classLoop?, h, h']
          cases outer with
          | nil => exact .both hr (Nat.le_of_lt hl) (Nat.le_of_lt hl')
          | cons o outer => exact (ih hr (by omega) (by omega) _ _).shorter hl hl'
        · simp only [classLoop?, h, h']
          cases hop : setOp? c with
          | none => exact hitem
          | some op =>
            have hne : c ∉ closing := by
              intro hmem
              rcases List.mem_cons.mp hmem with rfl | hmem
              · cases hop
              · obtain rfl := List.mem_singleton.mp hmem
                cases hop
            have hhead : (r'.head? == some c) = (r.head? == some c) := hr.peek_eq false hne
            simp only [hhead]
            split
            · rename_i heq
              cases r with
              | nil => cases heq
              | cons d m =>
                obtain ⟨m', rfl, rfl⟩ := Closes.cons_iff.mp hr
                simp only [List.length_cons] at hl hl'
                exact (ih (.text m) (by omega) (by omega) _ _).mono (by omega) (by omega) fun _ => id
            · exact hitem

theorem class?_agrees (hc : Closes cs cs') : Agrees late cs cs' (class? verbose cs) (class? verbose cs') := by
  refine (openClass?_agrees hc).bind (fun l r r' hr hl hl' => ?_) fun l r' hs => ?_
  · exact (classLoop?_agrees hr (Nat.lt_succ_self _) (Nat.lt_succ_self _) [] l).mono hl hl' fun _ => id
  · simp only [classLoop?_closing hs]
    exact .fails

end Portcullis.Regex

import Portcullis.Proofs.Regex.Bracketed
import Portcullis.Regex.Parser

/-!
# Reading inside of a group

A pattern that is read inside of an open group leaves the same parts as by itself, as long as it does not close that
group. What it takes of the closing leaves the group open.
-/

namespace Portcullis.Regex

variable {late : List Char → Prop} {cs cs' rest rest' : List Char} {verbose : Bool} {base : OpenGroup} {s s' : State}

/-! ## Counts -/

theorem countDigits_eq (fuel : Nat) (acc cs : List Char) :
    countDigits verbose fuel acc cs = scanWhile verbose Char.isDigit fuel acc cs := by
  induction fuel generalizing acc cs with
  | zero => rfl
  | succ fuel ih => cases cs <;> simp only [countDigits, scanWhile, ih]

theorem countBlanks_eq (fuel : Nat) (acc cs : List Char) :
    countBlanks verbose fuel cs = (scanWhile verbose Text.isBlank fuel acc cs).2 := by
  induction fuel generalizing acc cs with
  | zero => rfl
  | succ fuel ih =>
    cases cs with
    | nil => rfl
    | cons c rest =>
      simp only [countBlanks, scanWhile]
      split
      · exact ih _ _
      · rfl

theorem Closes.dropBlanks (hc : Closes cs cs') : Closes (cs.dropWhile Text.isBlank) (cs'.dropWhile Text.isBlank) := by
  cases hc with
  | comment => exact .comment
  | text =>
    induction cs with
    | nil => exact .text []
    | cons c cs ih =>
      simp only [List.cons_append, List.dropWhile_cons]
      split
      · exact ih
      · exact .text (c :: cs)

theorem count?_agrees (hc : Closes cs cs') : Agrees late cs cs' (count? verbose cs) (count? verbose cs') := by
  have hd : Agrees late (cs.dropWhile Text.isBlank) (cs'.dropWhile Text.isBlank)
      (some (countDigits verbose (cs.length + 1) [] (cs.dropWhile Text.isBlank)))
      (some (countDigits verbose (cs'.length + 1) [] (cs'.dropWhile Text.isBlank))) := by
    rw [countDigits_eq, countDigits_eq]
    exact scanWhile_agrees (by decide) hc.dropBlanks (Nat.le_succ_of_le (List.dropWhile_suffix _).length_le)
      (Nat.le_succ_of_le (List.dropWhile_suffix _).length_le) []
  have hle := (cs.dropWhile_suffix Text.isBlank).length_le
  have hle' := (cs'.dropWhile_suffix Text.isBlank).length_le
  simp only [count?]
  generalize countDigits verbose (cs.length + 1) [] (cs.dropWhile Text.isBlank) = p at hd
  generalize countDigits verbose (cs'.length + 1) [] (cs'.dropWhile Text.isBlank) = p' at hd
  cases hd with
  | @both digits r r' hr h₁ h₂ =>
    have hb : Agrees late r r' (some (scanWhile verbose Text.isBlank (r.length + 1) [] r))
        (some (scanWhile verbose Text.isBlank (r'.length + 1) [] r')) :=
      scanWhile_agrees (by decide) hr (Nat.le_succ _) (Nat.le_succ _) []
    simp only [countBlanks_eq _ []]
    generalize scanWhile verbose Text.isBlank (r.length + 1) [] r = q at hb
    generalize scanWhile verbose Text.isBlank (r'.length + 1) [] r' = q' at hb
    cases hb with
    | both hm h₃ h₄ =>
      simp only
      split
      · exact .both hm (by omega) (by omega)
      · split
        · exact .both hm (by omega) (by omega)
        · exact .fails

theorem lazyMark_agrees (hc : Closes cs cs') : Agrees late cs cs' (some (lazyMark cs)) (some (lazyMark cs')) := by
  rcases hc.head_cases (c := '?') (by decide) with ⟨r, r', rfl, rfl, hr⟩ | ⟨h, h'⟩
  · exact .both hr (Nat.le_succ _) (Nat.le_succ _)
  · simp only [lazyMark]
    exact .both hc (Nat.le_refl _) (Nat.le_refl _)

/-! ## States inside of a group -/

/-- The state with one more group open around all others. -/
def State.within (base : OpenGroup) (s : State) : State :=
  { s with groups := s.groups ++ [base] }

theorem State.within_close? (h : s.groups ≠ []) : (s.within base).close? = s.close?.map (State.within base) := by
  cases hg : s.groups with
  | nil => exact absurd hg h
  | cons g groups => simp [State.close?, State.within, hg]

theorem State.within_repeat? (min : Nat) (max : Option Nat) (greedy : Bool) :
    (s.within base).repeat? min max greedy = (s.repeat? min max greedy).map (State.within base) := by
  simp only [State.repeat?, State.within]
  split <;> rfl

/-- A reading by itself and one inside of the group. -/
abbrev Encloses (base : OpenGroup) (late : List Char → Prop) (cs cs' : List Char)
    (a b : Option (State × List Char)) : Prop :=
  Agrees late cs cs' (a.map fun p => (p.1.within base, p.2)) b

theorem Agrees.encloses {α : Type} {a b : Option (α × List Char)} (h : Agrees late cs cs' a b) (f : α → State) :
    Encloses base late cs cs' (a.map fun p => (f p.1, p.2)) (b.map fun p => ((f p.1).within base, p.2)) := by
  cases h with
  | fails => exact .fails
  | both hr h₁ h₂ => exact .both hr h₁ h₂
  | late hs => exact .late hs

theorem uncounted?_encloses (hc : Closes cs cs') (min : Nat) (max : Option Nat) :
    Encloses base late cs cs' (uncounted? s min max cs) (uncounted? (s.within base) min max cs') := by
  have hl : Agrees late cs cs' (some (lazyMark cs)) (some (lazyMark cs')) := lazyMark_agrees hc
  simp only [uncounted?]
  generalize lazyMark cs = p at hl
  generalize lazyMark cs' = p' at hl
  cases hl with
  | both hr h₁ h₂ =>
    simp only [State.within_repeat?]
    cases s.repeat? min max _ with
    | none => exact .fails
    | some t => exact .both hr h₁ h₂

/-- The upper limit of a count, behind the lower one. -/
def countLimit? (verbose : Bool) (low : Nat) (cs : List Char) : Option (Option Nat × List Char) :=
  match cs with
  | ',' :: rest =>
    match skip verbose rest with
    | '}' :: rest => some (none, '}' :: rest)
    | rest => do
      let (high?, rest) ← count? verbose rest
      let high ← high?
      some (some high, rest)
  | rest => some (some low, rest)

theorem countLimit?_agrees (hc : Closes cs cs') (low : Nat) :
    Agrees late cs cs' (countLimit? verbose low cs) (countLimit? verbose low cs') := by
  rcases hc.head_cases (c := ',') (by decide) with ⟨r, r', rfl, rfl, hr⟩ | ⟨hno, hno'⟩
  · have hle := length_skip_le verbose r
    have hle' := length_skip_le verbose r'
    rcases (hr.skipped verbose).head_cases (c := '}') (by decide) with ⟨m, m', h, h', hm⟩ | ⟨h, h'⟩
    · simp only [countLimit?, h, h']
      rw [h] at hle
      rw [h'] at hle'
      exact .both (h ▸ h' ▸ hr.skipped verbose) (Nat.le_succ_of_le hle) (Nat.le_succ_of_le hle')
    · simp only [countLimit?]
      have hcount : Agrees late (',' :: r) (',' :: r') (count? verbose (skip verbose r)) (count? verbose (skip verbose r')) :=
        (count?_agrees (hr.skipped verbose)).shorter (Nat.lt_succ_of_le hle) (Nat.lt_succ_of_le hle')
      refine hcount.bind (fun high m m' hm h₁ h₂ => ?_) fun high m' hm => ?_
      · cases high with
        | none => exact .fails
        | some n => exact .both hm h₁ h₂
      · cases high with
        | none => exact .fails
        | some n => exact .late hm
  · simp only [countLimit?]
    exact .both hc (Nat.le_refl _) (Nat.le_refl _)

def countEnd? (s : State) (low : Nat) (high : Option Nat) (cs : List Char) : Option (State × List Char) :=
  match cs with
  | '}' :: rest =>
    let (greedy, rest) := lazyMark (skip s.verbose rest)
    if high.all (low ≤ ·) then do
      let s ← s.repeat? low high greedy
      some (s, rest)
    else none
  | _ => none

theorem countEnd?_encloses (hc : Closes cs cs') (low : Nat) (high : Option Nat) :
    Encloses base late cs cs' (countEnd? s low high cs) (countEnd? (s.within base) low high cs') := by
  rcases hc.head_cases (c := '}') (by decide) with ⟨r, r', rfl, rfl, hr⟩ | ⟨hno, hno'⟩
  · have hl : Agrees late (skip s.verbose r) (skip s.verbose r') (some (lazyMark (skip s.verbose r)))
        (some (lazyMark (skip s.verbose r'))) := lazyMark_agrees (hr.skipped _)
    have hle := length_skip_le s.verbose r
    have hle' := length_skip_le s.verbose r'
    have hv : (s.within base).verbose = s.verbose := rfl
    simp only [countEnd?, hv, State.within_repeat?]
    generalize lazyMark (skip s.verbose r) = p at hl
    generalize lazyMark (skip s.verbose r') = p' at hl
    cases hl with
    | @both greedy m m' hm h₁ h₂ =>
      simp only
      split
      · cases s.repeat? low high greedy with
        | none => exact .fails
        | some t => exact .both hm (Nat.le_succ_of_le (h₁.trans hle)) (Nat.le_succ_of_le (h₂.trans hle'))
      · exact .fails
  · simp only [countEnd?]
    exact .fails

theorem counted?_eq (s : State) (cs : List Char) :
    counted? s cs = (count? s.verbose (skip s.verbose cs)).bind fun p => p.1.bind fun low =>
      (countLimit? s.verbose low p.2).bind fun q => countEnd? s low q.1 q.2 := by
  simp only [counted?, Option.bind_eq_bind]
  refine congrArg _ (funext fun p => congrArg _ (funext fun low => ?_))
  fun_cases countLimit? s.verbose low p.2 with
  | case1 more rest h =>
    simp only [h]
    rfl
  | case2 more =>
    simp only [Option.bind_eq_bind, Option.bind_assoc]
    rfl
  | case3 =>
    rename_i hno
    split
    · exact absurd rfl (hno _)
    · rfl

theorem counted?_encloses (hc : Closes cs cs') :
    Encloses base late cs cs' (counted? s cs) (counted? (s.within base) cs') := by
  have hv : (s.within base).verbose = s.verbose := rfl
  have hcount : Agrees (fun _ => False) cs cs' (count? s.verbose (skip s.verbose cs))
      (count? s.verbose (skip s.verbose cs')) :=
    (count?_agrees (hc.skipped _)).mono (length_skip_le _ _) (length_skip_le _ _) fun _ => id
  rw [counted?_eq, counted?_eq, hv]
  generalize count? s.verbose (skip s.verbose cs) = a at hcount
  generalize count? s.verbose (skip s.verbose cs') = b at hcount
  cases hcount with
  | fails => exact .fails
  | late hs => exact hs.elim
  | @both low r r' hr h₁ h₂ =>
    cases low with
    | none => exact .fails
    | some low =>
      have hlimit : Agrees (fun _ => False) r r' (countLimit? s.verbose low r) (countLimit? s.verbose low r') :=
        countLimit?_agrees hr low
      simp only [Option.bind_some]
      generalize countLimit? s.verbose low r = a at hlimit
      generalize countLimit? s.verbose low r' = b at hlimit
      cases hlimit with
      | fails => exact .fails
      | late hs => exact hs.elim
      | both hm h₃ h₄ =>
        exact (countEnd?_encloses hm low _).mono (h₃.trans h₁) (h₄.trans h₂) fun _ => id

/-! ## Groups -/

theorem flags?_agrees (hc : Closes cs cs') (acc : FlagChange) (negated dangling : Bool) :
    Agrees (· <:+ closing) cs cs' (flags? acc negated dangling cs) (flags? acc negated dangling cs') := by
  induction cs generalizing cs' acc negated dangling with
  | nil =>
    rcases Closes.nil_iff.mp hc with rfl | rfl
    · cases dangling with
      | true => exact .fails
      | false => exact .late (List.suffix_refl _)
    · exact .fails
  | cons c r ih =>
    obtain ⟨r', rfl, hr⟩ := Closes.cons_iff.mp hc
    have hr : Closes r r' := hr ▸ .text r
    simp only [flags?]
    split
    · split
      · exact .fails
      · exact .both hc (Nat.le_refl _) (Nat.le_refl _)
    · split
      · split
        · exact .fails
        · exact (ih hr _ _ _).shorter (Nat.lt_succ_self _) (Nat.lt_succ_self _)
      · split
        · split
          · exact .fails
          · exact (ih hr _ _ _).shorter (Nat.lt_succ_self _) (Nat.lt_succ_self _)
        · exact .fails

theorem groupName?_agrees (hc : Closes cs cs') : Agrees late cs cs' (groupName? cs) (groupName? cs') := by
  rcases hc.cut (p := (· != '>')) (by decide) with ⟨h, h'⟩ | ⟨c, r, r', h, h', hr, ht, hl, hl'⟩
  · have hnone : ∀ {cs}, cs.dropWhile (· != '>') = [] → groupName? cs = none := by
      intro cs h
      simp only [groupName?, h]
      cases cs.takeWhile (· != '>') <;> rfl
    rw [hnone h, hnone h']
    exact .fails
  · simp only [groupName?, h, h', ht]
    cases cs.takeWhile (· != '>') with
    | nil => exact .fails
    | cons d more =>
      simp only
      split
      · exact .both hr (Nat.le_of_lt hl) (Nat.le_of_lt hl')
      · exact .fails

/-- A named group behind the angle bracket. -/
def namedGroup? (s : State) (cs : List Char) : Option (State × List Char) := do
  let (name, rest) ← groupName? cs
  if s.names.contains name then none else some (s.openCapture (some name), rest)

theorem namedGroup?_encloses (hc : Closes cs cs') :
    Encloses base late cs cs' (namedGroup? s cs) (namedGroup? (s.within base) cs') := by
  have hn : Agrees (fun _ => False) cs cs' (groupName? cs) (groupName? cs') := groupName?_agrees hc
  simp only [namedGroup?]
  generalize groupName? cs = a at hn
  generalize groupName? cs' = b at hn
  cases hn with
  | fails => exact .fails
  | late hs => exact hs.elim
  | @both name r r' hr h₁ h₂ =>
    have hnames : (s.within base).names = s.names := rfl
    simp only [Option.bind_eq_bind, Option.bind_some, hnames]
    split
    · exact .fails
    · exact .both hr h₁ h₂

/-- A group with flags, or a change of flags, behind the question mark. -/
def flagGroup? (s : State) (cs : List Char) : Option (State × List Char) := do
  let (change, rest) ← flags? [] false false cs
  let verbose := (change.state? .verbose).getD s.verbose
  match rest with
  | ')' :: rest =>
    if change.isEmpty then none else some ({ s with verbose := verbose }.push (.flags change), rest)
  | _ :: rest =>
    some ({ s with
      level := {}
      groups := ⟨s.level, .plain change, s.verbose⟩ :: s.groups
      verbose := verbose }, rest)
  | [] => none

theorem flagGroup?_encloses (hc : Closes cs cs') :
    Encloses base (· <:+ ['$']) cs cs' (flagGroup? s cs) (flagGroup? (s.within base) cs') := by
  have hf := flags?_agrees hc [] false false
  simp only [flagGroup?]
  generalize flags? [] false false cs = a at hf
  generalize flags? [] false false cs' = b at hf
  cases hf with
  | fails => exact .fails
  | @both change r r' hr h₁ h₂ =>
    have hclosed : ∀ m' : List Char, m' <:+ ['$'] → Encloses base (· <:+ ['$']) cs cs' none
        (if change.isEmpty then none
          else some (({ s.within base with
            verbose := (change.state? .verbose).getD s.verbose } : State).push (.flags change), m')) := by
      intro m' hm
      split
      · exact .fails
      · exact .late hm
    cases r with
    | nil =>
      rcases Closes.nil_iff.mp hr with rfl | rfl
      · exact hclosed _ (List.suffix_refl _)
      · exact .fails
    | cons c r =>
      obtain ⟨r', rfl, heq⟩ := Closes.cons_iff.mp hr
      have hm : Closes r r' := heq ▸ .text r
      have h₃ : r.length ≤ cs.length := Nat.le_of_lt h₁
      have h₄ : r'.length ≤ cs'.length := Nat.le_of_lt h₂
      by_cases hp : c = ')'
      · subst hp
        simp only [Option.bind_eq_bind, Option.bind_some]
        split
        · exact .fails
        · exact .both hm h₃ h₄
      · simp only [Option.bind_eq_bind, Option.bind_some]
        exact .both hm h₃ h₄
  | @late change r' hs =>
    simp only [Option.bind_eq_bind, Option.bind_some]
    rcases suffix_closing hs with rfl | rfl | rfl
    · simp only [closing]
      split
      · exact .fails
      · exact .late (List.suffix_refl _)
    · exact .late (List.nil_suffix)
    · exact .fails

theorem openGroup?_capture {cs : List Char} (h : ∀ r, skip s.verbose cs = '?' :: r → False) :
    openGroup? s cs = some (s.openCapture none, skip s.verbose cs) := by
  simp only [openGroup?]
  split <;> first | rfl | exact (h _ ‹_›).elim

theorem openGroup?_flags {cs r : List Char} (h : skip s.verbose cs = '?' :: r) (h₁ : ∀ t, r = '=' :: t → False)
    (h₂ : ∀ t, r = '!' :: t → False) (h₃ : ∀ t, r = '<' :: t → False) (h₄ : ∀ t, r = 'P' :: '<' :: t → False) :
    openGroup? s cs = flagGroup? s r := by
  simp only [openGroup?, h]
  split
  · exact (h₁ _ (List.cons.inj ‹_›).2).elim
  · exact (h₂ _ (List.cons.inj ‹_›).2).elim
  · exact (h₃ _ (List.cons.inj ‹_›).2).elim
  · exact (h₃ _ (List.cons.inj ‹_›).2).elim
  · exact (h₄ _ (List.cons.inj ‹_›).2).elim
  · exact (h₃ _ (List.cons.inj ‹_›).2).elim
  · obtain rfl := (List.cons.inj ‹_›).2
    rfl
  · rename_i hno
    exact (hno _ rfl).elim

theorem openGroup?_name {cs r : List Char} (h : skip s.verbose cs = '?' :: '<' :: r)
    (h₁ : ∀ t, r = '=' :: t → False) (h₂ : ∀ t, r = '!' :: t → False) : openGroup? s cs = namedGroup? s r := by
  simp only [openGroup?, h]
  rfl

theorem openGroup?_encloses (hc : Closes cs cs') :
    Encloses base (· <:+ ['$']) cs cs' (openGroup? s cs) (openGroup? (s.within base) cs') := by
  have hv : (s.within base).verbose = s.verbose := rfl
  rcases (hc.skipped s.verbose).head_cases (c := '?') (by decide) with ⟨r, r', h, h', hr⟩ | ⟨h, h'⟩
  · have hl := length_lt_of_skip h
    have hl' := length_lt_of_skip h'
    rcases hr.head_cases (c := '=') (by decide) with ⟨t, t', rfl, rfl, -⟩ | ⟨h₁, h₁'⟩
    · simp only [openGroup?, hv, h, h']
      exact .fails
    rcases hr.head_cases (c := '!') (by decide) with ⟨t, t', rfl, rfl, -⟩ | ⟨h₂, h₂'⟩
    · simp only [openGroup?, hv, h, h']
      exact .fails
    rcases hr.head_cases (c := '<') (by decide) with ⟨t, t', rfl, rfl, ht⟩ | ⟨h₃, h₃'⟩
    · rcases ht.head_cases (c := '=') (by decide) with ⟨u, u', rfl, rfl, -⟩ | ⟨h₄, h₄'⟩
      · simp only [openGroup?, hv, h, h']
        exact .fails
      rcases ht.head_cases (c := '!') (by decide) with ⟨u, u', rfl, rfl, -⟩ | ⟨h₅, h₅'⟩
      · simp only [openGroup?, hv, h, h']
        exact .fails
      rw [openGroup?_name h h₄ h₅, openGroup?_name (s := s.within base) h' h₄' h₅']
      exact (namedGroup?_encloses ht).shorter (Nat.lt_of_succ_lt hl) (Nat.lt_of_succ_lt hl')
    rcases hr.head_cases (c := 'P') (by decide) with ⟨t, t', rfl, rfl, ht⟩ | ⟨h₄, h₄'⟩
    · rcases ht.head_cases (c := '<') (by decide) with ⟨u, u', rfl, rfl, hu⟩ | ⟨h₅, h₅'⟩
      · simp only [openGroup?, hv, h, h']
        simp only [List.length_cons] at hl hl'
        exact (namedGroup?_encloses hu).shorter (by omega) (by omega)
      rw [openGroup?_flags h h₁ h₂ h₃ fun u hu => h₅ u (List.cons.inj hu).2,
        openGroup?_flags (s := s.within base) h' h₁' h₂' h₃' fun u hu => h₅' u (List.cons.inj hu).2]
      exact (flagGroup?_encloses hr).shorter hl hl'
    rw [openGroup?_flags h h₁ h₂ h₃ fun u => h₄ _, openGroup?_flags (s := s.within base) h' h₁' h₂' h₃' fun u => h₄' _]
    exact (flagGroup?_encloses hr).shorter hl hl'
  · rw [openGroup?_capture h, openGroup?_capture (s := s.within base) h']
    exact .both (hc.skipped _) (length_skip_le _ _) (length_skip_le _ _)

/-! ## Steps -/

/-- A step inside of the group does what it does by itself, unless it closes the group. -/
theorem step?_encloses (hc : Closes cs cs') {c : Char} (hclose : c = ')' → s.groups ≠ []) :
    Encloses base (· <:+ ['$']) cs cs' (step? s c cs) (step? (s.within base) c cs') := by
  have hplain : ∀ t : State, Encloses base (· <:+ ['$']) cs cs' (some (t, cs)) (some (t.within base, cs')) :=
    fun t => .both hc (Nat.le_refl _) (Nat.le_refl _)
  simp only [step?]
  split
  case h_1 => exact openGroup?_encloses hc
  case h_2 =>
    rw [State.within_close? (hclose rfl)]
    cases s.close? with
    | none => exact .fails
    | some t => exact hplain t
  case h_4 =>
    have hcls : Agrees (· <:+ ['$']) cs cs' (class? s.verbose cs) (class? s.verbose cs') := class?_agrees hc
    exact hcls.encloses fun c => s.push (.bracketed c)
  case h_5 | h_6 | h_7 => exact uncounted?_encloses hc _ _
  case h_8 => exact counted?_encloses hc
  case h_12 =>
    have hesc : Agrees (· <:+ ['$']) cs cs' (escape? s.verbose cs) (escape? s.verbose cs') := escape?_agrees hc
    have hv : (s.within base).verbose = s.verbose := rfl
    rw [hv]
    generalize escape? s.verbose cs = a at hesc
    generalize escape? s.verbose cs' = b at hesc
    cases hesc with
    | fails => exact .fails
    | @both p r r' hr h₁ h₂ => cases p <;> exact .both hr h₁ h₂
    | @late p r' hs => cases p <;> exact .late hs
  all_goals exact hplain _

end Portcullis.Regex

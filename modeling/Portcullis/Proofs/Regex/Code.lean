import Portcullis.Proofs.Regex.Steps

/-!
# The code of an expression

The code of an expression realizes what the expression matches, and its program leads from its first address to
acceptance exactly along matches.
-/

namespace Portcullis.Regex

variable {program : Code} {h : Haystack}

/-! ## Instructions -/

theorem mem_targets_scalar {s : CharSet} {pc pos : Nat} {q : Place} :
    q ∈ (Inst.scalar s).targets h (pc, pos) ↔
      q.1 = pc + 1 ∧ ∃ c, h.scalarAt? pos = some (c, q.2) ∧ s.contains c = true := by
  obtain ⟨q₁, q₂⟩ := q
  cases hs : h.scalarAt? pos with
  | none => simp [Inst.targets, Inst.next, hs]
  | some c =>
    obtain ⟨c, e⟩ := c
    by_cases hc : s.contains c = true
    · simp only [Inst.targets, Inst.next, hs, hc, if_true, List.map_cons, List.map_nil, Job.place,
        List.mem_singleton, Prod.mk.injEq, Option.some.injEq]
      constructor
      · rintro ⟨h₁, h₂⟩
        exact ⟨h₁, c, ⟨rfl, h₂.symm⟩, hc⟩
      · rintro ⟨h₁, _, ⟨_, h₂⟩, _⟩
        exact ⟨h₁, h₂.symm⟩
    · simp only [Inst.targets, Inst.next, hs, hc, Bool.false_eq_true, if_false, List.map_nil, List.not_mem_nil,
        false_iff, Option.some.injEq, Prod.mk.injEq]
      rintro ⟨_, d, ⟨rfl, _⟩, hd⟩
      exact hc hd

theorem mem_targets_byte {s : CharSet} {pc pos : Nat} {q : Place} :
    q ∈ (Inst.byte s).targets h (pc, pos) ↔
      q.1 = pc + 1 ∧ ∃ b, h.byte? pos = some b ∧ s.contains b.toNat = true ∧ q.2 = pos + 1 := by
  obtain ⟨q₁, q₂⟩ := q
  cases hs : h.byte? pos with
  | none => simp [Inst.targets, Inst.next, hs]
  | some b => by_cases hb : s.contains b.toNat = true <;> simp [Inst.targets, Inst.next, hs, hb, Job.place]

theorem mem_targets_look {l : Look} {pc pos : Nat} {q : Place} :
    q ∈ (Inst.look l).targets h (pc, pos) ↔ q.1 = pc + 1 ∧ h.holds pos l = true ∧ pos = q.2 := by
  obtain ⟨q₁, q₂⟩ := q
  by_cases hl : h.holds pos l = true <;> simp [Inst.targets, Inst.next, hl, Job.place, eq_comm]

theorem mem_targets_save {k pc pos : Nat} {q : Place} :
    q ∈ (Inst.save k).targets h (pc, pos) ↔ q.1 = pc + 1 ∧ pos = q.2 := by
  obtain ⟨q₁, q₂⟩ := q
  simp [Inst.targets, Inst.next, Job.place, eq_comm]

theorem mem_targets_jump {t pc pos : Nat} {q : Place} :
    q ∈ (Inst.jump t).targets h (pc, pos) ↔ q = (t, pos) := by
  simp [Inst.targets, Inst.next, Job.place]

theorem mem_targets_split {a b pc pos : Nat} {q : Place} :
    q ∈ (Inst.split a b).targets h (pc, pos) ↔ q = (a, pos) ∨ q = (b, pos) := by
  simp [Inst.targets, Inst.next, Job.place]

/-- Which of the two ways is preferred does not matter for where a fork leads. -/
theorem mem_targets_fork {first : Bool} {a b pc pos : Nat} {q : Place} :
    q ∈ (Code.fork first a b).targets h (pc, pos) ↔ q = (a, pos) ∨ q = (b, pos) := by
  cases first <;> simp [Code.fork, mem_targets_split, or_comm]

/-- No step leads behind the end of what is searched. -/
theorem Inst.pos_le_of_mem_targets {i : Inst} {p q : Place} (hq : q ∈ i.targets h p) (hp : p.2 ≤ h.size) :
    q.2 ≤ h.size := by
  cases i with
  | scalar s =>
    obtain ⟨-, c, hc, -⟩ := mem_targets_scalar.mp hq
    exact Haystack.scalarAt?_le hc
  | byte s =>
    obtain ⟨-, b, hb, -, hpos⟩ := mem_targets_byte.mp hq
    exact hpos ▸ Haystack.byte?_lt hb
  | look l => exact (mem_targets_look.mp hq).2.2 ▸ hp
  | save k => exact (mem_targets_save.mp hq).2 ▸ hp
  | jump t => exact mem_targets_jump.mp hq ▸ hp
  | split a b => rcases mem_targets_split.mp hq with rfl | rfl <;> exact hp
  | accept => cases hq

theorem CharSet.contains_single {n m : Nat} : (CharSet.single n).contains m = true ↔ n = m := by
  simp only [CharSet.contains, CharSet.single, CharSet.inRanges]
  split
  · simp; omega
  · split <;> simp <;> omega

theorem realizes_byte (s : CharSet) :
    Realizes program h (fun _ => [.byte s])
      (fun i j => ∃ b, h.byte? i = some b ∧ s.contains b.toNat = true ∧ j = i + 1) :=
  .single fun _ _ _ => mem_targets_byte

theorem realizes_save (k : Nat) : Realizes program h (fun _ => [.save k]) (fun i j => i = j) :=
  .single fun _ _ _ => mem_targets_save

theorem realizes_literal (bs : Bytes) :
    Realizes program h (fun _ => bs.map fun b => .byte (.single b.toNat)) (h.Spells bs) := by
  induction bs with
  | nil => exact Realizes.nil
  | cons b bs ih =>
    refine ((realizes_byte (.single b.toNat)).append ih).congr fun i j => ?_
    simp only [CharSet.contains_single, Haystack.Spells]
    constructor
    · rintro ⟨k, ⟨c, hc, hbc, rfl⟩, hrest⟩
      rw [UInt8.toNat_inj.mp hbc]
      exact ⟨hc, hrest⟩
    · rintro ⟨hb, hrest⟩
      exact ⟨i + 1, ⟨b, hb, rfl, rfl⟩, hrest⟩

/-! ## Repetitions -/

variable {emit : Nat → Code} {R : Nat → Nat → Prop}

theorem Realizes.times (hr : Realizes program h emit R) (n : Nat) :
    Realizes program h (Code.times emit n) (Turns R n) := by
  induction n with
  | zero => exact Realizes.nil
  | succ n ih => exact hr.append ih

theorem Code.length_optional (greedy : Bool) (size n base : Nat) (hs : ∀ b, (emit b).length = size) :
    (Code.optional emit greedy size n base).length = n * (size + 1) := by
  induction n generalizing base with
  | zero => simp [Code.optional]
  | succ n ih =>
    simp only [Code.optional, List.length_cons, List.length_append, hs, ih]
    rw [Nat.succ_mul]
    omega

theorem Realizes.optional (hr : Realizes program h emit R) (greedy : Bool) (n : Nat) :
    Realizes program h (Code.optional emit greedy (emit 0).length n) (fun i j => ∃ k ≤ n, Turns R k i j) := by
  have hs : ∀ b, (emit b).length = (emit 0).length := fun b => hr.length b 0
  have hlen : ∀ n base, (Code.optional emit greedy (emit 0).length n base).length = n * ((emit 0).length + 1) :=
    fun n base => Code.length_optional greedy _ n base hs
  induction n with
  | zero => exact Realizes.nil.congr fun i j => by simp [Turns]
  | succ n ih =>
    have hstop : ∀ base, base + 1 + (emit 0).length + n * ((emit 0).length + 1) =
        base + (n + 1) * ((emit 0).length + 1) := fun base => by rw [Nat.succ_mul]; omega
    constructor
    · intro base base'
      rw [hlen, hlen]
    · rintro base i j hp ⟨k, hk, ht⟩
      rw [hlen]
      simp only [Code.optional] at hp
      cases k with
      | zero =>
        cases ht
        exact .single ⟨_, hp.head, mem_targets_fork.mpr (.inr rfl)⟩
      | succ k =>
        obtain ⟨l, hl, ht⟩ := ht
        have hfirst := hr.reaches (base + 1) i l hp.tail.left hl
        have hrest := ih.reaches (base + 1 + (emit 0).length) l j (hs (base + 1) ▸ hp.tail.right)
          ⟨k, by omega, ht⟩
        rw [hlen, hstop] at hrest
        rw [hs] at hfirst
        exact .head ⟨_, hp.head, mem_targets_fork.mpr (.inl rfl)⟩ (hfirst.trans hrest)
    · intro base i m p hp hrun hout
      rw [hlen] at hout ⊢
      simp only [Code.optional] at hp
      have hne : p ≠ (base, i) := by
        rintro rfl
        simp only [Place.Outside, Nat.succ_mul] at hout
        omega
      obtain ⟨l, q, hl, hq, hrun⟩ := hrun.step hp.head hne
      rcases mem_targets_fork.mp hq with rfl | rfl
      · obtain ⟨k, l', hl', hik, hrun⟩ := hr.leaves (base + 1) i l p hp.tail.left hrun
          (by rw [hs]; simp only [Place.Outside, Nat.succ_mul] at hout ⊢; omega)
        rw [hs] at hrun
        obtain ⟨j, l'', hl'', ⟨t, ht, hkj⟩, hrun⟩ := ih.leaves (base + 1 + (emit 0).length) k l' p
          (hs (base + 1) ▸ hp.tail.right) hrun
          (by rw [hlen, hstop]; simp only [Place.Outside] at hout ⊢; omega)
        rw [hlen, hstop] at hrun
        exact ⟨j, l'', by omega, ⟨t + 1, by omega, k, hik, hkj⟩, hrun⟩
      · exact ⟨i, l, by omega, ⟨0, by omega, rfl⟩, hrun⟩

theorem Realizes.onceOrMore (hr : Realizes program h emit R) (greedy : Bool) :
    Realizes program h (Code.onceOrMore emit greedy) (fun i j => ∃ n, Turns R (n + 1) i j) where
  length base base' := by simp only [Code.onceOrMore, List.length_append, hr.length base base']; rfl
  reaches base i j hp := by
    rintro ⟨n, ht⟩
    simp only [Code.onceOrMore, List.length_append, List.length_singleton] at hp ⊢
    induction n generalizing i with
    | zero =>
      obtain ⟨k, hik, rfl⟩ := ht
      exact (hr.reaches base i k hp.left hik).tail ⟨_, hp.right.head, mem_targets_fork.mpr (.inr rfl)⟩
    | succ n ih =>
      obtain ⟨k, hik, ht⟩ := ht
      have hback := (hr.reaches base i k hp.left hik).tail ⟨_, hp.right.head, mem_targets_fork.mpr (.inl rfl)⟩
      exact hback.trans (ih k ht)
  leaves base i n p hp hrun hout := by
    simp only [Code.onceOrMore, List.length_append, List.length_singleton] at hp hout ⊢
    induction n using Nat.strongRecOn generalizing i with
    | ind n ih =>
      obtain ⟨k, m, hm, hik, hrun⟩ := hr.leaves base i n p hp.left hrun
        (by simp only [Place.Outside] at hout ⊢; omega)
      have hne : p ≠ (base + (emit base).length, k) := by
        rintro rfl
        simp only [Place.Outside] at hout
        omega
      obtain ⟨l, q, hl, hq, hrun⟩ := hrun.step hp.right.head hne
      rcases mem_targets_fork.mp hq with rfl | rfl
      · obtain ⟨j, l', hl', ⟨t, ht⟩, hrun⟩ := ih l (by omega) k hrun
        exact ⟨j, l', by omega, ⟨t + 1, k, hik, ht⟩, hrun⟩
      · exact ⟨k, l, by omega, ⟨0, k, hik, rfl⟩, hrun⟩

theorem Realizes.many (hr : Realizes program h emit R) (progressive greedy : Bool) :
    Realizes program h (Code.many emit progressive greedy) (fun i j => ∃ n, Turns R n i j) := by
  have hlen : ∀ base, (Code.many emit progressive greedy base).length = (emit 0).length + 2 := by
    intro base
    cases progressive <;> simp [Code.many, hr.length (base + 1) 0]
  cases progressive with
  | true =>
    constructor
    · intro base base'
      rw [hlen, hlen]
    · rintro base i j hp ⟨n, ht⟩
      rw [hlen]
      simp only [Code.many, if_true, hr.length (base + 1) 0] at hp
      induction n generalizing i with
      | zero =>
        cases ht
        exact .single ⟨_, hp.head, mem_targets_fork.mpr (.inr rfl)⟩
      | succ n ih =>
        obtain ⟨k, hik, ht⟩ := ht
        have henter : Step program h (base, i) (base + 1, i) := ⟨_, hp.head, mem_targets_fork.mpr (.inl rfl)⟩
        have hback := (hr.reaches (base + 1) i k hp.tail.left hik).tail
          ⟨_, hp.tail.right.head, mem_targets_jump.mpr rfl⟩
        exact .head henter (hback.trans (ih k ht))
    · intro base i n p hp hrun hout
      rw [hlen] at hout ⊢
      simp only [Code.many, if_true, hr.length (base + 1) 0] at hp
      induction n using Nat.strongRecOn generalizing i with
      | ind n ih =>
        have hne : p ≠ (base, i) := by
          rintro rfl
          simp only [Place.Outside] at hout
          omega
        obtain ⟨m, q, hm, hq, hrun⟩ := hrun.step hp.head hne
        rcases mem_targets_fork.mp hq with rfl | rfl
        · obtain ⟨k, m', hm', hik, hrun⟩ := hr.leaves (base + 1) i m p hp.tail.left hrun
            (by rw [hr.length (base + 1) 0]; simp only [Place.Outside] at hout ⊢; omega)
          have hne : p ≠ (base + 1 + (emit (base + 1)).length, k) := by
            rintro rfl
            simp only [Place.Outside, hr.length (base + 1) 0] at hout
            omega
          obtain ⟨l, q, hl, hq, hrun⟩ := hrun.step hp.tail.right.head hne
          obtain rfl := mem_targets_jump.mp hq
          obtain ⟨j, l', hl', ⟨t, ht⟩, hrun⟩ := ih l (by omega) k hrun
          exact ⟨j, l', by omega, ⟨t + 1, k, hik, ht⟩, hrun⟩
        · exact ⟨i, m, by omega, ⟨0, rfl⟩, hrun⟩
  | false =>
    -- one way into the body before the loop, which then is the loop of at least one turn
    have hloop := hr.onceOrMore greedy
    have hinner : ∀ base, Placed program base (Code.many emit false greedy base) →
        Placed program (base + 1) (Code.onceOrMore emit greedy (base + 1)) := by
      intro base hp
      have hafter : base + 1 + (emit (base + 1)).length + 1 = base + (emit (base + 1)).length + 2 := by omega
      simp only [Code.onceOrMore, hafter]
      exact hp.tail
    constructor
    · intro base base'
      rw [hlen, hlen]
    · rintro base i j hp ⟨n, ht⟩
      rw [hlen]
      have hbody := hinner base hp
      simp only [Code.many, Bool.false_eq_true, if_false] at hp
      cases n with
      | zero =>
        cases ht
        rw [hr.length (base + 1) 0] at hp
        exact .single ⟨_, hp.head, mem_targets_fork.mpr (.inr rfl)⟩
      | succ n =>
        have hrest := hloop.reaches (base + 1) i j hbody ⟨n, ht⟩
        simp only [Code.onceOrMore, List.length_append, List.length_singleton, hr.length (base + 1) 0] at hrest
        rw [show base + 1 + ((emit 0).length + 1) = base + ((emit 0).length + 2) by omega] at hrest
        exact .head ⟨_, hp.head, mem_targets_fork.mpr (.inl rfl)⟩ hrest
    · intro base i n p hp hrun hout
      rw [hlen] at hout ⊢
      have hbody := hinner base hp
      simp only [Code.many, Bool.false_eq_true, if_false] at hp
      have hne : p ≠ (base, i) := by
        rintro rfl
        simp only [Place.Outside] at hout
        omega
      obtain ⟨m, q, hm, hq, hrun⟩ := hrun.step hp.head hne
      rw [hr.length (base + 1) 0] at hq
      rcases mem_targets_fork.mp hq with rfl | rfl
      · obtain ⟨j, l, hl, ⟨t, ht⟩, hrun⟩ := hloop.leaves (base + 1) i m p hbody hrun
          (by
            simp only [Code.onceOrMore, List.length_append, List.length_singleton, hr.length (base + 1) 0]
            simp only [Place.Outside] at hout ⊢
            omega)
        simp only [Code.onceOrMore, List.length_append, List.length_singleton, hr.length (base + 1) 0] at hrun
        rw [show base + 1 + ((emit 0).length + 1) = base + ((emit 0).length + 2) by omega] at hrun
        exact ⟨j, l, by omega, ⟨t + 1, ht⟩, hrun⟩
      · exact ⟨i, m, by omega, ⟨0, rfl⟩, hrun⟩

/-! ## Expressions -/

theorem Realizes.alt {emit' : Nat → Code} {R' : Nat → Nat → Prop} (hr : Realizes program h emit R)
    (hr' : Realizes program h emit' R') :
    Realizes program h
      (fun base => .split (base + 1) (base + (emit (base + 1)).length + 2) ::
        (emit (base + 1) ++ (.jump (base + (emit (base + 1)).length + 2 +
          (emit' (base + (emit (base + 1)).length + 2)).length) ::
            emit' (base + (emit (base + 1)).length + 2))))
      (fun i j => R i j ∨ R' i j) := by
  have hs : ∀ base, (emit (base + 1)).length = (emit 0).length := fun base => hr.length _ _
  have hs' : ∀ base, (emit' base).length = (emit' 0).length := fun base => hr'.length _ _
  constructor
  · intro base base'
    simp only [List.length_cons, List.length_append, hs, hs']
  · intro base i j hp hij
    simp only [List.length_cons, List.length_append, hs, hs'] at hp ⊢
    have hsecond : Placed program (base + (emit 0).length + 2) (emit' (base + (emit 0).length + 2)) := by
      have := hp.tail.right.tail
      rwa [hs, show base + 1 + (emit 0).length + 1 = base + (emit 0).length + 2 by omega] at this
    have hstop : base + (emit 0).length + 2 + (emit' 0).length =
        base + ((emit 0).length + ((emit' 0).length + 1) + 1) := by omega
    rcases hij with hij | hij
    · have hfirst := (hr.reaches (base + 1) i j hp.tail.left hij).tail
        ⟨_, hp.tail.right.head, mem_targets_jump.mpr rfl⟩
      rw [hstop] at hfirst
      exact .head ⟨_, hp.head, mem_targets_split.mpr (.inl rfl)⟩ hfirst
    · have hother := hr'.reaches _ i j hsecond hij
      rw [hs', hstop] at hother
      exact .head ⟨_, hp.head, mem_targets_split.mpr (.inr rfl)⟩ hother
  · intro base i n p hp hrun hout
    simp only [List.length_cons, List.length_append, hs, hs'] at hp hout ⊢
    have hsecond : Placed program (base + (emit 0).length + 2) (emit' (base + (emit 0).length + 2)) := by
      have := hp.tail.right.tail
      rwa [hs, show base + 1 + (emit 0).length + 1 = base + (emit 0).length + 2 by omega] at this
    have hstop : base + (emit 0).length + 2 + (emit' 0).length =
        base + ((emit 0).length + ((emit' 0).length + 1) + 1) := by omega
    have hne : p ≠ (base, i) := by
      rintro rfl
      simp only [Place.Outside] at hout
      omega
    obtain ⟨m, q, hm, hq, hrun⟩ := hrun.step hp.head hne
    rcases mem_targets_split.mp hq with rfl | rfl
    · obtain ⟨k, m', hm', hik, hrun⟩ := hr.leaves (base + 1) i m p hp.tail.left hrun
        (by rw [hs]; simp only [Place.Outside] at hout ⊢; omega)
      have hne : p ≠ (base + 1 + (emit (base + 1)).length, k) := by
        rintro rfl
        simp only [Place.Outside, hs] at hout
        omega
      obtain ⟨l, q, hl, hq, hrun⟩ := hrun.step hp.tail.right.head hne
      obtain rfl := mem_targets_jump.mp hq
      rw [hstop] at hrun
      exact ⟨k, l, by omega, .inl hik, hrun⟩
    · obtain ⟨k, m', hm', hik, hrun⟩ := hr'.leaves _ i m p hsecond hrun
        (by rw [hs']; simp only [Place.Outside] at hout ⊢; omega)
      rw [hs', hstop] at hrun
      exact ⟨k, m', by omega, .inr hik, hrun⟩

theorem Expr.realizes_code (e : Expr) : Realizes program h e.code (e.Matches h) := by
  induction e with
  | empty => exact Realizes.nil
  | literal bs => exact realizes_literal bs
  | scalar s => exact .single fun _ _ _ => mem_targets_scalar
  | byte s => exact realizes_byte s
  | look l => exact .single fun _ _ _ => mem_targets_look
  | capture k name body ih =>
    refine ((realizes_save (2 * k)).append (ih.append (realizes_save (2 * k + 1)))).congr fun i j => ?_
    simp [Expr.Matches]
  | repeated min max greedy body ih =>
    cases max with
    | some max =>
      have hcode : (Expr.repeated min (some max) greedy body).code = fun base =>
          Code.times body.code min base ++ Code.optional body.code greedy (body.code 0).length (max - min)
            (base + (Code.times body.code min base).length) := by
        funext base
        cases min <;> rfl
      rw [hcode]
      refine ((ih.times min).append (ih.optional greedy (max - min))).congr fun i j => ?_
      simp only [Expr.Matches, Option.mem_def, Option.some.injEq, forall_eq']
      constructor
      · rintro ⟨k, hk, n, hn, ht⟩
        exact ⟨min + n, by omega, by omega, hk.append ht⟩
      · rintro ⟨n, hmin, hmax, ht⟩
        obtain ⟨d, rfl⟩ := Nat.exists_eq_add_of_le hmin
        obtain ⟨k, hk, ht⟩ := ht.split
        exact ⟨k, hk, d, by omega, ht⟩
    | none =>
      cases min with
      | zero =>
        refine (ih.many body.isProgressive greedy).congr fun i j => ?_
        simp [Expr.Matches]
      | succ min =>
        refine ((ih.times min).append (ih.onceOrMore greedy)).congr fun i j => ?_
        simp only [Expr.Matches, Option.mem_def, reduceCtorEq, false_implies, implies_true, true_and]
        constructor
        · rintro ⟨k, hk, n, ht⟩
          exact ⟨min + (n + 1), by omega, hk.append ht⟩
        · rintro ⟨n, hmin, ht⟩
          obtain ⟨d, rfl⟩ := Nat.exists_eq_add_of_le hmin
          rw [Nat.add_assoc, Nat.add_comm 1] at ht
          obtain ⟨k, hk, ht⟩ := ht.split
          exact ⟨k, hk, d, ht⟩
  | cat a b iha ihb => exact iha.append ihb
  | alt a b iha ihb => exact iha.alt ihb

/-! ## Programs -/

theorem Code.mem_times {x : Inst} {n base : Nat} (hx : x ∈ Code.times emit n base) : ∃ b, x ∈ emit b := by
  induction n generalizing base with
  | zero => cases hx
  | succ n ih =>
    rcases List.mem_append.mp hx with hx | hx
    · exact ⟨base, hx⟩
    · exact ih hx

theorem Code.accept_ne_fork {first : Bool} {a b : Nat} : Inst.accept ≠ Code.fork first a b := by
  cases first <;> simp [Code.fork]

theorem Code.accept_notMem_optional (hx : ∀ b, Inst.accept ∉ emit b) {greedy : Bool} {size n base : Nat} :
    Inst.accept ∉ Code.optional emit greedy size n base := by
  induction n generalizing base with
  | zero => exact List.not_mem_nil
  | succ n ih =>
    simp only [Code.optional, List.mem_cons, List.mem_append, not_or]
    exact ⟨Code.accept_ne_fork, hx _, ih⟩

/-- Acceptance stands behind the code of an expression only. -/
theorem Expr.accept_notMem_code (e : Expr) (base : Nat) : Inst.accept ∉ e.code base := by
  induction e generalizing base with
  | empty => exact List.not_mem_nil
  | literal bs => simp [Expr.code]
  | scalar s => simp [Expr.code]
  | byte s => simp [Expr.code]
  | look l => simp [Expr.code]
  | capture k name body ih => simp [Expr.code, ih]
  | repeated min max greedy body ih =>
    have htimes : ∀ n base, Inst.accept ∉ Code.times body.code n base := fun n base hx =>
      let ⟨b, hb⟩ := Code.mem_times hx
      ih b hb
    cases max with
    | some max => cases min <;> simp [Expr.code, htimes, Code.accept_notMem_optional ih]
    | none =>
      cases min with
      | zero =>
        simp only [Expr.code, Code.many]
        split <;> simp [ih, Code.accept_ne_fork]
      | succ min => simp [Expr.code, Code.onceOrMore, htimes, ih, Code.accept_ne_fork]
  | cat a b iha ihb => simp [Expr.code, iha, ihb]
  | alt a b iha ihb => simp [Expr.code, iha, ihb]

/-- The program of an expression leads from its first address to acceptance along the matches, and no others. -/
theorem Expr.reaches_accept {e : Expr} {i j : Nat} :
    (∃ pc, Reaches (e.code 0 ++ [.accept]) h (0, i) (pc, j) ∧ (e.code 0 ++ [Inst.accept])[pc]? = some .accept) ↔
      e.Matches h i j := by
  have hp : Placed (e.code 0 ++ [.accept]) 0 (e.code 0 ++ [.accept]) := fun k i hk => by rwa [Nat.zero_add]
  have hr : Realizes (e.code 0 ++ [.accept]) h e.code (e.Matches h) := e.realizes_code
  constructor
  · rintro ⟨pc, hreach, hpc⟩
    obtain rfl : pc = (e.code 0).length := by
      rcases Nat.lt_trichotomy pc (e.code 0).length with hlt | heq | hgt
      · rw [List.getElem?_append_left hlt] at hpc
        exact absurd (List.mem_of_getElem? hpc) (e.accept_notMem_code 0)
      · exact heq
      · rw [List.getElem?_eq_none (by simp; omega)] at hpc
        cases hpc
    obtain ⟨n, hrun⟩ := hreach.exists_run
    obtain ⟨k, m, -, hik, hrun⟩ := hr.leaves 0 i n _ hp.left hrun (.inr (by simp))
    -- acceptance leads nowhere, so what is left of the run is no step
    rw [Nat.zero_add] at hrun
    cases m with
    | zero =>
      cases hrun
      exact hik
    | succ m =>
      obtain ⟨q, ⟨i, hi, hq⟩, -⟩ := hrun
      have haccept := hp.right.head
      rw [Nat.zero_add] at haccept
      rw [haccept] at hi
      cases hi
      cases hq
  · intro hij
    have hreach := hr.reaches 0 i j hp.left hij
    rw [Nat.zero_add] at hreach
    exact ⟨_, hreach, by simp⟩

end Portcullis.Regex

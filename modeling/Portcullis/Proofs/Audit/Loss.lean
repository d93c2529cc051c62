import Portcullis.Proofs.Audit.Preimage
import Portcullis.Proofs.Audit.Retention

/-!
# Lost events

The hashes of a trail are all different, since each of them covers the one before it. So an event fits behind one
other event only, and those of the retained events that are left make an intact trail exactly if the newest ones
alone are missing: nothing holds the last event against the head.
-/

namespace Portcullis.Audit

/-! ## Digests -/

/-- The texts of a hash: not empty, and of hexadecimal digits. -/
structure IsDigest (hash : Bytes → String) : Prop where
  nonempty : ∀ bs, hash bs ≠ ""
  digits : ∀ bs, ∀ c ∈ (hash bs).toList, Ascii.isHex c = true

theorem isHex_lowerHexDigit {n : Nat} (h : n < 16) : Ascii.isHex (Ascii.lowerHexDigit n) = true := by
  decide +revert

theorem isHex_of_mem_hex {bs : Bytes} {c : Char} (h : c ∈ Ascii.hex bs) : Ascii.isHex c = true := by
  obtain ⟨b, -, hc⟩ := List.mem_flatMap.mp h
  have hb := b.toNat_lt
  rcases List.mem_cons.mp hc with rfl | hc
  · exact isHex_lowerHexDigit (by omega)
  · rw [List.mem_singleton.mp hc]
    exact isHex_lowerHexDigit (Nat.mod_lt _ (by decide))

theorem sha256_isDigest : IsDigest sha256 where
  nonempty bs h := by
    have hnil : Ascii.hex (Digest.Sha256.hash bs) = [] := String.ofList_inj.mp h
    simp [Ascii.hex, Digest.Sha256.hash, Digest.Sha256.State.words, Digest.Sha256.wordBytes] at hnil
  digits bs c h := by
    rw [sha256, String.toList_ofList] at h
    exact isHex_of_mem_hex h

/-- Equal bytes are hashed only behind events of equal hashes. -/
theorem Event.previous_getD_eq {e e' : Event} (hp : '\x7d' ∉ (e.previous.getD "").toList)
    (hp' : '\x7d' ∉ (e'.previous.getD "").toList) (h : e.hashed = e'.hashed) :
    e.previous.getD "" = e'.previous.getD "" := by
  obtain ⟨a, b, c, htext⟩ := exists_timeText
  rw [hashed_eq, hashed_eq, htext, htext] at h
  have htexts := Utf8.encode_injective h
  simp only [← List.append_assoc] at htexts
  simp only [List.append_assoc _ ['\x7d'], List.singleton_append] at htexts
  exact String.toList_inj.mp (Text.cut_last hp hp' htexts).2

namespace Trail

variable {hash : Bytes → String}

/-! ## Hashes in order -/

/-- What was hashed while some events were taken in. -/
def messages (hash : Bytes → String) (es : List Event) : List Bytes :=
  (chained hash none es).map Event.hashed

/-- No two messages that were hashed have one hash. -/
def CollisionFree (hash : Bytes → String) (es : List Event) : Prop :=
  ∀ b ∈ messages hash es, ∀ b' ∈ messages hash es, hash b = hash b' → b = b'

instance (es : List Event) : Decidable (CollisionFree hash es) :=
  inferInstanceAs (Decidable (∀ b ∈ messages hash es, ∀ b' ∈ messages hash es, hash b = hash b' → b = b'))

/-- The hash of the newest of the first so many events that were taken in. -/
def hashAfter (hash : Bytes → String) (es : List Event) (k : Nat) : Option String :=
  lastHash none ((chained hash none es).take k)

variable {es : List Event}

theorem exists_event (hash : Bytes → String) {es : List Event} {k : Nat} (hk : k < es.length) :
    ∃ e, (chained hash none es)[k]? = some e ∧ e.hashed ∈ messages hash es ∧ e.previous = hashAfter hash es k ∧
      hashAfter hash es (k + 1) = some (hash e.hashed) := by
  have hlen : k < (chained hash none es).length := by rwa [length_chained]
  have hget := List.getElem?_eq_getElem hlen
  obtain ⟨hprevious, -, hnext⟩ := link_of_isLinked (isLinked_chained hash none es) hget
  exact ⟨_, hget, List.mem_map_of_mem (List.getElem_mem hlen), hprevious, hnext⟩

theorem brace_notMem_hashAfter (hd : IsDigest hash) (k : Nat) (hk : k ≤ es.length) :
    '\x7d' ∉ ((hashAfter hash es k).getD "").toList := by
  cases k with
  | zero => simp [hashAfter, lastHash]
  | succ k =>
    obtain ⟨e, -, -, -, hnext⟩ := exists_event hash hk
    rw [hnext, Option.getD_some]
    intro hmem
    exact absurd (hd.digits _ _ hmem) (by decide)

/-- No hash comes twice. -/
theorem hashAfter_ne (hd : IsDigest hash) (hfree : CollisionFree hash es) {i j : Nat} (hij : i < j)
    (hj : j ≤ es.length) : hashAfter hash es i ≠ hashAfter hash es j := by
  -- equal hashes stand behind equal ones, down to the first event, which stands behind none
  induction i generalizing j with
  | zero =>
    obtain ⟨j, rfl⟩ := Nat.exists_eq_succ_of_ne_zero (Nat.ne_of_gt hij)
    obtain ⟨e, -, -, -, hnext⟩ := exists_event hash hj
    rw [hnext]
    exact (Option.some_ne_none _).symm
  | succ i ih =>
    obtain ⟨j, rfl⟩ := Nat.exists_eq_succ_of_ne_zero (Nat.ne_of_gt (Nat.zero_lt_of_lt hij))
    have hi : i < es.length := by omega
    obtain ⟨e, -, hmem, hprevious, hnext⟩ := exists_event hash hi
    obtain ⟨e', -, hmem', hprevious', hnext'⟩ := exists_event hash hj
    intro heq
    rw [hnext, hnext', Option.some.injEq] at heq
    have hgetD := Event.previous_getD_eq (hprevious ▸ brace_notMem_hashAfter hd i (by omega))
      (hprevious' ▸ brace_notMem_hashAfter hd j (by omega)) (hfree _ hmem _ hmem' heq)
    rw [hprevious, hprevious'] at hgetD
    obtain ⟨k, rfl⟩ := Nat.exists_eq_succ_of_ne_zero (n := j) (by omega)
    obtain ⟨last, -, -, -, hlast⟩ := exists_event hash (Nat.lt_of_succ_lt hj)
    -- the hash before the later event is there, so that the one before the earlier event is the same
    rw [hlast, Option.getD_some] at hgetD
    refine ih (by omega) (Nat.le_of_succ_le hj) ?_
    rw [hlast]
    cases hbefore : hashAfter hash es i with
    | none =>
      rw [hbefore, Option.getD_none] at hgetD
      exact absurd hgetD.symm (hd.nonempty _)
    | some text => rw [← hgetD, hbefore, Option.getD_some]

/-- Behind a given event only the next one fits. -/
theorem index_of_previous (hd : IsDigest hash) (hfree : CollisionFree hash es) {e : Event} {k : Nat}
    (hk : k ≤ es.length) (hmem : e ∈ chained hash none es) (hprevious : e.previous = hashAfter hash es k) :
    (chained hash none es)[k]? = some e ∧ e.hash = hashAfter hash es (k + 1) := by
  obtain ⟨j, hj⟩ := List.mem_iff_getElem?.mp hmem
  obtain ⟨hbefore, hhash, hafter⟩ := link_of_isLinked (isLinked_chained hash none es) hj
  have hlt : j < es.length := by simpa using (List.getElem?_eq_some_iff.mp hj).1
  have hsame : hashAfter hash es j = hashAfter hash es k := hbefore.symm.trans hprevious
  have hjk : j = k := by
    rcases Nat.lt_trichotomy j k with h | h | h
    · exact absurd hsame (hashAfter_ne hd hfree h hk)
    · exact h
    · exact absurd hsame.symm (hashAfter_ne hd hfree h (by omega))
  subst hjk
  exact ⟨hj, hhash.trans hafter.symm⟩

/-- Events that were taken in and are linked behind one of them are those that came next. -/
theorem prefix_of_isLinked (hd : IsDigest hash) (hfree : CollisionFree hash es) {left : List Event} {k : Nat}
    (hk : k ≤ es.length) (hsub : left ⊆ chained hash none es)
    (h : isLinked hash (hashAfter hash es k) left = true) : left <+: (chained hash none es).drop k := by
  induction left generalizing k with
  | nil => exact List.nil_prefix
  | cons e left ih =>
    simp only [isLinked, Bool.and_eq_true, beq_iff_eq] at h
    obtain ⟨⟨hprevious, -⟩, hrest⟩ := h
    obtain ⟨hget, hhash⟩ := index_of_previous hd hfree hk (hsub List.mem_cons_self) hprevious
    obtain ⟨hlt, rfl⟩ := List.getElem?_eq_some_iff.mp hget
    rw [List.drop_eq_getElem_cons hlt, List.prefix_cons_inj]
    rw [hhash] at hrest
    have hnext : k + 1 ≤ es.length := by rwa [length_chained] at hlt
    exact ih hnext (fun x hx => hsub (.tail _ hx)) hrest

theorem isLinked_of_prefix {previous : Option String} {left all : List Event} (hp : left <+: all)
    (h : isLinked hash previous all = true) : isLinked hash previous left = true := by
  obtain ⟨rest, rfl⟩ := hp
  rw [isLinked_append, Bool.and_eq_true] at h
  exact h.1

/-! ## What is left of a trail -/

/-- The trail with other events, and with its head and its anchor as they were recorded. -/
def keeping (t : Trail) (left : List Event) : Trail :=
  { t with events := left }

/-- Of the retained events only those are an intact trail that miss none but the newest ones. So every change of their
order is noticed, and every loss that leaves an event behind one that is lost. -/
theorem verify_keeping_iff (hd : IsDigest hash) (capacity : Option Nat) (es : List Event)
    (hfree : CollisionFree hash es) :
    (∀ left, left ⊆ ((fresh capacity).addAll hash es).events →
      ((((fresh capacity).addAll hash es).keeping left).verify hash = true ↔
        left <+: ((fresh capacity).addAll hash es).events)) ∧
    ∀ left, left.Perm ((fresh capacity).addAll hash es).events → left ≠ ((fresh capacity).addAll hash es).events →
      (((fresh capacity).addAll hash es).keeping left).verify hash = false := by
  have hall := verify_addAll hash capacity es
  have hgone := gone_le capacity es.length
  have hevents : ((fresh capacity).addAll hash es).events = (chained hash none es).drop (gone capacity es.length) := by
    rw [addAll_fresh, retaining, length_chained]
  have hanchor : ((fresh capacity).addAll hash es).anchor = hashAfter hash es (gone capacity es.length) := by
    rw [addAll_fresh, retaining, length_chained, hashAfter]
  have hiff : ∀ left, left ⊆ ((fresh capacity).addAll hash es).events →
      ((((fresh capacity).addAll hash es).keeping left).verify hash = true ↔
        left <+: ((fresh capacity).addAll hash es).events) := by
    intro left hsub
    refine ⟨fun h => ?_, fun hp => isLinked_of_prefix hp hall⟩
    have hlinked : isLinked hash (hashAfter hash es (gone capacity es.length)) left = true := hanchor ▸ h
    rw [hevents] at hsub ⊢
    exact prefix_of_isLinked hd hfree hgone (fun x hx => List.mem_of_mem_drop (hsub hx)) hlinked
  refine ⟨hiff, fun left hperm hne => ?_⟩
  rw [Bool.eq_false_iff]
  intro h
  exact hne ((hiff left hperm.subset).mp h |>.eq_of_length hperm.length_eq)

/-- Aborts of one rule over the requests to some paths. -/
def stops (paths : List String) : List Event :=
  paths.map fun path =>
    { id := path, requestId := "r1", ruleId := "read-only", method := "DELETE", path, verdict := "block" }

/-- A full trail of two misses the older one of them. -/
theorem older_loss_noticed :
    CollisionFree sha256 (stops ["/a", "/b", "/c"]) ∧
      ((((fresh (some 2)).addAll sha256 (stops ["/a", "/b", "/c"])).keeping
        (((fresh (some 2)).addAll sha256 (stops ["/a", "/b", "/c"])).events.drop 1)).verify sha256 = false) := by
  have hfree : CollisionFree sha256 (stops ["/a", "/b", "/c"]) := by decide +kernel
  have hiff := (verify_keeping_iff sha256_isDigest (some 2) (stops ["/a", "/b", "/c"]) hfree).1 _
    (List.drop_subset 1 _)
  refine ⟨hfree, Bool.eq_false_iff.mpr fun h => ?_⟩
  exact absurd (hiff.mp h) (by decide +kernel)

/-- The newest event goes unnoticed, though the head still is its hash. -/
theorem newest_loss_unnoticed :
    CollisionFree sha256 (stops ["/a", "/b"]) ∧
      ((fresh none).addAll sha256 (stops ["/a", "/b"])).events.dropLast ≠
        ((fresh none).addAll sha256 (stops ["/a", "/b"])).events ∧
      (((fresh none).addAll sha256 (stops ["/a", "/b"])).keeping
        ((fresh none).addAll sha256 (stops ["/a", "/b"])).events.dropLast).verify sha256 = true := by
  refine ⟨by decide +kernel, fun h => ?_, ?_⟩
  · have hlen := congrArg List.length h
    exact absurd hlen (by decide)
  · exact isLinked_of_prefix (List.dropLast_prefix _) (verify_addAll sha256 none _)

end Trail

end Portcullis.Audit

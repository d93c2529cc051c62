import Portcullis.Proofs.Chain.Run
import Portcullis.Proofs.Http.Fields

/-!
# Buffered writes against direct ones

A buffer shows at every moment what a plain response shows that takes the same writes. What it adds is the record
of what was touched: a status or a body that nothing set, and a name that has no values left, come from the
response below when the buffer is committed.
-/

namespace Portcullis.Policy
open Http

namespace Write

/-- Writes made to a response itself, in order. -/
def applyAll (ws : List Write) (r : Response) : Response :=
  ws.foldl (fun r w => w.applyTo r) r

def setsStatus : Write → Bool
  | .setStatus _ => true
  | _ => false

def setsBody : Write → Bool
  | .setBody _ => true
  | .appendBody _ => true
  | _ => false

def removes (n : HeaderName) : Write → Bool
  | .removeHeader m => m == n
  | _ => false

/-- The values of a name after some writes were committed: those that the writes left in `written`, or none if the
name was ever removed, or those below. -/
def valuesOver (ws : List Write) (written below : Headers) (n : HeaderName) : List HeaderValue :=
  if written.getAll n ≠ [] then written.getAll n
  else if ws.any (·.removes n) then []
  else below.getAll n

end Write

namespace Interceptor

/-- Writes in order and then the flush, up to the first that is refused: what becomes of the response below. -/
def commitAll (i : Interceptor) (ws : List Write) (below : Response) : Except WriteError Response := do
  let i ← ws.foldlM write i
  let (_, _, committed) ← i.flush below
  return committed

theorem foldlM_write_of_open (ws : List Write) (i : Interceptor) (h : i.isFlushed = false) :
    ws.foldlM write i = .ok (ws.foldl buffer i) := by
  induction ws generalizing i with
  | nil => rfl
  | cons w ws ih =>
    have hw : i.write w = .ok (i.buffer w) := by simp [write, h]
    rw [List.foldlM_cons, hw, List.foldl_cons, ← ih (i.buffer w) (by rw [i.buffer_isFlushed, h])]
    rfl

theorem commitAll_of_open (ws : List Write) (i : Interceptor) (below : Response) (h : i.isFlushed = false) :
    i.commitAll ws below = .ok ((ws.foldl buffer i).commitOnto below) := by
  have hflush : (ws.foldl buffer i).isFlushed = false := by rw [foldl_buffer_isFlushed, h]
  simp [commitAll, foldlM_write_of_open ws i h, flush, hflush, bind, Except.bind, pure, Except.pure]

/-! ## What a buffer shows -/

/-- The buffer shows the fields and the body of a response, and its status if it holds one. -/
structure Mirrors (i : Interceptor) (r : Response) : Prop where
  status : i.status?.getD r.status = r.status
  headers : i.headers = r.headers
  body : i.body = r.body

@[simp] theorem removed_capture (r : Response) : (capture r).removed = [] :=
  rfl

theorem mirrors_capture (r : Response) : (capture r).Mirrors r :=
  ⟨rfl, rfl, rfl⟩

theorem mirrors_empty : ({} : Interceptor).Mirrors {} :=
  ⟨rfl, rfl, rfl⟩

theorem Mirrors.buffer {i : Interceptor} {r : Response} (h : i.Mirrors r) (w : Write) :
    (i.buffer w).Mirrors (w.applyTo r) := by
  cases w with
  | setStatus s => exact ⟨rfl, h.headers, h.body⟩
  | setHeader n v => exact ⟨h.status, by simp [Interceptor.buffer, Write.applyTo, h.headers], h.body⟩
  | appendHeader n v => exact ⟨h.status, by simp [Interceptor.buffer, Write.applyTo, h.headers], h.body⟩
  | removeHeader n => exact ⟨h.status, by simp [Interceptor.buffer, Write.applyTo, h.headers], h.body⟩
  | setBody b => exact ⟨h.status, h.headers, rfl⟩
  | appendBody b =>
    refine ⟨h.status, h.headers, ?_⟩
    rw [Write.applyTo, ← h.body]
    rfl

theorem Mirrors.foldl {i : Interceptor} {r : Response} (h : i.Mirrors r) (ws : List Write) :
    (ws.foldl Interceptor.buffer i).Mirrors (Write.applyAll ws r) := by
  induction ws generalizing i r with
  | nil => exact h
  | cons w ws ih => exact ih (h.buffer w)

/-! ## What a buffer notes -/

theorem isSome_status?_foldl (ws : List Write) (i : Interceptor) :
    (ws.foldl buffer i).status?.isSome = (i.status?.isSome || ws.any Write.setsStatus) := by
  induction ws generalizing i with
  | nil => simp
  | cons w ws ih => cases w <;> simp [ih, buffer, Write.setsStatus]

theorem isSome_body?_foldl (ws : List Write) (i : Interceptor) :
    (ws.foldl buffer i).body?.isSome = (i.body?.isSome || ws.any Write.setsBody) := by
  induction ws generalizing i with
  | nil => simp
  | cons w ws ih => cases w <;> simp [ih, buffer, Write.setsBody]

theorem mem_removed_buffer (i : Interceptor) (w : Write) (n : HeaderName) :
    n ∈ (i.buffer w).removed ↔ n ∈ i.removed ∨ w.removes n = true := by
  cases w with
  | removeHeader m =>
    by_cases hm : m ∈ i.removed
    · have hn : m = n → n ∈ i.removed := fun h => h ▸ hm
      simpa [buffer, Write.removes, hm] using hn
    · simp only [buffer, List.contains_iff_mem, hm, if_false, List.mem_cons, Write.removes, beq_iff_eq]
      rw [or_comm, @eq_comm _ n m]
  | _ => simp [buffer, Write.removes]

/-- A name stays noted, whatever is written to it later. -/
theorem mem_removed_foldl (ws : List Write) (i : Interceptor) (n : HeaderName) :
    n ∈ (ws.foldl buffer i).removed ↔ n ∈ i.removed ∨ ws.any (·.removes n) = true := by
  induction ws generalizing i with
  | nil => simp
  | cons w ws ih => simp [ih, mem_removed_buffer, or_assoc]

/-! ## The commit -/

/-- What a commit takes from the buffer is what the response has that took the same writes. -/
theorem Mirrors.commitOnto {i : Interceptor} {r : Response} (h : i.Mirrors r) (below : Response) :
    (i.commitOnto below).status = (if i.status?.isSome then r.status else below.status) ∧
      (i.commitOnto below).body = (if i.body?.isSome then r.body else below.body) ∧
      ∀ n, (i.commitOnto below).headers.getAll n =
        if r.headers.getAll n ≠ [] then r.headers.getAll n
        else if n ∈ i.removed then [] else below.headers.getAll n := by
  refine ⟨?_, ?_, fun n => ?_⟩
  · have hs := h.status
    cases hc : i.status? with
    | none => simp [Interceptor.commitOnto, hc]
    | some s => simpa [Interceptor.commitOnto, hc] using hs
  · have hb := h.body
    cases hc : i.body? with
    | none => simp [Interceptor.commitOnto, hc]
    | some b => simpa [Interceptor.commitOnto, hc, Interceptor.body] using hb
  · rw [Interceptor.commitOnto, Headers.getAll_overlay, h.headers]

/-- Writing to a buffer and committing it gives what the same writes give when they are made to the response itself,
laid over the response below. A captured response brings its status and its body; an empty buffer brings neither, so
that they come from below unless they are written. -/
theorem commitAll_eq_applyAll (ws : List Write) (below : Response) :
    (∀ r, ∃ committed, (capture r).commitAll ws below = .ok committed ∧
      committed.status = (Write.applyAll ws r).status ∧
      committed.body = (Write.applyAll ws r).body ∧
      ∀ n, committed.headers.getAll n = Write.valuesOver ws (Write.applyAll ws r).headers below.headers n) ∧
    ∃ committed, ({} : Interceptor).commitAll ws below = .ok committed ∧
      committed.status = (if ws.any Write.setsStatus then (Write.applyAll ws {}).status else below.status) ∧
      committed.body = (if ws.any Write.setsBody then (Write.applyAll ws {}).body else below.body) ∧
      ∀ n, committed.headers.getAll n = Write.valuesOver ws (Write.applyAll ws {}).headers below.headers n := by
  constructor
  · intro r
    obtain ⟨hs, hb, hh⟩ := ((mirrors_capture r).foldl ws).commitOnto below
    refine ⟨_, commitAll_of_open ws (capture r) below rfl, ?_, ?_, fun n => ?_⟩
    · rw [hs, isSome_status?_foldl]
      rfl
    · rw [hb, isSome_body?_foldl]
      rfl
    · simp only [hh n, Write.valuesOver, mem_removed_foldl, removed_capture, List.not_mem_nil, false_or]
  · obtain ⟨hs, hb, hh⟩ := (mirrors_empty.foldl ws).commitOnto below
    refine ⟨_, commitAll_of_open ws {} below rfl, ?_, ?_, fun n => ?_⟩
    · rw [hs, isSome_status?_foldl]
      rfl
    · rw [hb, isSome_body?_foldl]
      rfl
    · simp only [hh n, Write.valuesOver, mem_removed_foldl, List.not_mem_nil, false_or]

end Interceptor

end Portcullis.Policy

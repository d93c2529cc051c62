import Portcullis.Boundary.Forward
import Portcullis.Proofs.Http.Fields

/-!
# Fields that cross

Forwarding drops a fixed list of fields in both directions, and the host field of a request. What a connection field
nominates is not looked at: a field that is nominated is kept like any other one, unless it is in the list.
-/

namespace Portcullis.Http

/-- The name is an option of the value: one of the parts between its commas, in any case and with blanks around it. -/
def HeaderValue.Lists (v : HeaderValue) (n : HeaderName) : Prop :=
  ∃ lead token tail, lead ++ (token ++ tail) ∈ v.bytes.splitOn 0x2C ∧ (∀ b ∈ lead ++ tail, b = 0x20 ∨ b = 0x09) ∧
    HeaderName.parse? (String.ofList (token.map fun b => Char.ofNat b.toNat)) = some n

namespace Headers

/-- Some value of the connection field has the name as an option. -/
def Nominates (h : Headers) (n : HeaderName) : Prop :=
  ∃ v ∈ h.getAll .connection, v.Lists n

/-- The second fields are the first ones without some names. All others keep their values in order. -/
def Drops (gone : List HeaderName) (h h' : Headers) : Prop :=
  ∀ n, h'.getAll n = if n ∈ gone then [] else h.getAll n

variable {h h' : Headers} {gone : List HeaderName}

theorem Drops.remove (hd : Drops gone h h') (m : HeaderName) : Drops (m :: gone) h (h'.remove m) := by
  intro n
  rw [getAll_remove, hd n]
  by_cases hm : m = n <;> simp [hm, eq_comm]

theorem drops_foldl_remove (h : Headers) (gone : List HeaderName) : Drops gone h (gone.foldl remove h) := by
  induction gone generalizing h with
  | nil => exact fun _ => rfl
  | cons m rest ih =>
    intro n
    rw [List.foldl_cons, ih, getAll_remove]
    by_cases hm : m = n <;> simp [hm, eq_comm]

/-- What is nominated is dropped exactly if all of it that is there is among the names. -/
theorem Drops.nominated_iff (hd : Drops gone h h') :
    (∀ n, h.Nominates n → h'.getAll n = []) ↔ ∀ n, h.Nominates n → n ∈ gone ∨ h.getAll n = [] := by
  refine forall₂_congr fun n _ => ?_
  rw [hd n]
  by_cases hn : n ∈ gone <;> simp [hn]

end Headers

end Portcullis.Http

namespace Portcullis.Boundary
open Http

namespace Forward

theorem drops_withoutConnectionFields (h : Headers) : h.Drops connectionFields (withoutConnectionFields h) :=
  h.drops_foldl_remove connectionFields

theorem outgoing?_eq_some {backendUrl : String} {r : Request} {out : Outgoing}
    (h : outgoing? backendUrl r = some out) :
    out.method = r.method ∧ out.body = r.body ∧ out.headers = (withoutConnectionFields r.headers).remove .host := by
  unfold outgoing? at h
  split at h
  · cases h
    exact ⟨rfl, rfl, rfl⟩
  · cases h

theorem application_of_sent {backendUrl : String} (send : Outgoing → Reply) {r : Request} {out : Outgoing}
    (h : outgoing? backendUrl r = some out) : application backendUrl send r = respond (send out) := by
  unfold application
  generalize outgoing? backendUrl r = sent at h
  subst h
  rfl

/-- Of all fields those of the list are dropped, and no other one is, whether it is nominated or not. This is done with
the request, which besides loses its host field, and with the answer of the backend. -/
theorem fields_crossing (backendUrl : String) (send : Outgoing → Reply) (r : Request) :
    (∀ h, h.Drops connectionFields (withoutConnectionFields h) ∧
      ((∀ n, h.Nominates n → (withoutConnectionFields h).getAll n = []) ↔
        ∀ n, h.Nominates n → n ∈ connectionFields ∨ h.getAll n = [])) ∧
    ∀ out, outgoing? backendUrl r = some out →
      out.method = r.method ∧ out.body = r.body ∧ r.headers.Drops (.host :: connectionFields) out.headers ∧
      ∀ a, send out = .answered a →
        (application backendUrl send r).status = a.status ∧ (application backendUrl send r).body = a.body ∧
        a.headers.Drops connectionFields (application backendUrl send r).headers := by
  refine ⟨fun h => ⟨drops_withoutConnectionFields h, (drops_withoutConnectionFields h).nominated_iff⟩, ?_⟩
  intro out hout
  obtain ⟨hmethod, hbody, hheaders⟩ := outgoing?_eq_some hout
  refine ⟨hmethod, hbody, hheaders ▸ (drops_withoutConnectionFields r.headers).remove .host, fun a ha => ?_⟩
  have hanswer : application backendUrl send r = { a with headers := withoutConnectionFields a.headers } := by
    rw [application_of_sent send hout, ha, respond]
  rw [hanswer]
  exact ⟨rfl, rfl, drops_withoutConnectionFields a.headers⟩

/-- A request that nominates two fields for its connection. -/
def nominating : Request where
  uri := { rawPath := "/" }
  headers := ⟨[(.connection, ⟨Bytes.ofText "TE, X-Secret"⟩), (⟨"te"⟩, ⟨Bytes.ofText "trailers"⟩), (.host, ⟨[102]⟩),
    (⟨"x-secret"⟩, ⟨[49]⟩), (⟨"x-secret"⟩, ⟨[50]⟩)]⟩

/-- An answer with a field of its connection. -/
def keptAlive : Response where
  headers := ⟨[(⟨"keep-alive"⟩, ⟨Bytes.ofText "timeout=1"⟩), (.setCookie, ⟨[97]⟩), (.setCookie, ⟨[98]⟩)]⟩

theorem nominating_crossing : ∃ out, outgoing? "http://backend" nominating = some out ∧
    out.headers.getAll ⟨"te"⟩ = [] ∧ out.headers.getAll .host = [] ∧
    out.headers.getAll ⟨"x-secret"⟩ = [⟨[49]⟩, ⟨[50]⟩] ∧
    (application "http://backend" (fun _ => .answered keptAlive) nominating).headers.getAll ⟨"keep-alive"⟩ = [] ∧
    (application "http://backend" (fun _ => .answered keptAlive) nominating).headers.getAll .setCookie =
      [⟨[97]⟩, ⟨[98]⟩] := by
  obtain ⟨out, hout⟩ : ∃ out, outgoing? "http://backend" nominating = some out := ⟨_, rfl⟩
  obtain ⟨-, -, hsent, hanswered⟩ :=
    (fields_crossing "http://backend" (fun _ => .answered keptAlive) nominating).2 out hout
  obtain ⟨-, -, hanswer⟩ := hanswered keptAlive rfl
  exact ⟨out, hout, hsent _, hsent _, hsent _, hanswer _, hanswer _⟩

/-- A field that is nominated, and of which the backend sees every value. -/
theorem secret_crosses : nominating.headers.Nominates ⟨"x-secret"⟩ ∧
    (withoutConnectionFields nominating.headers).getAll ⟨"x-secret"⟩ = [⟨[49]⟩, ⟨[50]⟩] ∧
    ∃ out, outgoing? "http://backend" nominating = some out ∧
      out.headers.getAll ⟨"x-secret"⟩ = [⟨[49]⟩, ⟨[50]⟩] := by
  refine ⟨⟨_, .head _, ?_⟩, by decide, _, rfl, by decide⟩
  exact ⟨[32], Bytes.ofText "X-Secret", [], by decide, by simp, by decide⟩

end Forward

end Portcullis.Boundary

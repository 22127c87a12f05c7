import CypherLink.Proofs.Session.Course
import CypherLink.Proofs.Session.Reading

/-!
The status of a transaction and what the server said. A status is taken from a reply: whoever closes
a transaction of the server had the reply for it, and a failure that is not about the statements
leaves every transaction as it was. Main statement: `status_follows_server`.
-/

namespace CypherLink

namespace Action

variable {action : Action} {autoCommit : Bool} {outcome : Except Failure Unit}

theorem leaves_eq_committed (h : action.leaves autoCommit outcome = .committed) :
    outcome = .ok () ∧ (action = .run ∧ autoCommit = true ∨ action = .commit) := by
  cases outcome with
  | error e =>
    cases action with
    | run =>
      rw [leaves] at h
      split at h <;> cases h
    | _ => cases h
  | ok u =>
    refine ⟨rfl, ?_⟩
    cases action with
    | run =>
      rw [leaves] at h
      split at h
      · next hauto => exact .inl ⟨rfl, hauto⟩
      · cases h
    | commit => exact .inr rfl
    | rollback => cases h

theorem leaves_eq_rolledBack (h : action.leaves autoCommit outcome = .rolledBack) :
    (action = .rollback ∧ outcome = .ok ()) ∨
      (action = .run ∧ ∃ f, outcome = .error f ∧ f.isStatements = true) := by
  cases outcome with
  | error e =>
    cases action with
    | run =>
      rw [leaves] at h
      split at h
      · next he => exact .inr ⟨rfl, e, rfl, he⟩
      · cases h
    | _ => cases h
  | ok u =>
    cases action with
    | run =>
      rw [leaves] at h
      split at h <;> cases h
    | commit => cases h
    | rollback => exact .inl ⟨rfl, rfl⟩

theorem leaves_of_error {f : Failure} (hf : f.isStatements = false) :
    action.leaves autoCommit (.error f) = .pending := by
  cases action with
  | run => rw [leaves, hf, if_neg (by decide)]
  | _ => rfl

end Action

namespace Session

section Asked

variable {op : Operation} {t : Transaction} {s : Session} {o : Outgoing}

theorem Operation.outcome_asked (h : op.outgoing? t = .ok (some o)) :
    op.outcome t s = op.action.answered s o := by
  rw [Operation.outcome, h]

theorem Operation.carried_asked (h : op.outgoing? t = .ok (some o)) :
    op.carried t s = s.carried o := by
  rw [Operation.carried, h]

/-- A run asks the server, unless a request cannot be made into a payload. -/
theorem Operation.outgoing?_run (h : op.action = .run) :
    (∃ payloads, op.requests.mapM Request.payload = .ok payloads ∧
        op.outgoing? t = .ok (some (.posting t.url payloads))) ∨
      ∃ e, op.outgoing? t = .error (.access e) := by
  rw [Operation.outgoing?, h]
  cases op.requests.mapM Request.payload with
  | ok payloads => exact .inl ⟨payloads, rfl, rfl⟩
  | error e => exact .inr ⟨e, rfl⟩

theorem Operation.exists_posting (h : op.action = .run)
    (hout : ∀ e, op.outcome t s ≠ .error (.access e)) :
    ∃ payloads, op.outgoing? t = .ok (some (.posting t.url payloads)) := by
  obtain ⟨payloads, -, hasked⟩ | ⟨e, he⟩ := op.outgoing?_run (t := t) h
  · exact ⟨payloads, hasked⟩
  · refine absurd ?_ (hout e)
    rw [Operation.outcome, he]

end Asked

namespace Event

variable {e : Event} {i : Nat} {op : Operation} {t : Transaction} {o : Outgoing} {x : Sent}

theorem exchanges_of_asked (hcall : e.call = .operate i op) (hp : e.before.pending? i = some t)
    (hasked : op.outgoing? t = .ok (some o)) (hx : e.before.carried o = [x]) :
    e.exchanges = [⟨x, e.before.next⟩] := by
  exact exchanges_of_sent ((sent_pending hcall hp).trans ((Operation.carried_asked hasked).trans hx))

theorem outcome_pending (hcall : e.call = .operate i op) (hp : e.before.pending? i = some t) :
    e.outcome = op.outcome t e.before := by
  obtain ⟨ht, hpending⟩ := pending?_eq_some.mp hp
  obtain ⟨u, hu, -⟩ := ends_perform ht hpending op
  rw [outcome, hcall, Call.perform, hu]

/-- A failure that is not about the statements leaves every transaction as it was. -/
theorem transactions_of_error {f : Failure} (h : e.outcome = .error f)
    (hf : f.isStatements = false) : e.after.transactions = e.before.transactions := by
  rw [e.after_transactions]
  cases hcall : e.call with
  | begin autoCommit =>
    rw [outcome, hcall] at h
    cases autoCommit with
    | true => cases h
    | false =>
      obtain ⟨u, hu, -⟩ := ends_begin_explicit (s := e.before)
      unfold Call.ensuing
      cases ho : e.before.opening with
      | error cause => rfl
      | ok url =>
        rw [ho] at hu
        rw [Call.perform, bind_ok e.before hu] at h
        cases h
  | operate i op =>
    cases hp : e.before.pending? i with
    | none => rw [Call.ensuing_idle hp]
    | some t =>
      obtain ⟨ht, hpending⟩ := pending?_eq_some.mp hp
      have hsettled : e.before.settled i .pending = e.before := settled_self ht hpending
      rw [outcome_pending hcall hp] at h
      rw [Call.ensuing_pending hp, Operation.ensuing, h, Action.leaves_of_error hf]
      change (e.before.settled i .pending).transactions = _
      rw [hsettled]
  | execute url requests => rfl
  | commitAt url => rfl
  | rollbackAt url => rfl

theorem exchange_of_ok (hcall : e.call = .operate i op) (hp : e.before.pending? i = some t)
    (hasked : op.outgoing? t = .ok (some o)) (hok : op.outcome t e.before = .ok ()) :
    ∃ x, e.exchanges = [x] ∧ x.sent.Addressed o.method o.url ∧ x.reply.accepts = true ∧
      (op.action ≠ .rollback → x.reply.Clear) ∧
      (op.action = .run → ∃ v rs, x.reply.Bears v ∧ Reply.results v = .ok rs) := by
  rw [Operation.outcome_asked hasked] at hok
  obtain ⟨x, hx, htold⟩ := Action.answered_eq_ok hok
  exact ⟨⟨x, e.before.next⟩, exchanges_of_asked hcall hp hasked hx, htold⟩

/-- A run that closes its transaction as committed was answered in full. -/
theorem exchange_of_committing_run (hcall : e.call = .operate i op) (hrun : op.action = .run)
    (hp : e.before.pending? i = some t) (hok : op.outcome t e.before = .ok ()) :
    ∃ x, e.exchanges = [x] ∧ x.sent.Addressed .post t.url ∧ x.reply.Clear ∧
      ∃ v rs, x.reply.Bears v ∧ Reply.results v = .ok rs := by
  have hpaid : ∀ cause, op.outcome t e.before ≠ .error (.access cause) := by
    intro cause hcause
    rw [hcause] at hok
    exact nomatch hok
  obtain ⟨payloads, hasked⟩ := Operation.exists_posting hrun hpaid
  obtain ⟨x, hx, hto, -, hclear, hread⟩ := exchange_of_ok hcall hp hasked hok
  exact ⟨x, hx, hto, hclear (hrun ▸ nofun), hread hrun⟩

end Event

section Server

variable {es : List Event} {e : Event} {i : Nat} {op : Operation} {t : Transaction}

theorem answered_of_committed (he : e ∈ es) (hcall : e.call = .operate i op)
    (hp : e.before.pending? i = some t) (hauto : t.autoCommit = false)
    (hc : op.action.leaves t.autoCommit (op.outcome t e.before) = .committed) :
    ∃ x ∈ exchangesOn i es, x.sent.Addressed .post (commitUrl t.url) ∧ x.reply.Clear := by
  obtain ⟨hok, ⟨-, hrun⟩ | hcommit⟩ := Action.leaves_eq_committed hc
  · rw [hauto] at hrun
    exact absurd hrun Bool.false_ne_true
  · have hasked : op.outgoing? t = .ok (some (.committing t.url)) := by
      rw [Operation.outgoing?, hcommit, hauto]
      rfl
    obtain ⟨x, hx, hto, -, hclear, -⟩ := Event.exchange_of_ok hcall hp hasked hok
    have hmem : x ∈ e.exchanges := hx ▸ List.mem_singleton_self x
    exact ⟨x, mem_exchangesOn.mpr ⟨e, he, ⟨op, hcall⟩, hmem⟩, hto, hclear (hcommit ▸ by decide)⟩

theorem answered_of_rolledBack (he : e ∈ es) (hcall : e.call = .operate i op)
    (hp : e.before.pending? i = some t) (hauto : t.autoCommit = false)
    (hc : op.action.leaves t.autoCommit (op.outcome t e.before) = .rolledBack) :
    ∃ x ∈ exchangesOn i es,
      (x.sent.Addressed .delete t.url ∧ x.reply.accepts = true) ∨ x.reply.Faulty := by
  obtain ⟨hrollback, hok⟩ | ⟨hrun, f, hf, hstatements⟩ := Action.leaves_eq_rolledBack hc
  · have hasked : op.outgoing? t = .ok (some (.withdrawing t.url)) := by
      rw [Operation.outgoing?, hrollback, hauto]
      rfl
    obtain ⟨x, hx, hto, haccepts, -⟩ := Event.exchange_of_ok hcall hp hasked hok
    have hmem : x ∈ e.exchanges := hx ▸ List.mem_singleton_self x
    exact ⟨x, mem_exchangesOn.mpr ⟨e, he, ⟨op, hcall⟩, hmem⟩, .inl ⟨hto, haccepts⟩⟩
  · have hpaid : ∀ cause, op.outcome t e.before ≠ .error (.access cause) := by
      intro cause hcause
      rw [hcause] at hf
      rw [← Except.error.inj hf] at hstatements
      cases hstatements
    obtain ⟨payloads, hasked⟩ := Operation.exists_posting hrun hpaid
    rw [Operation.outcome_asked hasked] at hf
    obtain ⟨-, x, hx, hto, hfaulty⟩ := Action.answered_eq_statements hf hstatements
    have hmem : ⟨x, e.before.next⟩ ∈ e.exchanges :=
      Event.exchanges_of_asked hcall hp hasked hx ▸ List.mem_singleton_self _
    exact ⟨_, mem_exchangesOn.mpr ⟨e, he, ⟨op, hcall⟩, hmem⟩, .inr hfaulty⟩

end Server

/-- The status never runs ahead of the server. Whatever a program does and whatever the replies are,
each request has the reply in its place, and: an explicit transaction is committed only if its commit
was answered by a reply without faults, and rolled back only if its withdrawal was answered or faults
were reported on one of its requests; a run commits only if its reply was read in full; and a failure
that is not about the statements leaves every status as it was. -/
theorem status_follows_server (settings : Settings) (replies : List Reply) (steps : List Step) :
    let s : Session := { settings, replies }
    (s.course steps).flatMap Event.exchanges =
      (s.after steps).sent.mapIdx (fun k x => ⟨x, replies.getD k .blank⟩) ∧
    (∀ i t, (s.after steps).transactions[i]? = some t → t.autoCommit = false →
      (t.status = .committed → ∃ x ∈ exchangesOn i (s.course steps),
        x.sent.Addressed .post (commitUrl t.url) ∧ x.reply.Clear) ∧
      (t.status = .rolledBack → ∃ x ∈ exchangesOn i (s.course steps),
        (x.sent.Addressed .delete t.url ∧ x.reply.accepts = true) ∨ x.reply.Faulty)) ∧
    (∀ e ∈ s.course steps, ∀ i op t u, e.call = .operate i op → op.action = .run →
      e.before.transactions[i]? = some t → t.status ≠ .committed →
      e.after.transactions[i]? = some u → u.status = .committed →
      ∃ x, e.exchanges = [x] ∧ x.sent.Addressed .post t.url ∧ x.reply.Clear ∧
        ∃ v rs, x.reply.Bears v ∧ Reply.results v = .ok rs) ∧
    ∀ e ∈ s.course steps, ∀ f, e.outcome = .error f → f.isStatements = false →
      e.after.transactions = e.before.transactions := by
  intro s
  have hcourse : Course s (s.course steps) (s.after steps) := course_program s steps
  have hnew : ∀ (i : Nat) u, s.transactions[i]? = some u → u.status = .pending := nofun
  refine ⟨?_, fun i t ht hauto => ⟨fun hc => ?_, fun hc => ?_⟩, ?_, ?_⟩
  · rw [hcourse.exchanges, hcourse.sent]
    rfl
  · have hclosed : t.status ≠ .pending := hc ▸ nofun
    obtain ⟨e, he, op, u, hcall, hp, rfl⟩ := hcourse.exists_closing (hnew i) ht hclosed
    exact answered_of_committed (t := u) he hcall hp hauto hc
  · have hclosed : t.status ≠ .pending := hc ▸ nofun
    obtain ⟨e, he, op, u, hcall, hp, rfl⟩ := hcourse.exists_closing (hnew i) ht hclosed
    exact answered_of_rolledBack (t := u) he hcall hp hauto hc
  · intro e _ i op t u hcall hrun ht hnot hu hc
    rw [e.after_transactions] at hu
    obtain hsame | ⟨op', hop, hpending, hafter⟩ := getElem?_ensuing e.call ht
    · obtain rfl := Option.some.inj (hu.symm.trans hsame)
      exact absurd hc hnot
    · obtain ⟨-, rfl⟩ := Call.operate.inj (hcall.symm.trans hop)
      obtain rfl := Option.some.inj (hu.symm.trans hafter)
      have hp : e.before.pending? i = some t := pending?_eq_some.mpr ⟨ht, hpending⟩
      exact e.exchange_of_committing_run hcall hrun hp (Action.leaves_eq_committed hc).1
  · intro e _ f hf hkind
    exact e.transactions_of_error hf hkind

/-- Opens a transaction of the server, runs nothing in it, and commits it. -/
def commitment : List Step := [.connect, .begin "t" false, .commit "t"]

/-- The replies to them: where the transaction is, and that it is committed. -/
def consent : List Reply :=
  [.response ⟨201, [("Location", "http://localhost:7474/db/data/transaction/1")],
    "\x7b\"results\": [], \"errors\": []\x7d".toUTF8.toList⟩, .blank]

theorem commitment_follows_consent :
    ∃ t, (Session.after { settings := .defaults, replies := consent } commitment).transactions[0]? =
        some t ∧ t.status = .committed ∧
      ∃ x ∈ exchangesOn 0 (course { settings := .defaults, replies := consent } commitment),
        x.sent.Addressed .post (commitUrl t.url) ∧ x.reply.Clear := by
  have ht : (Session.after { settings := .defaults, replies := consent } commitment).transactions[0]? =
      some ⟨"http://localhost:7474/db/data/transaction/1", false, .committed⟩ := by decide +kernel
  obtain ⟨-, hstatus, -⟩ := status_follows_server .defaults consent commitment
  exact ⟨_, ht, rfl, (hstatus 0 _ ht rfl).1 rfl⟩

end Session

end CypherLink

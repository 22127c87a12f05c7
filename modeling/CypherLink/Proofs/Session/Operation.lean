import CypherLink.Proofs.Session.Closing
import CypherLink.Proofs.Session.Exchange

/-!
What an operation on a pending transaction comes to: whether the server is asked for anything, how
the operation ends, and which status it leaves. Main statement: `ends_perform`.
-/

namespace CypherLink

namespace Session

/-- The session with one transaction in another status. -/
def settled (s : Session) (i : Nat) (status : TransactionStatus) : Session :=
  { s with transactions := s.transactions.modify i fun t => { t with status := status } }

section Settled

variable {s t : Session} {i : Nat} {status : TransactionStatus}

theorem Noted.settled (h : Noted s t) : Noted (s.settled i status) (t.settled i status) := by
  obtain ⟨log, rfl⟩ := h
  exact ⟨log, rfl⟩

theorem settled_self {tx : Transaction} (ht : s.transactions[i]? = some tx)
    (hs : tx.status = status) : s.settled i status = s := by
  have hmodify : s.transactions.modify i (fun t => { t with status := status }) = s.transactions := by
    apply List.ext_getElem?
    intro k
    rw [List.getElem?_modify]
    split
    · next hk =>
      subst hk hs
      rw [ht]
      rfl
    · exact id_map _
  rw [settled, hmodify]

theorem getElem?_settled {tx : Transaction} (ht : s.transactions[i]? = some tx) :
    (s.settled i status).transactions[i]? = some { tx with status := status } := by
  rw [settled, List.getElem?_modify_eq, ht]
  rfl

theorem ends_setStatus : Ends (setStatus i status) s (.ok ()) (s.settled i status) :=
  ends_of_eq rfl

theorem ends_noteOn (message : String) : Ends (noteOn i message) s (.ok ()) s := ends_note _ _ _

end Settled

end Session

namespace Action

open Session

/-- How an operation ends that asks the server for something. -/
def answered (s : Session) (o : Outgoing) : Action → Except Failure Unit
  | .run => (s.resultsOf o).map fun _ => ()
  | .commit => s.checkOf o
  | .rollback => (s.verdict o).map fun _ => ()

/-- The status in which an operation leaves a pending transaction. -/
def leaves (action : Action) (autoCommit : Bool) (outcome : Except Failure Unit) :
    TransactionStatus :=
  match action, outcome with
  | .run, .ok () => if autoCommit then .committed else .pending
  | .run, .error e => if e.isStatements then .rolledBack else .pending
  | .commit, .ok () => .committed
  | .rollback, .ok () => .rolledBack
  | _, .error _ => .pending

end Action

namespace Session.Operation

/-- What an operation does to a pending transaction; leaving its scope commits it or rolls it
back. -/
def action : Operation → Action
  | .run _ | .runMany _ => .run
  | .commit | .leave false => .commit
  | .rollback | .leave true => .rollback

def requests : Operation → List Request
  | .run request => [request]
  | .runMany requests => requests
  | _ => []

/-- What the operation asks the server for, if anything. -/
def outgoing? (op : Operation) (t : Transaction) : Except Failure (Option Outgoing) :=
  match op.action with
  | .run => do
    let payloads ← (op.requests.mapM Request.payload).mapError .access
    return some (.posting t.url payloads)
  | .commit => .ok (if t.autoCommit then none else some (.committing t.url))
  | .rollback => .ok (if t.autoCommit then none else some (.withdrawing t.url))

/-- How the operation ends. -/
def outcome (op : Operation) (t : Transaction) (s : Session) : Except Failure Unit :=
  match op.outgoing? t with
  | .error e => .error e
  | .ok none => .ok ()
  | .ok (some o) => op.action.answered s o

/-- What the operation puts on the wire. -/
def carried (op : Operation) (t : Transaction) (s : Session) : List Sent :=
  match op.outgoing? t with
  | .ok (some o) => s.carried o
  | _ => []

/-- The session after the operation, but for the log. -/
def ensuing (op : Operation) (i : Nat) (t : Transaction) (s : Session) : Session :=
  (s.past (op.carried t s)).settled i (op.action.leaves t.autoCommit (op.outcome t s))

end Session.Operation

namespace Session

theorem outgoing?_leave (failed : Bool) (t : Transaction) :
    (Operation.leave failed).outgoing? t = .ok (if t.autoCommit then none else
      some (if failed then .withdrawing t.url else .committing t.url)) := by
  cases failed <;> rfl

section Pending

variable {α : Type} {s : Session} {i : Nat} {t : Transaction}
  (ht : s.transactions[i]? = some t) (hp : t.status = .pending)

include ht hp

theorem guarded_pending (action : Action) (f : Transaction → Act α) :
    (do let t ← transaction i; requirePending i t action; f t) s = f t s := by
  have hrequire : requirePending i t action s = (.ok (), s) := by
    rw [requirePending, if_pos hp]
    rfl
  rw [bind_ok s (transaction_apply ht), bind_ok s hrequire]

/-- How a run ends once the server has been asked. -/
theorem ends_results (outcome : Except Failure (List QueryResult)) :
    Ends (match outcome with
      | .error e => do
        if e.isStatements then setStatus i .rolledBack
        throw e
      | .ok results => do
        if t.autoCommit then setStatus i .committed
        return results) s outcome
      (s.settled i (Action.leaves .run t.autoCommit (outcome.map fun _ => ()))) := by
  cases outcome with
  | error e =>
    change Ends _ s _ (s.settled i (Action.leaves .run t.autoCommit (.error e)))
    dsimp only
    split
    · next he =>
      rw [Action.leaves, if_pos he]
      exact (ends_setStatus (i := i)).bind fun v hv => (ends_throw e).noted hv
    · next he =>
      rw [Action.leaves, if_neg he, settled_self ht hp]
      exact ends_throw e
  | ok results =>
    change Ends _ s _ (s.settled i (Action.leaves .run t.autoCommit (.ok ())))
    rw [Action.leaves]
    dsimp only
    split
    · exact (ends_setStatus (i := i)).bind fun v hv => (ends_pure results).noted hv
    · rw [settled_self ht hp]
      exact ends_pure results

theorem ends_runMany {op : Operation} (h : op.action = .run) {f : List QueryResult → Act Unit}
    (hf : ∀ results v, f results v = (.ok (), v)) :
    Ends (runMany i op.requests >>= f) s (op.outcome t s) (op.ensuing i t s) := by
  have hnote : Ends (noteOn i ("POST " ++ t.url ++ " (" ++ toString op.requests.length ++
      " statement(s))")) s (.ok ()) s := ends_noteOn _
  have hguard := guarded_pending ht hp (α := List QueryResult) .run
  cases hr : op.requests.mapM Request.payload with
  | error e =>
    have hout : op.outgoing? t = .error (.access e) := by
      rw [Operation.outgoing?, h, hr]
      rfl
    have hensuing : op.ensuing i t s = s := by
      rw [Operation.ensuing, Operation.carried, Operation.outcome, hout, h, past_nil]
      exact settled_self ht hp
    have hrun : Ends (runMany i op.requests) s (.error (.access e)) s := by
      unfold Ends runMany
      rw [hguard]
      refine hnote.bind fun u hu => ?_
      have hexecute : Ends (execute t.url op.requests) u (.error (.access e)) s :=
        (ends_of_eq (execute_unpayable hr)).noted hu
      exact hexecute.observe.bind fun v hv => (ends_throw _).noted hv
    rw [hensuing, Operation.outcome, hout]
    exact hrun.done hf
  | ok payloads =>
    have hout : op.outgoing? t = .ok (some (.posting t.url payloads)) := by
      rw [Operation.outgoing?, h, hr]
      rfl
    rw [Operation.ensuing, Operation.carried, Operation.outcome, hout, h]
    have hrun : Ends (runMany i op.requests) s (s.resultsOf (.posting t.url payloads))
        ((s.past (s.carried (.posting t.url payloads))).settled i
          (Action.leaves .run t.autoCommit
            ((s.resultsOf (.posting t.url payloads)).map fun _ => ()))) := by
      unfold Ends runMany
      rw [hguard]
      refine hnote.bind fun u hu => ?_
      refine (ends_execute hu t.url hr).observe.bind fun v hv => ?_
      have htv : v.transactions[i]? = some t := hv.transactions ▸ ht
      exact (ends_results htv hp _).noted hv.settled
    exact hrun.done hf

/-- A commit and a rollback ask the server, unless the transaction commits by itself, and close the
transaction if that goes well. -/
theorem ends_close {op : Operation} {act : Act Unit} {o : Outgoing} {status : TransactionStatus}
    (hop : op.outgoing? t = .ok (if t.autoCommit then none else some o))
    (hact : Ends act s (op.action.answered s o) (s.past (s.carried o)))
    (hok : op.action.leaves t.autoCommit (.ok ()) = status)
    (herror : ∀ e, op.action.leaves t.autoCommit (.error e) = .pending) (message : String) :
    Ends (do
      if !t.autoCommit then act
      setStatus i status
      noteOn i message) s (op.outcome t s) (op.ensuing i t s) := by
  have hclose : ∀ u v, Noted u v → Ends (do setStatus i status; noteOn i message) v (.ok ())
      (u.settled i status) := by
    intro u v hv
    refine (ends_setStatus (i := i)).bind fun w hw => ?_
    exact (ends_noteOn message).noted (IsTrans.trans _ _ _ hv.settled hw)
  unfold Operation.ensuing Operation.carried Operation.outcome
  rw [hop]
  cases ha : t.autoCommit with
  | true =>
    rw [ha] at hok
    simp only [if_true, hok, past_nil]
    exact hclose s s (refl s)
  | false =>
    rw [ha] at hok herror
    simp only [Bool.false_eq_true, if_false]
    cases hasked : op.action.answered s o with
    | error e =>
      rw [hasked] at hact
      have htp : (s.past (s.carried o)).transactions[i]? = some t := ht
      rw [herror, settled_self htp hp]
      exact hact.bind_error
    | ok u =>
      rw [hasked] at hact
      rw [hok]
      exact hact.bind fun v hv => hclose _ v hv

theorem ends_commit {op : Operation} (h : op.action = .commit) :
    Ends (commit i) s (op.outcome t s) (op.ensuing i t s) := by
  unfold Ends commit
  rw [guarded_pending ht hp]
  apply ends_close ht hp (o := .committing t.url)
  · rw [Operation.outgoing?, h]
  · rw [h]
    exact ends_commitAt t.url
  · rw [h]
    rfl
  · intro e
    rw [h]
    rfl

theorem ends_rollback {op : Operation} (h : op.action = .rollback) :
    Ends (rollback i) s (op.outcome t s) (op.ensuing i t s) := by
  unfold Ends rollback
  rw [guarded_pending ht hp]
  apply ends_close ht hp (o := .withdrawing t.url)
  · rw [Operation.outgoing?, h]
  · rw [h]
    exact ends_rollbackAt t.url
  · rw [h]
    rfl
  · intro e
    rw [h]
    rfl

theorem ends_leave (failed : Bool) :
    Ends (leave i failed) s ((Operation.leave failed).outcome t s)
      ((Operation.leave failed).ensuing i t s) := by
  unfold Ends leave
  rw [bind_ok s (transaction_apply ht), if_pos hp]
  cases failed with
  | true => exact ends_rollback ht hp rfl
  | false => exact ends_commit ht hp rfl

theorem ends_perform (op : Operation) :
    Ends (op.perform i) s (op.outcome t s) (op.ensuing i t s) := by
  cases op with
  | run request =>
    change Ends ((runMany i [request] >>= fun results =>
      pure (results.head?.getD { columns := [] })) >>= fun _ => pure ()) s _ _
    rw [bind_assoc]
    have hone : (Operation.run request).action = .run := rfl
    exact ends_runMany ht hp hone fun _ _ => rfl
  | runMany requests =>
    have hmany : (Operation.runMany requests).action = .run := rfl
    exact ends_runMany ht hp hmany fun _ _ => rfl
  | commit => exact ends_commit ht hp rfl
  | rollback => exact ends_rollback ht hp rfl
  | leave failed => exact ends_leave ht hp failed

end Pending

end Session

end CypherLink

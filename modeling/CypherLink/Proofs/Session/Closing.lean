import CypherLink.Proofs.Session.Act

/-!
Closed transactions. An operation on a transaction changes at most that one, and only while it is
pending; so a closed transaction is never touched again. Main statements: `perform_closed`,
`closed_step` and `closed_stays_closed`.
-/

namespace CypherLink

namespace Session

/-- At most the transaction of that number is another than before. -/
def Beside (i : Nat) (ts us : List Transaction) : Prop := ∀ k, k ≠ i → us[k]? = ts[k]?

/-- Each closed transaction is as it was. -/
def Closed (ts us : List Transaction) : Prop :=
  ∀ (k : Nat) (t : Transaction), ts[k]? = some t → t.status ≠ .pending → us[k]? = some t

instance (i : Nat) : IsPreorder (List Transaction) (Beside i) where
  refl _ _ _ := rfl
  trans _ _ _ h h' k hk := (h' k hk).trans (h k hk)

instance : IsPreorder (List Transaction) Closed where
  refl _ _ _ ht _ := ht
  trans _ _ _ h h' k t ht hc := h' k t (h k t ht hc) hc

theorem closed_of_beside {i : Nat} {ts us : List Transaction} (h : Beside i ts us)
    (hp : ∀ t, ts[i]? = some t → t.status = .pending) : Closed ts us := by
  intro k t ht hc
  have hk : k ≠ i := by
    rintro rfl
    exact hc (hp t ht)
  rw [h k hk, ht]

inductive Operation where
  | run (request : Request)
  | runMany (requests : List Request)
  | commit
  | rollback
  | leave (failed : Bool)

namespace Operation

def perform (i : Nat) : Operation → Act Unit
  | .run request => do let _ ← Session.run i request
  | .runMany requests => do let _ ← Session.runMany i requests
  | .commit => Session.commit i
  | .rollback => Session.rollback i
  | .leave failed => Session.leave i failed

/-- The action that a closed transaction refuses. -/
def action? : Operation → Option Action
  | .run _ | .runMany _ => some .run
  | .commit => some .commit
  | .rollback => some .rollback
  | .leave _ => none

end Operation

section One

variable {α : Type} {s : Session} {i : Nat} {t : Transaction}

theorem transaction_apply (ht : s.transactions[i]? = some t) : transaction i s = (.ok t, s) := by
  unfold transaction
  rw [bind_ok s (get_apply s), ht]
  rfl

theorem transaction_none (h : s.transactions[i]? = none) :
    transaction i s = (.error (.noTransaction (correlationId i)), s) := by
  unfold transaction
  rw [bind_ok s (get_apply s), h]
  rfl

theorem requirePending_closed (hc : t.status ≠ .pending) (action : Action) :
    requirePending i t action s = (.error (.closed action (correlationId i) t.status), s) := by
  rw [requirePending, if_neg hc]
  rfl

section Closed

variable (ht : s.transactions[i]? = some t) (hc : t.status ≠ .pending)

include ht hc

theorem guarded_closed (action : Action) (f : Transaction → Act α) :
    (do let t ← transaction i; requirePending i t action; f t) s =
      (.error (.closed action (correlationId i) t.status), s) := by
  rw [bind_ok s (transaction_apply ht)]
  exact bind_error s (requirePending_closed hc action) _

theorem runMany_closed (requests : List Request) :
    runMany i requests s = (.error (.closed .run (correlationId i) t.status), s) :=
  guarded_closed ht hc .run _

theorem leave_closed (failed : Bool) : leave i failed s = (.ok (), s) := by
  unfold leave
  rw [bind_ok s (transaction_apply ht), if_neg hc]
  rfl

theorem perform_closed (op : Operation) :
    op.perform i s =
      (match op.action? with
        | some action => .error (.closed action (correlationId i) t.status)
        | none => .ok (), s) := by
  cases op with
  | run request =>
    have hrun := bind_error s (runMany_closed ht hc [request])
      fun results => pure (results.head?.getD { columns := [] })
    exact bind_error s hrun _
  | runMany requests => exact bind_error s (runMany_closed ht hc requests) _
  | commit => exact guarded_closed ht hc .commit _
  | rollback => exact guarded_closed ht hc .rollback _
  | leave failed => exact leave_closed ht hc failed

end Closed

end One

section Beside

variable (i : Nat)

theorem silent_transaction : Silent (transaction i) := by
  refine silent_bind silent_get fun s => ?_
  cases s.transactions[i]? with
  | none => exact silent_throw _
  | some t => exact silent_pure t

theorem silent_requirePending (t : Transaction) (action : Action) :
    Silent (requirePending i t action) := by
  unfold requirePending
  split
  · exact silent_pure _
  · exact silent_throw _

theorem beside_setStatus (status : TransactionStatus) : Keeps (Beside i) (setStatus i status) := by
  intro s k hk
  exact List.getElem?_modify_ne _ _ (Ne.symm hk)

theorem beside_end (status : TransactionStatus) (message : String) :
    Keeps (Beside i) (do setStatus i status; noteOn i message) :=
  keeps_bind (beside_setStatus i status) fun _ => (silent_note _ _ _).keeps

theorem beside_guarded {α : Type} {action : Action} {f : Transaction → Act α}
    (hf : ∀ t, Keeps (Beside i) (f t)) :
    Keeps (Beside i) (do let t ← transaction i; requirePending i t action; f t) := by
  refine keeps_bind (silent_transaction i).keeps fun t => ?_
  exact keeps_bind (silent_requirePending i t action).keeps fun _ => hf t

theorem beside_runMany (requests : List Request) : Keeps (Beside i) (runMany i requests) := by
  refine beside_guarded i fun t => ?_
  refine keeps_bind (silent_note _ _ _).keeps fun _ => ?_
  refine keeps_bind (keeps_observe (keeps_of_eq (keeps_execute t.url requests))) fun outcome => ?_
  cases outcome with
  | error e =>
    dsimp only
    split
    · exact keeps_bind (beside_setStatus i _) fun _ => keeps_throw e
    · exact keeps_throw e
  | ok results =>
    dsimp only
    split
    · exact keeps_bind (beside_setStatus i _) fun _ => keeps_pure results
    · exact keeps_pure results

theorem beside_commit : Keeps (Beside i) (commit i) := by
  refine beside_guarded i fun t => ?_
  dsimp only
  split
  · exact keeps_bind (keeps_of_eq (keeps_commitAt t.url)) fun _ => beside_end i _ _
  · exact beside_end i _ _

theorem beside_rollback : Keeps (Beside i) (rollback i) := by
  refine beside_guarded i fun t => ?_
  dsimp only
  split
  · exact keeps_bind (keeps_of_eq (keeps_rollbackAt t.url)) fun _ => beside_end i _ _
  · exact beside_end i _ _

theorem beside_leave (failed : Bool) : Keeps (Beside i) (leave i failed) := by
  refine keeps_bind (silent_transaction i).keeps fun t => ?_
  split
  · cases failed with
    | true => exact beside_rollback i
    | false => exact beside_commit i
  · exact keeps_pure _

theorem beside_perform (op : Operation) : Keeps (Beside i) (op.perform i) := by
  cases op with
  | run request =>
    have hrun : Keeps (Beside i) (run i request) :=
      keeps_bind (beside_runMany i [request]) fun _ => keeps_pure _
    exact keeps_bind hrun fun _ => keeps_pure _
  | runMany requests => exact keeps_bind (beside_runMany i requests) fun _ => keeps_pure _
  | commit => exact beside_commit i
  | rollback => exact beside_rollback i
  | leave failed => exact beside_leave i failed

section Idle

variable {α : Type} {i} {s : Session} {act : Act α}

/-- Whoever changes one transaction only, and that only while it is pending, leaves closed ones as
they are. -/
theorem closed_of_idle (hb : Keeps (Beside i) act)
    (hi : ∀ s, (∀ t, s.transactions[i]? = some t → t.status ≠ .pending) → (act s).2 = s) :
    Keeps Closed act := by
  intro s
  by_cases hp : ∃ t, s.transactions[i]? = some t ∧ t.status = .pending
  · obtain ⟨t, ht, hp⟩ := hp
    refine closed_of_beside (hb s) fun u hu => ?_
    rw [ht] at hu
    exact Option.some.inj hu ▸ hp
  · have hs : (act s).2 = s := hi s fun t ht hpending => hp ⟨t, ht, hpending⟩
    rw [hs]
    exact refl _

theorem idle_guarded (h : ∀ t, s.transactions[i]? = some t → t.status ≠ .pending) (action : Action)
    (f : Transaction → Act α) :
    ((do let t ← transaction i; requirePending i t action; f t) s).2 = s := by
  cases ht : s.transactions[i]? with
  | none => rw [bind_error s (transaction_none ht)]
  | some t => rw [guarded_closed ht (h t ht)]

theorem idle_leave (h : ∀ t, s.transactions[i]? = some t → t.status ≠ .pending) (failed : Bool) :
    (leave i failed s).2 = s := by
  cases ht : s.transactions[i]? with
  | none => rw [leave, bind_error s (transaction_none ht)]
  | some t => rw [leave_closed ht (h t ht)]

end Idle

theorem closed_runMany (requests : List Request) : Keeps Closed (runMany i requests) :=
  closed_of_idle (beside_runMany i requests) fun _ h => idle_guarded h .run _

theorem closed_run (request : Request) : Keeps Closed (run i request) :=
  keeps_bind (closed_runMany i [request]) fun _ => keeps_pure _

theorem closed_commit : Keeps Closed (commit i) :=
  closed_of_idle (beside_commit i) fun _ h => idle_guarded h .commit _

theorem closed_rollback : Keeps Closed (rollback i) :=
  closed_of_idle (beside_rollback i) fun _ h => idle_guarded h .rollback _

theorem closed_leave (failed : Bool) : Keeps Closed (leave i failed) :=
  closed_of_idle (beside_leave i failed) fun _ h => idle_leave h failed

end Beside

section Program

theorem closed_begin (autoCommit : Bool) : Keeps Closed (begin autoCommit) := by
  have hnote : ∀ severity message, Keeps Closed (note severity .http message) :=
    fun _ _ => (silent_note _ _ _).keeps
  have hexchange : ∀ method url body, Keeps Closed (exchange method url body) :=
    fun _ _ _ => keeps_of_eq (keeps_exchange _ _ _)
  refine leads_begin (R := Between Closed) hnote hexchange (fun url autoCommit s k t ht _ => ?_) _
  have hk : k < s.transactions.length := (List.getElem?_eq_some_iff.mp ht).1
  exact (List.getElem?_append_left hk).trans ht

theorem closed_within {α : Type} (i : Nat) {body : Act α} (hb : Keeps Closed body) :
    Keeps Closed (within i body) := by
  refine keeps_bind (keeps_observe hb) fun outcome => ?_
  cases outcome with
  | ok a => exact keeps_bind (closed_leave i false) fun _ => keeps_pure a
  | error e => exact keeps_bind (closed_leave i true) fun _ => keeps_throw e

theorem closed_whileConnected {α : Type} {body : Act α} (hb : Keeps Closed body) :
    Keeps Closed (whileConnected body) := by
  refine keeps_bind silent_connect.keeps fun _ => ?_
  refine keeps_bind (keeps_observe hb) fun outcome => ?_
  cases outcome with
  | ok a => exact keeps_bind silent_close.keeps fun _ => keeps_pure a
  | error e => exact keeps_bind silent_close.keeps fun _ => keeps_throw e

theorem silent_handle (name : String) : Silent (handle name) := by
  refine silent_bind silent_get fun s => ?_
  cases Entries.find? s.names name with
  | none => exact silent_throw _
  | some i => exact silent_pure i

theorem silent_register (name : String) (i : Nat) : Silent (register name i) :=
  fun _ => ⟨rfl, rfl, rfl, rfl⟩

theorem silent_requestOf (plan : Plan) : Silent (requestOf plan) :=
  silent_bind (fun _ => ⟨rfl, rfl, rfl, rfl⟩) fun _ => silent_ofExcept _ _

theorem silent_record (outcome : Outcome) : Silent (record outcome) :=
  fun _ => ⟨rfl, rfl, rfl, rfl⟩

theorem closed_handle {α : Type} (name : String) {f : Nat → Act α} (hf : ∀ i, Keeps Closed (f i)) :
    Keeps Closed (handle name >>= f) :=
  keeps_bind (silent_handle name).keeps hf

mutual

theorem closed_step : ∀ step : Step, Keeps Closed step.perform
  | .connect => keeps_bind silent_connect.keeps fun _ => keeps_pure _
  | .close => keeps_bind silent_close.keeps fun _ => keeps_pure _
  | .client => keeps_bind silent_requireConnected.keeps fun _ => keeps_pure _
  | .endpoint => keeps_bind silent_endpoint.keeps fun _ => keeps_pure _
  | .begin name autoCommit =>
    keeps_bind (closed_begin autoCommit) fun i =>
      keeps_bind (silent_register name i).keeps fun _ =>
        keeps_bind (silent_transaction i).keeps fun _ => keeps_pure _
  | .run name plan =>
    closed_handle name fun i =>
      keeps_bind (silent_requestOf plan).keeps fun request =>
        keeps_bind (closed_run i request) fun _ => keeps_pure _
  | .runMany name _ =>
    closed_handle name fun i =>
      keeps_bind (keeps_mapM fun plan => (silent_requestOf plan).keeps) fun requests =>
        keeps_bind (closed_runMany i requests) fun _ => keeps_pure _
  | .commit name => closed_handle name fun i => keeps_bind (closed_commit i) fun _ => keeps_pure _
  | .rollback name =>
    closed_handle name fun i => keeps_bind (closed_rollback i) fun _ => keeps_pure _
  | .execute url _ =>
    keeps_bind (keeps_mapM fun plan => (silent_requestOf plan).keeps) fun requests =>
      keeps_bind (keeps_of_eq (keeps_execute url requests)) fun _ => keeps_pure _
  | .commitAt url => keeps_bind (keeps_of_eq (keeps_commitAt url)) fun _ => keeps_pure _
  | .rollbackAt url => keeps_bind (keeps_of_eq (keeps_rollbackAt url)) fun _ => keeps_pure _
  | .raise message => keeps_throw (.raised message)
  | .scope name autoCommit body =>
    keeps_bind (closed_begin autoCommit) fun i =>
      keeps_bind (silent_register name i).keeps fun _ =>
        keeps_bind (closed_within i (closed_performAll body)) fun _ => keeps_pure _
  | .within name body =>
    closed_handle name fun i =>
      keeps_bind (closed_within i (closed_performAll body)) fun _ => keeps_pure _
  | .whileConnected body =>
    keeps_bind (closed_whileConnected (closed_performAll body)) fun _ => keeps_pure _
  | .guarded step => closed_step step

theorem closed_performAll : ∀ steps : List Step, Keeps Closed (performAll steps)
  | [] => by
    rw [performAll]
    exact keeps_pure _
  | step :: rest => by
    rw [performAll]
    refine keeps_bind (keeps_observe (closed_step step)) fun outcome => ?_
    refine keeps_bind (silent_record outcome).keeps fun _ => ?_
    split
    · exact keeps_throw _
    · exact closed_performAll rest

end

/-- The session after the steps of a program, each of which is tried whatever came of those
before. -/
def after (s : Session) (steps : List Step) : Session :=
  steps.foldl (fun s step => (s.report step).2) s

theorem closed_after (s : Session) (steps : List Step) :
    Closed s.transactions (s.after steps).transactions := by
  induction steps generalizing s with
  | nil => exact refl _
  | cons step steps ih => exact IsTrans.trans _ _ _ (closed_step step s) (ih (s.report step).2)

end Program

/-- A closed transaction is the same after every program, whatever the server replies. It refuses
each operation and is left without one, and nothing is sent or changed in the session; and no
operation touches any transaction but its own. -/
theorem closed_stays_closed {s : Session} {i : Nat} {t : Transaction}
    (ht : s.transactions[i]? = some t) (hc : t.status ≠ .pending) (steps : List Step) :
    (s.after steps).transactions[i]? = some t ∧
      (∀ op : Operation, op.perform i (s.after steps) =
        (match op.action? with
          | some action => .error (.closed action (correlationId i) t.status)
          | none => .ok (), s.after steps)) ∧
      ∀ (op : Operation) (j k : Nat), k ≠ j →
        (op.perform j (s.after steps)).2.transactions[k]? = (s.after steps).transactions[k]? := by
  have hafter : (s.after steps).transactions[i]? = some t := closed_after s steps i t ht hc
  refine ⟨hafter, fun op => perform_closed hafter hc op, ?_⟩
  intro op j k hk
  exact beside_perform j op _ k hk

/-- A session in which one transaction was opened by the server and rolled back. -/
def withdrawn : Session :=
  let opened : Reply := .response ⟨201, [("Location", "http://localhost:7474/db/data/transaction/1")],
    "\x7b\"results\": [], \"errors\": []\x7d".toUTF8.toList⟩
  after { settings := .defaults, replies := [opened, .blank, .outage "down"] }
    [.connect, .begin "t" false, .rollback "t"]

/-- Leaves the scope of the transaction after a failure, and uses another one. -/
def aftermath : List Step :=
  [.within "t" [.commit "t", .raise "stop"], .begin "u" true, .commit "u", .close]

theorem withdrawn_stays_closed :
    ∃ t, withdrawn.transactions[0]? = some t ∧ t.status = .rolledBack ∧
      (withdrawn.after aftermath).transactions[0]? = some t ∧
      commit 0 (withdrawn.after aftermath) =
        (.error (.closed .commit "000000000001" .rolledBack), withdrawn.after aftermath) := by
  have ht : withdrawn.transactions[0]? =
      some ⟨"http://localhost:7474/db/data/transaction/1", false, .rolledBack⟩ := by decide +kernel
  obtain ⟨hafter, hop, -⟩ := closed_stays_closed ht nofun aftermath
  refine ⟨_, ht, rfl, hafter, ?_⟩
  exact hop .commit

end Session

end CypherLink

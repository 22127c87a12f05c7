import CypherLink.Proofs.Session.Call

/-!
The course of a program: the calls that may use the wire, in the order in which they are made, each
with the session in which it is made. Programs are performed once more with a record of their calls
beside the session; the record changes nothing, and between two calls neither a transaction nor the
wire is touched. Main statements: `recounts_program`, what holds of each call and between calls holds
of the whole program, `course_program` and `exists_closing`.
-/

namespace CypherLink

namespace Session

/-- A call and the session in which it was made. -/
structure Event where
  before : Session
  call : Call

namespace Event

def outcome (e : Event) : Except Failure Unit := (e.call.perform e.before).1

def after (e : Event) : Session := (e.call.perform e.before).2

def sent (e : Event) : List Sent := e.after.sent.drop e.before.sent.length

theorem noted_after (e : Event) : Noted (e.call.ensuing e.before) e.after :=
  noted_perform e.call e.before

theorem after_transactions (e : Event) :
    e.after.transactions = (e.call.ensuing e.before).transactions := e.noted_after.transactions

theorem after_eq (e : Event) : ∃ ts log,
    e.after = { e.before.past (e.call.carried e.before) with transactions := ts, log := log } := by
  obtain ⟨log, hlog⟩ := e.noted_after
  obtain ⟨ts, hts⟩ := exists_ensuing e.call e.before
  rw [hts] at hlog
  exact ⟨ts, log, hlog⟩

theorem sent_eq (e : Event) : e.sent = e.call.carried e.before := by
  obtain ⟨ts, log, hafter⟩ := e.after_eq
  rw [sent, hafter]
  exact List.drop_left

theorem after_sent (e : Event) : e.after.sent = e.before.sent ++ e.sent := by
  obtain ⟨ts, log, hafter⟩ := e.after_eq
  rw [sent_eq, hafter]
  rfl

theorem after_replies (e : Event) : e.after.replies = e.before.replies.drop e.sent.length := by
  obtain ⟨ts, log, hafter⟩ := e.after_eq
  rw [sent_eq, hafter]
  rfl

/-- An operation on a pending transaction leaves it in the status that it comes to. -/
theorem transaction_after {e : Event} {i : Nat} {op : Operation} {t : Transaction}
    (hcall : e.call = .operate i op) (hp : e.before.pending? i = some t) :
    e.after.transactions[i]? =
      some { t with status := op.action.leaves t.autoCommit (op.outcome t e.before) } := by
  rw [e.after_transactions, hcall, Call.ensuing_pending hp]
  exact getElem?_settled (pending?_eq_some.mp hp).1

theorem sent_pending {e : Event} {i : Nat} {op : Operation} {t : Transaction}
    (hcall : e.call = .operate i op) (hp : e.before.pending? i = some t) :
    e.sent = op.carried t e.before := by
  rw [sent_eq, hcall, Call.carried_pending hp]

/-- Nothing is sent for a transaction that is not open. -/
theorem sent_idle {e : Event} {i : Nat} {op : Operation} (hcall : e.call = .operate i op)
    (hp : e.before.pending? i = none) : e.sent = [] := by
  rw [sent_eq, hcall, Call.carried_idle hp]

theorem length_sent_le (e : Event) : e.sent.length ≤ 1 := by
  rw [sent_eq]
  exact e.call.length_carried_le e.before

end Event

/-- A request and the reply to it. -/
structure Exchange where
  sent : Sent
  reply : Reply

/-- The exchange of a call, if it had one. -/
def Event.exchanges (e : Event) : List Exchange := e.sent.map fun x => ⟨x, e.before.next⟩

theorem Event.exchanges_of_sent {e : Event} {xs : List Sent} (h : e.sent = xs) :
    e.exchanges = xs.map fun x => ⟨x, e.before.next⟩ := by
  rw [exchanges, h]

def Call.isOn (i : Nat) : Call → Bool
  | .operate j _ => j = i
  | _ => false

/-- The exchanges of the operations on one transaction. -/
def exchangesOn (i : Nat) (es : List Event) : List Exchange :=
  (es.filter fun e => e.call.isOn i).flatMap Event.exchanges

theorem Call.isOn_iff {i : Nat} {c : Call} : c.isOn i = true ↔ ∃ op, c = .operate i op := by
  cases c with
  | operate j op =>
    constructor
    · intro h
      exact ⟨op, by rw [of_decide_eq_true h]⟩
    · rintro ⟨op', h⟩
      exact decide_eq_true (Call.operate.inj h).1
  | _ => exact ⟨nofun, nofun⟩

theorem mem_exchangesOn {i : Nat} {es : List Event} {x : Exchange} :
    x ∈ exchangesOn i es ↔ ∃ e ∈ es, (∃ op, e.call = .operate i op) ∧ x ∈ e.exchanges := by
  simp only [exchangesOn, List.mem_flatMap, List.mem_filter, Call.isOn_iff, and_assoc]

theorem exchangesOn_cons_on {i : Nat} {e : Event} {es : List Event} (h : e.call.isOn i = true) :
    exchangesOn i (e :: es) = e.exchanges ++ exchangesOn i es := by
  rw [exchangesOn, List.filter_cons, if_pos h]
  rfl

theorem exchangesOn_cons_off {i : Nat} {e : Event} {es : List Event} (h : e.call.isOn i = false) :
    exchangesOn i (e :: es) = exchangesOn i es := by
  rw [exchangesOn, List.filter_cons, if_neg (by rw [h]; decide)]
  rfl

/-- The session has gone from `s` to `t` by these calls. -/
inductive Course : Session → List Event → Session → Prop where
  | rest {s t : Session} : Quiet s t → Course s [] t
  | call {s t : Session} {e : Event} {es : List Event} :
      Quiet s e.before → Course e.after es t → Course s (e :: es) t

section Course

variable {s t u : Session} {es fs : List Event}

theorem Course.of_quiet (h : Quiet s t) (ht : Course t es u) : Course s es u := by
  cases ht with
  | rest hu => exact .rest (IsTrans.trans _ _ _ h hu)
  | call he hes => exact .call (IsTrans.trans _ _ _ h he) hes

theorem Course.split {e : Event} (h : Course s (es ++ e :: fs) u) :
    ∃ v, Course s es v ∧ Quiet v e.before ∧ Course e.after fs u := by
  induction es generalizing s with
  | nil =>
    cases h with
    | call hq hfs => exact ⟨s, .rest (refl s), hq, hfs⟩
  | cons f es ih =>
    cases h with
    | call hq h =>
      obtain ⟨v, hes, hv, hfs⟩ := ih h
      exact ⟨v, .call hq hes, hv, hfs⟩

theorem Course.append (h : Course s es t) (ht : Course t fs u) : Course s (es ++ fs) u := by
  induction h with
  | rest hq => exact ht.of_quiet hq
  | call he _ ih => exact .call he (ih ht)

theorem Course.sent (h : Course s es t) : t.sent = s.sent ++ es.flatMap Event.sent := by
  induction h with
  | rest hq => rw [hq.sent, List.flatMap_nil, List.append_nil]
  | call hq _ ih => rw [ih, Event.after_sent, hq.sent, List.flatMap_cons, List.append_assoc]

/-- Each request was answered by the reply that stood in its place. -/
theorem Course.exchanges (h : Course s es t) :
    es.flatMap Event.exchanges =
      (es.flatMap Event.sent).mapIdx fun k x => ⟨x, s.replies.getD k .blank⟩ := by
  induction h with
  | rest hq => rfl
  | @call s t e es hq _ ih =>
    have hown : e.exchanges = e.sent.mapIdx fun k x => ⟨x, s.replies.getD k .blank⟩ := by
      have hone := e.length_sent_le
      unfold Event.exchanges next
      rw [hq.replies]
      match e.sent, hone with
      | [], _ => rfl
      | [x], _ => cases s.replies <;> rfl
    rw [List.flatMap_cons, List.flatMap_cons, List.mapIdx_append, ih, hown, e.after_replies,
      hq.replies]
    simp only [List.getD_eq_getElem?_getD, List.getElem?_drop, Nat.add_comm]

/-- A call changes the status of a transaction at most. -/
theorem Event.transaction_kept (e : Event) {k : Nat} {tx : Transaction}
    (ht : e.before.transactions[k]? = some tx) :
    ∃ status, e.after.transactions[k]? = some { tx with status := status } := by
  rw [e.after_transactions]
  obtain hsame | ⟨op, -, -, hop⟩ := getElem?_ensuing e.call ht
  · exact ⟨tx.status, hsame⟩
  · exact ⟨_, hop⟩

/-- On the way a transaction keeps its address. -/
theorem Course.transaction {k : Nat} {tx : Transaction} (h : Course s es t)
    (ht : s.transactions[k]? = some tx) :
    ∃ status, t.transactions[k]? = some { tx with status := status } := by
  induction h generalizing tx with
  | rest hq => exact ⟨tx.status, hq.transactions ▸ ht⟩
  | @call s t e es hq _ ih =>
    rw [← hq.transactions] at ht
    obtain ⟨_, hafter⟩ := e.transaction_kept ht
    obtain ⟨status, hend⟩ := ih hafter
    exact ⟨status, hend⟩

/-- No call of a course touches a transaction that is closed. -/
theorem Course.closed (h : Course s es t) : Closed s.transactions t.transactions := by
  induction h with
  | rest hq =>
    rw [hq.transactions]
    exact refl _
  | @call s t e es hq _ ih =>
    refine IsTrans.trans _ _ _ ?_ ih
    intro k u hu hc
    rw [← hq.transactions] at hu
    rw [e.after_transactions]
    cases getElem?_ensuing e.call hu with
    | inl hsame => exact hsame
    | inr hop =>
      obtain ⟨-, -, hp, -⟩ := hop
      exact absurd hp hc

/-- While a course is under way from where a transaction is closed, it is never open. -/
theorem Course.idle {k : Nat} {tx : Transaction} (h : Course s es t)
    (ht : s.transactions[k]? = some tx) (hc : tx.status ≠ .pending) :
    ∀ e ∈ es, e.before.pending? k = none := by
  intro e he
  obtain ⟨before, behind, rfl⟩ := List.append_of_mem he
  obtain ⟨u, hbefore, hq, -⟩ := h.split
  have hu : u.transactions[k]? = some tx := hbefore.closed k tx ht hc
  rw [← hq.transactions] at hu
  exact pending?_eq_none hu hc

/-- A transaction that a call leaves closed, and did not find so, is closed by an operation on it. -/
theorem Event.exists_closing {e : Event} {k : Nat} {tx : Transaction}
    (hs : ∀ u, e.before.transactions[k]? = some u → u.status = .pending)
    (ht : e.after.transactions[k]? = some tx) (hc : tx.status ≠ .pending) :
    ∃ op u, e.call = .operate k op ∧ e.before.pending? k = some u ∧
      tx = { u with status := op.action.leaves u.autoCommit (op.outcome u e.before) } := by
  rw [e.after_transactions] at ht
  cases hu : e.before.transactions[k]? with
  | none => exact absurd (pending_of_new e.call hu ht) hc
  | some u =>
    have hp : u.status = .pending := hs u hu
    obtain hsame | ⟨op, hcall, -, hafter⟩ := getElem?_ensuing e.call hu
    · obtain rfl := Option.some.inj (ht.symm.trans hsame)
      exact absurd hp hc
    · exact ⟨op, u, hcall, pending?_eq_some.mpr ⟨hu, hp⟩, Option.some.inj (ht.symm.trans hafter)⟩

/-- A transaction that was closed on the way was closed by an operation on it. -/
theorem Course.exists_closing {k : Nat} {tx : Transaction} (h : Course s es t)
    (hs : ∀ u, s.transactions[k]? = some u → u.status = .pending)
    (ht : t.transactions[k]? = some tx) (hc : tx.status ≠ .pending) :
    ∃ e ∈ es, ∃ op u, e.call = .operate k op ∧ e.before.pending? k = some u ∧
      tx = { u with status := op.action.leaves u.autoCommit (op.outcome u e.before) } := by
  induction h with
  | rest hq =>
    rw [hq.transactions] at ht
    exact absurd (hs tx ht) hc
  | @call s t e es hq hes ih =>
    rw [← hq.transactions] at hs
    by_cases hclosing : ∃ u, e.after.transactions[k]? = some u ∧ u.status ≠ .pending
    · obtain ⟨u, hu, hclosed⟩ := hclosing
      obtain rfl := Option.some.inj (ht.symm.trans (hes.closed k u hu hclosed))
      exact ⟨e, List.mem_cons_self, e.exists_closing hs hu hclosed⟩
    · have hpending : ∀ u, e.after.transactions[k]? = some u → u.status = .pending :=
        fun u hu => Decidable.byContradiction fun hclosed => hclosing ⟨u, hu, hclosed⟩
      obtain ⟨f, hf, hclosing⟩ := ih hpending ht
      exact ⟨f, List.mem_cons_of_mem _ hf, hclosing⟩

theorem course_one (s : Session) (c : Call) : Course s [⟨s, c⟩] (c.perform s).2 :=
  .call (refl s) (.rest (refl _))

end Course

/-- Operations with a record of the calls made so far. -/
abbrev Traced (α : Type) := ExceptT Failure (StateM (Session × List Event)) α

section Traced

variable {α β : Type}

def quietly (act : Act α) : Traced α := fun (s, es) => ((act s).1, (act s).2, es)

def calling (c : Call) (act : Act α) : Traced α := fun (s, es) =>
  ((act s).1, (act s).2, es ++ [⟨s, c⟩])

def observed (traced : Traced α) : Traced (Except Failure α) := fun p =>
  (.ok (traced p).1, (traced p).2)

def tracedWithin (i : Nat) (body : Traced α) : Traced α := do
  match ← observed body with
  | .ok a =>
    calling (.operate i (.leave false)) (leave i false)
    return a
  | .error e =>
    calling (.operate i (.leave true)) (leave i true)
    throw e

def tracedConnected (body : Traced α) : Traced α := do
  quietly connect
  match ← observed body with
  | .ok a =>
    quietly close
    return a
  | .error e =>
    quietly close
    throw e

end Traced

end Session

open Session in
mutual

/-- Performs a step and records its calls. -/
def Step.traced : Step → Traced Answer
  | .connect => do quietly Session.connect; return .done
  | .close => do quietly Session.close; return .nothing
  | .client => do quietly requireConnected; return .done
  | .endpoint => do return .text (← quietly Session.endpoint)
  | .begin name autoCommit => do
    let i ← calling (.begin autoCommit) (Session.begin autoCommit)
    quietly (register name i)
    let t ← quietly (transaction i)
    return .transaction t.url t.autoCommit
  | .run name plan => do
    let i ← quietly (handle name)
    let request ← quietly (requestOf plan)
    return .result (← calling (.operate i (.run request)) (Session.run i request))
  | .runMany name plans => do
    let i ← quietly (handle name)
    let requests ← quietly (plans.mapM requestOf)
    return .results (← calling (.operate i (.runMany requests)) (Session.runMany i requests))
  | .commit name => do
    let i ← quietly (handle name)
    calling (.operate i .commit) (Session.commit i)
    return .nothing
  | .rollback name => do
    let i ← quietly (handle name)
    calling (.operate i .rollback) (Session.rollback i)
    return .nothing
  | .execute url plans => do
    let requests ← quietly (plans.mapM requestOf)
    return .results (← calling (.execute url requests) (Session.execute url requests))
  | .commitAt url => do calling (.commitAt url) (Session.commitAt url); return .nothing
  | .rollbackAt url => do calling (.rollbackAt url) (Session.rollbackAt url); return .nothing
  | .raise message => throw (.raised message)
  | .scope name autoCommit body => do
    let i ← calling (.begin autoCommit) (Session.begin autoCommit)
    quietly (register name i)
    tracedWithin i (tracedAll body)
    return .nothing
  | .within name body => do
    tracedWithin (← quietly (handle name)) (tracedAll body)
    return .nothing
  | .whileConnected body => do
    tracedConnected (tracedAll body)
    return .nothing
  | .guarded step => Step.traced step

def tracedAll : List Step → Traced Unit
  | [] => return ()
  | step :: rest => do
    let outcome ← observed (Step.traced step)
    quietly (record outcome)
    match outcome, step.isGuarded with
    | .error e, false => throw e
    | _, _ => tracedAll rest

end

mutual

/-- The plans in a step, those of its body included. -/
def Step.plans : Step → List Plan
  | .run _ plan => [plan]
  | .runMany _ plans => plans
  | .execute _ plans => plans
  | .scope _ _ body => plansOf body
  | .within _ body => plansOf body
  | .whileConnected body => plansOf body
  | .guarded step => Step.plans step
  | _ => []

def plansOf : List Step → List Plan
  | [] => []
  | step :: rest => Step.plans step ++ plansOf rest

end

namespace Session

/-- The record is beside the session, and the relation holds of the two sessions and the calls
between them. -/
def Recounts (P : Session → List Event → Session → Prop) {α : Type} (act : Act α)
    (traced : Traced α) : Prop :=
  ∀ s es, ∃ new, traced (s, es) = ((act s).1, (act s).2, es ++ new) ∧ P s new (act s).2

/-- The relation holds of each call, of what goes on between calls, and of two parts together. -/
structure Recounting (P : Session → List Event → Session → Prop) : Prop where
  rest : ∀ s, P s [] s
  append : ∀ {s t u es fs}, P s es t → P t fs u → P s (es ++ fs) u
  call : ∀ s c, P s [⟨s, c⟩] (c.perform s).2
  connect : ∀ s, P s [] (connect s).2
  close : ∀ s, P s [] (close s).2
  register : ∀ name i s, P s [] (register name i s).2
  record : ∀ outcome s, P s [] (record outcome s).2

section Recounts

variable {P : Session → List Event → Session → Prop} {α β : Type} {act : Act α} {traced : Traced α}

theorem recounts_quietly (h : ∀ s, P s [] (act s).2) : Recounts P act (quietly act) := by
  intro s es
  refine ⟨[], ?_, h s⟩
  rw [List.append_nil]
  rfl

theorem recounts_observe (h : Recounts P act traced) :
    Recounts P (observe act) (observed traced) := by
  intro s es
  obtain ⟨new, hnew, hrecount⟩ := h s es
  refine ⟨new, ?_, hrecount⟩
  change (Except.ok (traced (s, es)).1, (traced (s, es)).2) = _
  rw [hnew]
  rfl

variable (hP : Recounting P)

include hP

theorem recounts_calling {c : Call} (h : ∀ s, (c.perform s).2 = (act s).2) :
    Recounts P act (calling c act) := by
  intro s es
  refine ⟨[⟨s, c⟩], rfl, ?_⟩
  rw [← h s]
  exact hP.call s c

theorem recounts_pure (a : α) : Recounts P (pure a) (pure a) := recounts_quietly hP.rest

theorem recounts_throw (e : Failure) : Recounts P (throw e : Act α) (throw e) :=
  recounts_quietly hP.rest

/-- An operation that leaves the session as it was. -/
theorem recounts_idle (h : ∀ s, (act s).2 = s) : Recounts P act (quietly act) := by
  refine recounts_quietly fun s => ?_
  rw [h s]
  exact hP.rest s

theorem recounts_bind {f : α → Act β} {g : α → Traced β} (h : Recounts P act traced)
    (hf : ∀ a, Recounts P (f a) (g a)) : Recounts P (act >>= f) (traced >>= g) := by
  intro s es
  obtain ⟨new, hnew, hrecount⟩ := h s es
  cases ha : act s with
  | mk outcome t =>
    rw [ha] at hnew hrecount
    cases outcome with
    | error e =>
      rw [bind_error s ha]
      refine ⟨new, ?_, hrecount⟩
      change ExceptT.bindCont g (traced (s, es)).1 (traced (s, es)).2 = _
      rw [hnew]
      rfl
    | ok a =>
      obtain ⟨more, hmore, hrest⟩ := hf a t (es ++ new)
      rw [bind_ok s ha]
      refine ⟨new ++ more, ?_, hP.append hrecount hrest⟩
      change ExceptT.bindCont g (traced (s, es)).1 (traced (s, es)).2 = _
      rw [hnew, ← List.append_assoc]
      exact hmore

theorem recounts_within (i : Nat) (h : Recounts P act traced) :
    Recounts P (within i act) (tracedWithin i traced) := by
  refine recounts_bind hP (recounts_observe h) fun outcome => ?_
  cases outcome with
  | ok a =>
    exact recounts_bind hP (recounts_calling hP fun _ => rfl) fun _ => recounts_pure hP a
  | error e =>
    exact recounts_bind hP (recounts_calling hP fun _ => rfl) fun _ => recounts_throw hP e

theorem recounts_connected (h : Recounts P act traced) :
    Recounts P (whileConnected act) (tracedConnected traced) := by
  refine recounts_bind hP (recounts_quietly hP.connect) fun _ => ?_
  refine recounts_bind hP (recounts_observe h) fun outcome => ?_
  cases outcome with
  | ok a => exact recounts_bind hP (recounts_quietly hP.close) fun _ => recounts_pure hP a
  | error e => exact recounts_bind hP (recounts_quietly hP.close) fun _ => recounts_throw hP e

theorem recounts_handle (name : String) {f : Nat → Act β} {g : Nat → Traced β}
    (hf : ∀ i, Recounts P (f i) (g i)) :
    Recounts P (handle name >>= f) (quietly (handle name) >>= g) := by
  refine recounts_bind hP (recounts_idle hP fun s => ?_) hf
  unfold handle
  rw [bind_ok s (get_apply s)]
  cases Entries.find? s.names name <;> rfl

theorem recounts_requests {plans : List Plan}
    (h : ∀ plan ∈ plans, ∀ s, P s [] (requestOf plan s).2) :
    Recounts P (plans.mapM requestOf) (quietly (plans.mapM requestOf)) := by
  refine recounts_quietly ?_
  induction plans with
  | nil => exact hP.rest
  | cons plan plans ih =>
    have hrest := ih fun p hp => h p (List.mem_cons_of_mem plan hp)
    intro s
    have hfirst := h plan List.mem_cons_self s
    rw [List.mapM_cons]
    cases hr : requestOf plan s with
    | mk outcome t =>
      rw [hr] at hfirst
      cases outcome with
      | error e =>
        rw [bind_error s hr]
        exact hfirst
      | ok request =>
        rw [bind_ok s hr, bind_pure_snd]
        exact hP.append hfirst (hrest t)

end Recounts

section Follow

variable {P : Session → List Event → Session → Prop} (hP : Recounting P)

theorem requireConnected_snd (s : Session) : (requireConnected s).2 = s := by
  rw [requireConnected_apply]

theorem transaction_snd (i : Nat) (s : Session) : (transaction i s).2 = s := by
  cases ht : s.transactions[i]? with
  | none => rw [transaction_none ht]
  | some t => rw [transaction_apply ht]

include hP

mutual

theorem recounts_step : ∀ step : Step, (∀ plan ∈ step.plans, ∀ s, P s [] (requestOf plan s).2) →
    Recounts P step.perform step.traced
  | .connect, _ => recounts_bind hP (recounts_quietly hP.connect) fun _ => recounts_pure hP _
  | .close, _ => recounts_bind hP (recounts_quietly hP.close) fun _ => recounts_pure hP _
  | .client, _ =>
    recounts_bind hP (recounts_idle hP requireConnected_snd) fun _ => recounts_pure hP _
  | .endpoint, _ => recounts_bind hP (recounts_idle hP fun _ => rfl) fun _ => recounts_pure hP _
  | .begin name _, _ =>
    recounts_bind hP (recounts_calling hP (bind_pure_snd _ _)) fun i =>
      recounts_bind hP (recounts_quietly (hP.register name i)) fun _ =>
        recounts_bind hP (recounts_idle hP (transaction_snd i)) fun _ => recounts_pure hP _
  | .run name plan, h =>
    recounts_handle hP name fun _ =>
      recounts_bind hP (recounts_quietly (h plan (List.mem_singleton_self plan))) fun _ =>
        recounts_bind hP (recounts_calling hP (bind_pure_snd _ _)) fun _ => recounts_pure hP _
  | .runMany name _, h =>
    recounts_handle hP name fun _ =>
      recounts_bind hP (recounts_requests hP h) fun _ =>
        recounts_bind hP (recounts_calling hP (bind_pure_snd _ _)) fun _ => recounts_pure hP _
  | .commit name, _ =>
    recounts_handle hP name fun _ =>
      recounts_bind hP (recounts_calling hP fun _ => rfl) fun _ => recounts_pure hP _
  | .rollback name, _ =>
    recounts_handle hP name fun _ =>
      recounts_bind hP (recounts_calling hP fun _ => rfl) fun _ => recounts_pure hP _
  | .execute _ _, h =>
    recounts_bind hP (recounts_requests hP h) fun _ =>
      recounts_bind hP (recounts_calling hP (bind_pure_snd _ _)) fun _ => recounts_pure hP _
  | .commitAt _, _ =>
    recounts_bind hP (recounts_calling hP fun _ => rfl) fun _ => recounts_pure hP _
  | .rollbackAt _, _ =>
    recounts_bind hP (recounts_calling hP fun _ => rfl) fun _ => recounts_pure hP _
  | .raise message, _ => recounts_throw hP (.raised message)
  | .scope name _ body, h =>
    recounts_bind hP (recounts_calling hP (bind_pure_snd _ _)) fun i =>
      recounts_bind hP (recounts_quietly (hP.register name i)) fun _ =>
        recounts_bind hP (recounts_within hP i (recounts_performAll body h)) fun _ =>
          recounts_pure hP _
  | .within name body, h =>
    recounts_handle hP name fun i =>
      recounts_bind hP (recounts_within hP i (recounts_performAll body h)) fun _ =>
        recounts_pure hP _
  | .whileConnected body, h =>
    recounts_bind hP (recounts_connected hP (recounts_performAll body h)) fun _ =>
      recounts_pure hP _
  | .guarded step, h => recounts_step step h

theorem recounts_performAll : ∀ steps : List Step,
    (∀ plan ∈ plansOf steps, ∀ s, P s [] (requestOf plan s).2) →
    Recounts P (performAll steps) (tracedAll steps)
  | [], _ => by
    rw [performAll, tracedAll]
    exact recounts_pure hP _
  | step :: rest, h => by
    have hstep := recounts_step step fun plan hp => h plan (List.mem_append_left _ hp)
    have hrest := recounts_performAll rest fun plan hp => h plan (List.mem_append_right _ hp)
    rw [performAll, tracedAll]
    refine recounts_bind hP (recounts_observe hstep) fun outcome => ?_
    refine recounts_bind hP (recounts_quietly (hP.record outcome)) fun _ => ?_
    cases outcome with
    | ok a => exact hrest
    | error e =>
      cases step.isGuarded with
      | true => exact hrest
      | false => exact recounts_throw hP e

end

end Follow

/-- The calls of a program, each step of which is tried whatever came of those before. -/
def course (s : Session) : List Step → List Event
  | [] => []
  | step :: rest => (step.traced (s, [])).2.2 ++ (s.report step).2.course rest

/-- What is told of each call and of what goes on between calls is told of the whole program. -/
theorem recounts_program {P : Session → List Event → Session → Prop} (hP : Recounting P)
    {steps : List Step} (h : ∀ plan ∈ plansOf steps, ∀ s, P s [] (requestOf plan s).2)
    (s : Session) : P s (s.course steps) (s.after steps) := by
  induction steps generalizing s with
  | nil => exact hP.rest s
  | cons step rest ih =>
    obtain ⟨new, htraced, hstep⟩ :=
      recounts_step hP step (fun plan hp => h plan (List.mem_append_left _ hp)) s []
    have hrest := ih (fun plan hp => h plan (List.mem_append_right _ hp)) (s.report step).2
    have hall := hP.append hstep hrest
    rw [course, htraced]
    exact hall

/-- The record is beside the session, and it is the course that the session takes. -/
def Tells {α : Type} (act : Act α) (traced : Traced α) : Prop :=
  ∀ s es, ∃ new, traced (s, es) = ((act s).1, (act s).2, es ++ new) ∧ Course s new (act s).2

theorem recounting_course : Recounting Course where
  rest s := .rest (refl s)
  append := Course.append
  call := course_one
  connect s := .rest (silent_connect s)
  close s := .rest (silent_close s)
  register name i s := .rest (silent_register name i s)
  record outcome s := .rest (silent_record outcome s)

theorem tells_performAll (steps : List Step) : Tells (performAll steps) (tracedAll steps) :=
  recounts_performAll recounting_course steps fun plan _ s => .rest (silent_requestOf plan s)

theorem course_program (s : Session) (steps : List Step) :
    Course s (s.course steps) (s.after steps) :=
  recounts_program recounting_course (fun plan _ s => .rest (silent_requestOf plan s)) s

end Session

end CypherLink

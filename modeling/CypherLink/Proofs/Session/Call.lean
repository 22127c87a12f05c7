import CypherLink.Proofs.Session.Operation

/-!
The calls that may use the wire, each with what it hands the client and what it leaves behind. Main
statement: `noted_perform`.
-/

namespace CypherLink

namespace Session

/-- The transaction of that number, if it is pending. -/
def pending? (s : Session) (i : Nat) : Option Transaction :=
  s.transactions[i]?.filter fun t => t.status = .pending

/-- Where the server says that the transaction is which it opened at that address. -/
def located (url : String) (r : Response) (v : Value) : Except Failure String := do
  (Reply.checkErrors v).mapError .ofReply
  match r.header? "Location" with
  | none | some "" => .error (.noLocation url)
  | some location => .ok location

/-- Where the transaction is that the server is asked to open. -/
def opening (s : Session) : Except Failure String := do
  let (r, v) ← s.valueOf (.posting s.settings.endpoint [])
  located s.settings.endpoint r v

/-- The session with one transaction more. -/
def adding (s : Session) (url : String) (autoCommit : Bool) : Session :=
  { s with transactions := s.transactions ++ [⟨url, autoCommit, .pending⟩] }

inductive Call where
  | begin (autoCommit : Bool)
  | operate (i : Nat) (op : Operation)
  | execute (url : String) (requests : List Request)
  | commitAt (url : String)
  | rollbackAt (url : String)

namespace Call

def perform : Call → Act Unit
  | .begin autoCommit => do let _ ← Session.begin autoCommit
  | .operate i op => op.perform i
  | .execute url requests => do let _ ← Session.execute url requests
  | .commitAt url => Session.commitAt url
  | .rollbackAt url => Session.rollbackAt url

/-- What the call hands the client, if anything. -/
def handed? (s : Session) : Call → Option Outgoing
  | .begin autoCommit => if autoCommit then none else some (.posting s.settings.endpoint [])
  | .operate i op => do
    let t ← s.pending? i
    match op.outgoing? t with
    | .ok o => o
    | .error _ => none
  | .execute url requests =>
    match requests.mapM Request.payload with
    | .ok payloads => some (.posting url payloads)
    | .error _ => none
  | .commitAt url => some (.committing url)
  | .rollbackAt url => some (.withdrawing url)

/-- What the call puts on the wire. -/
def carried (s : Session) (c : Call) : List Sent := (c.handed? s).elim [] s.carried

/-- The session after the call, but for the log. -/
def ensuing (s : Session) (c : Call) : Session :=
  match c with
  | .begin true => s.adding (s.settings.endpoint ++ "/commit") true
  | .begin false =>
    s.opening.toOption.elim (s.past (c.carried s)) fun url => (s.past (c.carried s)).adding url false
  | .operate i op => (s.pending? i).elim s fun t => op.ensuing i t s
  | c => s.past (c.carried s)

end Call

section Pending

variable {s : Session} {i : Nat} {t : Transaction}

theorem pending?_eq_some :
    s.pending? i = some t ↔ s.transactions[i]? = some t ∧ t.status = .pending := by
  rw [pending?, Option.filter_eq_some_iff, decide_eq_true_iff]

theorem pending?_eq_none (ht : s.transactions[i]? = some t) (hc : t.status ≠ .pending) :
    s.pending? i = none := by
  rw [pending?, ht]
  exact Option.filter_some_neg (decide_eq_false hc)

theorem closed_of_pending?_none (h : s.pending? i = none) (ht : s.transactions[i]? = some t) :
    t.status ≠ .pending := by
  intro hp
  have hsome := pending?_eq_some.mpr ⟨ht, hp⟩
  rw [h] at hsome
  exact nomatch hsome

end Pending

namespace Call

variable {s : Session} {i : Nat} {t : Transaction} {op : Operation} {url : String}
  {requests : List Request}

theorem ensuing_pending (h : s.pending? i = some t) :
    (Call.operate i op).ensuing s = op.ensuing i t s :=
  congrArg (fun o => Option.elim o s fun t => op.ensuing i t s) h

theorem ensuing_idle (h : s.pending? i = none) : (Call.operate i op).ensuing s = s :=
  congrArg (fun o => Option.elim o s fun t => op.ensuing i t s) h

theorem ensuing_execute : (Call.execute url requests).ensuing s =
    s.past ((Call.execute url requests).carried s) := rfl

theorem carried_pending (h : s.pending? i = some t) :
    (Call.operate i op).carried s = op.carried t s := by
  rw [carried, handed?, h, Option.bind_eq_bind, Option.bind_some, Operation.carried]
  cases op.outgoing? t with
  | error e => rfl
  | ok o => cases o <;> rfl

theorem carried_idle (h : s.pending? i = none) : (Call.operate i op).carried s = [] := by
  rw [carried, handed?, h]
  rfl

theorem carried_execute {payloads : List Payload}
    (h : requests.mapM Request.payload = .ok payloads) :
    (Call.execute url requests).carried s = s.carried (.posting url payloads) := by
  rw [carried, handed?, h]
  rfl

theorem carried_execute_unpayable {e : AccessError}
    (h : requests.mapM Request.payload = .error e) :
    (Call.execute url requests).carried s = [] := by
  rw [carried, handed?, h]
  rfl

end Call

section Calls

variable {s : Session}

theorem bind_pure_snd {α β : Type} (act : Act α) (f : α → β) (s : Session) :
    ((act >>= fun a => pure (f a)) s).2 = (act s).2 := by
  cases ha : act s with
  | mk outcome t =>
    cases outcome with
    | error e => exact congrArg Prod.snd (bind_error s ha fun a => pure (f a))
    | ok a => exact congrArg Prod.snd (bind_ok s ha fun a => pure (f a))

theorem Ends.noted_perform {α : Type} {act : Act α} {outcome : Except Failure α} {t : Session}
    (h : Ends act s outcome t) : Noted t (act s).2 := by
  obtain ⟨u, hu, ht⟩ := h
  rw [hu]
  exact ht

theorem perform_idle {i : Nat} (h : s.pending? i = none) (op : Operation) :
    (op.perform i s).2 = s := by
  have hclosed : ∀ t, s.transactions[i]? = some t → t.status ≠ .pending :=
    fun t => closed_of_pending?_none h
  have hrun : ∀ requests, (runMany i requests s).2 = s :=
    fun requests => idle_guarded hclosed .run _
  cases op with
  | run request =>
    have hone : (Session.run i request s).2 = s := (bind_pure_snd _ _ s).trans (hrun [request])
    exact (bind_pure_snd _ _ s).trans hone
  | runMany requests => exact (bind_pure_snd _ _ s).trans (hrun requests)
  | commit => exact idle_guarded hclosed .commit _
  | rollback => exact idle_guarded hclosed .rollback _
  | leave failed => exact idle_leave hclosed failed

theorem ends_endpoint : Ends endpoint s (.ok s.settings.endpoint) s := ends_of_eq rfl

theorem ends_addTransaction (url : String) (autoCommit : Bool) :
    Ends (addTransaction url autoCommit) s (.ok s.transactions.length) (s.adding url autoCommit) :=
  ends_of_eq rfl

theorem Noted.adding {t : Session} (h : Noted s t) (url : String) (autoCommit : Bool) :
    Noted (s.adding url autoCommit) (t.adding url autoCommit) := by
  obtain ⟨log, rfl⟩ := h
  exact ⟨log, rfl⟩

theorem ends_begin_auto : Ends (begin true) s (.ok s.transactions.length)
    (s.adding (s.settings.endpoint ++ "/commit") true) := ends_of_eq rfl

theorem ends_located {t : Session} (h : Noted s t) (url : String) (r : Response) (v : Value) :
    Ends (do
      ofExcept .ofReply (Reply.checkErrors v)
      match r.header? "Location" with
      | none | some "" => throw (.noLocation url)
      | some location =>
        note .debug .http ("Opened transaction " ++ location)
        addTransaction location false) t ((located url r v).map fun _ => s.transactions.length)
      ((located url r v).toOption.elim s fun location => s.adding location false) := by
  unfold located
  have hcheck := ends_of_eq (ofExcept_apply .ofReply (Reply.checkErrors v) (s := t))
  cases hv : (Reply.checkErrors v).mapError Failure.ofReply with
  | error e =>
    rw [hv] at hcheck
    exact hcheck.bind_error.noted h
  | ok u =>
    rw [hv] at hcheck
    refine hcheck.bind fun w hw => ?_
    have hw : Noted s w := IsTrans.trans _ _ _ h hw
    dsimp only [bind, Except.bind]
    split
    · exact (ends_throw _).noted hw
    · exact (ends_throw _).noted hw
    · next location _ _ =>
      refine (ends_note _ _ _).bind fun x hx => ?_
      have hx : Noted s x := IsTrans.trans _ _ _ hw hx
      have hadd := ends_addTransaction (s := x) location false
      rw [hx.transactions] at hadd
      exact hadd.noted (hx.adding location false)

theorem ends_begin_explicit :
    Ends (begin false) s (s.opening.map fun _ => s.transactions.length)
      (s.opening.toOption.elim (s.past (s.carried (.posting s.settings.endpoint []))) fun url =>
        (s.past (s.carried (.posting s.settings.endpoint []))).adding url false) := by
  unfold opening
  refine ends_endpoint.bind fun u hu => ?_
  have hsent := ends_sendForValue_noted hu (.posting s.settings.endpoint [])
  cases hv : s.valueOf (.posting s.settings.endpoint []) with
  | error e =>
    rw [hv] at hsent
    exact hsent.bind_error
  | ok found =>
    obtain ⟨r, v⟩ := found
    rw [hv] at hsent
    exact hsent.bind fun w hw => ends_located hw s.settings.endpoint r v

/-- A transaction that was begun is the last one, and open. -/
theorem begin_eq_ok {autoCommit : Bool} {i : Nat} {t : Session}
    (h : begin autoCommit s = (.ok i, t)) :
    i = s.transactions.length ∧
      ∃ url, t.transactions = s.transactions ++ [⟨url, autoCommit, .pending⟩] := by
  cases autoCommit with
  | true =>
    obtain ⟨hi, rfl⟩ := Prod.mk.inj h
    exact ⟨(Except.ok.inj hi).symm, _, rfl⟩
  | false =>
    obtain ⟨u, hu, hnoted⟩ := ends_begin_explicit (s := s)
    obtain ⟨hi, rfl⟩ := Prod.mk.inj (hu.symm.trans h)
    cases ho : s.opening with
    | error f =>
      rw [ho] at hi
      exact nomatch hi
    | ok url =>
      rw [ho] at hi hnoted
      exact ⟨(Except.ok.inj hi).symm, url, hnoted.transactions⟩

theorem noted_begin (autoCommit : Bool) :
    Noted ((Call.begin autoCommit).ensuing s) (begin autoCommit s).2 := by
  cases autoCommit with
  | true => exact ends_begin_auto.noted_perform
  | false => exact ends_begin_explicit.noted_perform

theorem noted_operate (i : Nat) (op : Operation) :
    Noted ((Call.operate i op).ensuing s) (op.perform i s).2 := by
  cases hp : s.pending? i with
  | none =>
    rw [Call.ensuing_idle hp, perform_idle hp]
    exact refl s
  | some t =>
    obtain ⟨ht, hpending⟩ := pending?_eq_some.mp hp
    rw [Call.ensuing_pending hp]
    exact (ends_perform ht hpending op).noted_perform

theorem noted_execute (url : String) (requests : List Request) :
    Noted ((Call.execute url requests).ensuing s) (execute url requests s).2 := by
  rw [Call.ensuing_execute]
  cases hr : requests.mapM Request.payload with
  | error e =>
    rw [Call.carried_execute_unpayable hr, execute_unpayable hr, past_nil]
    exact refl s
  | ok payloads =>
    rw [Call.carried_execute hr]
    exact (ends_execute (refl s) url hr).noted_perform

theorem noted_perform (c : Call) (s : Session) : Noted (c.ensuing s) (c.perform s).2 := by
  cases c with
  | begin autoCommit =>
    rw [Call.perform, bind_pure_snd]
    exact noted_begin autoCommit
  | operate i op => exact noted_operate i op
  | execute url requests =>
    rw [Call.perform, bind_pure_snd]
    exact noted_execute url requests
  | commitAt url => exact (ends_commitAt url).noted_perform
  | rollbackAt url => exact (ends_rollbackAt url).noted_perform

/-- A call takes one reply for each request, and does nothing else but to the transactions. -/
theorem exists_ensuing (c : Call) (s : Session) :
    ∃ ts, c.ensuing s = { s.past (c.carried s) with transactions := ts } := by
  cases c with
  | begin autoCommit =>
    cases autoCommit with
    | true => exact ⟨_, congrArg (fun u : Session => u.adding _ true) (past_nil s).symm⟩
    | false =>
      have hadd : ∀ o : Option String, ∃ ts,
          (o.elim (s.past ((Call.begin false).carried s)) fun url =>
            (s.past ((Call.begin false).carried s)).adding url false) =
          { s.past ((Call.begin false).carried s) with transactions := ts } := by
        intro o
        cases o <;> exact ⟨_, rfl⟩
      exact hadd _
  | operate i op =>
    cases hp : s.pending? i with
    | none =>
      rw [Call.ensuing_idle hp, Call.carried_idle hp, past_nil]
      exact ⟨_, rfl⟩
    | some t =>
      rw [Call.ensuing_pending hp, Call.carried_pending hp]
      exact ⟨_, rfl⟩
  | execute url requests => exact ⟨_, rfl⟩
  | commitAt url => exact ⟨_, rfl⟩
  | rollbackAt url => exact ⟨_, rfl⟩

theorem length_carried_le (s : Session) (o : Outgoing) : (s.carried o).length ≤ 1 := by
  unfold carried
  split
  · exact Nat.le_refl 1
  · exact Nat.zero_le 1

theorem Call.length_carried_le (c : Call) (s : Session) : (c.carried s).length ≤ 1 := by
  unfold Call.carried
  cases c.handed? s with
  | none => exact Nat.zero_le 1
  | some o => exact Session.length_carried_le s o

/-- What a call does to a transaction: only an operation on it changes it, and only while it is
pending, and then the status alone. -/
theorem getElem?_ensuing {k : Nat} {t : Transaction} (c : Call) (ht : s.transactions[k]? = some t) :
    (c.ensuing s).transactions[k]? = some t ∨
      ∃ op, c = .operate k op ∧ t.status = .pending ∧ (c.ensuing s).transactions[k]? =
        some { t with status := op.action.leaves t.autoCommit (op.outcome t s) } := by
  have hk : k < s.transactions.length := (List.getElem?_eq_some_iff.mp ht).1
  have hadd : ∀ ts : List Transaction, (s.transactions ++ ts)[k]? = some t :=
    fun ts => (List.getElem?_append_left hk).trans ht
  cases c with
  | begin autoCommit =>
    left
    cases autoCommit with
    | true => exact hadd _
    | false =>
      unfold Call.ensuing
      cases s.opening.toOption with
      | none => exact ht
      | some url => exact hadd _
  | operate i op =>
    cases hp : s.pending? i with
    | none =>
      left
      rw [Call.ensuing_idle hp]
      exact ht
    | some u =>
      rw [Call.ensuing_pending hp]
      obtain ⟨hu, hpending⟩ := pending?_eq_some.mp hp
      by_cases hi : i = k
      · subst hi
        obtain rfl := Option.some.inj (ht.symm.trans hu)
        exact .inr ⟨op, rfl, hpending, getElem?_settled hu⟩
      · left
        exact (List.getElem?_modify_ne _ _ hi).trans ht
  | execute url requests => exact .inl ht
  | commitAt url => exact .inl ht
  | rollbackAt url => exact .inl ht

/-- A transaction that was not there is pending. -/
theorem pending_of_new {k : Nat} {t : Transaction} (c : Call) (hs : s.transactions[k]? = none)
    (ht : (c.ensuing s).transactions[k]? = some t) : t.status = .pending := by
  have hadd : ∀ u : Transaction, (s.transactions ++ [u])[k]? = some t → t = u := by
    intro u hu
    rw [List.getElem?_append_right (List.getElem?_eq_none_iff.mp hs)] at hu
    exact (List.mem_singleton.mp (List.mem_of_getElem? hu))
  have hsame : s.transactions[k]? ≠ some t := by
    rw [hs]
    exact nofun
  cases c with
  | begin autoCommit =>
    cases autoCommit with
    | true => exact hadd _ ht ▸ rfl
    | false =>
      unfold Call.ensuing at ht
      cases ho : s.opening.toOption with
      | none =>
        rw [ho] at ht
        exact absurd ht hsame
      | some url =>
        rw [ho] at ht
        exact hadd _ ht ▸ rfl
  | operate i op =>
    cases hp : s.pending? i with
    | none =>
      rw [Call.ensuing_idle hp] at ht
      exact absurd ht hsame
    | some u =>
      rw [Call.ensuing_pending hp] at ht
      have hi : i ≠ k := by
        rintro rfl
        rw [(pending?_eq_some.mp hp).1] at hs
        exact nomatch hs
      have hother : (op.ensuing i u s).transactions[k]? = s.transactions[k]? :=
        List.getElem?_modify_ne _ _ hi
      exact absurd (hother.symm.trans ht) hsame
  | execute url requests => exact absurd ht hsame
  | commitAt url => exact absurd ht hsame
  | rollbackAt url => exact absurd ht hsame

end Calls

end Session

end CypherLink

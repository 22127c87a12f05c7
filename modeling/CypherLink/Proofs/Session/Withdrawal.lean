import CypherLink.Proofs.Session.Standing

/-!
Faults in the statements. The server has then rolled the transaction back; a run takes notice of it
and a commit does not. Main statement: `rolledBack_iff_run_of_statements`.
-/

namespace CypherLink

namespace Session

section Statements

variable {s u : Session} {i : Nat} {t : Transaction} {op : Operation} {f : Failure}

/-- No operation on the transaction ever sends a request again. -/
def Silenced (s : Session) (i : Nat) : Prop :=
  ∀ steps op, (Operation.perform i op (s.after steps)).2.sent = (s.after steps).sent

theorem silenced_of_closed (ht : s.transactions[i]? = some t) (hc : t.status ≠ .pending) :
    s.Silenced i := by
  intro steps op
  have hafter : (s.after steps).transactions[i]? = some t := closed_after s steps i t ht hc
  rw [perform_closed hafter hc]

/-- What is sent once can be sent again. -/
theorem not_silenced_of_commit {x : Sent} (ht : s.transactions[i]? = some t)
    (hp : t.status = .pending) (hauto : t.autoCommit = false)
    (hx : s.carried (.committing t.url) = [x]) : ¬s.Silenced i := by
  intro hsilent
  have hsent := (ends_perform ht hp .commit).noted_perform.sent
  have hcarried : Operation.carried .commit t s = [x] := by
    rw [Operation.carried, Operation.outgoing?, hauto]
    exact hx
  have hsame : (Operation.perform i .commit s).2.sent = s.sent := hsilent [] .commit
  rw [hsame] at hsent
  have hlonger : s.sent = s.sent ++ Operation.carried .commit t s := hsent
  rw [hcarried] at hlonger
  exact List.cons_ne_nil x [] (List.append_right_eq_self.mp hlonger.symm)

theorem outcome_eq_error (ht : s.transactions[i]? = some t) (hp : t.status = .pending)
    (h : op.perform i s = (.error f, u)) :
    op.outcome t s = .error f ∧ Noted (op.ensuing i t s) u := by
  obtain ⟨v, hv, hnoted⟩ := ends_perform ht hp op
  obtain ⟨houtcome, rfl⟩ := Prod.mk.inj (hv.symm.trans h)
  exact ⟨houtcome, hnoted⟩

theorem Operation.outgoing?_eq_error {e : Failure} (h : op.outgoing? t = .error e) :
    ∃ cause, e = .access cause := by
  unfold Operation.outgoing? at h
  split at h
  · obtain h | ⟨payloads, -, h⟩ := Outcome.bind_eq_error.mp h
    · obtain ⟨cause, -, rfl⟩ := Outcome.mapError_eq_error.mp h
      exact ⟨cause, rfl⟩
    · exact nomatch h
  all_goals exact nomatch h

/-- Faults in the statements were reported by the server, to a run or to a commit. -/
theorem asked_of_statements (h : op.outcome t s = .error f) (hf : f.isStatements = true) :
    ∃ o x, op.outgoing? t = .ok (some o) ∧ s.carried o = [x] ∧ op.action ≠ .rollback := by
  unfold Operation.outcome at h
  split at h
  · next e he =>
    obtain ⟨cause, rfl⟩ := Operation.outgoing?_eq_error he
    rw [← Except.error.inj h] at hf
    exact nomatch hf
  · exact nomatch h
  · next o ho =>
    obtain ⟨haction, x, hx, -⟩ := Action.answered_eq_statements h hf
    exact ⟨o, x, ho, hx, haction⟩

theorem Noted.status (h : Noted s u) (ht : s.transactions[i]? = some t) :
    u.transactions[i]? = some t := by
  rw [h.transactions]
  exact ht

/-- When the server reports faults in the statements, it has rolled the transaction back. The
transaction is closed then, and sends nothing any more, exactly if they were reported to a run; after
a commit it stays open and can be committed again. -/
theorem rolledBack_iff_run_of_statements (ht : s.transactions[i]? = some t)
    (hp : t.status = .pending) (h : op.perform i s = (.error f, u)) (hf : f.isStatements = true) :
    (u.transactions[i]?.map Transaction.status = some .rolledBack ↔ op.action = .run) ∧
      (u.Silenced i ↔ op.action = .run) := by
  obtain ⟨houtcome, hnoted⟩ := outcome_eq_error ht hp h
  obtain ⟨o, x, ho, hx, hrollback⟩ := asked_of_statements houtcome hf
  have hstatus : (op.ensuing i t s).transactions[i]? =
      some { t with status := op.action.leaves t.autoCommit (.error f) } := by
    rw [Operation.ensuing, houtcome]
    exact getElem?_settled ht
  have hu := hnoted.status hstatus
  have hrolled : TransactionStatus.rolledBack ≠ .pending := by decide
  have hpending : TransactionStatus.pending ≠ .rolledBack := by decide
  cases haction : op.action with
  | run =>
    have hleaves : Action.leaves .run t.autoCommit (.error f) = .rolledBack := by
      rw [Action.leaves, if_pos hf]
    rw [haction, hleaves] at hu
    refine ⟨?_, ?_⟩
    · rw [hu]
      exact iff_of_true rfl rfl
    · exact iff_of_true (silenced_of_closed hu hrolled) rfl
  | commit =>
    have hleaves : Action.leaves .commit t.autoCommit (.error f) = .pending := rfl
    rw [haction, hleaves] at hu
    have hauto : t.autoCommit = false ∧ o = .committing t.url := by
      rw [Operation.outgoing?, haction] at ho
      cases ha : t.autoCommit with
      | true =>
        rw [ha] at ho
        cases ho
      | false =>
        rw [ha] at ho
        exact ⟨rfl, (Option.some.inj (Except.ok.inj ho)).symm⟩
    obtain ⟨hauto, rfl⟩ := hauto
    have hcarried : u.carried (.committing t.url) = [x] := by
      rw [hnoted.carried]
      exact hx
    refine ⟨?_, ?_⟩
    · rw [hu]
      exact iff_of_false (fun h => hpending (Option.some.inj h)) (by decide)
    · exact iff_of_false (not_silenced_of_commit hu rfl hauto hcarried) (by decide)
  | rollback => exact absurd haction hrollback

end Statements

/-- A transaction of the server, open, with a reply to come that reports a fault. -/
def faulted : Session :=
  let opened : Reply := .response ⟨201, [("Location", "http://localhost:7474/db/data/transaction/1")],
    "\x7b\"results\": [], \"errors\": []\x7d".toUTF8.toList⟩
  let faults : Reply := .response ⟨200, [],
    "\x7b\"errors\": [\x7b\"code\": \"Neo.ClientError\", \"message\": \"no\"\x7d]\x7d".toUTF8.toList⟩
  after { settings := .defaults, replies := [opened, faults] } [.connect, .begin "t" false]

theorem faulted_commit_stays_open :
    ∃ f u, Operation.perform 0 .commit faulted = (.error f, u) ∧ f.isStatements = true ∧
      u.transactions[0]?.map Transaction.status ≠ some .rolledBack ∧ ¬u.Silenced 0 := by
  have ht : faulted.transactions[0]? =
      some ⟨"http://localhost:7474/db/data/transaction/1", false, .pending⟩ := by decide +kernel
  have hfails : (match (Operation.perform 0 .commit faulted).1 with
      | .error f => f.isStatements
      | .ok _ => false) = true := by decide +kernel
  cases hperform : Operation.perform 0 .commit faulted with
  | mk outcome u =>
    rw [hperform] at hfails
    cases outcome with
    | ok _ => exact nomatch hfails
    | error f =>
      have hf : f.isStatements = true := hfails
      obtain ⟨hstatus, hsilenced⟩ := rolledBack_iff_run_of_statements ht rfl hperform hf
      refine ⟨f, u, rfl, hf, ?_, ?_⟩
      · intro h
        exact nomatch hstatus.mp h
      · intro h
        exact nomatch hsilenced.mp h

end Session

end CypherLink

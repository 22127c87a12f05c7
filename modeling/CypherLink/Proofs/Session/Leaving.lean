import CypherLink.Proofs.Session.Once
import CypherLink.Proofs.Session.Uniform

/-!
Leaving the scope of a transaction. A body has ended, with or without a failure; if it left its
transaction open, one call commits it or rolls it back. A failure of that call takes the place of the
body's. Main statements: `settles_leaving`, `scope_settles_once` and `error_leaves_scope_iff`.
-/

namespace CypherLink

namespace Session

/-- The step has entered the scope of that transaction, in the session `s'`, with that body to
perform. -/
inductive Enters (s : Session) : Step → Nat → Session → List Step → Prop where
  | opened {name : String} {autoCommit : Bool} {body : List Step} {i : Nat} {s' : Session} :
      begin autoCommit s = (.ok i, s') →
      Enters s (.scope name autoCommit body) i (register name i s').2 body
  | named {name : String} {body : List Step} {i : Nat} {t : Transaction} :
      Entries.find? s.names name = some i → s.transactions[i]? = some t →
      Enters s (.within name body) i s body

/-- The call that leaves the scope after a body which ended so. -/
def leaving (u : Session) (i : Nat) (outcome : Except Failure Unit) : Event :=
  ⟨u, .operate i (.leave (!outcome.isOk))⟩

/-- How a scope ends: with the failure of the call that leaves it, or else as its body did. -/
def ending (exit outcome : Except Failure Unit) : Except Failure Answer :=
  match exit, outcome with
  | .error f, _ => .error f
  | .ok (), .error f => .error f
  | .ok (), .ok () => .ok .nothing

/-- What the call that leaves a scope does to its transaction, and to it alone. -/
structure Settles (e : Event) (i : Nat) (t : Transaction) (outcome : Except Failure Unit) :
    Prop where
  closed : t.status ≠ .pending → e.after = e.before ∧ e.outcome = .ok ()
  alone : t.status = .pending → t.autoCommit = true → e.sent = [] ∧ e.outcome = .ok ()
  offline : t.status = .pending → t.autoCommit = false → e.before.connected = false →
    e.sent = [] ∧ e.outcome = .error .notConnected
  commits : t.status = .pending → t.autoCommit = false → e.before.connected = true →
    outcome.isOk = true → e.Hands .post (commitUrl t.url) (some (batch []))
  withdraws : t.status = .pending → t.autoCommit = false → e.before.connected = true →
    outcome.isOk = false → e.Hands .delete t.url none
  status : t.status = .pending → e.after.transactions[i]? = some
    { t with status :=
        if e.outcome.isOk then if outcome.isOk then .committed else .rolledBack else .pending }
  wire : e.after.sent = e.before.sent ++ e.sent
  beside : ∀ k, k ≠ i → e.after.transactions[k]? = e.before.transactions[k]?

section Leaving

variable {s s' u : Session} {i : Nat} {t : Transaction} {outcome : Except Failure Unit}

theorem leaves_leave (failed : Bool) (autoCommit : Bool) (exit : Except Failure Unit) :
    (Operation.leave failed).action.leaves autoCommit exit =
      if exit.isOk then if !failed then .committed else .rolledBack else .pending := by
  cases failed <;> cases exit <;> rfl

theorem leaving_closed (ht : u.transactions[i]? = some t) (hc : t.status ≠ .pending) :
    (leaving u i outcome).after = u ∧ (leaving u i outcome).outcome = .ok () := by
  have hleave := leave_closed ht hc (!outcome.isOk)
  have hafter : (leaving u i outcome).after = (leave i (!outcome.isOk) u).2 := rfl
  have houtcome : (leaving u i outcome).outcome = (leave i (!outcome.isOk) u).1 := rfl
  rw [hafter, houtcome, hleave]
  exact ⟨rfl, rfl⟩

theorem leaving_alone (hp : u.pending? i = some t) (hauto : t.autoCommit = true) :
    (leaving u i outcome).outcome = .ok () := by
  have hout : (leaving u i outcome).outcome = Operation.outcome _ t u :=
    Event.outcome_pending rfl hp
  rw [hout, Operation.outcome, outgoing?_leave, hauto]
  rfl

theorem leaving_asked (hp : u.pending? i = some t) (hauto : t.autoCommit = false) :
    (leaving u i outcome).outcome = (Operation.leave (!outcome.isOk)).action.answered u
      (if !outcome.isOk then .withdrawing t.url else .committing t.url) := by
  have hout : (leaving u i outcome).outcome = Operation.outcome _ t u :=
    Event.outcome_pending rfl hp
  rw [hout, Operation.outcome, outgoing?_leave, hauto]
  rfl

theorem settles_leaving (ht : u.transactions[i]? = some t) (outcome : Except Failure Unit) :
    Settles (leaving u i outcome) i t outcome := by
  have hcall : (leaving u i outcome).call = .operate i (.leave (!outcome.isOk)) := rfl
  have hpending : t.status = .pending → u.pending? i = some t :=
    fun hp => pending?_eq_some.mpr ⟨ht, hp⟩
  constructor
  · intro hc
    exact leaving_closed ht hc
  · intro hp hauto
    refine ⟨?_, leaving_alone (hpending hp) hauto⟩
    apply Event.sent_of_closing hcall (hpending hp) _ hauto
    cases outcome <;> nofun
  · intro hp hauto hc
    refine ⟨Event.sent_of_disconnected hcall hc, ?_⟩
    rw [leaving_asked (hpending hp) hauto]
    apply Action.answered_of_verdict_error
    have hc : u.connected = false := hc
    rw [verdict, hc]
    rfl
  · intro hp hauto hc hok
    rw [hok] at hcall
    exact Event.hands_commit hcall (hpending hp) hc rfl hauto
  · intro hp hauto hc hok
    rw [hok] at hcall
    exact Event.hands_rollback hcall (hpending hp) hc rfl hauto
  · intro hp
    have hout : (leaving u i outcome).outcome = Operation.outcome _ t u :=
      Event.outcome_pending hcall (hpending hp)
    have hafter := Event.transaction_after hcall (hpending hp)
    rw [leaves_leave, Bool.not_not] at hafter
    rw [hout]
    exact hafter
  · exact Event.after_sent _
  · intro k hk
    exact beside_perform i (.leave (!outcome.isOk)) u k hk

theorem within_apply {act : Act Unit} (hact : act s = (outcome, u)) :
    (do within i act; return .nothing : Act Answer) s =
      (ending (leaving u i outcome).outcome outcome, (leaving u i outcome).after) := by
  have hobserve : observe act s = (.ok outcome, u) := by
    change (Except.ok (act s).1, (act s).2) = _
    rw [hact]
  have hleave : ∀ failed : Bool, ∃ exit v, leave i failed u = (exit, v) := fun _ => ⟨_, _, rfl⟩
  cases outcome with
  | ok a =>
    obtain ⟨exit, v, hleave⟩ := hleave false
    have hexit : (leaving u i (.ok a)).outcome = (leave i false u).1 := rfl
    have hafter : (leaving u i (.ok a)).after = (leave i false u).2 := rfl
    have hwithin : within i act s = (do leave i false; return a : Act Unit) u := bind_ok s hobserve _
    rw [hexit, hafter, hleave]
    cases exit with
    | ok x => exact bind_ok s (hwithin.trans (bind_ok u hleave _)) _
    | error g => exact bind_error s (hwithin.trans (bind_error u hleave _)) _
  | error f =>
    obtain ⟨exit, v, hleave⟩ := hleave true
    have hexit : (leaving u i (.error f)).outcome = (leave i true u).1 := rfl
    have hafter : (leaving u i (.error f)).after = (leave i true u).2 := rfl
    have hwithin : within i act s = (do leave i true; throw f : Act Unit) u := bind_ok s hobserve _
    rw [hexit, hafter, hleave]
    cases exit with
    | ok x => exact bind_error s (hwithin.trans (bind_ok u hleave _)) _
    | error g => exact bind_error s (hwithin.trans (bind_error u hleave _)) _

variable {step : Step} {body : List Step}

theorem Enters.perform (h : s.Enters step i s' body) (hbody : performAll body s' = (outcome, u)) :
    step.perform s = (ending (leaving u i outcome).outcome outcome, (leaving u i outcome).after) := by
  cases h with
  | @opened name _ _ _ s₀ hbegin =>
    have hregister : register name i s₀ = (.ok (), (register name i s₀).2) := rfl
    rw [Step.perform, bind_ok s hbegin, bind_ok s₀ hregister]
    exact within_apply hbody
  | @named name _ _ _ hname _ =>
    have hhandle : handle name s = (.ok i, s) := by
      unfold handle
      rw [bind_ok s (get_apply s), hname]
      rfl
    rw [Step.perform, bind_ok s hhandle]
    exact within_apply hbody

theorem Enters.exists_transaction (h : s.Enters step i s' body) :
    ∃ t, s'.transactions[i]? = some t := by
  cases h with
  | @named _ _ _ t _ ht => exact ⟨t, ht⟩
  | @opened _ autoCommit _ _ s₀ hbegin =>
    obtain ⟨rfl, url, hs⟩ := begin_eq_ok hbegin
    refine ⟨⟨url, autoCommit, .pending⟩, ?_⟩
    change s₀.transactions[_]? = _
    rw [hs]
    exact List.getElem?_concat_length

/-- A body may change the status of the transaction whose scope it is in, and nothing else of it. -/
theorem Enters.transaction_kept (h : s.Enters step i s' body)
    (hbody : performAll body s' = (outcome, u)) :
    ∃ tx status, s'.transactions[i]? = some tx ∧
      u.transactions[i]? = some { tx with status := status } := by
  obtain ⟨tx, htx⟩ := h.exists_transaction
  obtain ⟨es, -, hcourse⟩ := tells_performAll body s' []
  rw [hbody] at hcourse
  obtain ⟨status, hend⟩ := hcourse.transaction htx
  exact ⟨tx, status, htx, hend⟩

/-- The server is asked to roll the transaction back, and answers below status 300. -/
def Withdrawn (u : Session) (t : Transaction) : Prop :=
  u.connected = true ∧ ∃ target text, (Outgoing.withdrawing t.url).ready = .ok (target, text) ∧
    target.isAbsolute = true ∧ u.next.accepts = true

theorem verdict_isOk_iff {o : Outgoing} : (∃ x, s.verdict o = .ok x) ↔
    s.connected = true ∧ ∃ target text, o.ready = .ok (target, text) ∧ target.isAbsolute = true ∧
      s.next.accepts = true := by
  constructor
  · rintro ⟨⟨target, r⟩, hverdict⟩
    obtain ⟨hc, text, hready, hr⟩ := verdict_eq_ok hverdict
    obtain ⟨hnext, hstatus⟩ := Outgoing.response_of_judged hr
    have habsolute := (isAbsolute_of_verdict hverdict).2
    exact ⟨hc, target, text, hready, habsolute, Reply.accepts_of_response hnext hstatus⟩
  · rintro ⟨hc, target, text, hready, habsolute, haccepts⟩
    cases hn : s.next with
    | response r =>
      rw [hn] at haccepts
      have hjudged : o.judged target s.next = .ok r := by
        rw [hn, Outgoing.judged_response (of_decide_eq_true haccepts), if_pos habsolute]
      refine ⟨(target, r), ?_⟩
      simp only [verdict, hc, hready, hjudged, if_true, bind, Except.bind, pure, Except.pure]
    | _ =>
      rw [hn] at haccepts
      cases haccepts

theorem leaving_failed (ht : u.transactions[i]? = some t) (f : Failure) :
    (leaving u i (.error f)).outcome =
      if t.status = .pending ∧ t.autoCommit = false then
        (u.verdict (.withdrawing t.url)).map fun _ => ()
      else .ok () := by
  by_cases hp : t.status = .pending
  · have hpending : u.pending? i = some t := pending?_eq_some.mpr ⟨ht, hp⟩
    cases hauto : t.autoCommit with
    | true =>
      rw [leaving_alone hpending hauto]
      simp
    | false =>
      have hask : t.status = .pending ∧ false = false := ⟨hp, rfl⟩
      rw [leaving_asked hpending hauto]
      exact (if_pos hask).symm
  · rw [(leaving_closed ht hp).2]
    simp [hp]

theorem ending_eq_ok {exit : Except Failure Unit} {a : Answer}
    (h : ending exit outcome = .ok a) : exit = .ok () ∧ outcome = .ok () := by
  cases exit with
  | error f => cases h
  | ok x =>
    cases outcome with
    | error f => cases h
    | ok y => exact ⟨rfl, rfl⟩

theorem ending_error_iff {exit : Except Failure Unit} {f : Failure} :
    ending exit (.error f) = .error f ↔ exit = .ok () ∨ exit = .error f := by
  cases exit with
  | ok x => simp [ending]
  | error g => simp [ending]

end Leaving

/-- The scope of a transaction settles it once, whatever its body does, however the body ends and
whatever the replies are. After the body there is one call more, which does nothing if the body has
closed the transaction, and else hands the client one request to end it, or none if the transaction
commits by itself; if that call fails so does the scope, and the transaction is open only then. A
scope that ends well leaves it committed, unless the body had rolled it back. -/
theorem scope_settles_once {s s' : Session} {step : Step} {i : Nat} {body : List Step}
    (h : s.Enters step i s' body) :
    ∃ outcome u tx t, performAll body s' = (outcome, u) ∧ s'.transactions[i]? = some tx ∧
      u.transactions[i]? = some t ∧ t.url = tx.url ∧ t.autoCommit = tx.autoCommit ∧
      Settles (leaving u i outcome) i t outcome ∧
      step.perform s = (ending (leaving u i outcome).outcome outcome, (leaving u i outcome).after) ∧
      ∀ a, (step.perform s).1 = .ok a → ∃ t', (step.perform s).2.transactions[i]? = some t' ∧
        (t'.status = .committed ∨ t.status = .rolledBack ∧ t' = t) := by
  obtain ⟨outcome, u, hbody⟩ : ∃ outcome u, performAll body s' = (outcome, u) := ⟨_, _, rfl⟩
  obtain ⟨tx, status, htx, ht⟩ := h.transaction_kept hbody
  have hsettles := settles_leaving ht outcome
  have hperform := h.perform hbody
  refine ⟨outcome, u, tx, _, hbody, htx, ht, rfl, rfl, hsettles, hperform, fun a ha => ?_⟩
  rw [hperform] at ha ⊢
  obtain ⟨hleft, rfl⟩ := ending_eq_ok ha
  by_cases hp : status = .pending
  · have hstatus := hsettles.status hp
    rw [hleft] at hstatus
    exact ⟨_, hstatus, .inl rfl⟩
  · obtain ⟨hafter, -⟩ := hsettles.closed hp
    have hkept : (leaving u i (.ok ())).after.transactions[i]? = some { tx with status := status } := by
      rw [hafter]
      exact ht
    refine ⟨_, hkept, ?_⟩
    cases status with
    | pending => exact absurd rfl hp
    | committed => exact .inl rfl
    | rolledBack => exact .inr ⟨rfl, rfl⟩

/-- A transaction of the server, open, whose next request does not reach the server. -/
def unreachable : Session := replying (.fault "ConnectError" "refused")

theorem unreachable_open : unreachable.transactions[0]? =
    some ⟨"http://localhost:7474/db/data/transaction/1", false, .pending⟩ := by decide +kernel

theorem unreachable_enters (body : List Step) :
    unreachable.Enters (.within "t" body) 0 unreachable body :=
  .named (by decide +kernel) unreachable_open

theorem unreached_commit_stays_open :
    unreachable.Enters (.within "t" []) 0 unreachable [] ∧
      (leaving unreachable 0 (.ok ())).Hands .post
        "http://localhost:7474/db/data/transaction/1/commit" (some (batch [])) ∧
      ((Step.within "t" []).perform unreachable).1.isOk = false ∧
      ((Step.within "t" []).perform unreachable).2.transactions[0]?.map Transaction.status =
        some .pending := by
  have henters := unreachable_enters []
  obtain ⟨outcome, u, tx, t, hbody, -, ht, -, -, hsettles, hperform, -⟩ := scope_settles_once henters
  obtain ⟨rfl, rfl⟩ : .ok () = outcome ∧ unreachable = u := Prod.mk.inj hbody
  obtain rfl : _ = t := Option.some.inj (unreachable_open.symm.trans ht)
  have hfails : (leaving unreachable 0 (.ok ())).outcome.isOk = false := by decide +kernel
  have hstatus := hsettles.status rfl
  rw [hfails] at hstatus
  refine ⟨henters, ?_, ?_, ?_⟩
  · exact hsettles.commits rfl rfl (by decide +kernel) rfl
  · rw [hperform]
    cases hexit : (leaving unreachable 0 (.ok ())).outcome with
    | error f => rfl
    | ok a =>
      rw [hexit] at hfails
      cases hfails
  · rw [hperform, hstatus]
    rfl

/-- The failure of a body leaves the scope exactly if there is nothing to roll back, or the server
answers that it is rolled back, or rolling back fails with the same. Otherwise the scope fails with
what rolling back failed with. -/
theorem error_leaves_scope_iff {s s' u : Session} {step : Step} {i : Nat} {body : List Step}
    {f : Failure} (h : s.Enters step i s' body) (hbody : performAll body s' = (.error f, u)) :
    ∃ t, u.transactions[i]? = some t ∧
      ((step.perform s).1 = .error f ↔ t.status ≠ .pending ∨ t.autoCommit = true ∨
        u.Withdrawn t ∨ u.verdict (.withdrawing t.url) = .error f) ∧
      ∀ g, t.status = .pending → t.autoCommit = false →
        u.verdict (.withdrawing t.url) = .error g → (step.perform s).1 = .error g := by
  obtain ⟨tx, status, -, ht⟩ := h.transaction_kept hbody
  refine ⟨_, ht, ?_⟩
  rw [h.perform hbody, leaving_failed ht, ending_error_iff]
  by_cases hask : status = .pending ∧ tx.autoCommit = false
  · obtain ⟨hp, hauto⟩ := hask
    have hdone : u.Withdrawn { tx with status := status } ↔
        ∃ x, u.verdict (.withdrawing tx.url) = .ok x := verdict_isOk_iff.symm
    rw [if_pos ⟨hp, hauto⟩, hdone]
    cases u.verdict (.withdrawing tx.url) with
    | ok x => simp [Except.map]
    | error g =>
      constructor
      · simp [Except.map, hp, hauto]
      · rintro _ - - ⟨⟩
        rfl
  · rw [if_neg hask]
    constructor
    · have hidle : status ≠ .pending ∨ tx.autoCommit = true := by
        rw [not_and_or, Bool.not_eq_false] at hask
        exact hask
      apply iff_of_true (.inl rfl)
      exact hidle.imp_right Or.inl
    · intro g hp hauto
      exact absurd ⟨hp, hauto⟩ hask

theorem unreached_rollback_hides_error :
    ∃ u, performAll [.raise "boom"] unreachable = (.error (.raised "boom"), u) ∧
      ((Step.within "t" [.raise "boom"]).perform unreachable).1 ≠ .error (.raised "boom") := by
  have hbody : performAll [.raise "boom"] unreachable = (.error (.raised "boom"), _) := rfl
  refine ⟨_, hbody, ?_⟩
  obtain ⟨t, ht, hleaves, -⟩ := error_leaves_scope_iff (unreachable_enters _) hbody
  obtain rfl : _ = t := Option.some.inj (unreachable_open.symm.trans ht)
  intro h
  obtain hp | hauto | ⟨-, -, -, -, -, haccepts⟩ | hverdict := hleaves.mp h
  · exact hp rfl
  · cases hauto
  · have hnext : unreachable.next.accepts = false := by decide +kernel
    cases hnext.symm.trans haccepts
  · obtain ⟨target, haddressee⟩ :
        ∃ target, addressee "http://localhost:7474/db/data/transaction/1" = .ok target :=
      Outcome.eq_ok_of_isSome (by decide +kernel)
    have hnext : unreachable.next = .fault "ConnectError" "refused" := by decide +kernel
    have hlost : unreachable.verdict
        (.withdrawing "http://localhost:7474/db/data/transaction/1") = .error (.raised "boom") :=
      hverdict
    have hbody : payloadText none = .ok "" := rfl
    rw [verdict_of_addressed (by decide +kernel) hbody haddressee, hnext] at hlost
    cases hlost

end Session

end CypherLink

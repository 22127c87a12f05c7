import CypherLink.Proofs.Session.Shape
import CypherLink.Proofs.Session.Traffic

/-!
Failures that the driver reports as its own. Whether a call fails with another one is up to the
server: it is so if an address that it gave leads nowhere, if its response nests too deep, or if the
value in the response has not the shape that is read. Main statements: `reported_answered` and
`reported_iff_takes`.
-/

namespace CypherLink

open Outcome

/-- Whatever the operation fails with, the driver reports it as its own. -/
abbrev Reported {α : Type} (x : Except Failure α) : Prop := Only (fun f => f.isReported = true) x

section Reported

variable {α β : Type} {x : Except Failure α}

theorem reported_error {f : Failure} :
    Reported (.error f : Except Failure α) ↔ f.isReported = true := only_error

theorem reported_bind {f : α → Except Failure β} :
    Reported (x >>= f) ↔ Reported x ∧ ∀ a, x = .ok a → Reported (f a) := only_bind

theorem reported_map {f : α → β} : Reported (x.map f) ↔ Reported x := only_map

end Reported

/-- A response, or a fault of the transport on the way. -/
def Reply.IsExchanged : Reply → Prop
  | .response _ | .fault _ _ => True
  | _ => False

namespace Action

/-- What the value in an accepted response has to tell. -/
def Reads (action : Action) (v : Value) : Prop :=
  match action with
  | .run => v.TellsResults
  | .commit => v.TellsFaults
  | .rollback => True

/-- The response is one that the driver can take, or refuse by itself: its address is a whole one, a
redirect leads somewhere or has no address at all, and the value, if it counts and is read, does not
nest too deep and has the shape that is read. -/
structure Takes (action : Action) (target : Url) (r : Response) : Prop where
  known : target.isAbsolute = true
  leads : ∀ location, r.location? = some location →
    ∀ e, target.follow location = .error e → ∃ cause, e = .location cause
  shallow : r.status < 300 → action ≠ .rollback →
    ∀ inMap, r.value ≠ .error (.notValue (.nested inMap))
  tells : r.status < 300 → ∀ v, r.value = .ok v → action.Reads v

end Action

namespace Outgoing

variable {o : Outgoing} {target : Url} {r : Response}

theorem reported_redirected {location : String} : Reported (o.redirected target location) ↔
    ∀ e, target.follow location = .error e → ∃ cause, e = .location cause := by
  unfold redirected
  cases target.follow location with
  | ok u => exact iff_of_true (only_ok ()) nofun
  | error e =>
    cases e with
    | location cause =>
      exact iff_of_true (reported_error.mpr rfl) fun e he => ⟨cause, Except.error.inj he.symm⟩
    | goal cause => exact iff_of_false (fun h => nomatch h _ rfl) fun h => nomatch h _ rfl
    | hostName cause => exact iff_of_false (fun h => nomatch h _ rfl) fun h => nomatch h _ rfl
    | site fault => exact iff_of_false (fun h => nomatch h _ rfl) fun h => nomatch h _ rfl

theorem reported_counted : Reported (o.counted r) := by
  unfold counted
  split
  · exact reported_error.mpr rfl
  · exact only_ok r

theorem reported_weighed : Reported (o.weighed target r) ↔ target.isAbsolute = true ∧
    ∀ location, r.location? = some location →
      ∀ e, target.follow location = .error e → ∃ cause, e = .location cause := by
  unfold weighed
  cases target.isAbsolute with
  | false => exact iff_of_false (fun h => nomatch h _ rfl) nofun
  | true =>
    rw [if_neg (by decide)]
    refine (only_bind.trans (and_iff_left fun _ _ => reported_counted)).trans ?_
    cases hl : r.location? with
    | none => exact iff_of_true (only_ok _) ⟨rfl, nofun⟩
    | some location =>
      have hsome : Reported ((some location).forM (o.redirected target)) ↔ _ := reported_redirected
      refine hsome.trans ?_
      constructor
      · intro h
        refine ⟨rfl, ?_⟩
        rintro _ ⟨⟩
        exact h
      · rintro ⟨-, h⟩
        exact h location rfl

end Outgoing

theorem reported_value {r : Response} (url : String) :
    Reported (r.value.mapError (Failure.ofUnreadable url)) ↔
      ∀ inMap, r.value ≠ .error (.notValue (.nested inMap)) := by
  rw [Reported, only_mapError]
  constructor
  · rintro h inMap he
    exact nomatch h _ he
  · intro h e he
    cases e with
    | notText => rfl
    | notValue e =>
      cases e with
      | nested inMap => exact absurd he (h inMap)
      | _ => rfl

namespace Session

variable {s : Session} {o : Outgoing} {target : Url} {body : String} {f : Failure}

theorem isReported_of_addressee {url : String} (h : addressee url = .error f) :
    f.isReported = false := by
  unfold addressee at h
  split at h
  · exact Except.error.inj h ▸ rfl
  · split at h
    · exact Except.error.inj h ▸ rfl
    · exact nomatch h

theorem verdict_of_addressed (hc : s.connected = true) (hbody : payloadText o.payload = .ok body)
    (ha : addressee o.url = .ok target) :
    s.verdict o = (o.judged target s.next).map fun r => (target, r) := by
  rw [verdict, if_pos hc, ready_of_body hbody, ha]
  change (do return (target, ← o.judged target s.next)) = _
  cases o.judged target s.next <;> rfl

theorem valueOf_of_verdict {r : Response} (h : s.verdict o = .ok (target, r)) :
    s.valueOf o = (r.value.mapError (.ofUnreadable target.text)).map (r, ·) := by
  rw [valueOf, h]
  change (do return (r, ← r.value.mapError (Failure.ofUnreadable target.text))) = _
  cases r.value <;> rfl

end Session

namespace Action

variable {s : Session} {o : Outgoing} {target : Url} {body : String}

/-- Without a value there is nothing to read. -/
theorem answered_of_valueOf_error {f : Failure} (h : s.valueOf o = .error f) {action : Action}
    (haction : action ≠ .rollback) : action.answered s o = .error f := by
  cases action with
  | run =>
    rw [answered, Session.resultsOf, h]
    rfl
  | commit =>
    rw [answered, Session.checkOf, h]
    rfl
  | rollback => exact absurd rfl haction

theorem answered_of_verdict_error {f : Failure} (h : s.verdict o = .error f) (action : Action) :
    action.answered s o = .error f := by
  by_cases haction : action = .rollback
  · rw [haction, answered, h]
    rfl
  · have hvalue : s.valueOf o = .error f := by
      rw [Session.valueOf, h]
      rfl
    exact answered_of_valueOf_error hvalue haction

/-- A response that counts is read as a value, unless the transaction is rolled back. -/
theorem reported_answered_of_verdict {r : Response} (h : s.verdict o = .ok (target, r))
    (action : Action) : Reported (action.answered s o) ↔
      (action ≠ .rollback → ∀ inMap, r.value ≠ .error (.notValue (.nested inMap))) ∧
        ∀ v, r.value = .ok v → action.Reads v := by
  have hvalue := Session.valueOf_of_verdict h
  have hread : ∀ {α : Type} (read : Value → Except ReplyError α),
      Reported (s.valueOf o >>= fun found => (read found.2).mapError .ofReply) ↔
        (∀ inMap, r.value ≠ .error (.notValue (.nested inMap))) ∧ ∀ v, r.value = .ok v →
          Only (fun e => (Failure.ofReply e).isReported = true) (read v) := by
    intro α read
    rw [reported_bind, hvalue, reported_map, reported_value]
    refine and_congr_right fun _ => ?_
    constructor
    · intro h v hv
      exact only_mapError.mp (h (r, v) (by rw [hv]; rfl))
    · intro h found hfound
      cases hv : r.value with
      | error e =>
        rw [hv] at hfound
        cases hfound
      | ok v =>
        rw [hv] at hfound
        obtain rfl : (r, v) = found := Except.ok.inj hfound
        exact only_mapError.mpr (h v hv)
  cases action with
  | run =>
    rw [answered, reported_map]
    refine (hread Reply.results).trans (and_congr ?_ ?_)
    · exact ⟨fun h _ => h, fun h => h (by decide)⟩
    · exact forall₂_congr fun v _ => Reply.told_results
  | commit =>
    refine (hread Reply.checkErrors).trans (and_congr ?_ ?_)
    · exact ⟨fun h _ => h, fun h => h (by decide)⟩
    · exact forall₂_congr fun v _ => Reply.told_checkErrors
  | rollback =>
    rw [answered, reported_map, h]
    exact iff_of_true (only_ok _) ⟨fun hne => absurd rfl hne, fun _ _ => trivial⟩

theorem reported_answered_of_response {r : Response}
    (h : s.verdict o = (o.weighed target r).map fun r => (target, r)) (action : Action) :
    Reported (action.answered s o) ↔ action.Takes target r := by
  cases hw : o.weighed target r with
  | error f =>
    rw [hw] at h
    have hweighed : Reported (o.weighed target r) ↔ _ := Outgoing.reported_weighed
    rw [hw] at hweighed
    rw [answered_of_verdict_error h]
    constructor
    · intro hf
      obtain ⟨hknown, hleads⟩ := hweighed.mp (reported_error.mpr (reported_error.mp hf))
      -- a response that counts, from a known address, would not have been refused
      have hstatus : ¬r.status < 300 := by
        intro hstatus
        have hjudged : o.judged target (.response r) = .ok r := by
          rw [Outgoing.judged_response hstatus, if_pos hknown]
        exact nomatch hw.symm.trans hjudged
      exact ⟨hknown, hleads, fun hlt => absurd hlt hstatus, fun hlt => absurd hlt hstatus⟩
    · intro ht
      exact reported_error.mpr (reported_error.mp (hweighed.mpr ⟨ht.known, ht.leads⟩))
  | ok r' =>
    have hjudged : o.judged target (.response r) = .ok r' := hw
    obtain ⟨hr, hstatus⟩ := Outgoing.response_of_judged hjudged
    obtain rfl := Reply.response.inj hr
    rw [hw] at h
    have hweighed : Reported (o.weighed target r) ↔ _ := Outgoing.reported_weighed
    rw [hw] at hweighed
    obtain ⟨hknown, hleads⟩ := hweighed.mp (only_ok r)
    refine (reported_answered_of_verdict h action).trans ?_
    constructor
    · rintro ⟨hshallow, htells⟩
      exact ⟨hknown, hleads, fun _ => hshallow, fun _ => htells⟩
    · intro ht
      exact ⟨ht.shallow hstatus, ht.tells hstatus⟩

/-- Whether a failure is reported, when the server is asked for something. -/
theorem reported_answered (hc : s.connected = true)
    (hbody : Session.payloadText o.payload = .ok body) (hnext : s.next.IsExchanged)
    (action : Action) : Reported (action.answered s o) ↔
      ∃ target, Session.addressee o.url = .ok target ∧
        ∀ r, s.next = .response r → action.Takes target r := by
  cases ha : Session.addressee o.url with
  | error f =>
    have hready : o.ready = .error f := by
      rw [Session.ready_of_body hbody, ha]
      rfl
    rw [Session.answered_of_refused hc hready]
    refine iff_of_false (fun h => ?_) nofun
    have hf : f.isReported = true := h f rfl
    rw [Session.isReported_of_addressee ha] at hf
    exact nomatch hf
  | ok target =>
    have hverdict := Session.verdict_of_addressed hc hbody ha
    cases hn : s.next with
    | response r =>
      rw [hn] at hverdict
      refine (reported_answered_of_response hverdict action).trans ?_
      constructor
      · intro h
        refine ⟨target, rfl, ?_⟩
        rintro _ ⟨⟩
        exact h
      · rintro ⟨_, ⟨⟩, h⟩
        exact h r rfl
    | fault name message =>
      rw [hn] at hverdict
      rw [answered_of_verdict_error hverdict]
      exact iff_of_true (reported_error.mpr rfl) ⟨target, rfl, nofun⟩
    | _ =>
      rw [hn] at hnext
      exact hnext.elim

end Action

namespace Session

/-- How a call reads the reply: a transaction is opened by a reply that reports no faults. -/
def Call.reads : Call → Action
  | .operate _ op => op.action
  | .execute _ _ => .run
  | .begin _ | .commitAt _ => .commit
  | .rollbackAt _ => .rollback

section Calls

variable {s : Session} {o : Outgoing} {i : Nat} {op : Operation} {t : Transaction}

theorem Ends.outcome {α : Type} {act : Act α} {outcome : Except Failure α} {t : Session}
    (h : Ends act s outcome t) : (act s).1 = outcome := by
  obtain ⟨u, hu, -⟩ := h
  rw [hu]

theorem outcome_begin : ((Call.begin false).perform s).1 = s.opening.map fun _ => () := by
  have hbegin := (ends_begin_explicit (s := s)).done (b := ()) (f := fun _ => pure ())
    fun _ _ => rfl
  rw [Call.perform, hbegin.outcome]
  cases s.opening <;> rfl

/-- Without an address for the new transaction, the driver refuses the reply by itself. -/
theorem located_cases (url : String) (r : Response) (v : Value) :
    (located url r v).map (fun _ => ()) = (Reply.checkErrors v).mapError .ofReply ∨
      (Reply.checkErrors v).mapError Failure.ofReply = .ok () ∧
        located url r v = .error (.noLocation url) := by
  unfold located
  cases (Reply.checkErrors v).mapError Failure.ofReply with
  | error f => exact .inl rfl
  | ok u =>
    dsimp only [bind, Except.bind]
    split
    · exact .inr ⟨rfl, rfl⟩
    · exact .inr ⟨rfl, rfl⟩
    · exact .inl rfl

theorem opening_cases :
    s.opening.map (fun _ => ()) = s.checkOf (.posting s.settings.endpoint []) ∨
      s.checkOf (.posting s.settings.endpoint []) = .ok () ∧
        s.opening = .error (.noLocation s.settings.endpoint) := by
  unfold opening checkOf
  cases s.valueOf (.posting s.settings.endpoint []) with
  | error f => exact .inl rfl
  | ok found => exact located_cases s.settings.endpoint found.1 found.2

/-- A call ends as its request does, but for a new transaction that the reply does not locate. -/
theorem outcome_handed {c : Call} (h : c.handed? s = some o) :
    (c.perform s).1 = c.reads.answered s o ∨ c = .begin false ∧ c.reads.answered s o = .ok () ∧
      (c.perform s).1 = .error (.noLocation s.settings.endpoint) := by
  cases c with
  | begin autoCommit =>
    cases autoCommit with
    | true => cases h
    | false =>
      obtain rfl := Option.some.inj h
      rw [outcome_begin]
      obtain hopening | ⟨hcheck, hopening⟩ := opening_cases (s := s)
      · exact .inl hopening
      · refine .inr ⟨rfl, hcheck, ?_⟩
        rw [hopening]
        rfl
  | operate i op =>
    cases hp : s.pending? i with
    | none =>
      rw [Call.handed?, hp] at h
      cases h
    | some t =>
      obtain ⟨ht, hpending⟩ := pending?_eq_some.mp hp
      have houtcome : ((Call.operate i op).perform s).1 = op.outcome t s :=
        (ends_perform ht hpending op).outcome
      rw [Call.handed?, hp, Option.bind_eq_bind, Option.bind_some] at h
      rw [houtcome, Operation.outcome]
      cases hasked : op.outgoing? t with
      | error f =>
        rw [hasked] at h
        cases h
      | ok asked =>
        rw [hasked] at h
        obtain rfl : asked = some o := h
        exact .inl rfl
  | execute url requests =>
    rw [Call.handed?] at h
    cases hpayloads : requests.mapM Request.payload with
    | error f =>
      rw [hpayloads] at h
      cases h
    | ok payloads =>
      rw [hpayloads] at h
      obtain rfl := Option.some.inj h
      have hexecute := (ends_execute (refl s) url hpayloads).done (b := ()) (f := fun _ => pure ())
        fun _ _ => rfl
      rw [Call.perform, hexecute.outcome]
      exact .inl rfl
  | commitAt url =>
    obtain rfl := Option.some.inj h
    rw [Call.perform, (ends_commitAt url).outcome]
    exact .inl rfl
  | rollbackAt url =>
    obtain rfl := Option.some.inj h
    rw [Call.perform, (ends_rollbackAt url).outcome]
    exact .inl rfl

theorem reported_handed {c : Call} (h : c.handed? s = some o) :
    Reported (c.perform s).1 ↔ Reported (c.reads.answered s o) := by
  obtain houtcome | ⟨-, hanswered, houtcome⟩ := outcome_handed h
  · rw [houtcome]
  · rw [houtcome, hanswered]
    exact iff_of_true (reported_error.mpr rfl) (only_ok ())

theorem exists_empty_body : ∃ body, payloadText (some (batch [])) = .ok body := by
  have hnil : ∀ p ∈ ([] : List Payload), p.toValue.isProper = true ∧
      ∃ text, Json.writeAt Json.compact 0 p.toValue = .ok text := nofun
  obtain ⟨body, hbody, -⟩ := exists_body hnil
  exact ⟨body, hbody⟩

theorem exists_posting_body {requests : List Request}
    (h : ∀ r ∈ requests, r.isSerialisable = true) :
    ∃ payloads body, requests.mapM Request.payload = .ok payloads ∧
      payloadText (some (batch payloads)) = .ok body := by
  obtain ⟨payloads, hpayloads, hall⟩ := exists_payloads h
  obtain ⟨body, hbody, -⟩ := exists_body hall
  exact ⟨payloads, body, hpayloads, hbody⟩

/-- What an operation asks the server for can be written. -/
theorem exists_asked_body (h : ∀ r ∈ op.requests, r.isSerialisable = true) :
    op.outgoing? t = .ok none ∨
      ∃ o body, op.outgoing? t = .ok (some o) ∧ payloadText o.payload = .ok body := by
  unfold Operation.outgoing?
  cases op.action with
  | run =>
    obtain ⟨payloads, body, hpayloads, hbody⟩ := exists_posting_body h
    rw [hpayloads]
    exact .inr ⟨.posting t.url payloads, body, rfl, hbody⟩
  | commit =>
    obtain ⟨body, hbody⟩ := exists_empty_body
    cases t.autoCommit with
    | true => exact .inl rfl
    | false => exact .inr ⟨.committing t.url, body, rfl, hbody⟩
  | rollback =>
    cases t.autoCommit with
    | true => exact .inl rfl
    | false => exact .inr ⟨.withdrawing t.url, "", rfl, rfl⟩

/-- A call asks the server for nothing, and does not fail, or for something that can be written. -/
theorem exists_handed_body {c : Call} (hopen : ∀ i op, c = .operate i op → s.pending? i ≠ none)
    (h : ∀ r ∈ c.requests, r.isSerialisable = true) :
    (c.handed? s = none ∧ Reported (c.perform s).1) ∨
      ∃ o body, c.handed? s = some o ∧ payloadText o.payload = .ok body := by
  cases c with
  | begin autoCommit =>
    cases autoCommit with
    | true => exact .inl ⟨rfl, only_ok ()⟩
    | false =>
      obtain ⟨body, hbody⟩ := exists_empty_body
      exact .inr ⟨.posting s.settings.endpoint [], body, rfl, hbody⟩
  | operate i op =>
    obtain ⟨t, hp⟩ := Option.ne_none_iff_exists'.mp (hopen i op rfl)
    obtain ⟨ht, hpending⟩ := pending?_eq_some.mp hp
    rw [Call.handed?, hp, Option.bind_eq_bind, Option.bind_some]
    obtain hasked | ⟨o, body, hasked, hbody⟩ := exists_asked_body (t := t) h
    · have houtcome : ((Call.operate i op).perform s).1 = op.outcome t s :=
        (ends_perform ht hpending op).outcome
      rw [houtcome, Operation.outcome, hasked]
      exact .inl ⟨rfl, only_ok ()⟩
    · rw [hasked]
      exact .inr ⟨o, body, rfl, hbody⟩
  | execute url requests =>
    have h : ∀ r ∈ requests, r.isSerialisable = true := h
    obtain ⟨payloads, body, hpayloads, hbody⟩ := exists_posting_body h
    rw [Call.handed?, hpayloads]
    exact .inr ⟨.posting url payloads, body, rfl, hbody⟩
  | commitAt url =>
    obtain ⟨body, hbody⟩ := exists_empty_body
    exact .inr ⟨.committing url, body, rfl, hbody⟩
  | rollbackAt url => exact .inr ⟨.withdrawing url, "", rfl, rfl⟩

end Calls

/-- While connected, a call on an open transaction with requests that can be written, to which there
is a response or a fault of the transport, fails only with what the driver reports as its own,
exactly if the client takes the address and a response is one that the driver can take. -/
theorem reported_iff_takes {s : Session} {c : Call} (hc : s.connected = true)
    (hopen : ∀ i op, c = .operate i op → s.pending? i ≠ none)
    (h : ∀ r ∈ c.requests, r.isSerialisable = true) (hnext : s.next.IsExchanged) :
    (∀ f, (c.perform s).1 = .error f → f.isReported = true) ↔
      ∀ o, c.handed? s = some o → ∃ target, addressee o.url = .ok target ∧
        ∀ r, s.next = .response r → c.reads.Takes target r := by
  obtain ⟨hnone, hreported⟩ | ⟨o, body, hsome, hbody⟩ := exists_handed_body hopen h
  · rw [hnone]
    exact iff_of_true hreported nofun
  · refine ((reported_handed hsome).trans (Action.reported_answered hc hbody hnext c.reads)).trans ?_
    rw [hsome]
    constructor
    · rintro ht _ ⟨⟩
      exact ht
    · intro ht
      exact ht o rfl

/-- A session in which a transaction is open, with that reply to the next request. -/
def replying (reply : Reply) : Session :=
  let opened : Reply :=
    .response ⟨201, [("Location", "http://localhost:7474/db/data/transaction/1")],
      "\x7b\"results\": [], \"errors\": []\x7d".toUTF8.toList⟩
  after { settings := .defaults, replies := [opened, reply] } [.connect, .begin "t" false]

/-- A response whose value is a list and no map. -/
def listing : Response := ⟨200, [], "[]".toUTF8.toList⟩

def listed : Session :=
  let opened : Reply :=
    .response ⟨201, [("Location", "http://localhost:7474/db/data/transaction/1")],
      "\x7b\"results\": [], \"errors\": []\x7d".toUTF8.toList⟩
  after { settings := .defaults, replies := [opened, .response listing] }
    [.connect, .begin "t" false]

def query : Call := .operate 0 (.run (Request.of .rows "RETURN 1" []))

theorem listed_fails_unreported :
    ∃ f, (query.perform listed).1 = .error f ∧ f.isReported = false := by
  have ht : listed.transactions[0]? =
      some ⟨"http://localhost:7474/db/data/transaction/1", false, .pending⟩ := by decide +kernel
  have hopen : ∀ i op, query = .operate i op → listed.pending? i ≠ none := by
    rintro i op ⟨⟩
    rw [pending?_eq_some.mpr ⟨ht, rfl⟩]
    exact Option.some_ne_none _
  have hnext : listed.next = .response listing := by decide +kernel
  have hiff := reported_iff_takes (by decide +kernel) hopen (by decide +kernel)
    (by rw [hnext]; trivial)
  have hnot : ¬∀ f, (query.perform listed).1 = .error f → f.isReported = true := by
    intro h
    have hhanded : (query.handed? listed).isSome = true := by decide +kernel
    obtain ⟨o, ho⟩ := Option.isSome_iff_exists.mp hhanded
    obtain ⟨target, -, htakes⟩ := hiff.mp h o ho
    have hmember : (listing.value.toOption.bind fun v => (v.member? "errors").toOption).isSome =
        false := by decide +kernel
    obtain ⟨v, hv⟩ : ∃ v, listing.value = .ok v := Outcome.eq_ok_of_isSome (by decide +kernel)
    obtain ⟨⟨es, rfl, -⟩, -⟩ := (htakes listing hnext).tells (by decide) v hv
    rw [hv] at hmember
    cases hmember
  rw [Classical.not_forall] at hnot
  obtain ⟨f, hnot⟩ := hnot
  obtain ⟨hf, hunreported⟩ := Classical.not_imp.mp hnot
  exact ⟨f, hf, Bool.eq_false_iff.mpr hunreported⟩

end Session

end CypherLink

import CypherLink.Proofs.Session.Standing

/-!
Transactions that commit by themselves. The server executes what it accepts; the transaction is
closed then only if the client can read the reply. Main statement: `once_iff_legible`.
-/

namespace CypherLink

/-- The client can make sense of an accepted reply from that address: it knows where it asked, and
the reply bears results or reports faults. -/
def Reply.Legible (url : String) (reply : Reply) : Prop :=
  (∃ target, Url.target url = .ok target ∧ target.isAbsolute = true) ∧
    ∃ v, reply.Bears v ∧
      ((∃ rs, Reply.results v = .ok rs) ∨
        ∃ items summary, Reply.results v = .error (.statements items summary))

namespace Session

/-- The exchanges of a transaction in which the server accepted the request. -/
def acceptedOn (i : Nat) (es : List Event) : List Exchange :=
  (exchangesOn i es).filter fun x => x.reply.accepts

/-- The requests of the transaction were accepted at most once; and after one was, and no faults were
reported, the transaction does not count as rolled back. -/
def Once (i : Nat) (es : List Event) (u : Session) : Prop :=
  (acceptedOn i es).length ≤ 1 ∧
    ∀ x ∈ acceptedOn i es, ¬x.reply.Faulty →
      ∀ t, u.transactions[i]? = some t → t.status ≠ .rolledBack

section Once

variable {s u : Session} {i : Nat} {t : Transaction} {op : Operation} {es : List Event} {e : Event}

/-- Nothing is sent for a transaction that is closed. -/
theorem Course.exchangesOn_closed (h : Course s es u) (ht : s.transactions[i]? = some t)
    (hc : t.status ≠ .pending) : exchangesOn i es = [] := by
  apply List.eq_nil_iff_forall_not_mem.mpr
  intro x hx
  obtain ⟨e, he, ⟨op, hcall⟩, hmem⟩ := mem_exchangesOn.mp hx
  rw [Event.exchanges_of_sent (Event.sent_idle hcall (h.idle ht hc e he))] at hmem
  exact nomatch hmem

theorem isAbsolute_of_verdict {o : Outgoing} {target : Url} {r : Response}
    (h : s.verdict o = .ok (target, r)) :
    Url.target o.url = .ok target ∧ target.isAbsolute = true := by
  obtain ⟨-, body, hready, hr⟩ := verdict_eq_ok h
  obtain ⟨hnext, hstatus⟩ := Outgoing.response_of_judged hr
  rw [hnext, Outgoing.judged_response hstatus] at hr
  split at hr
  · next habsolute => exact ⟨(ready_eq_ok hready).1, habsolute⟩
  · exact nomatch hr

/-- A run that does not fail, or fails because of its statements, was answered legibly. -/
theorem legible_of_resultsOf {o : Outgoing}
    (h : (s.resultsOf o).isOk = true ∨ ∃ f, s.resultsOf o = .error f ∧ f.isStatements = true) :
    s.next.Legible o.url := by
  have hvalue : ∃ r v, s.valueOf o = .ok (r, v) ∧ ((∃ rs, Reply.results v = .ok rs) ∨
      ∃ items summary, Reply.results v = .error (.statements items summary)) := by
    obtain hok | ⟨f, hf, hstatements⟩ := h
    · cases hrs : s.resultsOf o with
      | error f =>
        rw [hrs] at hok
        exact nomatch hok
      | ok rs =>
        obtain ⟨r, v, hv, hresults⟩ := resultsOf_eq_ok hrs
        exact ⟨r, v, hv, .inl ⟨rs, hresults⟩⟩
    · obtain ⟨r, v, items, summary, hv, hresults⟩ := resultsOf_eq_statements hf hstatements
      exact ⟨r, v, hv, .inr ⟨items, summary, hresults⟩⟩
  obtain ⟨r, v, hv, hresults⟩ := hvalue
  obtain ⟨x, -, -, hb⟩ := carried_of_valueOf hv
  obtain ⟨⟨target, r'⟩, hverdict, -⟩ := Outcome.bind_eq_ok.mp hv
  exact ⟨⟨target, isAbsolute_of_verdict hverdict⟩, v, hb, hresults⟩

theorem ready_of_carried {o : Outgoing} {x : Sent} (h : s.carried o = [x]) :
    s.connected = true ∧ ∃ target body, o.ready = .ok (target, body) := by
  unfold carried at h
  split at h
  · next target body hc hready => exact ⟨hc, target, body, hready⟩
  · exact nomatch h

/-- What was answered legibly has results, or faults in its statements. -/
theorem resultsOf_of_legible {o : Outgoing} {x : Sent} (hx : s.carried o = [x])
    (hl : s.next.Legible o.url) :
    (∃ rs, s.resultsOf o = .ok rs) ∨
      ∃ f, s.resultsOf o = .error f ∧ f.isStatements = true ∧ s.next.Faulty := by
  obtain ⟨hc, target, body, hready⟩ := ready_of_carried hx
  obtain ⟨⟨target', htarget', habsolute⟩, v, ⟨r, hnext, hstatus, hv⟩, hresults⟩ := hl
  have htarget : Url.target o.url = .ok target := (ready_eq_ok hready).1
  obtain rfl := Except.ok.inj (htarget.symm.trans htarget')
  have hjudged : o.judged target s.next = .ok r := by
    rw [hnext, Outgoing.judged_response hstatus, if_pos habsolute]
  have hverdict : s.verdict o = .ok (target, r) := by
    rw [verdict, if_pos hc, hready]
    change (do return (target, ← o.judged target s.next)) = _
    rw [hjudged]
    rfl
  have hvalue : s.valueOf o = .ok (r, v) := by
    rw [valueOf, hverdict]
    change (do return (r, ← r.value.mapError (Failure.ofUnreadable target.text))) = _
    rw [hv]
    rfl
  have hmapped : s.resultsOf o = (Reply.results v).mapError .ofReply := by
    rw [resultsOf, hvalue]
    rfl
  rw [hmapped]
  obtain ⟨rs, hrs⟩ | ⟨items, summary, hfaults⟩ := hresults
  · rw [hrs]
    exact .inl ⟨rs, rfl⟩
  · have hcheck := Reply.checkErrors_of_results_eq_statements hfaults
    rw [hfaults]
    exact .inr ⟨_, rfl, rfl, faulty_of_checkErrors ⟨r, hnext, hstatus, hv⟩ hcheck⟩

/-- A transaction that commits by itself asks the server only to run. -/
theorem action_of_asked {o : Outgoing} (hauto : t.autoCommit = true)
    (h : op.outgoing? t = .ok (some o)) : op.action = .run ∧ o.url = t.url := by
  unfold Operation.outgoing? at h
  split at h
  · next hrun =>
    obtain ⟨payloads, -, h⟩ := Outcome.bind_eq_ok.mp h
    obtain rfl := Option.some.inj (Except.ok.inj h)
    exact ⟨hrun, rfl⟩
  all_goals
    rw [hauto] at h
    exact nomatch h

/-- The transaction is open after it was answered, exactly if the answer is not legible. -/
theorem leaves_eq_pending_iff {o : Outgoing} {x : Sent} (hauto : t.autoCommit = true)
    (hasked : op.outgoing? t = .ok (some o)) (hx : s.carried o = [x]) :
    op.action.leaves t.autoCommit (op.outcome t s) = .pending ↔ ¬s.next.Legible t.url := by
  obtain ⟨hrun, hurl⟩ := action_of_asked hauto hasked
  rw [Operation.outcome_asked hasked, hrun, hauto, ← hurl]
  constructor
  · intro hopen hl
    obtain ⟨rs, hrs⟩ | ⟨f, hf, hstatements, -⟩ := resultsOf_of_legible hx hl
    · rw [Action.answered, hrs] at hopen
      cases hopen
    · rw [Action.answered, hf] at hopen
      change (if f.isStatements then TransactionStatus.rolledBack else .pending) = .pending at hopen
      rw [hstatements] at hopen
      cases hopen
  · intro hl
    have hnot := mt legible_of_resultsOf hl
    rw [Action.answered]
    cases hrs : s.resultsOf o with
    | ok rs =>
      rw [hrs] at hnot
      exact absurd (.inl rfl) hnot
    | error f =>
      rw [hrs] at hnot
      change (if f.isStatements then TransactionStatus.rolledBack else .pending) = .pending
      cases hf : f.isStatements with
      | true => exact absurd (.inr ⟨f, rfl, hf⟩) hnot
      | false => rfl

theorem exchanges_of_carried {x : Sent} (hcall : e.call = .operate i op)
    (hp : e.before.pending? i = some t) (hx : op.carried t e.before = [x]) :
    e.exchanges = [⟨x, e.before.next⟩] := by
  exact Event.exchanges_of_sent ((Event.sent_pending hcall hp).trans hx)

theorem outgoing?_of_carried {x : Sent} (hx : op.carried t s = [x]) :
    ∃ o, op.outgoing? t = .ok (some o) ∧ s.carried o = [x] := by
  unfold Operation.carried at hx
  split at hx
  · next o ho => exact ⟨o, ho, hx⟩
  · exact nomatch hx

/-- A transaction that was sent a request stays as it was, if the status is left open. -/
theorem again_of_open {x : Sent} (hcall : e.call = .operate i op)
    (hp : e.before.pending? i = some t) (hx : op.carried t e.before = [x])
    (hopen : op.action.leaves t.autoCommit (op.outcome t e.before) = .pending) :
    e.after.pending? i = some t ∧ op.carried t e.after = [x] := by
  obtain ⟨ht, hpending⟩ := pending?_eq_some.mp hp
  constructor
  · apply pending?_eq_some.mpr
    refine ⟨?_, hpending⟩
    have hsettled : e.before.settled i .pending = e.before := settled_self ht hpending
    rw [e.after_transactions, hcall, Call.ensuing_pending hp, Operation.ensuing, hopen]
    change (e.before.settled i .pending).transactions[i]? = some t
    rw [hsettled, ht]
  · obtain ⟨ts, log, hafter⟩ := e.after_eq
    rw [hafter]
    exact hx

theorem open_of_refused {x : Sent} (hx : op.carried t s = [x]) (hr : s.next.accepts = false) :
    op.action.leaves t.autoCommit (op.outcome t s) = .pending := by
  obtain ⟨o, hasked, hcarried⟩ := outgoing?_of_carried hx
  rw [Operation.outcome_asked hasked]
  cases hanswered : op.action.answered s o with
  | ok =>
    obtain ⟨-, -, -, haccepts, -⟩ := Action.answered_eq_ok hanswered
    rw [hr] at haccepts
    exact nomatch haccepts
  | error f =>
    cases hf : f.isStatements with
    | false => exact Action.leaves_of_error hf
    | true =>
      obtain ⟨-, -, -, -, es, errors, items, hb, -⟩ := Action.answered_eq_statements hanswered hf
      have haccepts := hb.accepts
      rw [hr] at haccepts
      exact nomatch haccepts

/-- While the requests of a transaction are not accepted it stays open; and when the replies are
over, one is accepted. -/
theorem exists_accepted {x : Sent} (hp : s.pending? i = some t) (hx : op.carried t s = [x]) :
    ∃ es u, Course s es u ∧ ∃ y, y ∈ acceptedOn i es := by
  have hon : (Call.operate i op).isOn i = true := Call.isOn_iff.mpr ⟨op, rfl⟩
  have hexchanges := exchanges_of_carried (e := ⟨s, .operate i op⟩) rfl hp hx
  induction hn : s.replies.length generalizing s with
  | zero =>
    have hnext : s.next = .blank := by
      rw [next, List.length_eq_zero_iff.mp hn]
      rfl
    refine ⟨_, _, course_one s (.operate i op), ⟨x, s.next⟩, ?_⟩
    rw [acceptedOn, exchangesOn_cons_on hon, hexchanges, hnext]
    exact List.mem_cons_self
  | succ n ih =>
    cases hr : s.next.accepts with
    | true =>
      refine ⟨_, _, course_one s (.operate i op), ⟨x, s.next⟩, ?_⟩
      rw [acceptedOn, exchangesOn_cons_on hon, hexchanges]
      exact List.mem_filter.mpr ⟨List.mem_cons_self, hr⟩
    | false =>
      have hopen := open_of_refused hx hr
      obtain ⟨hp', hx'⟩ := again_of_open (e := ⟨s, .operate i op⟩) rfl hp hx hopen
      have hexchanges' := exchanges_of_carried (e := ⟨_, .operate i op⟩) rfl hp' hx'
      have hlength : (Event.after ⟨s, .operate i op⟩).replies.length = n := by
        rw [Event.after_replies, Event.sent_eq, Call.carried_pending hp, hx, List.length_drop, hn]
        rfl
      obtain ⟨es, u, hes, y, hy⟩ := ih hp' hx' hexchanges' hlength
      refine ⟨⟨s, .operate i op⟩ :: es, u, .call (refl s) hes, y, ?_⟩
      rw [acceptedOn, exchangesOn_cons_on hon, List.filter_append]
      exact List.mem_append_right _ hy

theorem once_of_nil (h : acceptedOn i es = []) : Once i es u := by
  rw [Once, h]
  exact ⟨Nat.zero_le 1, nofun⟩

theorem acceptedOn_cons_of_nil
    (h : e.call.isOn i = true → e.exchanges.filter (·.reply.accepts) = []) :
    acceptedOn i (e :: es) = acceptedOn i es := by
  cases hon : e.call.isOn i with
  | false => rw [acceptedOn, exchangesOn_cons_off hon, acceptedOn]
  | true =>
    rw [acceptedOn, exchangesOn_cons_on hon, List.filter_append, h hon, List.nil_append, acceptedOn]

theorem exists_carried (hcall : e.call = .operate i op) (hp : e.before.pending? i = some t)
    (h : e.exchanges.filter (·.reply.accepts) ≠ []) :
    ∃ x, op.carried t e.before = [x] ∧ e.before.next.accepts = true := by
  have hone := e.length_sent_le
  rw [Event.sent_pending hcall hp] at hone
  cases hcarried : op.carried t e.before with
  | nil =>
    refine absurd ?_ h
    rw [Event.exchanges_of_sent ((Event.sent_pending hcall hp).trans hcarried)]
    rfl
  | cons x xs =>
    rw [hcarried] at hone
    obtain rfl : xs = [] := List.length_eq_zero_iff.mp (Nat.le_zero.mp (Nat.le_of_succ_le_succ hone))
    rw [exchanges_of_carried hcall hp hcarried] at h
    refine ⟨x, rfl, ?_⟩
    cases haccepts : e.before.next.accepts with
    | true => rfl
    | false =>
      refine absurd ?_ h
      rw [List.filter_cons, if_neg (by rw [haccepts]; decide)]
      rfl

/-- A legible answer closes the transaction, so that nothing is sent for it afterwards. -/
theorem once_of_legible {x : Sent} (hcall : e.call = .operate i op)
    (hp : e.before.pending? i = some t) (hauto : t.autoCommit = true)
    (hx : op.carried t e.before = [x]) (haccepts : e.before.next.accepts = true)
    (hl : e.before.next.Legible t.url) (hes : Course e.after es u) : Once i (e :: es) u := by
  obtain ⟨o, hasked, hcarried⟩ := outgoing?_of_carried hx
  have hclosed := mt (leaves_eq_pending_iff hauto hasked hcarried).mp (not_not_intro hl)
  have hafter := Event.transaction_after hcall hp
  have haccepted : acceptedOn i (e :: es) = [⟨x, e.before.next⟩] := by
    rw [acceptedOn, exchangesOn_cons_on (Call.isOn_iff.mpr ⟨op, hcall⟩),
      exchanges_of_carried hcall hp hx, hes.exchangesOn_closed hafter hclosed, List.append_nil,
      List.filter_cons, if_pos haccepts]
    rfl
  rw [Once, haccepted]
  refine ⟨Nat.le_refl 1, ?_⟩
  intro y hy hfaultless v hv hrolled
  obtain rfl := List.mem_singleton.mp hy
  obtain rfl := Option.some.inj (hv.symm.trans (hes.closed i _ hafter hclosed))
  obtain ⟨hrollback, -⟩ | ⟨-, f, hf, hstatements⟩ := Action.leaves_eq_rolledBack hrolled
  · rw [(action_of_asked hauto hasked).1] at hrollback
    exact nomatch hrollback
  · rw [Operation.outcome_asked hasked] at hf
    obtain ⟨-, -, -, -, hfaulty⟩ := Action.answered_eq_statements hf hstatements
    exact hfaultless hfaulty

/-- If each accepted request was answered legibly, it was the only one. -/
theorem Course.once (h : Course s es u) (ht : s.transactions[i]? = some t)
    (hauto : t.autoCommit = true) (hl : ∀ x ∈ acceptedOn i es, x.reply.Legible t.url) :
    Once i es u := by
  induction h generalizing t with
  | rest hq => exact once_of_nil rfl
  | @call s u e es hq hes ih =>
    rw [← hq.transactions] at ht
    have hskip (hnone : e.call.isOn i = true → e.exchanges.filter (·.reply.accepts) = []) :
        Once i (e :: es) u := by
      have hsame : acceptedOn i (e :: es) = acceptedOn i es := acceptedOn_cons_of_nil hnone
      obtain ⟨_, hafter⟩ := e.transaction_kept ht
      rw [hsame] at hl
      rw [Once, hsame]
      exact ih hafter hauto hl
    cases hon : e.call.isOn i with
    | false => exact hskip (by rw [hon]; exact nofun)
    | true =>
      obtain ⟨op, hcall⟩ := Call.isOn_iff.mp hon
      cases hp : e.before.pending? i with
      | none =>
        refine hskip fun _ => ?_
        rw [Event.exchanges_of_sent (Event.sent_idle hcall hp)]
        rfl
      | some v =>
        obtain rfl := Option.some.inj (ht.symm.trans (pending?_eq_some.mp hp).1)
        by_cases hnone : e.exchanges.filter (·.reply.accepts) = []
        · exact hskip fun _ => hnone
        · obtain ⟨x, hx, haccepts⟩ := exists_carried hcall hp hnone
          have hmem : ⟨x, e.before.next⟩ ∈ acceptedOn i (e :: es) := by
            rw [acceptedOn, exchangesOn_cons_on hon, exchanges_of_carried hcall hp hx]
            exact List.mem_filter.mpr ⟨List.mem_cons_self, haccepts⟩
          exact once_of_legible hcall hp hauto hx haccepts (hl _ hmem) hes

theorem acceptedOn_append (es fs : List Event) :
    acceptedOn i (es ++ fs) = acceptedOn i es ++ acceptedOn i fs := by
  simp only [acceptedOn, exchangesOn, List.filter_append, List.flatMap_append]

/-- After an answer that is not legible, another request can be accepted. -/
theorem exists_twice (hcall : e.call = .operate i op) (hp : e.before.pending? i = some t)
    (hauto : t.autoCommit = true) {x : Exchange} (hx : x ∈ e.exchanges)
    (haccepts : x.reply.accepts = true) (hl : ¬x.reply.Legible t.url) :
    ∃ fs u, Course e.after fs u ∧ 2 ≤ (acceptedOn i (e :: fs)).length := by
  have hmem : x ∈ e.exchanges.filter (·.reply.accepts) := List.mem_filter.mpr ⟨hx, haccepts⟩
  obtain ⟨y, hy, -⟩ := exists_carried hcall hp (List.ne_nil_of_mem hmem)
  have hexchanges := exchanges_of_carried hcall hp hy
  rw [hexchanges] at hx
  obtain rfl := List.mem_singleton.mp hx
  obtain ⟨o, hasked, hcarried⟩ := outgoing?_of_carried hy
  have hopen := (leaves_eq_pending_iff hauto hasked hcarried).mpr hl
  obtain ⟨hagain, hyagain⟩ := again_of_open hcall hp hy hopen
  obtain ⟨fs, u, hfs, z, hz⟩ := exists_accepted hagain hyagain
  refine ⟨fs, u, hfs, ?_⟩
  have hfirst : 0 < (e.exchanges.filter (·.reply.accepts)).length := List.length_pos_of_mem hmem
  have hrest : 0 < (acceptedOn i fs).length := List.length_pos_of_mem hz
  have hon : e.call.isOn i = true := Call.isOn_iff.mpr ⟨op, hcall⟩
  rw [acceptedOn] at hrest
  rw [acceptedOn, exchangesOn_cons_on hon, List.filter_append, List.length_append]
  omega

/-- A transaction that commits by itself is executed at most once, whatever is done with it and
beside it, exactly if the client can read each reply by which one of its requests is accepted. -/
theorem once_iff_legible (ht : s.transactions[i]? = some t) (hauto : t.autoCommit = true) :
    (∀ es u, Course s es u → Once i es u) ↔
      ∀ es u, Course s es u → ∀ x ∈ acceptedOn i es, x.reply.Legible t.url := by
  constructor
  · intro honce es u hes x hx
    obtain ⟨hon, haccepts⟩ := List.mem_filter.mp hx
    obtain ⟨e, he, ⟨op, hcall⟩, hmem⟩ := mem_exchangesOn.mp hon
    obtain ⟨before, behind, rfl⟩ := List.append_of_mem he
    obtain ⟨v, hbefore, hq, hbehind⟩ := hes.split
    obtain ⟨status, hw⟩ := hbefore.transaction ht
    rw [← hq.transactions] at hw
    by_cases hstatus : status = .pending
    · subst hstatus
      have hpending := pending?_eq_some.mpr ⟨hw, rfl⟩
      refine Classical.byContradiction fun hl => ?_
      obtain ⟨fs, u', hfs, htwice⟩ := exists_twice hcall hpending hauto hmem haccepts hl
      have hlength := (honce _ u' (hbefore.append (.call hq hfs))).1
      rw [acceptedOn_append, List.length_append] at hlength
      omega
    · have hidle := pending?_eq_none hw hstatus
      rw [Event.exchanges_of_sent (Event.sent_idle hcall hidle)] at hmem
      exact nomatch hmem
  · intro hlegible es u hes
    exact hes.once ht hauto (hlegible es u hes)

end Once

/-- A response that is no JSON. -/
def gibberish : Response := ⟨200, [], "not json".toUTF8.toList⟩

/-- An open transaction that commits by itself, when that response is to come. -/
def garbled : Session :=
  after { settings := .defaults, replies := [.response gibberish] } [.connect, .begin "t" true]

def creation : Operation := .run (Request.of .plain "CREATE (n)" [])

theorem garbled_not_once : ¬∀ es u, Course garbled es u → Once 0 es u := by
  have ht : garbled.transactions[0]? =
      some ⟨"http://localhost:7474/db/data/transaction/commit", true, .pending⟩ := by decide +kernel
  have hnext : garbled.next = .response gibberish := by decide +kernel
  have hunread : gibberish.value.toOption.isNone = true := by decide +kernel
  intro honce
  have hlegible := (once_iff_legible ht rfl).mp honce _ _ (course_one garbled (.operate 0 creation))
  have hsent : (Operation.carried creation
      ⟨"http://localhost:7474/db/data/transaction/commit", true, .pending⟩ garbled).length = 1 := by
    decide +kernel
  obtain ⟨x, hx⟩ := List.length_eq_one_iff.mp hsent
  have hp : garbled.pending? 0 = some _ := pending?_eq_some.mpr ⟨ht, rfl⟩
  have hexchanges := exchanges_of_carried (e := ⟨garbled, .operate 0 creation⟩) rfl hp hx
  have hmem : ⟨x, .response gibberish⟩ ∈ acceptedOn 0 [⟨garbled, .operate 0 creation⟩] := by
    rw [acceptedOn, exchangesOn_cons_on rfl, hexchanges, hnext]
    exact List.mem_cons_self
  obtain ⟨-, v, ⟨r, hr, -, hv⟩, -⟩ := hlegible _ hmem
  obtain rfl := Reply.response.inj hr
  rw [hv] at hunread
  exact nomatch hunread

end Session

end CypherLink

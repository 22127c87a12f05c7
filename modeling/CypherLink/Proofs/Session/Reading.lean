import CypherLink.Proofs.Session.Call

/-!
What a reply tells: whether it counts, which value it bears, and whether that value reports faults.
Main statements: `exists_exchange` and `faulty_of_resultsOf`.
-/

namespace CypherLink

namespace Reply

/-- Whether the reply is a response below status 300. -/
def accepts : Reply → Bool
  | .response r => r.status < 300
  | _ => false

/-- The reply is a response below status 300, of that value. -/
def Bears (reply : Reply) (v : Value) : Prop :=
  ∃ r, reply = .response r ∧ r.status < 300 ∧ r.value = .ok v

/-- The reply bears a map in which no faults are reported. -/
def Clear (reply : Reply) : Prop :=
  ∃ es, reply.Bears (.map es) ∧
    ∀ errors, Entries.find? es "errors" = some errors → errors.truthy = false

/-- The reply bears a map in which one or more faults are reported, each in a map of its own. -/
def Faulty (reply : Reply) : Prop :=
  ∃ es errors items, reply.Bears (.map es) ∧ Entries.find? es "errors" = some errors ∧
    errors.elements = .ok items ∧ items ≠ [] ∧ ∀ item ∈ items, ∃ fs, item = .map fs

theorem accepts_of_response {reply : Reply} {r : Response} (hr : reply = .response r)
    (hstatus : r.status < 300) : reply.accepts = true := by
  subst hr
  exact decide_eq_true hstatus

theorem Bears.accepts {reply : Reply} {v : Value} (h : reply.Bears v) : reply.accepts = true := by
  obtain ⟨r, hr, hstatus, -⟩ := h
  exact accepts_of_response hr hstatus

section Errors

variable {v : Value}

theorem member?_eq_ok {name : String} {w : Option Value} (h : v.member? name = .ok w) :
    ∃ es, v = .map es ∧ Entries.find? es name = w := by
  cases v with
  | map es => exact ⟨es, rfl, Except.ok.inj h⟩
  | _ => exact nomatch h

theorem errorText_eq_ok {text : String} (h : errorText v = .ok text) : ∃ es, v = .map es := by
  obtain ⟨w, hw, -⟩ := Outcome.bind_eq_ok.mp h
  obtain ⟨es, hes, -⟩ := member?_eq_ok hw
  exact ⟨es, hes⟩

theorem maps_of_errorTexts {items : List Value} {texts : List String}
    (h : items.mapM errorText = .ok texts) : ∀ item ∈ items, ∃ es, item = .map es := by
  induction items generalizing texts with
  | nil => exact nofun
  | cons item items ih =>
    rw [List.mapM_cons] at h
    obtain ⟨text, htext, h⟩ := Outcome.bind_eq_ok.mp h
    obtain ⟨texts, htexts, -⟩ := Outcome.bind_eq_ok.mp h
    intro x hx
    cases List.mem_cons.mp hx with
    | inl hitem => exact hitem ▸ errorText_eq_ok htext
    | inr hitems => exact ih htexts x hitems

theorem elements_ne_nil {items : List Value} (ht : v.truthy = true)
    (h : v.elements = .ok items) : items ≠ [] := by
  rintro rfl
  cases v with
  | list xs | tuple xs | set xs | frozen xs =>
    obtain rfl := Except.ok.inj h
    exact nomatch ht
  | text s =>
    have hs : s = "" := String.toList_eq_nil_iff.mp (List.map_eq_nil_iff.mp (Except.ok.inj h))
    subst hs
    exact nomatch ht
  | map es =>
    obtain rfl := List.map_eq_nil_iff.mp (Except.ok.inj h)
    exact nomatch ht
  | _ => exact nomatch h

theorem checkErrors_eq_ok (h : checkErrors v = .ok ()) :
    ∃ es, v = .map es ∧
      ∀ errors, Entries.find? es "errors" = some errors → errors.truthy = false := by
  obtain ⟨w, hw, h⟩ := Outcome.bind_eq_ok.mp h
  obtain ⟨es, hes, hfind⟩ := member?_eq_ok (Outcome.mapError_eq_ok.mp hw)
  refine ⟨es, hes, fun errors herrors => ?_⟩
  rw [herrors] at hfind
  subst hfind
  cases ht : errors.truthy with
  | false => rfl
  | true =>
    dsimp only at h
    rw [if_pos ht] at h
    obtain ⟨items, -, h⟩ := Outcome.bind_eq_ok.mp h
    obtain ⟨texts, -, h⟩ := Outcome.bind_eq_ok.mp h
    exact nomatch h

theorem checkErrors_eq_statements {items : List Value} {summary : String}
    (h : checkErrors v = .error (.statements items summary)) :
    ∃ es errors, v = .map es ∧ Entries.find? es "errors" = some errors ∧
      errors.elements = .ok items ∧ items ≠ [] ∧ ∀ item ∈ items, ∃ fs, item = .map fs := by
  cases Outcome.bind_eq_error.mp h with
  | inl h =>
    obtain ⟨e, -, he⟩ := Outcome.mapError_eq_error.mp h
    exact nomatch he
  | inr h =>
    obtain ⟨w, hw, h⟩ := h
    obtain ⟨es, hes, hfind⟩ := member?_eq_ok (Outcome.mapError_eq_ok.mp hw)
    cases w with
    | none => exact nomatch h
    | some errors =>
      dsimp only at h
      split at h
      · next ht =>
        obtain h | ⟨found, hfound, h⟩ := Outcome.bind_eq_error.mp h
        · obtain ⟨e, -, he⟩ := Outcome.mapError_eq_error.mp h
          exact nomatch he
        have hitems := Outcome.mapError_eq_ok.mp hfound
        obtain h | ⟨texts, htexts, h⟩ := Outcome.bind_eq_error.mp h
        · obtain ⟨e, -, he⟩ := Outcome.mapError_eq_error.mp h
          exact nomatch he
        obtain ⟨rfl, -⟩ := ReplyError.statements.inj (Except.error.inj h)
        exact ⟨es, errors, hes, hfind, hitems, elements_ne_nil ht hitems,
          maps_of_errorTexts (Outcome.mapError_eq_ok.mp htexts)⟩
      · exact nomatch h

theorem checkErrors_of_results_eq_statements {items : List Value} {summary : String}
    (h : results v = .error (.statements items summary)) :
    checkErrors v = .error (.statements items summary) := by
  obtain h | ⟨u, -, h⟩ := Outcome.bind_eq_error.mp h
  · exact h
  · obtain ⟨e, -, he⟩ := Outcome.mapError_eq_error.mp h
    exact nomatch he

theorem checkErrors_of_results {rs : List QueryResult} (h : results v = .ok rs) :
    checkErrors v = .ok () := by
  obtain ⟨u, hu, -⟩ := Outcome.bind_eq_ok.mp h
  exact hu

end Errors

end Reply

/-- The request has that method and goes to that address, as the client writes it. -/
def Sent.Addressed (x : Sent) (method : Method) (url : String) : Prop :=
  x.method = method ∧ ∃ target, Url.target url = .ok target ∧ x.url = target.text

namespace Session

variable {s : Session} {o : Outgoing} {target : Url} {body : String} {r : Response} {v : Value}
  {f : Failure}

theorem ready_eq_ok (h : o.ready = .ok (target, body)) :
    Url.target o.url = .ok target ∧ payloadText o.payload = .ok body := by
  unfold Outgoing.ready at h
  split at h
  · exact nomatch h
  · next target' htarget =>
    split at h
    · exact nomatch h
    · next body' hbody =>
      split at h
      · exact nomatch h
      · obtain ⟨rfl, rfl⟩ := Prod.mk.inj (Except.ok.inj h)
        exact ⟨htarget, hbody⟩

theorem addressed_sent (h : o.ready = .ok (target, body)) :
    (s.settings.sent o.method target body).Addressed o.method o.url :=
  ⟨rfl, target, (ready_eq_ok h).1, rfl⟩

theorem verdict_eq_ok (h : s.verdict o = .ok (target, r)) :
    s.connected = true ∧ ∃ body, o.ready = .ok (target, body) ∧ o.judged target s.next = .ok r := by
  unfold verdict at h
  split at h
  · next hc =>
    obtain ⟨⟨target', body⟩, hready, h⟩ := Outcome.bind_eq_ok.mp h
    obtain ⟨r', hr, h⟩ := Outcome.bind_eq_ok.mp h
    obtain ⟨rfl, rfl⟩ := Prod.mk.inj (Except.ok.inj h)
    exact ⟨hc, body, hready, hr⟩
  · exact nomatch h

theorem carried_of_verdict (h : s.verdict o = .ok (target, r)) :
    ∃ x, s.carried o = [x] ∧ x.Addressed o.method o.url ∧ s.next = .response r ∧ r.status < 300 := by
  obtain ⟨hc, body, hready, hr⟩ := verdict_eq_ok h
  obtain ⟨hnext, hstatus⟩ := Outgoing.response_of_judged hr
  exact ⟨_, carried_of_ok hc hready, addressed_sent hready, hnext, hstatus⟩

theorem carried_of_valueOf (h : s.valueOf o = .ok (r, v)) :
    ∃ x, s.carried o = [x] ∧ x.Addressed o.method o.url ∧ s.next.Bears v := by
  obtain ⟨⟨target, r'⟩, hverdict, h⟩ := Outcome.bind_eq_ok.mp h
  obtain ⟨x, hx, hto, hnext, hstatus⟩ := carried_of_verdict hverdict
  obtain ⟨v', hv, h⟩ := Outcome.bind_eq_ok.mp h
  obtain ⟨rfl, rfl⟩ := Prod.mk.inj (Except.ok.inj h)
  exact ⟨x, hx, hto, r', hnext, hstatus, Outcome.mapError_eq_ok.mp hv⟩

theorem isStatements_of_ready (h : o.ready = .error f) : f.isStatements = false := by
  unfold Outgoing.ready at h
  split at h
  · exact Except.error.inj h ▸ rfl
  · split at h
    · exact Except.error.inj h ▸ rfl
    · split at h
      · exact Except.error.inj h ▸ rfl
      · exact nomatch h

theorem isStatements_of_redirected {location : String}
    (h : o.redirected target location = .error f) : f.isStatements = false := by
  unfold Outgoing.redirected at h
  split at h
  · exact nomatch h
  all_goals exact Except.error.inj h ▸ rfl

theorem isStatements_of_weighed (h : o.weighed target r = .error f) : f.isStatements = false := by
  unfold Outgoing.weighed at h
  split at h
  · exact Except.error.inj h ▸ rfl
  · obtain h | ⟨u, -, h⟩ := Outcome.bind_eq_error.mp h
    · cases hl : r.location? with
      | none =>
        rw [hl] at h
        exact nomatch h
      | some location =>
        rw [hl] at h
        exact isStatements_of_redirected h
    · unfold Outgoing.counted at h
      split at h
      · exact Except.error.inj h ▸ rfl
      · exact nomatch h

theorem isStatements_of_verdict (h : s.verdict o = .error f) : f.isStatements = false := by
  unfold verdict at h
  split at h
  · obtain h | ⟨ready, -, h⟩ := Outcome.bind_eq_error.mp h
    · exact isStatements_of_ready h
    · obtain h | ⟨r, -, h⟩ := Outcome.bind_eq_error.mp h
      · cases hn : s.next with
        | response r =>
          rw [hn] at h
          exact isStatements_of_weighed h
        | _ =>
          rw [hn] at h
          exact Except.error.inj h ▸ rfl
      · exact nomatch h
  · exact Except.error.inj h ▸ rfl

/-- Only what a reply says is taken for faults in the statements. -/
theorem isStatements_of_valueOf (h : s.valueOf o = .error f) : f.isStatements = false := by
  obtain h | ⟨⟨target, r⟩, -, h⟩ := Outcome.bind_eq_error.mp h
  · exact isStatements_of_verdict h
  · obtain h | ⟨v, -, h⟩ := Outcome.bind_eq_error.mp h
    · obtain ⟨cause, -, rfl⟩ := Outcome.mapError_eq_error.mp h
      cases cause with
      | notText => rfl
      | notValue e => cases e <;> rfl
    · exact nomatch h

theorem resultsOf_eq_ok {rs : List QueryResult} (h : s.resultsOf o = .ok rs) :
    ∃ r v, s.valueOf o = .ok (r, v) ∧ Reply.results v = .ok rs := by
  obtain ⟨⟨r, v⟩, hv, h⟩ := Outcome.bind_eq_ok.mp h
  exact ⟨r, v, hv, Outcome.mapError_eq_ok.mp h⟩

theorem checkOf_eq_ok (h : s.checkOf o = .ok ()) :
    ∃ r v, s.valueOf o = .ok (r, v) ∧ Reply.checkErrors v = .ok () := by
  obtain ⟨⟨r, v⟩, hv, h⟩ := Outcome.bind_eq_ok.mp h
  exact ⟨r, v, hv, Outcome.mapError_eq_ok.mp h⟩

theorem ofReply_eq_statements {e : ReplyError} (h : Failure.ofReply e = f)
    (hf : f.isStatements = true) : ∃ items summary, e = .statements items summary := by
  subst h
  cases e with
  | statements items summary => exact ⟨items, summary, rfl⟩
  | access e => exact nomatch hf

theorem checkOf_eq_statements (h : s.checkOf o = .error f) (hf : f.isStatements = true) :
    ∃ r v items summary, s.valueOf o = .ok (r, v) ∧
      Reply.checkErrors v = .error (.statements items summary) := by
  obtain h | ⟨⟨r, v⟩, hv, h⟩ := Outcome.bind_eq_error.mp h
  · rw [isStatements_of_valueOf h] at hf
    exact nomatch hf
  · obtain ⟨e, he, hreply⟩ := Outcome.mapError_eq_error.mp h
    obtain ⟨items, summary, rfl⟩ := ofReply_eq_statements hreply hf
    exact ⟨r, v, items, summary, hv, he⟩

theorem resultsOf_eq_statements (h : s.resultsOf o = .error f) (hf : f.isStatements = true) :
    ∃ r v items summary, s.valueOf o = .ok (r, v) ∧
      Reply.results v = .error (.statements items summary) := by
  obtain h | ⟨⟨r, v⟩, hv, h⟩ := Outcome.bind_eq_error.mp h
  · rw [isStatements_of_valueOf h] at hf
    exact nomatch hf
  · obtain ⟨e, he, hreply⟩ := Outcome.mapError_eq_error.mp h
    obtain ⟨items, summary, rfl⟩ := ofReply_eq_statements hreply hf
    exact ⟨r, v, items, summary, hv, he⟩

theorem clear_of_checkErrors (hb : s.next.Bears v) (h : Reply.checkErrors v = .ok ()) :
    s.next.Clear := by
  obtain ⟨es, rfl, hnone⟩ := Reply.checkErrors_eq_ok h
  exact ⟨es, hb, hnone⟩

theorem faulty_of_checkErrors {items : List Value} {summary : String} (hb : s.next.Bears v)
    (h : Reply.checkErrors v = .error (.statements items summary)) : s.next.Faulty := by
  obtain ⟨es, errors, rfl, hfaults⟩ := Reply.checkErrors_eq_statements h
  exact ⟨es, errors, items, hb, hfaults⟩

end Session

namespace Action

variable {s : Session} {o : Outgoing} {action : Action} {f : Failure}

/-- An operation that asks the server and succeeds was answered. -/
theorem answered_eq_ok (h : action.answered s o = .ok ()) :
    ∃ x, s.carried o = [x] ∧ x.Addressed o.method o.url ∧ s.next.accepts = true ∧
      (action ≠ .rollback → s.next.Clear) ∧
      (action = .run → ∃ v rs, s.next.Bears v ∧ Reply.results v = .ok rs) := by
  cases action with
  | run =>
    obtain ⟨rs, hrs⟩ : ∃ rs, s.resultsOf o = .ok rs := by
      cases hrs : s.resultsOf o with
      | ok rs => exact ⟨rs, rfl⟩
      | error e =>
        rw [answered, hrs] at h
        exact nomatch h
    obtain ⟨r, v, hv, hresults⟩ := Session.resultsOf_eq_ok hrs
    obtain ⟨x, hx, hto, hb⟩ := Session.carried_of_valueOf hv
    have hclear := Session.clear_of_checkErrors hb (Reply.checkErrors_of_results hresults)
    exact ⟨x, hx, hto, hb.accepts, fun _ => hclear, fun _ => ⟨v, rs, hb, hresults⟩⟩
  | commit =>
    obtain ⟨r, v, hv, hcheck⟩ := Session.checkOf_eq_ok h
    obtain ⟨x, hx, hto, hb⟩ := Session.carried_of_valueOf hv
    exact ⟨x, hx, hto, hb.accepts, fun _ => Session.clear_of_checkErrors hb hcheck, nofun⟩
  | rollback =>
    cases hverdict : s.verdict o with
    | error e =>
      rw [answered, hverdict] at h
      exact nomatch h
    | ok found =>
      obtain ⟨x, hx, hto, hnext, hstatus⟩ := Session.carried_of_verdict hverdict
      have haccepts := Reply.accepts_of_response hnext hstatus
      exact ⟨x, hx, hto, haccepts, fun hr => absurd rfl hr, nofun⟩

/-- Faults in the statements come from the reply. -/
theorem answered_eq_statements (h : action.answered s o = .error f) (hf : f.isStatements = true) :
    action ≠ .rollback ∧ ∃ x, s.carried o = [x] ∧ x.Addressed o.method o.url ∧ s.next.Faulty := by
  cases action with
  | run =>
    obtain ⟨e, he, hef⟩ : ∃ e, s.resultsOf o = .error e ∧ e = f := by
      cases hrs : s.resultsOf o with
      | ok rs =>
        rw [answered, hrs] at h
        exact nomatch h
      | error e =>
        rw [answered, hrs] at h
        exact ⟨e, rfl, Except.error.inj h⟩
    subst hef
    obtain ⟨r, v, items, summary, hv, hresults⟩ := Session.resultsOf_eq_statements he hf
    obtain ⟨x, hx, hto, hb⟩ := Session.carried_of_valueOf hv
    have hcheck := Reply.checkErrors_of_results_eq_statements hresults
    exact ⟨nofun, x, hx, hto, Session.faulty_of_checkErrors hb hcheck⟩
  | commit =>
    obtain ⟨r, v, items, summary, hv, hcheck⟩ := Session.checkOf_eq_statements h hf
    obtain ⟨x, hx, hto, hb⟩ := Session.carried_of_valueOf hv
    exact ⟨nofun, x, hx, hto, Session.faulty_of_checkErrors hb hcheck⟩
  | rollback =>
    cases hverdict : s.verdict o with
    | error e =>
      rw [answered, hverdict] at h
      rw [← Except.error.inj h, Session.isStatements_of_verdict hverdict] at hf
      exact nomatch hf
    | ok found =>
      rw [answered, hverdict] at h
      exact nomatch h

end Action

end CypherLink

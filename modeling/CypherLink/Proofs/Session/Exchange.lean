import CypherLink.Proofs.Outcome
import CypherLink.Proofs.Session.Act

/-!
What one request to the server comes to. The client is handed a method, an address and perhaps a
value; it sends them as one request, or it refuses them and nothing is sent. Each request takes one
reply. `Ends act s outcome t` says that an operation ends so from `s`, and in `t` but for the log.
Main statements: `ends_send`, `ends_execute`, `ends_commitAt` and `ends_rollbackAt`.
-/

namespace CypherLink

/-- What the client is handed for one request. -/
structure Outgoing where
  method : Method
  url : String
  payload : Option Value

namespace Outgoing

/-- Carries payloads to an address. -/
def posting (url : String) (payloads : List Payload) : Outgoing :=
  ⟨.post, url, some (Session.batch payloads)⟩

/-- Asks for a commit of the transaction at an address. -/
def committing (url : String) : Outgoing := posting (Session.commitUrl url) []

/-- Asks that the transaction at an address be rolled back. -/
def withdrawing (url : String) : Outgoing := ⟨.delete, url, none⟩

/-- The address and the body under which the client sends the request, or why it refuses to. -/
def ready (o : Outgoing) : Except Failure (Url × String) :=
  match Url.target o.url with
  | .error e => .error (.badUrl e)
  | .ok target =>
    match Session.payloadText o.payload with
    | .error e => .error (.write e)
    | .ok body =>
      match Ascii.fault? target.site.toList with
      | some fault => .error (.header (.notAscii fault))
      | none => .ok (target, body)

/-- A redirect is not followed, but it has to lead somewhere. -/
def redirected (o : Outgoing) (target : Url) (location : String) : Except Failure Unit :=
  match target.follow location with
  | .ok _ => .ok ()
  | .error (.location _) => .error (.transport o.method o.url "RemoteProtocolError")
  | .error (.goal e) => .error (.badUrl e)
  | .error (.hostName e) => .error (.badHost e)
  | .error (.site fault) => .error (.header (.notAscii fault))

/-- A response counts below status 300. -/
def counted (o : Outgoing) (r : Response) : Except Failure Response :=
  if 300 ≤ r.status then .error (.status o.method o.url r.status) else .ok r

/-- A response of which the address can be known, in the end, and the status. -/
def weighed (o : Outgoing) (target : Url) (r : Response) : Except Failure Response :=
  if !target.isAbsolute then .error (.unknownUrl target.text)
  else do
    r.location?.forM (o.redirected target)
    o.counted r

/-- The response in a reply, if there is one and it counts. -/
def judged (o : Outgoing) (target : Url) : Reply → Except Failure Response
  | .outage message => .error (.outage message)
  | .misheaded e => .error (.header e)
  | .fault name _ => .error (.transport o.method o.url name)
  | .response r => o.weighed target r

variable {o : Outgoing} {target : Url} {r : Response}

theorem response_of_judged {reply : Reply} (h : o.judged target reply = .ok r) :
    reply = .response r ∧ r.status < 300 := by
  cases reply with
  | response q =>
    rw [judged, weighed] at h
    split at h
    · exact nomatch h
    · obtain ⟨-, -, h⟩ := Outcome.bind_eq_ok.mp h
      rw [counted] at h
      split at h
      · exact nomatch h
      · next hq =>
        obtain rfl := Except.ok.inj h
        exact ⟨rfl, by omega⟩
  | fault name message => exact nomatch h
  | outage message => exact nomatch h
  | misheaded e => exact nomatch h

/-- Below 300 nothing is redirected, so a response counts if the address is a whole one. -/
theorem judged_response (hr : r.status < 300) :
    o.judged target (.response r) =
      if target.isAbsolute then .ok r else .error (.unknownUrl target.text) := by
  have hl : r.location? = none := by
    apply Response.location?_of_not_redirect
    intro hm
    simp only [Response.redirects, List.mem_cons, List.not_mem_nil, or_false] at hm
    omega
  rw [judged, weighed, hl]
  cases target.isAbsolute with
  | false => rfl
  | true =>
    rw [if_neg (by decide), if_pos rfl]
    exact if_neg (by omega)

end Outgoing

namespace Session

/-- The reply to the next request. -/
def next (s : Session) : Reply := s.replies.headD .blank

/-- The session after these requests, each of which took a reply. -/
def past (s : Session) (xs : List Sent) : Session :=
  { s with sent := s.sent ++ xs, replies := s.replies.drop xs.length }

/-- What goes over the wire when the client is handed a request. -/
def carried (s : Session) (o : Outgoing) : List Sent :=
  match s.connected, o.ready with
  | true, .ok (target, body) => [s.settings.sent o.method target body]
  | _, _ => []

/-- The response to a request, with the address used, if there is one and it counts. -/
def verdict (s : Session) (o : Outgoing) : Except Failure (Url × Response) :=
  if s.connected then do
    let (target, _) ← o.ready
    return (target, ← o.judged target s.next)
  else .error .notConnected

/-- The value in the response to a request. -/
def valueOf (s : Session) (o : Outgoing) : Except Failure (Response × Value) := do
  let (target, r) ← s.verdict o
  return (r, ← r.value.mapError (.ofUnreadable target.text))

/-- The results in the response to a request. -/
def resultsOf (s : Session) (o : Outgoing) : Except Failure (List QueryResult) := do
  let (_, v) ← s.valueOf o
  (Reply.results v).mapError .ofReply

/-- Whether the response to a request reports no faults. -/
def checkOf (s : Session) (o : Outgoing) : Except Failure Unit := do
  let (_, v) ← s.valueOf o
  (Reply.checkErrors v).mapError .ofReply

/-- Only the log is another than before. -/
def Noted (s t : Session) : Prop := ∃ log, t = { s with log := log }

instance : IsPreorder Session Noted where
  refl s := ⟨s.log, rfl⟩
  trans := by
    rintro s t u ⟨log, rfl⟩ ⟨log', rfl⟩
    exact ⟨log', rfl⟩

@[simp] theorem past_nil (s : Session) : s.past [] = s := by
  simp [past]

section Noted

variable {s t : Session} (h : Noted s t)

include h

theorem Noted.past (xs : List Sent) : Noted (s.past xs) (t.past xs) := by
  obtain ⟨log, rfl⟩ := h
  exact ⟨log, rfl⟩

theorem Noted.connected : t.connected = s.connected := by
  obtain ⟨log, rfl⟩ := h
  rfl

theorem Noted.transactions : t.transactions = s.transactions := by
  obtain ⟨log, rfl⟩ := h
  rfl

theorem Noted.sent : t.sent = s.sent := by
  obtain ⟨log, rfl⟩ := h
  rfl

theorem Noted.replies : t.replies = s.replies := by
  obtain ⟨log, rfl⟩ := h
  rfl

theorem Noted.verdict (o : Outgoing) : t.verdict o = s.verdict o := by
  obtain ⟨log, rfl⟩ := h
  rfl

theorem Noted.carried (o : Outgoing) : t.carried o = s.carried o := by
  obtain ⟨log, rfl⟩ := h
  rfl

end Noted

/-- The operation ends so, and in that session but for the log. -/
def Ends {α : Type} (act : Act α) (s : Session) (outcome : Except Failure α) (t : Session) : Prop :=
  ∃ u, act s = (outcome, u) ∧ Noted t u

section Ends

variable {α β : Type} {act : Act α} {s t u : Session} {outcome : Except Failure α} {a : α}

theorem ends_of_eq (h : act s = (outcome, t)) : Ends act s outcome t := ⟨t, h, refl t⟩

theorem Ends.noted (h : Ends act s outcome t) (ht : Noted u t) : Ends act s outcome u := by
  obtain ⟨v, hv, htv⟩ := h
  exact ⟨v, hv, IsTrans.trans _ _ _ ht htv⟩

theorem ends_pure (a : α) : Ends (pure a) s (.ok a) s := ends_of_eq rfl

theorem ends_throw (e : Failure) : Ends (throw e : Act α) s (.error e) s := ends_of_eq rfl

theorem ofExcept_apply {ε : Type} (f : ε → Failure) (x : Except ε α) :
    ofExcept f x s = (x.mapError f, s) := by
  cases x <;> rfl

theorem ends_note (severity : Severity) (logger : Logger) (message : String) :
    Ends (note severity logger message) s (.ok ()) s := ⟨_, rfl, _, rfl⟩

theorem Ends.observe (h : Ends act s outcome t) : Ends (observe act) s (.ok outcome) t := by
  obtain ⟨u, hu, ht⟩ := h
  refine ⟨u, ?_, ht⟩
  change (Except.ok (act s).1, (act s).2) = _
  rw [hu]

theorem Ends.bind {f : α → Act β} {outcome : Except Failure β} (h : Ends act s (.ok a) t)
    (hf : ∀ v, Noted t v → Ends (f a) v outcome u) : Ends (act >>= f) s outcome u := by
  obtain ⟨v, hv, ht⟩ := h
  obtain ⟨w, hw, hu⟩ := hf v ht
  exact ⟨w, (bind_ok s hv f).trans hw, hu⟩

theorem Ends.bind_error {f : α → Act β} {e : Failure} (h : Ends act s (.error e) t) :
    Ends (act >>= f) s (.error e) t := by
  obtain ⟨v, hv, ht⟩ := h
  exact ⟨v, Session.bind_error s hv f, ht⟩

/-- What follows looks at the result only. -/
theorem Ends.bind_except {f : α → Act β} {g : α → Except Failure β} (h : Ends act s outcome t)
    (hf : ∀ a v, Ends (f a) v (g a) v) : Ends (act >>= f) s (outcome >>= g) t := by
  cases outcome with
  | error e => exact h.bind_error
  | ok a => exact h.bind fun v hv => (hf a v).noted hv

theorem Ends.done {f : α → Act β} {b : β} (h : Ends act s outcome t)
    (hf : ∀ a v, f a v = (.ok b, v)) : Ends (act >>= f) s (outcome.map fun _ => b) t := by
  have hbind := h.bind_except (g := fun _ => .ok b) fun a v => ends_of_eq (hf a v)
  cases outcome <;> exact hbind

theorem ends_forM {xs : List β} {f : β → Act PUnit} (h : ∀ x v, Ends (f x) v (.ok ()) v) :
    Ends (xs.forM f) s (.ok ()) s := by
  induction xs generalizing s with
  | nil => exact ends_pure _
  | cons x xs ih =>
    rw [List.forM_eq_forM, List.forM_cons]
    exact (h x s).bind fun v hv => ih.noted hv

end Ends

section Wire

variable {s : Session}

theorem requireConnected_apply :
    requireConnected s = (if s.connected then .ok () else .error .notConnected, s) := by
  unfold requireConnected
  rw [bind_ok s (get_apply s)]
  cases s.connected <;> rfl

theorem exchange_apply (method : Method) (url : Url) (body : String) :
    exchange method url body s = (.ok s.next, s.past [s.settings.sent method url body]) := by
  have hsent : (modify fun s => { s with sent := s.sent ++ [s.settings.sent method url body] } :
      Act PUnit) s = (.ok (), { s with sent := s.sent ++ [s.settings.sent method url body] }) := rfl
  unfold exchange nextReply next past
  rw [bind_ok s hsent, bind_ok _ (get_apply _)]
  cases s.replies <;> rfl

theorem requireAscii_apply (text : String) :
    requireAscii text s =
      (match Ascii.fault? text.toList with
        | some fault => .error (.header (.notAscii fault))
        | none => .ok (), s) := by
  unfold requireAscii
  cases Ascii.fault? text.toList <;> rfl

theorem ends_checkRedirect (o : Outgoing) (target : Url) (location : String) :
    Ends (checkRedirect o.method o.url target location) s (o.redirected target location) s := by
  unfold checkRedirect Outgoing.redirected
  cases target.follow location with
  | ok _ => exact ends_pure ()
  | error e =>
    cases e with
    | location e => exact (ends_note _ _ _).bind fun v hv => (ends_throw _).noted hv
    | goal e => exact ends_throw _
    | hostName e => exact ends_throw _
    | site fault => exact ends_throw _

theorem ends_counted (o : Outgoing) (target : Url) (r : Response) :
    Ends (do
        note .debug .http ("Status code: " ++ toString r.status)
        if 300 ≤ r.status then
          note .warning .http (o.method.name ++ " " ++ o.url ++ " returned " ++ toString r.status)
          throw (.status o.method o.url r.status)
        return (target, r)) s ((o.counted r).map (target, ·)) s := by
  unfold Outgoing.counted
  refine (ends_note _ _ _).bind fun v hv => ?_
  dsimp only
  split
  · refine (ends_note _ _ _).bind fun w hw => ?_
    exact (ends_throw _).noted (IsTrans.trans _ _ _ hv hw)
  · exact (ends_pure _).noted hv

theorem ends_weighed (o : Outgoing) (target : Url) (r : Response) :
    Ends (do
        if !target.isAbsolute then throw (.unknownUrl target.text)
        if let some location := r.location? then checkRedirect o.method o.url target location
        note .debug .http ("Status code: " ++ toString r.status)
        if 300 ≤ r.status then
          note .warning .http (o.method.name ++ " " ++ o.url ++ " returned " ++ toString r.status)
          throw (.status o.method o.url r.status)
        return (target, r)) s ((o.weighed target r).map (target, ·)) s := by
  unfold Outgoing.weighed
  cases target.isAbsolute with
  | false => exact ends_throw _
  | true =>
    cases r.location? with
    | none => exact ends_counted o target r
    | some location =>
      have hredirect := ends_checkRedirect (s := s) o target location
      cases hl : o.redirected target location with
      | error e =>
        rw [hl] at hredirect
        have hweighed : (Option.some location).forM (o.redirected target) = .error e := hl
        rw [if_neg (by decide), hweighed]
        exact hredirect.bind_error
      | ok u =>
        rw [hl] at hredirect
        have hweighed : (Option.some location).forM (o.redirected target) = .ok () := hl
        rw [if_neg (by decide), hweighed]
        exact hredirect.bind fun v hv => (ends_counted o target r).noted hv

theorem carried_of_error {o : Outgoing} {e : Failure} (h : o.ready = .error e) :
    s.carried o = [] := by
  rw [carried, h]
  cases s.connected <;> rfl

theorem carried_of_ok {o : Outgoing} {target : Url} {body : String} (hc : s.connected = true)
    (h : o.ready = .ok (target, body)) :
    s.carried o = [s.settings.sent o.method target body] := by
  rw [carried, hc, h]

theorem carried_of_disconnected {o : Outgoing} (hc : s.connected = false) : s.carried o = [] := by
  rw [carried, hc]

/-- The client looks at what it is handed before it sends anything. -/
theorem ready_apply {α : Type} (o : Outgoing) (f : Url → String → Act α) :
    (do
      let target ← ofExcept .badUrl (Url.target o.url)
      let body ← ofExcept .write (payloadText o.payload)
      requireAscii target.site
      f target body) s =
      match o.ready with
      | .ok (target, body) => f target body s
      | .error e => (.error e, s) := by
  unfold Outgoing.ready
  cases Url.target o.url with
  | error e => rfl
  | ok target =>
    rw [bind_ok s (ofExcept_apply _ _)]
    cases payloadText o.payload with
    | error e => rfl
    | ok body =>
      rw [bind_ok s (ofExcept_apply _ _)]
      have hsite := requireAscii_apply (s := s) target.site
      cases hf : Ascii.fault? target.site.toList with
      | none =>
        rw [hf] at hsite
        rw [bind_ok s hsite]
        dsimp only
        rw [hf]
      | some fault =>
        rw [hf] at hsite
        rw [bind_error s hsite]
        dsimp only
        rw [hf]

/-- One request, whatever comes of it. -/
theorem ends_send (o : Outgoing) :
    Ends (send o.method o.url o.payload) s (s.verdict o) (s.past (s.carried o)) := by
  unfold send verdict
  cases hc : s.connected with
  | false =>
    rw [carried_of_disconnected hc, past_nil]
    have hoff : requireConnected s = (.error .notConnected, s) := by
      rw [requireConnected_apply, hc]
      rfl
    exact (ends_of_eq hoff).bind_error
  | true =>
    have hon : requireConnected s = (.ok (), s) := by
      rw [requireConnected_apply, hc]
      rfl
    rw [if_pos rfl]
    unfold Ends
    rw [bind_ok s hon, ready_apply]
    cases hr : o.ready with
    | error e =>
      rw [carried_of_error hr, past_nil]
      exact ⟨s, rfl, refl s⟩
    | ok ready =>
      obtain ⟨target, body⟩ := ready
      rw [carried_of_ok hc hr]
      refine (ends_of_eq (exchange_apply _ _ _)).bind fun v hv => ?_
      cases hn : s.next with
      | outage message => exact (ends_throw _).noted hv
      | misheaded e => exact (ends_throw _).noted hv
      | fault name message =>
        refine (ends_note _ _ _).bind fun w hw => ?_
        exact (ends_throw _).noted (IsTrans.trans _ _ _ hv hw)
      | response r => exact (ends_weighed o target r).noted hv

/-- One request of which the response is read as a value. -/
theorem ends_sendForValue (o : Outgoing) :
    Ends (sendForValue o.method o.url o.payload) s (s.valueOf o) (s.past (s.carried o)) := by
  refine (ends_send o).bind_except fun a v => ?_
  obtain ⟨target, r⟩ := a
  exact (ends_of_eq (ofExcept_apply _ _)).bind_except fun _ _ => ends_pure _

/-- The log has no part in a request. -/
theorem ends_sendForValue_noted {t : Session} (h : Noted s t) (o : Outgoing) :
    Ends (sendForValue o.method o.url o.payload) t (s.valueOf o) (s.past (s.carried o)) := by
  have ht := ends_sendForValue (s := t) o
  unfold valueOf at ht ⊢
  rw [h.verdict, h.carried] at ht
  exact ht.noted (h.past _)

theorem execute_unpayable {url : String} {requests : List Request} {e : AccessError}
    (h : requests.mapM Request.payload = .error e) :
    execute url requests s = (.error (.access e), s) := by
  unfold execute
  rw [h]
  rfl

theorem ends_execute {requests : List Request} {payloads : List Payload} {t : Session}
    (ht : Noted s t) (url : String) (h : requests.mapM Request.payload = .ok payloads) :
    Ends (execute url requests) t (s.resultsOf (.posting url payloads))
      (s.past (s.carried (.posting url payloads))) := by
  unfold execute
  rw [h]
  refine Ends.bind ((ends_pure payloads).noted ht) fun u hu => ?_
  refine Ends.bind ((ends_forM fun request v => ends_note _ _ _).noted hu) fun v hv => ?_
  refine (ends_sendForValue_noted hv (.posting url payloads)).bind_except fun _ _ => ?_
  exact ends_of_eq (ofExcept_apply _ _)

theorem ends_commitAt (url : String) :
    Ends (commitAt url) s (s.checkOf (.committing url))
      (s.past (s.carried (.committing url))) :=
  (ends_sendForValue (.committing url)).bind_except fun _ _ => ends_of_eq (ofExcept_apply _ _)

theorem ends_rollbackAt (url : String) :
    Ends (rollbackAt url) s ((s.verdict (.withdrawing url)).map fun _ => ())
      (s.past (s.carried (.withdrawing url))) :=
  (ends_send (.withdrawing url)).done fun _ _ => rfl

end Wire

end Session

end CypherLink

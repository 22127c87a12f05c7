import Mathlib.Order.Defs.Unbundled
import CypherLink.Session.Program

/-!
What operations do to a session. `Leads R act` says that the session after `act` is related to the
one before it, however `act` ends; `Keeps R act` says so of its transactions, and `Silent act` that
neither they nor the wire are touched. Main statements: `leads_bind`, and that nothing on the way to
the server touches a transaction.
-/

namespace CypherLink

namespace Session

section Apply

variable {α β : Type} (s : Session)

theorem get_apply : (get : Act Session) s = (.ok s, s) := rfl

theorem bind_ok {act : Act α} {a : α} {t : Session} (h : act s = (.ok a, t)) (f : α → Act β) :
    (act >>= f) s = f a t := by
  change ExceptT.bindCont f (act s).1 (act s).2 = _
  rw [h]
  rfl

theorem bind_error {act : Act α} {e : Failure} {t : Session} (h : act s = (.error e, t))
    (f : α → Act β) : (act >>= f) s = (.error e, t) := by
  change ExceptT.bindCont f (act s).1 (act s).2 = _
  rw [h]
  rfl

end Apply

section Connect

variable {s : Session}

theorem connect_connected (hc : s.connected = true) : connect s = (.ok (), s) := by
  unfold connect
  rw [bind_ok s (get_apply s), if_pos hc]
  rfl

theorem connect_ready (hc : s.connected = false)
    (h : Ascii.fault? s.settings.userAgent.toList = none) :
    connect s = (.ok (), { s with
      connected := true
      log := s.log ++ [⟨.info, .http, "HTTP driver ready for " ++ s.settings.uri⟩] }) := by
  unfold connect requireAscii
  rw [bind_ok s (get_apply s), hc, h]
  rfl

theorem connect_refused {fault : Ascii.Fault} (hc : s.connected = false)
    (h : Ascii.fault? s.settings.userAgent.toList = some fault) :
    connect s = (.error (.header (.notAscii fault)), s) := by
  unfold connect requireAscii
  rw [bind_ok s (get_apply s), hc, h]
  rfl

end Connect

/-- However the operation ends, the session that it leaves is related to the one it found. -/
def Leads {α : Type} (R : Session → Session → Prop) (act : Act α) : Prop := ∀ s, R s (act s).2

theorem leads_observe {α : Type} {R : Session → Session → Prop} {act : Act α} (h : Leads R act) :
    Leads R (observe act) := h

section Leads

variable {α β : Type} {R : Session → Session → Prop} [IsPreorder Session R] {act : Act α}

theorem leads_pure (a : α) : Leads R (pure a : Act α) := fun s => refl s

theorem leads_throw (e : Failure) : Leads R (throw e : Act α) := fun s => refl s

theorem leads_bind {f : α → Act β} (h : Leads R act) (hf : ∀ a, Leads R (f a)) :
    Leads R (act >>= f) := by
  intro s
  have hs := h s
  cases ha : act s with
  | mk outcome t =>
    rw [ha] at hs
    cases outcome with
    | error e =>
      rw [bind_error s ha]
      exact hs
    | ok a =>
      rw [bind_ok s ha]
      exact IsTrans.trans _ _ _ hs (hf a t)

theorem leads_forM {xs : List β} {f : β → Act PUnit} (h : ∀ x, Leads R (f x)) :
    Leads R (xs.forM f) := by
  induction xs with
  | nil => exact leads_pure _
  | cons x xs ih =>
    rw [List.forM_eq_forM, List.forM_cons]
    exact leads_bind (h x) fun _ => ih

theorem leads_mapM {xs : List β} {f : β → Act α} (h : ∀ x, Leads R (f x)) :
    Leads R (xs.mapM f) := by
  induction xs with
  | nil => exact leads_pure _
  | cons x xs ih =>
    rw [List.mapM_cons]
    exact leads_bind (h x) fun _ => leads_bind ih fun _ => leads_pure _

theorem leads_get : Leads R (get : Act Session) := fun s => refl s

theorem leads_ofExcept {ε : Type} (f : ε → Failure) (x : Except ε α) :
    Leads R (ofExcept f x) := by
  cases x with
  | error e => exact leads_throw _
  | ok a => exact leads_pure a

theorem leads_requireAscii (text : String) : Leads R (requireAscii text) := by
  unfold requireAscii
  split
  · exact leads_throw _
  · exact leads_pure _

theorem leads_requireConnected : Leads R requireConnected := by
  refine leads_bind leads_get fun s => ?_
  split
  · exact leads_throw _
  · exact leads_pure _

theorem leads_endpoint : Leads R endpoint := leads_bind leads_get fun _ => leads_pure _

end Leads

-- What a request does to a session is to take its reply and to write to the client's log.
section Wire

variable {R : Session → Session → Prop} [IsPreorder Session R]
  (hnote : ∀ severity message, Leads R (note severity .http message))

include hnote

theorem leads_checkRedirect (method : Method) (url : String) (target : Url) (location : String) :
    Leads R (checkRedirect method url target location) := by
  unfold checkRedirect
  split
  · exact leads_pure _
  · exact leads_bind (hnote _ _) fun _ => leads_throw _
  all_goals exact leads_throw _

variable (hexchange : ∀ method url body, Leads R (exchange method url body))

include hexchange

theorem leads_send (method : Method) (url : String) (payload : Option Value) :
    Leads R (send method url payload) := by
  refine leads_bind leads_requireConnected fun _ => ?_
  refine leads_bind (leads_ofExcept _ _) fun target => ?_
  refine leads_bind (leads_ofExcept _ _) fun body => ?_
  refine leads_bind (leads_requireAscii _) fun _ => ?_
  refine leads_bind (hexchange _ _ _) fun reply => ?_
  cases reply with
  | outage message => exact leads_throw _
  | misheaded e => exact leads_throw _
  | fault name message => exact leads_bind (hnote _ _) fun _ => leads_throw _
  | response r =>
    have hstatus : Leads R (do
        note .debug .http ("Status code: " ++ toString r.status)
        if 300 ≤ r.status then
          note .warning .http (method.name ++ " " ++ url ++ " returned " ++ toString r.status)
          throw (.status method url r.status)
        return (target, r)) := by
      refine leads_bind (hnote _ _) fun _ => ?_
      dsimp only
      split
      · exact leads_bind (hnote _ _) fun _ => leads_throw _
      · exact leads_pure _
    dsimp only
    split
    · exact leads_throw _
    · split
      · exact leads_bind (leads_checkRedirect hnote _ _ _ _) fun _ => hstatus
      · exact hstatus

theorem leads_sendForValue (method : Method) (url : String) (payload : Option Value) :
    Leads R (sendForValue method url payload) := by
  refine leads_bind (leads_send hnote hexchange _ _ _) fun sent => ?_
  exact leads_bind (leads_ofExcept _ _) fun _ => leads_pure _

theorem leads_execute (url : String) (requests : List Request) :
    Leads R (execute url requests) := by
  refine leads_bind (leads_ofExcept _ _) fun payloads => ?_
  refine leads_bind (leads_forM fun _ => hnote _ _) fun _ => ?_
  exact leads_bind (leads_sendForValue hnote hexchange _ _ _) fun _ => leads_ofExcept _ _

theorem leads_commitAt (url : String) : Leads R (commitAt url) :=
  leads_bind (leads_sendForValue hnote hexchange _ _ _) fun _ => leads_ofExcept _ _

theorem leads_rollbackAt (url : String) : Leads R (rollbackAt url) :=
  leads_bind (leads_send hnote hexchange _ _ _) fun _ => leads_pure _

theorem leads_begin (hadd : ∀ url autoCommit, Leads R (addTransaction url autoCommit))
    (autoCommit : Bool) : Leads R (begin autoCommit) := by
  refine leads_bind leads_endpoint fun url => ?_
  cases autoCommit with
  | true => exact hadd _ _
  | false =>
    refine leads_bind (leads_sendForValue hnote hexchange _ _ _) fun reply => ?_
    refine leads_bind (leads_ofExcept _ _) fun _ => ?_
    split
    · exact leads_throw _
    · exact leads_throw _
    · exact leads_bind (hnote _ _) fun _ => hadd _ _

end Wire

/-- However the operation ends, the transactions that it leaves are related to those it found. -/
def Keeps {α : Type} (R : List Transaction → List Transaction → Prop) (act : Act α) : Prop :=
  ∀ s, R s.transactions (act s).2.transactions

/-- The relation between the transactions of two sessions. -/
def Between (R : List Transaction → List Transaction → Prop) (s t : Session) : Prop :=
  R s.transactions t.transactions

instance {R : List Transaction → List Transaction → Prop} [IsPreorder (List Transaction) R] :
    IsPreorder Session (Between R) where
  refl s := refl s.transactions
  trans _ _ _ h h' := IsTrans.trans (r := R) _ _ _ h h'

section Keeps

variable {α β : Type} {R : List Transaction → List Transaction → Prop} {act : Act α}

theorem keeps_observe (h : Keeps R act) : Keeps R (observe act) := h

variable [IsPreorder (List Transaction) R]

theorem keeps_of_eq (h : Keeps Eq act) : Keeps R act := by
  intro s
  rw [← h s]
  exact refl _

theorem keeps_pure (a : α) : Keeps R (pure a : Act α) := fun _ => refl _

theorem keeps_throw (e : Failure) : Keeps R (throw e : Act α) := fun _ => refl _

theorem keeps_bind {f : α → Act β} (h : Keeps R act) (hf : ∀ a, Keeps R (f a)) :
    Keeps R (act >>= f) :=
  leads_bind (R := Between R) h hf

theorem keeps_mapM {xs : List β} {f : β → Act α} (h : ∀ x, Keeps R (f x)) :
    Keeps R (xs.mapM f) :=
  leads_mapM (R := Between R) h

end Keeps

/-- Neither a transaction nor the wire is touched. -/
structure Quiet (s t : Session) : Prop where
  settings : t.settings = s.settings
  transactions : t.transactions = s.transactions
  replies : t.replies = s.replies
  sent : t.sent = s.sent

instance : IsPreorder Session Quiet where
  refl _ := ⟨rfl, rfl, rfl, rfl⟩
  trans _ _ _ h h' :=
    ⟨h'.settings.trans h.settings, h'.transactions.trans h.transactions,
      h'.replies.trans h.replies, h'.sent.trans h.sent⟩

/-- Whatever comes of it, the operation is quiet. -/
def Silent {α : Type} (act : Act α) : Prop := ∀ s, Quiet s (act s).2

section Silent

variable {α β : Type}

theorem Silent.keeps {act : Act α} {R : List Transaction → List Transaction → Prop}
    [IsPreorder (List Transaction) R] (h : Silent act) : Keeps R act :=
  keeps_of_eq fun s => (h s).transactions.symm

theorem silent_pure (a : α) : Silent (pure a : Act α) := leads_pure a

theorem silent_throw (e : Failure) : Silent (throw e : Act α) := leads_throw e

theorem silent_bind {act : Act α} {f : α → Act β} (h : Silent act) (hf : ∀ a, Silent (f a)) :
    Silent (act >>= f) :=
  leads_bind h hf

theorem silent_get : Silent (get : Act Session) := leads_get

theorem silent_ofExcept {ε : Type} (f : ε → Failure) (x : Except ε α) : Silent (ofExcept f x) :=
  leads_ofExcept f x

theorem silent_note (severity : Severity) (logger : Logger) (message : String) :
    Silent (note severity logger message) := fun _ => ⟨rfl, rfl, rfl, rfl⟩

theorem silent_requireConnected : Silent requireConnected := leads_requireConnected

theorem silent_endpoint : Silent endpoint := leads_endpoint

theorem silent_connect : Silent connect := by
  intro s
  cases hc : s.connected with
  | true =>
    rw [connect_connected hc]
    exact refl s
  | false =>
    cases h : Ascii.fault? s.settings.userAgent.toList with
    | none =>
      rw [connect_ready hc h]
      exact ⟨rfl, rfl, rfl, rfl⟩
    | some fault =>
      rw [connect_refused hc h]
      exact refl s

theorem silent_close : Silent close := by
  intro s
  unfold close
  rw [bind_ok s (get_apply s)]
  cases s.connected with
  | true => exact ⟨rfl, rfl, rfl, rfl⟩
  | false => exact refl s

end Silent

section Untouched

theorem keeps_nextReply : Keeps Eq nextReply := by
  intro s
  unfold nextReply
  rw [bind_ok s (get_apply s)]
  cases s.replies <;> rfl

theorem keeps_exchange (method : Method) (url : Url) (body : String) :
    Keeps Eq (exchange method url body) :=
  keeps_bind (fun _ => rfl) fun _ => keeps_nextReply

theorem keeps_http (severity : Severity) (message : String) :
    Keeps Eq (note severity .http message) := (silent_note _ _ _).keeps

theorem keeps_execute (url : String) (requests : List Request) :
    Keeps Eq (execute url requests) :=
  leads_execute (R := Between Eq) keeps_http keeps_exchange url requests

theorem keeps_commitAt (url : String) : Keeps Eq (commitAt url) :=
  leads_commitAt (R := Between Eq) keeps_http keeps_exchange url

theorem keeps_rollbackAt (url : String) : Keeps Eq (rollbackAt url) :=
  leads_rollbackAt (R := Between Eq) keeps_http keeps_exchange url

end Untouched

end Session

end CypherLink

import CypherLink.Proofs.Number.Hexadecimal
import CypherLink.Proofs.Session.Standing

/-!
The trail of a transaction in the log: the entries about it, which bear its correlation id. Operations
on it say there what they do. Main statements: `trail_program`, the trail is what they said, in
order, and `told_to_end_iff`, whether it tells how the transaction was closed.
-/

namespace CypherLink

namespace Session

/-- What stands in front of each message about a transaction. -/
def tag (i : Nat) : String := "[" ++ correlationId i ++ "] "

def entryOn (i : Nat) (message : String) : LogEntry := ⟨.debug, .transaction, tag i ++ message⟩

/-- What the logger for transactions wrote. -/
def written (log : List LogEntry) : List LogEntry := log.filter fun e => e.logger = .transaction

/-- The entries of that logger that bear the id of one transaction. -/
def trail (i : Nat) (log : List LogEntry) : List LogEntry :=
  (written log).filter fun e => (tag i).toList <+: e.message.toList

section Tag

theorem eq_of_marked_prefix {α : Type} {c : α} {xs ys us vs : List α} (hx : c ∉ xs) (hy : c ∉ ys)
    (h : xs ++ c :: us <+: ys ++ c :: vs) : xs = ys := by
  induction xs generalizing ys with
  | nil =>
    cases ys with
    | nil => rfl
    | cons y ys =>
      obtain ⟨hc, -⟩ := List.cons_prefix_cons.mp h
      exact absurd (hc ▸ List.mem_cons_self) hy
  | cons x xs ih =>
    cases ys with
    | nil =>
      obtain ⟨hc, -⟩ := List.cons_prefix_cons.mp h
      exact absurd (hc ▸ List.mem_cons_self) hx
    | cons y ys =>
      obtain ⟨rfl, hrest⟩ := List.cons_prefix_cons.mp h
      have hx' : c ∉ xs := List.not_mem_of_not_mem_cons hx
      have hy' : c ∉ ys := List.not_mem_of_not_mem_cons hy
      rw [ih hx' hy' hrest]

theorem toList_tag (i : Nat) : (tag i).toList = '[' :: (Hex.padded 12 (i + 1) ++ [']', ' ']) := by
  simp [tag, correlationId, String.toList_append, String.toList_ofList]

theorem bracket_notMem_id (i : Nat) : ']' ∉ Hex.padded 12 (i + 1) := by
  intro h
  have hdigit := Hex.isSome_value?_of_mem_padded h
  exact absurd hdigit (by decide)

theorem tag_prefix_iff {i j : Nat} {message : String} :
    (tag i).toList <+: (entryOn j message).message.toList ↔ j = i := by
  rw [entryOn, String.toList_append, toList_tag, toList_tag, List.cons_append]
  constructor
  · intro h
    obtain ⟨-, hmarked⟩ := List.cons_prefix_cons.mp h
    rw [List.append_assoc] at hmarked
    have hid := eq_of_marked_prefix (bracket_notMem_id i) (bracket_notMem_id j) hmarked
    exact (Nat.succ.inj (Hex.padded_injective 12 hid)).symm
  · rintro rfl
    exact List.prefix_append _ _

end Tag

/-- What the logger for transactions wrote is the same before and after. -/
def Mute (s t : Session) : Prop := written t.log = written s.log

instance : IsPreorder Session Mute where
  refl _ := rfl
  trans _ _ _ h h' := Eq.trans h' h

section Mute

theorem mute_of_log {s t : Session} {entries : List LogEntry} (h : t.log = s.log ++ entries)
    (hother : ∀ e ∈ entries, e.logger ≠ .transaction) : Mute s t := by
  have hnone : written entries = [] := List.filter_eq_nil_iff.mpr fun e he => by simpa using hother e he
  unfold Mute
  rw [h, written, List.filter_append]
  exact (congrArg (written s.log ++ ·) hnone).trans (List.append_nil _)

theorem mute_note (severity : Severity) (message : String) :
    Leads Mute (note severity .http message) :=
  fun _ => mute_of_log rfl (by simp)

theorem mute_exchange (method : Method) (url : Url) (body : String) :
    Leads Mute (exchange method url body) := by
  intro s
  rw [exchange_apply]
  rfl

theorem mute_connect : Leads Mute connect := by
  intro s
  cases hc : s.connected with
  | true =>
    rw [connect_connected hc]
    exact refl s
  | false =>
    cases h : Ascii.fault? s.settings.userAgent.toList with
    | none =>
      rw [connect_ready hc h]
      exact mute_of_log rfl (by simp)
    | some fault =>
      rw [connect_refused hc h]
      exact refl s

theorem mute_close : Leads Mute close := by
  intro s
  unfold close
  rw [bind_ok s (get_apply s)]
  cases s.connected with
  | true => exact mute_of_log (s := s) rfl (by simp)
  | false => exact refl s

theorem mute_execute (url : String) (requests : List Request) :
    Leads Mute (execute url requests) :=
  leads_execute mute_note mute_exchange url requests

theorem mute_commitAt (url : String) : Leads Mute (commitAt url) :=
  leads_commitAt mute_note mute_exchange url

theorem mute_rollbackAt (url : String) : Leads Mute (rollbackAt url) :=
  leads_rollbackAt mute_note mute_exchange url

theorem mute_begin (autoCommit : Bool) : Leads Mute (begin autoCommit) :=
  leads_begin mute_note mute_exchange (fun _ _ _ => rfl) autoCommit

end Mute

/-- What an operation on an open transaction says of it: a run what it asks for, before it is sent;
a commit and a rollback that they were done. -/
def Operation.notes (op : Operation) (t : Transaction) (outcome : Except Failure Unit) :
    List String :=
  match op.action with
  | .run => ["POST " ++ t.url ++ " (" ++ toString op.requests.length ++ " statement(s))"]
  | .commit => if outcome.isOk then ["committed"] else []
  | .rollback => if outcome.isOk then ["rolled back"] else []

/-- The entries that a call makes about transactions. -/
def Event.entries (e : Event) : List LogEntry :=
  match e.call with
  | .operate i op => (e.before.pending? i).elim [] fun t => (op.notes t e.outcome).map (entryOn i)
  | _ => []

section Said

variable {e : Event} {i : Nat} {op : Operation} {t : Transaction}

theorem Event.entries_pending (hcall : e.call = .operate i op) (hp : e.before.pending? i = some t) :
    e.entries = (op.notes t e.outcome).map (entryOn i) := by
  rw [entries, hcall]
  exact congrArg (fun o => Option.elim o [] fun t => (op.notes t e.outcome).map (entryOn i)) hp

theorem Event.entries_idle (hcall : e.call = .operate i op) (hp : e.before.pending? i = none) :
    e.entries = [] := by
  rw [entries, hcall]
  exact congrArg (fun o => Option.elim o [] fun t => (op.notes t e.outcome).map (entryOn i)) hp

end Said

/-- What the operations on one transaction said of it, in the order in which they were made. -/
def saidOn (i : Nat) (es : List Event) : List LogEntry :=
  (es.filter fun e => e.call.isOn i).flatMap Event.entries

section Written

variable {s : Session} {i : Nat} {t : Transaction}

theorem written_noteOn (message : String) :
    written (noteOn i message s).2.log = written s.log ++ [entryOn i message] := by
  change written (s.log ++ [entryOn i message]) = _
  rw [written, List.filter_append]
  rfl

theorem written_runMany (ht : s.transactions[i]? = some t) (hp : t.status = .pending)
    (requests : List Request) :
    written (runMany i requests s).2.log = written s.log ++
      [entryOn i ("POST " ++ t.url ++ " (" ++ toString requests.length ++ " statement(s))")] := by
  have hset : ∀ status, Leads Mute (setStatus i status) := fun _ _ => rfl
  have hnote : ∀ message, noteOn i message s = (.ok (), (noteOn i message s).2) := fun _ => rfl
  unfold runMany
  rw [guarded_pending ht hp, bind_ok s (hnote _), ← written_noteOn]
  refine leads_bind (leads_observe (mute_execute t.url requests)) (fun outcome => ?_) _
  cases outcome with
  | error e =>
    dsimp only
    split
    · exact leads_bind (hset _) fun _ => leads_throw e
    · exact leads_throw e
  | ok results =>
    dsimp only
    split
    · exact leads_bind (hset _) fun _ => leads_pure results
    · exact leads_pure results

theorem written_ending {act : Act Unit} (h : Leads Mute act) (status : TransactionStatus)
    (message : String) :
    written ((do act; setStatus i status; noteOn i message) s).2.log = written s.log ++
      (if ((do act; setStatus i status; noteOn i message) s).1.isOk then [message] else []).map
        (entryOn i) := by
  have hs := h s
  cases ha : act s with
  | mk outcome u =>
    rw [ha] at hs
    cases outcome with
    | error e =>
      rw [bind_error s ha]
      exact hs.trans (List.append_nil _).symm
    | ok a =>
      rw [bind_ok s ha]
      exact (written_noteOn (s := u.settled i status) message).trans (congrArg (· ++ _) hs)

theorem written_commit (ht : s.transactions[i]? = some t) (hp : t.status = .pending) :
    written (commit i s).2.log = written s.log ++
      (if (commit i s).1.isOk then ["committed"] else []).map (entryOn i) := by
  unfold commit
  rw [guarded_pending ht hp]
  cases t.autoCommit with
  | true => exact written_ending (leads_pure ()) _ _
  | false => exact written_ending (mute_commitAt t.url) _ _

theorem written_rollback (ht : s.transactions[i]? = some t) (hp : t.status = .pending) :
    written (rollback i s).2.log = written s.log ++
      (if (rollback i s).1.isOk then ["rolled back"] else []).map (entryOn i) := by
  unfold rollback
  rw [guarded_pending ht hp]
  cases t.autoCommit with
  | true => exact written_ending (leads_pure ()) _ _
  | false => exact written_ending (mute_rollbackAt t.url) _ _

theorem written_operate (ht : s.transactions[i]? = some t) (hp : t.status = .pending)
    (op : Operation) :
    written (op.perform i s).2.log =
      written s.log ++ (op.notes t (op.perform i s).1).map (entryOn i) := by
  cases op with
  | run request =>
    have hrun : (Operation.perform i (.run request) s).2 = (runMany i [request] s).2 :=
      (bind_pure_snd _ _ s).trans (bind_pure_snd _ _ s)
    rw [hrun]
    exact written_runMany ht hp [request]
  | runMany requests =>
    have hrun : (Operation.perform i (.runMany requests) s).2 = (runMany i requests s).2 :=
      bind_pure_snd _ _ s
    rw [hrun]
    exact written_runMany ht hp requests
  | commit => exact written_commit ht hp
  | rollback => exact written_rollback ht hp
  | leave failed =>
    have hleave : leave i failed s = (if failed then rollback i else commit i) s := by
      unfold leave
      rw [bind_ok s (transaction_apply ht), if_pos hp]
    rw [Operation.perform, hleave]
    cases failed with
    | true => exact written_rollback ht hp
    | false => exact written_commit ht hp

theorem Event.written_after (e : Event) :
    written e.after.log = written e.before.log ++ e.entries := by
  obtain ⟨s, c⟩ := e
  have hmute : ∀ {t : Session}, Mute s t → written t.log = written s.log ++ [] :=
    fun h => h.trans (List.append_nil _).symm
  cases c with
  | begin autoCommit =>
    apply hmute
    rw [Event.after, Call.perform, bind_pure_snd]
    exact mute_begin autoCommit s
  | operate i op =>
    cases hp : s.pending? i with
    | none =>
      have hafter : Event.after ⟨s, .operate i op⟩ = s := perform_idle hp op
      rw [Event.entries_idle rfl hp, hafter, List.append_nil]
    | some t =>
      obtain ⟨ht, hpending⟩ := pending?_eq_some.mp hp
      rw [Event.entries_pending rfl hp]
      exact written_operate ht hpending op
  | execute url requests =>
    apply hmute
    rw [Event.after, Call.perform, bind_pure_snd]
    exact mute_execute url requests s
  | commitAt url => exact hmute (mute_commitAt url s)
  | rollbackAt url => exact hmute (mute_rollbackAt url s)

end Written

/-- What the logger for transactions wrote on the way is what the calls said. -/
def Records (s : Session) (es : List Event) (t : Session) : Prop :=
  written t.log = written s.log ++ es.flatMap Event.entries

theorem records_of_mute {s t : Session} (h : Mute s t) : Records s [] t :=
  h.trans (List.append_nil _).symm

theorem recounting_records : Recounting Records where
  rest s := records_of_mute (refl s)
  append h h' := by
    rw [Records, h', h, List.flatMap_append, List.append_assoc]
  call s c := by
    rw [Records, List.flatMap_singleton]
    exact Event.written_after ⟨s, c⟩
  connect s := records_of_mute (mute_connect s)
  close s := records_of_mute (mute_close s)
  register name i s := records_of_mute (refl _)
  record outcome s := records_of_mute (refl _)

theorem not_transaction_of_asked (asked : Except BuildError Query) :
    ∀ e ∈ (Plan.ofAsked asked).entries, e.logger ≠ .transaction := by
  unfold Plan.ofAsked Plan.ofQuery Composed.entries
  split
  · split
    · dsimp only
      split
      · simp [Composed.entry]
      · exact nofun
    · exact nofun
  · exact nofun

theorem mute_requestOf {plan : Plan} (h : ∀ e ∈ plan.entries, e.logger ≠ .transaction) :
    Leads Mute (requestOf plan) :=
  leads_bind (fun s => mute_of_log (s := s) rfl h) fun _ => leads_ofExcept _ _

theorem filter_entries (e : Event) (i : Nat) :
    (e.entries.filter fun x => (tag i).toList <+: x.message.toList) =
      if e.call.isOn i then e.entries else [] := by
  obtain ⟨s, c⟩ := e
  cases c with
  | operate j op =>
    have hbears : ∀ x ∈ Event.entries ⟨s, .operate j op⟩,
        (tag i).toList <+: x.message.toList ↔ j = i := by
      intro x hx
      cases hp : s.pending? j with
      | none =>
        rw [Event.entries_idle rfl hp] at hx
        exact nomatch hx
      | some t =>
        rw [Event.entries_pending rfl hp] at hx
        obtain ⟨message, -, rfl⟩ := List.mem_map.mp hx
        exact tag_prefix_iff
    change _ = if decide (j = i) = true then _ else _
    by_cases hj : j = i
    · rw [if_pos (decide_eq_true hj)]
      exact List.filter_eq_self.mpr fun x hx => decide_eq_true ((hbears x hx).mpr hj)
    · rw [if_neg (by simpa using hj)]
      exact List.filter_eq_nil_iff.mpr fun x hx => by simpa using mt (hbears x hx).mp hj
  | begin autoCommit => rfl
  | execute url requests => rfl
  | commitAt url => rfl
  | rollbackAt url => rfl

theorem saidOn_cons (i : Nat) (e : Event) (es : List Event) :
    saidOn i (e :: es) = (if e.call.isOn i then e.entries else []) ++ saidOn i es := by
  unfold saidOn
  rw [List.filter_cons]
  split <;> rfl

theorem filter_flatMap_entries (i : Nat) (es : List Event) :
    ((es.flatMap Event.entries).filter fun x => (tag i).toList <+: x.message.toList) =
      saidOn i es := by
  induction es with
  | nil => rfl
  | cons e es ih => rw [List.flatMap_cons, List.filter_append, filter_entries, ih, saidOn_cons]

theorem trail_program {s : Session} {steps : List Step} (hs : s.log = [])
    (hplans : ∀ plan ∈ plansOf steps, ∃ asked, plan = .ofAsked asked) (i : Nat) :
    trail i (s.after steps).log = saidOn i (s.course steps) := by
  have hrecords : Records s (s.course steps) (s.after steps) := by
    refine recounts_program recounting_records (fun plan hplan t => ?_) s
    obtain ⟨asked, rfl⟩ := hplans plan hplan
    exact records_of_mute (mute_requestOf (not_transaction_of_asked asked) t)
  rw [Records, hs] at hrecords
  rw [trail, hrecords]
  exact filter_flatMap_entries i _

end Session

/-- How the trail of a transaction ends that was closed, if its end is told. -/
def TransactionStatus.closing : TransactionStatus → List String
  | .pending => []
  | .committed => ["committed"]
  | .rolledBack => ["rolled back"]

namespace Session

/-- The entry tells that the transaction was closed. -/
def Closes (i : Nat) (x : LogEntry) : Prop :=
  ∃ status : TransactionStatus, ∃ message ∈ status.closing, x = entryOn i message

/-- The trail tells that the transaction was closed, once and at the end, and in which status; and of
one that is open it tells nothing of the kind. -/
def ToldToEnd (i : Nat) (status : TransactionStatus) (entries : List LogEntry) : Prop :=
  ∃ front, entries = front ++ status.closing.map (entryOn i) ∧ ∀ x ∈ front, ¬Closes i x

/-- One of the calls was a run that closed the transaction. -/
def ClosedByRun (i : Nat) (es : List Event) : Prop :=
  ∃ e ∈ es, (∃ op, e.call = .operate i op ∧ op.action = .run) ∧
    (∃ t, e.before.pending? i = some t) ∧ e.after.pending? i = none

section Told

variable {s u : Session} {i : Nat} {t : Transaction} {op : Operation} {e : Event} {es : List Event}

/-- What a commit or a rollback says is what it does. -/
theorem notes_eq_closing (h : op.action ≠ .run) (outcome : Except Failure Unit) :
    op.notes t outcome = (op.action.leaves t.autoCommit outcome).closing := by
  unfold Operation.notes
  cases hop : op.action with
  | run => exact absurd hop h
  | commit => cases outcome <;> rfl
  | rollback => cases outcome <;> rfl

theorem not_closes_run (i : Nat) (rest : String) : ¬Closes i (entryOn i ("POST " ++ rest)) := by
  rintro ⟨status, message, hmessage, hentry⟩
  have htext : tag i ++ ("POST " ++ rest) = tag i ++ message := congrArg LogEntry.message hentry
  have hfirst : ("POST " ++ rest).toList.head? = message.toList.head? := by
    have hchars := congrArg String.toList htext
    rw [String.toList_append, String.toList_append (s := tag i)] at hchars
    rw [List.append_cancel_left hchars]
  rw [String.toList_append] at hfirst
  cases status with
  | pending => exact nomatch hmessage
  | committed =>
    obtain rfl := List.mem_singleton.mp hmessage
    exact absurd hfirst (by simp)
  | rolledBack =>
    obtain rfl := List.mem_singleton.mp hmessage
    exact absurd hfirst (by simp)

theorem not_closes_of_run (hcall : e.call = .operate i op) (h : op.action = .run) :
    ∀ x ∈ e.entries, ¬Closes i x := by
  intro x hx
  cases hp : e.before.pending? i with
  | none =>
    rw [Event.entries_idle hcall hp] at hx
    exact nomatch hx
  | some t =>
    have hnotes : op.notes t e.outcome =
        ["POST " ++ t.url ++ " (" ++ toString op.requests.length ++ " statement(s))"] := by
      rw [Operation.notes, h]
    rw [Event.entries_pending hcall hp, hnotes] at hx
    obtain rfl := List.mem_singleton.mp hx
    simp only [String.append_assoc]
    exact not_closes_run i _

theorem entries_of_not_run (hcall : e.call = .operate i op) (h : op.action ≠ .run)
    (hp : e.before.pending? i = some t) :
    e.entries =
      (op.action.leaves t.autoCommit (op.outcome t e.before)).closing.map (entryOn i) := by
  rw [Event.entries_pending hcall hp, notes_eq_closing h, Event.outcome_pending hcall hp]

theorem Course.saidOn_closed (h : Course s es u) (ht : s.transactions[i]? = some t)
    (hc : t.status ≠ .pending) : saidOn i es = [] := by
  apply List.flatMap_eq_nil_iff.mpr
  intro e he
  obtain ⟨hmem, hon⟩ := List.mem_filter.mp he
  obtain ⟨op, hcall⟩ := Call.isOn_iff.mp hon
  exact Event.entries_idle hcall (h.idle ht hc e hmem)

theorem not_closes_of_open (hcall : e.call = .operate i op)
    (hopen : ∀ v, e.after.transactions[i]? = some v → v.status = .pending) :
    ∀ x ∈ e.entries, ¬Closes i x := by
  by_cases hrun : op.action = .run
  · exact not_closes_of_run hcall hrun
  · cases hp : e.before.pending? i with
    | none =>
      rw [Event.entries_idle hcall hp]
      exact nofun
    | some t =>
      have hstatus : op.action.leaves t.autoCommit (op.outcome t e.before) = .pending :=
        hopen _ (Event.transaction_after hcall hp)
      rw [entries_of_not_run hcall hrun hp, hstatus]
      exact nofun

theorem ToldToEnd.front {status : TransactionStatus} {entries front : List LogEntry}
    (h : ToldToEnd i status entries) (hfront : ∀ x ∈ front, ¬Closes i x) :
    ToldToEnd i status (front ++ entries) := by
  obtain ⟨body, rfl, hbody⟩ := h
  refine ⟨front ++ body, (List.append_assoc front body _).symm, fun x hx => ?_⟩
  obtain hx | hx := List.mem_append.mp hx
  · exact hfront x hx
  · exact hbody x hx

theorem ToldToEnd.exists_closes {status : TransactionStatus} {entries : List LogEntry}
    (h : ToldToEnd i status entries) (hc : status ≠ .pending) : ∃ x ∈ entries, Closes i x := by
  obtain ⟨front, rfl, -⟩ := h
  cases hs : status with
  | pending => exact absurd hs hc
  | committed =>
    exact ⟨entryOn i "committed", by simp [TransactionStatus.closing], .committed, "committed",
      List.mem_singleton_self _, rfl⟩
  | rolledBack =>
    exact ⟨entryOn i "rolled back", by simp [TransactionStatus.closing], .rolledBack,
      "rolled back", List.mem_singleton_self _, rfl⟩

/-- A call that leaves the transaction closed and found it open was the last to say something of it,
and nothing closed it later. -/
theorem told_of_closing (hs : ∀ v, e.before.transactions[i]? = some v → v.status = .pending)
    (ht : e.after.transactions[i]? = some t) (hc : t.status ≠ .pending)
    (hes : Course e.after es u) :
    ToldToEnd i t.status (saidOn i (e :: es)) ∧ ¬ClosedByRun i (e :: es) ∨
      (∀ x ∈ saidOn i (e :: es), ¬Closes i x) ∧ ClosedByRun i (e :: es) := by
  obtain ⟨op, v, hcall, hp, rfl⟩ := e.exists_closing hs ht hc
  have hon : e.call.isOn i = true := Call.isOn_iff.mpr ⟨op, hcall⟩
  rw [saidOn_cons, if_pos hon, hes.saidOn_closed ht hc, List.append_nil]
  -- a run writes before it asks the server, so that it cannot tell what comes of it
  by_cases hrun : op.action = .run
  · right
    refine ⟨not_closes_of_run hcall hrun, e, List.mem_cons_self, ⟨op, hcall, hrun⟩, ⟨v, hp⟩, ?_⟩
    exact pending?_eq_none ht hc
  · left
    refine ⟨⟨[], entries_of_not_run hcall hrun hp, nofun⟩, ?_⟩
    rintro ⟨f, hf, ⟨op', hcall', hrun'⟩, ⟨w, hw⟩, -⟩
    obtain rfl | hf := List.mem_cons.mp hf
    · obtain ⟨-, rfl⟩ := Call.operate.inj (hcall.symm.trans hcall')
      exact hrun hrun'
    · rw [hes.idle ht hc f hf] at hw
      exact nomatch hw

theorem closedByRun_cons_of_open
    (hopen : ∀ v, e.after.transactions[i]? = some v → v.status = .pending) :
    ClosedByRun i (e :: es) ↔ ClosedByRun i es := by
  constructor
  · rintro ⟨f, hf, hrun, ⟨w, hw⟩, hclosed⟩
    obtain rfl | hf := List.mem_cons.mp hf
    · obtain ⟨status, hafter⟩ := f.transaction_kept (pending?_eq_some.mp hw).1
      exact absurd (hopen _ hafter) (closed_of_pending?_none hclosed hafter)
    · exact ⟨f, hf, hrun, ⟨w, hw⟩, hclosed⟩
  · rintro ⟨f, hf, hclosing⟩
    exact ⟨f, List.mem_cons_of_mem e hf, hclosing⟩

theorem Course.told (h : Course s es u)
    (hs : ∀ v, s.transactions[i]? = some v → v.status = .pending)
    (ht : u.transactions[i]? = some t) :
    ToldToEnd i t.status (saidOn i es) ∧ ¬ClosedByRun i es ∨
      t.status ≠ .pending ∧ (∀ x ∈ saidOn i es, ¬Closes i x) ∧ ClosedByRun i es := by
  induction h with
  | rest hq =>
    rw [hq.transactions] at ht
    rw [hs t ht]
    exact .inl ⟨⟨[], rfl, nofun⟩, nofun⟩
  | @call s u e es hq hes ih =>
    rw [← hq.transactions] at hs
    -- the induction goes on only past calls that leave the transaction open
    by_cases hclosing : ∃ v, e.after.transactions[i]? = some v ∧ v.status ≠ .pending
    · obtain ⟨v, hv, hc⟩ := hclosing
      obtain rfl := Option.some.inj (ht.symm.trans (hes.closed i v hv hc))
      obtain htold | huntold := told_of_closing hs hv hc hes
      · exact .inl htold
      · exact .inr ⟨hc, huntold⟩
    · have hopen : ∀ v, e.after.transactions[i]? = some v → v.status = .pending :=
        fun v hv => Decidable.byContradiction fun hc => hclosing ⟨v, hv, hc⟩
      have hown : ∀ x ∈ if e.call.isOn i then e.entries else [], ¬Closes i x := by
        split
        · next hon =>
          obtain ⟨op, hcall⟩ := Call.isOn_iff.mp hon
          exact not_closes_of_open hcall hopen
        · exact nofun
      rw [saidOn_cons, closedByRun_cons_of_open hopen]
      obtain ⟨htold, hnot⟩ | ⟨hc, hsilent, hrun⟩ := ih hopen ht
      · exact .inl ⟨htold.front hown, hnot⟩
      · refine .inr ⟨hc, fun x hx => ?_, hrun⟩
        obtain hx | hx := List.mem_append.mp hx
        · exact hown x hx
        · exact hsilent x hx

end Told

/-- In the log of a program of queries, the entries about a transaction are what its operations said
of it, in their order. They tell how it was closed, and nothing if it is open, exactly if it was not
closed by a run; a run that closes it says nothing of that. -/
theorem told_to_end_iff (settings : Settings) (replies : List Reply) {steps : List Step}
    (hplans : ∀ plan ∈ plansOf steps, ∃ asked, plan = .ofAsked asked) {i : Nat} {t : Transaction}
    (ht : (after { settings, replies } steps).transactions[i]? = some t) :
    trail i (after { settings, replies } steps).log = saidOn i (course { settings, replies } steps) ∧
      (ToldToEnd i t.status (trail i (after { settings, replies } steps).log) ↔
        ¬ClosedByRun i (course { settings, replies } steps)) ∧
      (ClosedByRun i (course { settings, replies } steps) →
        t.status ≠ .pending ∧
          ∀ x ∈ trail i (after { settings, replies } steps).log, ¬Closes i x) := by
  have htrail := trail_program (s := { settings, replies }) rfl hplans i
  have hcourse := course_program { settings, replies } steps
  rw [htrail]
  refine ⟨rfl, ?_⟩
  obtain ⟨htold, hnot⟩ | ⟨hc, hsilent, hrun⟩ := hcourse.told (i := i) nofun ht
  · exact ⟨⟨fun _ => hnot, fun _ => htold⟩, fun hrun => absurd hrun hnot⟩
  · refine ⟨⟨fun htold => ?_, fun hnot => absurd hrun hnot⟩, fun _ => ⟨hc, hsilent⟩⟩
    obtain ⟨x, hx, hcloses⟩ := htold.exists_closes hc
    exact absurd hcloses (hsilent x hx)

/-- Opens two transactions that commit by themselves, runs one of them and commits the other. -/
def runAndCommit : List Step :=
  [.connect, .begin "t" true, .begin "u" true, .run "t" (.ofAsked (.ok .everything)), .commit "u"]

theorem run_untold_commit_told :
    ClosedByRun 0 (course { settings := .defaults } runAndCommit) ∧
      ¬ToldToEnd 0 .committed (trail 0 (after { settings := .defaults } runAndCommit).log) ∧
      ¬ClosedByRun 1 (course { settings := .defaults } runAndCommit) ∧
      ToldToEnd 1 .committed (trail 1 (after { settings := .defaults } runAndCommit).log) := by
  let url := "http://localhost:7474/db/data/transaction/commit"
  have hplans : ∀ plan ∈ plansOf runAndCommit, ∃ asked, plan = .ofAsked asked := by
    intro plan hplan
    obtain rfl := List.mem_singleton.mp hplan
    exact ⟨_, rfl⟩
  have ht : (after { settings := .defaults, replies := [] } runAndCommit).transactions =
      [⟨url, true, .committed⟩, ⟨url, true, .committed⟩] := by decide +kernel
  have hrun : trail 0 (after { settings := .defaults } runAndCommit).log =
      [entryOn 0 ("POST " ++ (url ++ " (1 statement(s))"))] := by decide +kernel
  have hcommit : trail 1 (after { settings := .defaults } runAndCommit).log =
      [entryOn 1 "committed"] := by decide +kernel
  have hfirst := told_to_end_iff .defaults [] hplans (i := 0) (congrArg (·[0]?) ht)
  have hsecond := told_to_end_iff .defaults [] hplans (i := 1) (congrArg (·[1]?) ht)
  have huntold :
      ¬ToldToEnd 0 .committed (trail 0 (after { settings := .defaults } runAndCommit).log) := by
    intro htold
    rw [hrun] at htold
    obtain ⟨x, hx, hcloses⟩ := htold.exists_closes nofun
    obtain rfl := List.mem_singleton.mp hx
    exact not_closes_run 0 _ hcloses
  have htold : ToldToEnd 1 .committed (trail 1 (after { settings := .defaults } runAndCommit).log) := by
    rw [hcommit]
    exact ⟨[], rfl, nofun⟩
  refine ⟨?_, huntold, hsecond.2.1.mp htold, htold⟩
  exact Classical.byContradiction fun hnot => huntold (hfirst.2.1.mpr hnot)

end Session

end CypherLink

import CypherLink.Proofs.Json.Kinds
import CypherLink.Proofs.Session.Uniform

/-!
How replies are taken. Whichever call it was, a reply is judged by the transport first, then by its
status, then by whether its body is a value, and at last by the faults that the value reports. Main
statements: `outcome_handed`, `classified_of_weighable` and `classified_or_unreported`.
-/

namespace CypherLink

open Entries (find?)
open Outcome

/-- The exchange failed, or brought nothing that can be used; no faults in the statements are
reported. -/
def Failure.isPlain : Failure → Bool
  | .transport _ _ _ | .status _ _ _ | .unreadable _ _ | .noLocation _ => true
  | _ => false

/-- The body is a map, and lists these faults: one or more, each in a map of its own. -/
def Response.Lists (r : Response) (items : List Value) : Prop :=
  ∃ es, r.value = .ok (.map es) ∧ find? es "errors" = some (.list items) ∧ items ≠ [] ∧
    ∀ item ∈ items, ∃ fs, item = .map fs

/-- The response can be judged: its address is a whole one, a redirect leads somewhere or has no
address at all, and a body that counts and is read does not nest too deep. -/
structure Action.Weighs (action : Action) (target : Url) (r : Response) : Prop where
  known : target.isAbsolute = true
  leads : ∀ location, r.location? = some location →
    ∀ e, target.follow location = .error e → ∃ cause, e = .location cause
  shallow : r.status < 300 → action ≠ .rollback →
    ∀ inMap, r.value ≠ .error (.notValue (.nested inMap))

theorem Action.Takes.weighs {action : Action} {target : Url} {r : Response}
    (h : action.Takes target r) : action.Weighs target r := ⟨h.known, h.leads, h.shallow⟩

namespace Value

/-- A wire value with maps for elements is a list, if it has any. -/
theorem eq_list_of_elements {v : Value} {items : List Value} (hv : v.isWire = true)
    (h : v.elements = .ok items) (hne : items ≠ []) (hmaps : ∀ item ∈ items, ∃ fs, item = .map fs) :
    v = .list items := by
  have hhead : ∃ fs, items.head hne = .map fs := hmaps _ (List.head_mem hne)
  cases v with
  | list vs => exact congrArg list (Except.ok.inj h)
  | text s =>
    obtain rfl := Except.ok.inj h
    simp at hhead
  | map es =>
    obtain rfl := Except.ok.inj h
    simp at hhead
  | null | bool _ | int _ | real _ => cases h
  | tuple _ | set _ | frozen _ | point _ _ _ => cases hv

end Value

theorem Response.isWire_of_value {r : Response} {v : Value} (h : r.value = .ok v) :
    v.isWire = true := by
  unfold value at h
  split at h
  · cases h
  · exact Json.isWire_of_parse (mapError_eq_ok.mp h)

namespace Reply

variable {v : Value} {items : List Value}

theorem results_eq_statements_iff {summary : String} :
    results v = .error (.statements items summary) ↔
      checkErrors v = .error (.statements items summary) := by
  constructor
  · exact checkErrors_of_results_eq_statements
  · intro h
    rw [results, h]
    rfl

/-- Faults that are reported are those found in the value, if they can be written out. -/
theorem exists_statements_iff :
    (∃ summary, checkErrors v = .error (.statements items summary)) ↔
      ∃ es errors, v = .map es ∧ find? es "errors" = some errors ∧ errors.elements = .ok items ∧
        items ≠ [] ∧ (∀ item ∈ items, ∃ fs, item = .map fs) ∧ errors.truthy = true := by
  constructor
  · rintro ⟨summary, h⟩
    obtain ⟨es, errors, rfl, hfind, hitems, hne, hmaps⟩ := checkErrors_eq_statements h
    refine ⟨es, errors, rfl, hfind, hitems, hne, hmaps, ?_⟩
    by_contra hfalsy
    have hclear : checkErrors (.map es) = .ok () := by
      apply checkErrors_map.mpr
      intro found hfound
      obtain rfl := Option.some.inj (hfind.symm.trans hfound)
      exact Bool.eq_false_iff.mpr hfalsy
    cases h.symm.trans hclear
  · rintro ⟨es, errors, rfl, hfind, hitems, -, hmaps, ht⟩
    have htold : (Value.map es).TellsFaults := by
      refine ⟨es, rfl, fun found hfound _ => ?_⟩
      obtain rfl := Option.some.inj (hfind.symm.trans hfound)
      exact ⟨items, hitems, hmaps⟩
    cases hcheck : checkErrors (.map es) with
    | ok u =>
      have hfalsy := checkErrors_map.mp hcheck errors hfind
      cases ht.symm.trans hfalsy
    | error e =>
      have hreported := told_checkErrors.mpr htold e hcheck
      cases e with
      | access e => cases hreported
      | statements found summary =>
        obtain ⟨es', errors', hes, hfind', hfound, -⟩ := checkErrors_eq_statements hcheck
        obtain rfl := Value.map.inj hes
        obtain rfl := Option.some.inj (hfind.symm.trans hfind')
        obtain rfl := Except.ok.inj (hitems.symm.trans hfound)
        exact ⟨summary, rfl⟩

/-- In a response the faults are a list. -/
theorem lists_iff {r : Response} : r.Lists items ↔
    ∃ v, r.value = .ok v ∧ ∃ summary, checkErrors v = .error (.statements items summary) := by
  constructor
  · rintro ⟨es, hv, hfind, hne, hmaps⟩
    refine ⟨.map es, hv, ?_⟩
    apply exists_statements_iff.mpr
    refine ⟨es, .list items, rfl, hfind, rfl, hne, hmaps, ?_⟩
    cases items with
    | nil => exact absurd rfl hne
    | cons item items => rfl
  · rintro ⟨v, hv, h⟩
    obtain ⟨es, errors, rfl, hfind, hitems, hne, hmaps, -⟩ := exists_statements_iff.mp h
    have hwire : errors.isWire = true := Value.isWire_of_find? (Response.isWire_of_value hv) hfind
    obtain rfl := Value.eq_list_of_elements hwire hitems hne hmaps
    exact ⟨es, hv, hfind, hne, hmaps⟩

end Reply

namespace Outgoing

variable {o : Outgoing} {target : Url} {r : Response}

/-- From status 300 on the request fails plainly. -/
theorem weighed_refused (hknown : target.isAbsolute = true)
    (hleads : ∀ location, r.location? = some location →
      ∀ e, target.follow location = .error e → ∃ cause, e = .location cause)
    (hstatus : 300 ≤ r.status) : ∃ f, o.weighed target r = .error f ∧ f.isPlain = true := by
  have hcounted : o.counted r = .error (.status o.method o.url r.status) := if_pos hstatus
  rw [weighed, hknown, if_neg (by decide), hcounted]
  cases hl : r.location? with
  | none => exact ⟨_, rfl, rfl⟩
  | some location =>
    have hled : (some location).forM (o.redirected target) = o.redirected target location := rfl
    rw [hled, redirected]
    cases hfollow : target.follow location with
    | ok u => exact ⟨_, rfl, rfl⟩
    | error e =>
      obtain ⟨cause, rfl⟩ := hleads location hl e hfollow
      exact ⟨_, rfl, rfl⟩

end Outgoing

namespace Session

variable {s : Session} {o : Outgoing} {c : Call} {target : Url} {r : Response} {items : List Value}

theorem ofReply_eq_statements_iff {e : ReplyError} {summary : String} :
    Failure.ofReply e = .statements items summary ↔ e = .statements items summary := by
  cases e with
  | statements found text => simp [Failure.ofReply]
  | access e => simp [Failure.ofReply]

/-- The faults that a call reports are those that its response lists. -/
theorem answered_statements_iff (h : s.verdict o = .ok (target, r)) {action : Action}
    (haction : action ≠ .rollback) :
    (∃ summary, action.answered s o = .error (.statements items summary)) ↔ r.Lists items := by
  have hvalue := valueOf_of_verdict h
  have hread : ∀ {α : Type} (read : Value → Except ReplyError α) (summary : String),
      (s.valueOf o >>= fun found => (read found.2).mapError Failure.ofReply) =
        .error (.statements items summary) ↔
      ∃ v, r.value = .ok v ∧ read v = .error (.statements items summary) := by
    intro α read summary
    rw [bind_eq_error]
    constructor
    · rintro (hfails | ⟨⟨r', v⟩, hfound, hreads⟩)
      · exact nomatch isStatements_of_valueOf hfails
      · rw [hvalue] at hfound
        obtain ⟨w, hw, hpair⟩ := map_eq_ok.mp hfound
        obtain ⟨rfl, rfl⟩ := Prod.mk.inj hpair
        obtain ⟨e, he, hreply⟩ := mapError_eq_error.mp hreads
        rw [ofReply_eq_statements_iff.mp hreply] at he
        exact ⟨w, mapError_eq_ok.mp hw, he⟩
    · rintro ⟨v, hv, hreads⟩
      refine .inr ⟨(r, v), ?_, ?_⟩
      · rw [hvalue, hv]
        rfl
      · rw [hreads]
        rfl
  rw [Reply.lists_iff]
  cases action with
  | run =>
    have hmap : ∀ summary, Action.run.answered s o = .error (.statements items summary) ↔
        s.resultsOf o = .error (.statements items summary) := by
      intro summary
      rw [Action.answered]
      cases s.resultsOf o <;> simp [Except.map]
    simp only [hmap, resultsOf, hread, Reply.results_eq_statements_iff]
    rw [exists_comm]
    simp only [exists_and_left]
  | commit =>
    simp only [Action.answered, checkOf, hread]
    rw [exists_comm]
    simp only [exists_and_left]
  | rollback => exact absurd rfl haction

theorem opening_of_clear (h : s.verdict (.posting s.settings.endpoint []) = .ok (target, r))
    (hclear : s.next.Clear) : s.opening =
      match r.header? "Location" with
      | none | some "" => .error (.noLocation s.settings.endpoint)
      | some location => .ok location := by
  obtain ⟨es, ⟨r', hr, -, hv⟩, hclear⟩ := hclear
  obtain ⟨-, -, -, hnext, -⟩ := carried_of_verdict h
  obtain rfl := Reply.response.inj (hnext.symm.trans hr)
  have hfound : s.valueOf (.posting s.settings.endpoint []) = .ok (r, .map es) := by
    rw [valueOf_of_verdict h, hv]
    rfl
  have hcheck := Reply.checkErrors_map.mpr hclear
  rw [opening, hfound]
  change located s.settings.endpoint r (.map es) = _
  rw [located, hcheck]
  rfl

/-- The new transaction is where a reply without faults locates it. -/
theorem opening_eq_ok_iff (hnext : s.next = .response r)
    (h : r.status < 300 → s.verdict (.posting s.settings.endpoint []) = .ok (target, r))
    {url : String} :
    s.opening = .ok url ↔ s.next.Clear ∧ r.header? "Location" = some url ∧ url ≠ "" := by
  have hlocation : s.next.Clear →
      (s.opening = .ok url ↔ r.header? "Location" = some url ∧ url ≠ "") := by
    intro hclear
    obtain ⟨-, ⟨r', hr, hstatus, -⟩, -⟩ := id hclear
    obtain rfl := Reply.response.inj (hnext.symm.trans hr)
    rw [opening_of_clear (h hstatus) hclear]
    split
    · next hnone => simp [hnone]
    · next hempty => simp +contextual [hempty]
    · next location hne hsome =>
      rw [hsome]
      constructor
      · intro hfound
        obtain rfl := Except.ok.inj hfound
        exact ⟨rfl, hne⟩
      · rintro ⟨hfound, -⟩
        exact congrArg Except.ok (Option.some.inj hfound)
  constructor
  · intro hopening
    obtain ⟨⟨r', v⟩, hfound, hlocated⟩ := bind_eq_ok.mp hopening
    obtain ⟨u, hcheck, -⟩ := bind_eq_ok.mp hlocated
    obtain ⟨-, -, -, hb⟩ := carried_of_valueOf hfound
    have hclear : s.next.Clear := clear_of_checkErrors hb (mapError_eq_ok.mp hcheck)
    exact ⟨hclear, (hlocation hclear).mp hopening⟩
  · rintro ⟨hclear, hheader⟩
    exact (hlocation hclear).mpr hheader

theorem begins_iff {url : String} :
    (((Call.begin false).perform s).1 = .ok () ∧ ((Call.begin false).perform s).2.transactions =
      s.transactions ++ [⟨url, false, .pending⟩]) ↔ s.opening = .ok url := by
  have hafter := (noted_perform (.begin false) s).transactions
  rw [outcome_begin]
  cases hopening : s.opening with
  | error f => simp [Except.map]
  | ok found =>
    have hensuing : ((Call.begin false).ensuing s).transactions =
        s.transactions ++ [⟨found, false, .pending⟩] := by
      rw [Call.ensuing, hopening]
      rfl
    rw [hafter, hensuing]
    simp [Except.map]

/-- The client takes the address that the request goes to, and the response, if there is one, can be
judged. -/
def Weighable (s : Session) (c : Call) (o : Outgoing) : Prop :=
  ∃ target, addressee o.url = .ok target ∧ ∀ r, s.next = .response r → c.reads.Weighs target r

/-- How a call takes the reply to its request, whichever call it is. -/
structure Classified (s : Session) (c : Call) (o : Outgoing) : Prop where
  transport : ∀ name message, s.next = .fault name message →
    (c.perform s).1 = .error (.transport o.method o.url name)
  status : ∀ r, s.next = .response r → 300 ≤ r.status →
    ∃ f, (c.perform s).1 = .error f ∧ f.isPlain = true
  value : ∀ r, s.next = .response r → r.status < 300 → c.reads ≠ .rollback →
    ∀ e, r.value = .error e → ∃ f, (c.perform s).1 = .error f ∧ f.isPlain = true
  statements : ∀ r, s.next = .response r → r.status < 300 → c.reads ≠ .rollback → ∀ items,
    (∃ summary, (c.perform s).1 = .error (.statements items summary)) ↔ r.Lists items
  begins : ∀ r, s.next = .response r → c = .begin false → ∀ url,
    ((c.perform s).1 = .ok () ∧
      (c.perform s).2.transactions = s.transactions ++ [⟨url, false, .pending⟩]) ↔
    s.next.Clear ∧ r.header? "Location" = some url ∧ url ≠ ""
  located : ∀ r, s.next = .response r → c = .begin false → s.next.Clear →
    r.header? "Location" = none ∨ r.header? "Location" = some "" →
    ∃ f, (c.perform s).1 = .error f ∧ f.isPlain = true
  withdraws : ∀ r, s.next = .response r → c.reads = .rollback →
    ((c.perform s).1 = .ok () ↔ r.status < 300)

theorem outcome_of_answered_error {f : Failure} (hasked : c.handed? s = some o)
    (h : c.reads.answered s o = .error f) : (c.perform s).1 = .error f := by
  obtain houtcome | ⟨-, hanswered, -⟩ := outcome_handed hasked
  · exact houtcome.trans h
  · cases hanswered.symm.trans h

theorem classified_of_weighable {body : String} (hc : s.connected = true)
    (hasked : c.handed? s = some o) (hbody : payloadText o.payload = .ok body)
    (h : s.Weighable c o) : s.Classified c o := by
  obtain ⟨target, haddressee, hweighs⟩ := h
  have hverdict := verdict_of_addressed hc hbody haddressee
  have hfails : ∀ {f}, s.verdict o = .error f → (c.perform s).1 = .error f := fun hf =>
    outcome_of_answered_error hasked (Action.answered_of_verdict_error hf c.reads)
  have hcounts : ∀ r, s.next = .response r → r.status < 300 → s.verdict o = .ok (target, r) := by
    intro r hn hstatus
    rw [hverdict, hn, Outgoing.judged_response hstatus, if_pos (hweighs r hn).known]
    rfl
  have hposting : c = .begin false → o = .posting s.settings.endpoint [] := by
    rintro rfl
    exact (Option.some.inj hasked).symm
  have hstatus : ∀ r, s.next = .response r → 300 ≤ r.status →
      ∃ f, (c.perform s).1 = .error f ∧ f.isPlain = true := by
    intro r hn hrefused
    obtain ⟨hknown, hleads, -⟩ := hweighs r hn
    obtain ⟨f, hf, hplain⟩ := Outgoing.weighed_refused (o := o) hknown hleads hrefused
    refine ⟨f, hfails ?_, hplain⟩
    rw [hverdict, hn]
    exact congrArg (Except.map fun r => (target, r)) hf
  constructor
  · intro name message hn
    apply hfails
    rw [hverdict, hn]
    rfl
  · exact hstatus
  · intro r hn hlt hread e he
    have hvalue : s.valueOf o = .error (.ofUnreadable target.text e) := by
      rw [valueOf_of_verdict (hcounts r hn hlt), he]
      rfl
    refine ⟨_, outcome_of_answered_error hasked (Action.answered_of_valueOf_error hvalue hread), ?_⟩
    cases e with
    | notText => rfl
    | notValue cause =>
      cases cause with
      | nested inMap => exact absurd he ((hweighs r hn).shallow hlt hread inMap)
      | _ => rfl
  · intro r hn hlt hread items
    rw [← answered_statements_iff (hcounts r hn hlt) hread]
    obtain houtcome | ⟨-, hanswered, houtcome⟩ := outcome_handed hasked
    · rw [houtcome]
    · rw [houtcome, hanswered]
      simp
  · rintro r hn rfl url
    rw [begins_iff]
    exact opening_eq_ok_iff hn fun hlt => hposting rfl ▸ hcounts r hn hlt
  · rintro r hn rfl hclear hheader
    obtain ⟨-, ⟨r', hr, hlt, -⟩, -⟩ := id hclear
    obtain rfl := Reply.response.inj (hn.symm.trans hr)
    rw [outcome_begin, opening_of_clear (hposting rfl ▸ hcounts r hn hlt) hclear]
    obtain hnone | hempty := hheader
    · rw [hnone]
      exact ⟨_, rfl, rfl⟩
    · rw [hempty]
      exact ⟨_, rfl, rfl⟩
  · intro r hn hrollback
    constructor
    · intro hok
      by_contra hlt
      obtain ⟨f, hf, -⟩ := hstatus r hn (by omega)
      cases hok.symm.trans hf
    · intro hlt
      have hanswered : c.reads.answered s o = .ok () := by
        rw [hrollback, Action.answered, hcounts r hn hlt]
        rfl
      obtain houtcome | ⟨rfl, -, -⟩ := outcome_handed hasked
      · exact houtcome.trans hanswered
      · cases hrollback

/-- While connected, whatever call was made, if the client takes the address and the driver can judge
the response, the reply is classified by the transport, the status, the body and the faults that it
lists, in this order. If not, the call fails with what the driver does not report as its own. -/
theorem classified_or_unreported (hc : s.connected = true) (hasked : c.handed? s = some o)
    (h : ∀ r ∈ c.requests, r.isSerialisable = true) (hnext : s.next.IsExchanged) :
    (s.Weighable c o → s.Classified c o) ∧
      (¬s.Weighable c o → ∃ f, (c.perform s).1 = .error f ∧ f.isReported = false) := by
  have hopen : ∀ i op, c = .operate i op → s.pending? i ≠ none := by
    rintro i op rfl hnone
    rw [Call.handed?, hnone] at hasked
    cases hasked
  constructor
  · intro hweighable
    obtain ⟨hnone, -⟩ | ⟨o', body, hsome, hbody⟩ := exists_handed_body hopen h
    · cases hnone.symm.trans hasked
    · obtain rfl := Option.some.inj (hsome.symm.trans hasked)
      exact classified_of_weighable hc hasked hbody hweighable
  · intro hnot
    by_contra hreported
    have hall : ∀ f, (c.perform s).1 = .error f → f.isReported = true := by
      intro f hf
      by_contra hunreported
      exact hreported ⟨f, hf, Bool.eq_false_iff.mpr hunreported⟩
    obtain ⟨target, haddressee, htakes⟩ := (reported_iff_takes hc hopen h hnext).mp hall o hasked
    exact hnot ⟨target, haddressee, fun r hr => (htakes r hr).weighs⟩

/-- An error of the server, which lists a fault besides. -/
def failing : Response := ⟨500, [], "\x7b\"errors\": [\x7b\x7d]\x7d".toUTF8.toList⟩

/-- A redirect to an address that cannot be completed. -/
def misdirecting : Response := ⟨302, [("Location", "http:foo")], []⟩

theorem follow_incomplete : ∃ target,
    addressee "http://localhost:7474/db/data/transaction/1" = .ok target ∧
      target.isAbsolute = true ∧ target.follow "http:foo" = .error (.goal .rootless) := by
  have hfollow : (addressee "http://localhost:7474/db/data/transaction/1").toOption.map
      (fun target => (target.isAbsolute, target.follow "http:foo")) =
        some (true, .error (.goal .rootless)) := by decide +kernel
  obtain ⟨target, htarget, hpair⟩ := Option.map_eq_some_iff.mp hfollow
  obtain ⟨habsolute, hrootless⟩ := Prod.mk.inj hpair
  exact ⟨target, eq_ok_of_toOption htarget, habsolute, hrootless⟩

theorem failing_classified_misdirecting_unreported :
    (∃ f, (query.perform (replying (.response failing))).1 = .error f ∧ f.isPlain = true) ∧
      ∃ f, (query.perform (replying (.response misdirecting))).1 = .error f ∧
        f.isReported = false := by
  obtain ⟨target, htarget, habsolute, hfollow⟩ := follow_incomplete
  constructor
  · have hnext : (replying (.response failing)).next = .response failing := by decide +kernel
    have hasked : (query.handed? (replying (.response failing))).map Outgoing.url =
        some "http://localhost:7474/db/data/transaction/1" := by decide +kernel
    obtain ⟨o, ho, hurl⟩ := Option.map_eq_some_iff.mp hasked
    obtain ⟨hclassified, -⟩ := classified_or_unreported (by decide +kernel) ho (by decide +kernel)
      (by rw [hnext]; trivial)
    refine (hclassified ⟨target, hurl ▸ htarget, fun r hr => ?_⟩).status _ hnext (by decide)
    obtain rfl := Reply.response.inj (hnext.symm.trans hr)
    have hlocation : failing.location? = none := by decide
    refine ⟨habsolute, ?_, ?_⟩
    · rw [hlocation]
      nofun
    · intro hstatus
      exact absurd hstatus (by decide)
  · have hnext : (replying (.response misdirecting)).next = .response misdirecting := by
      decide +kernel
    have hasked : (query.handed? (replying (.response misdirecting))).map Outgoing.url =
        some "http://localhost:7474/db/data/transaction/1" := by decide +kernel
    obtain ⟨o, ho, hurl⟩ := Option.map_eq_some_iff.mp hasked
    obtain ⟨-, hunreported⟩ := classified_or_unreported (by decide +kernel) ho (by decide +kernel)
      (by rw [hnext]; trivial)
    apply hunreported
    rintro ⟨target', haddressee, hweighs⟩
    rw [hurl, htarget] at haddressee
    obtain rfl := Except.ok.inj haddressee
    have hlocation : misdirecting.location? = some "http:foo" := by decide +kernel
    obtain ⟨_, ⟨⟩⟩ := (hweighs _ hnext).leads _ hlocation _ hfollow

end Session

end CypherLink

import CypherLink.Proofs.Session.Endpoint
import CypherLink.Proofs.Session.Traffic
import CypherLink.Sample

/-!
Where the sample is run. The settings take a server's address from the environment or from the
settings file; whether the request is sent is decided by one variable of the environment alone. Main
statement: `asConfigured_iff`.
-/

namespace CypherLink

namespace Settings

namespace Sources

/-- The address of a server that is configured in the environment or in the settings file. -/
def server? (s : Sources) : Option String :=
  ((s.fromEnvironment? "neo4j_uri").or (s.fromFile? "neo4j_uri")).filter (· ≠ "")

end Sources

theorem mem_keys_lowerKeys {α : Type} {given : Entries String α} {key : String} :
    key ∈ Entries.keys (lowerKeys given) ↔ ∃ e ∈ given, e.1.map Char.toLower = key := by
  have hfold : ∀ seen : Entries String α,
      key ∈ Entries.keys (given.foldl (fun m e => Entries.put m (e.1.map Char.toLower) e.2) seen) ↔
        key ∈ Entries.keys seen ∨ ∃ e ∈ given, e.1.map Char.toLower = key := by
    induction given with
    | nil => simp
    | cons e rest ih =>
      intro seen
      have hput : key ∈ Entries.keys (Entries.put seen (e.1.map Char.toLower) e.2) ↔
          key ∈ Entries.keys seen ∨ e.1.map Char.toLower = key := by
        rw [← Entries.find?_isSome, Entries.find?_put, ← Entries.find?_isSome]
        by_cases h : e.1.map Char.toLower = key <;> simp [h]
      rw [List.foldl_cons, ih, hput, or_assoc, List.exists_mem_cons_iff]
  have hempty : key ∉ Entries.keys ([] : Entries String α) := List.not_mem_nil
  rw [lowerKeys, hfold, or_iff_right hempty]

variable {s : Sources} {settings : Settings}

theorem text_uri_of_resolve (h : resolve s = .ok settings) :
    text s "neo4j_uri" defaults.uri = .ok settings.uri := by
  unfold resolve at h
  dsimp only at h
  split at h
  · next huri _ _ _ _ _ _ =>
    rw [huri, ← Except.ok.inj h]
  · exact nomatch h

theorem uri_of_resolve (hgiven : s.given = []) (h : resolve s = .ok settings) {uri : String}
    (huri : (s.fromEnvironment? "neo4j_uri").or (s.fromFile? "neo4j_uri") = some uri) :
    settings.uri = uri := by
  have htext := text_uri_of_resolve h
  have hfind : s.find? "neo4j_uri" = some (.text uri) := by
    rw [Sources.find?, hgiven, huri]
    rfl
  rw [text, hfind] at htext
  exact (Except.ok.inj htext).symm

end Settings

namespace Session

section Scope

variable {α : Type} {s t : Session} {i : Nat} {tx : Transaction} {act : Act α}

theorem sent_whileConnected (h : connect s = (.ok (), t)) :
    (whileConnected act s).2.sent = (act t).2.sent := by
  have hobserve : observe act t = (.ok (act t).1, (act t).2) := rfl
  unfold whileConnected
  rw [bind_ok s h, bind_ok t hobserve]
  cases (act t).1 with
  | ok a => exact (silent_bind silent_close (fun _ => silent_pure a) _).sent
  | error e => exact (silent_bind silent_close (fun _ => silent_throw e) _).sent

theorem snd_whileConnected_refused {e : Failure} (h : connect s = (.error e, s)) :
    (whileConnected act s).2 = s := by
  unfold whileConnected
  rw [bind_error s h]

/-- Leaving the scope of a transaction that commits by itself asks the server for nothing. -/
theorem sent_leave_auto (ht : s.transactions[i]? = some tx) (hauto : tx.autoCommit = true)
    (failed : Bool) : (leave i failed s).2.sent = s.sent := by
  by_cases hp : tx.status = .pending
  · rw [(ends_leave ht hp failed).noted_perform.sent]
    have hcarried : (Operation.leave failed).carried tx s = [] := by
      rw [Operation.carried, outgoing?_leave, hauto]
      rfl
    rw [Operation.ensuing, hcarried]
    exact List.append_nil _
  · rw [leave_closed ht hp]

theorem sent_within_auto (ht : (act s).2.transactions[i]? = some tx) (hauto : tx.autoCommit = true) :
    (within i act s).2.sent = (act s).2.sent := by
  have hobserve : observe act s = (.ok (act s).1, (act s).2) := rfl
  have hleave : ∀ (failed : Bool) (f : Unit → Act α), (∀ u, Silent (f u)) →
      ((leave i failed >>= f) (act s).2).2.sent = (act s).2.sent := by
    intro failed f hf
    rw [← sent_leave_auto ht hauto failed]
    cases hl : leave i failed (act s).2 with
    | mk outcome u =>
      cases outcome with
      | ok a =>
        rw [bind_ok _ hl]
        exact (hf a u).sent
      | error e => rw [bind_error _ hl]
  unfold within
  rw [bind_ok s hobserve]
  cases (act s).1 with
  | ok a => exact hleave false _ fun _ => silent_pure a
  | error e => exact hleave true _ fun _ => silent_throw e

end Scope

end Session

namespace Sample

open Session Settings

/-- One request was sent, to the endpoint, and it carries the payload. -/
def SentOnce (settings : Settings) (r : Report) : Prop :=
  ∃ request payload x, plan.request = .ok request ∧ request.payload = .ok payload ∧ r.sent = [x] ∧
    x.Addressed .post (settings.endpoint ++ "/commit") ∧
    payloadText (some (batch [payload])) = .ok x.body

/-- Nothing was sent, and the payload was shown. -/
def OnlyShown (r : Report) : Prop :=
  r.sent = [] ∧ r.failure = none ∧
    ∃ request, plan.request = .ok request ∧ shownPayload request = .ok r.output

/-- With a server configured, the request is sent there; without one, the payload is only shown. -/
def AsConfigured (sources : Sources) (settings : Settings) (r : Report) : Prop :=
  match sources.server? with
  | some uri => settings.uri = uri ∧ SentOnce settings r
  | none => OnlyShown r

/-- The client can name itself, and takes the address. -/
def Takes (settings : Settings) : Prop :=
  Ascii.fault? settings.userAgent.toList = none ∧
    ∃ target, addressee (settings.endpoint ++ "/commit") = .ok target

theorem exists_request : ∃ request payload text body, plan.request = .ok request ∧
    request.payload = .ok payload ∧ shownPayload request = .ok text ∧
    payloadText (some (batch [payload])) = .ok body := by
  have hrequest : plan.request.toOption.isSome = true := by decide +kernel
  obtain ⟨request, hrequest⟩ := Outcome.eq_ok_of_isSome hrequest
  have hwritten : (plan.request.toOption.bind fun r => (shownPayload r).toOption.bind fun _ =>
      r.payload.toOption.bind fun p => (payloadText (some (batch [p]))).toOption).isSome = true := by
    decide +kernel
  rw [hrequest] at hwritten
  cases hpayload : request.payload with
  | error e => simp [hpayload, Except.toOption] at hwritten
  | ok payload =>
    cases htext : shownPayload request with
    | error e => simp [htext, Except.toOption] at hwritten
    | ok text =>
      cases hbody : payloadText (some (batch [payload])) with
      | error e => simp [hpayload, htext, hbody, Except.toOption] at hwritten
      | ok body => exact ⟨request, payload, text, body, hrequest, hpayload, htext, hbody⟩

section Execute

variable {s : Session} {r : Request} {payload : Payload}

theorem sent_scope (hp : r.payload = .ok payload) :
    ((do let i ← Session.begin true; within i (Session.run i r)) s : _ × Session).2.sent =
      s.sent ++ s.carried (.posting (s.settings.endpoint ++ "/commit") [payload]) := by
  let i := s.transactions.length
  let url := s.settings.endpoint ++ "/commit"
  have hbegin : Session.begin true s = (.ok i, s.adding url true) := rfl
  have hbegun : (s.adding url true).transactions[i]? = some ⟨url, true, .pending⟩ :=
    List.getElem?_concat_length
  have hpending : (s.adding url true).pending? i = some ⟨url, true, .pending⟩ :=
    pending?_eq_some.mpr ⟨hbegun, rfl⟩
  have hpayloads : [r].mapM Request.payload = .ok [payload] := by
    rw [List.mapM_cons, hp]
    rfl
  have hrun : (Operation.perform i (.run r) (s.adding url true)).2 =
      (Session.run i r (s.adding url true)).2 := bind_pure_snd _ _ _
  have hafter := Event.transaction_kept ⟨s.adding url true, .operate i (.run r)⟩ hbegun
  obtain ⟨status, hstatus⟩ := hafter
  have hkept : (Session.run i r (s.adding url true)).2.transactions[i]? = some ⟨url, true, status⟩ := by
    rw [← hrun]
    exact hstatus
  rw [bind_ok s hbegin, sent_within_auto hkept rfl, ← hrun]
  exact sent_run hpending rfl hpayloads

theorem sent_execute (hc : s.connected = false)
    (hagent : Ascii.fault? s.settings.userAgent.toList = none) (hp : r.payload = .ok payload) :
    (execute r s).2.sent = s.sent ++
      carried { s with connected := true } (.posting (s.settings.endpoint ++ "/commit") [payload]) := by
  rw [execute, sent_whileConnected (connect_ready hc hagent)]
  exact sent_scope hp

theorem sent_execute_refused {fault : Ascii.Fault} (hc : s.connected = false)
    (hagent : Ascii.fault? s.settings.userAgent.toList = some fault) :
    (execute r s).2.sent = s.sent := by
  rw [execute, snd_whileConnected_refused (connect_refused hc hagent)]

end Execute

section Report

variable {sources : Sources} {settings : Settings} {request : Request} {payload : Payload}
  {text body : String} (replies : List Reply) (before : Report)

theorem sent_runOn (huri : settings.uri ≠ "") :
    (runOn settings replies request before).sent =
      (execute request { settings, replies }).2.sent := by
  have hmake : Session.make settings replies = .ok { settings, replies } := if_neg huri
  unfold runOn
  rw [hmake]
  dsimp only
  cases execute request { settings, replies } with
  | mk outcome u => cases outcome <;> rfl

theorem sent_runOn_takes (huri : settings.uri ≠ "") (htakes : Takes settings)
    (hp : request.payload = .ok payload)
    (hbody : payloadText (some (batch [payload])) = .ok body) :
    ∃ x, (runOn settings replies request before).sent = [x] ∧
      x.Addressed .post (settings.endpoint ++ "/commit") ∧ x.body = body := by
  obtain ⟨hagent, target, htarget⟩ := htakes
  have hready : (Outgoing.posting (settings.endpoint ++ "/commit") [payload]).ready =
      .ok (target, body) := by
    rw [ready_of_body hbody]
    change (addressee (settings.endpoint ++ "/commit")).map _ = _
    rw [htarget]
    rfl
  rw [sent_runOn replies before huri, sent_execute (s := { settings, replies }) rfl hagent hp]
  have hcarried := carried_of_ok (s := { settings, replies, connected := true }) rfl hready
  refine ⟨_, hcarried, addressed_sent hready, rfl⟩

theorem takes_of_sent_runOn (huri : settings.uri ≠ "") (hp : request.payload = .ok payload)
    (hbody : payloadText (some (batch [payload])) = .ok body)
    (hsent : (runOn settings replies request before).sent ≠ []) : Takes settings := by
  rw [sent_runOn replies before huri] at hsent
  cases hagent : Ascii.fault? settings.userAgent.toList with
  | some fault =>
    rw [sent_execute_refused (s := { settings, replies }) rfl hagent] at hsent
    exact absurd rfl hsent
  | none =>
    refine ⟨hagent, ?_⟩
    rw [sent_execute (s := { settings, replies }) rfl hagent hp] at hsent
    cases ha : addressee (settings.endpoint ++ "/commit") with
    | ok target => exact ⟨target, rfl⟩
    | error f =>
      have hready : (Outgoing.posting (settings.endpoint ++ "/commit") [payload]).ready =
          .error f := by
        rw [ready_of_body hbody]
        change (addressee (settings.endpoint ++ "/commit")).map _ = _
        rw [ha]
        rfl
      rw [List.nil_append] at hsent
      exact absurd (carried_of_error hready) hsent

section Run

variable (h : Settings.resolve sources = .ok settings)

include h

theorem run_refused {e : LevelError} (hlevel : RootLogger.refusal? {} settings.logLevel = some e) :
    (run sources replies).sent = [] ∧ (run sources replies).failure ≠ none := by
  unfold run
  rw [h]
  dsimp only
  rw [hlevel]
  exact ⟨rfl, nofun⟩

variable (hlevel : RootLogger.refusal? {} settings.logLevel = none)
  (hrequest : plan.request = .ok request) (htext : shownPayload request = .ok text)

include hlevel hrequest htext

theorem run_eq : run sources replies =
    if serverVariable ∈ Entries.keys sources.environment then
      runOn settings replies request
        { output := text, log := plan.entries, root := RootLogger.configure {} settings.logLevel }
    else
      { output := text
        log := plan.entries ++ [⟨.info, .main, "No server configured; not executing"⟩]
        root := RootLogger.configure {} settings.logLevel } := by
  unfold run
  rw [h]
  dsimp only
  rw [hlevel, hrequest]
  dsimp only
  rw [htext]
  simp only [List.contains_iff_mem]

theorem run_unset (hunset : serverVariable ∉ Entries.keys sources.environment) :
    (run sources replies).sent = [] ∧ (run sources replies).failure = none ∧
      (run sources replies).output = text := by
  rw [run_eq replies h hlevel hrequest htext, if_neg hunset]
  exact ⟨rfl, rfl, rfl⟩

theorem run_set (hset : serverVariable ∈ Entries.keys sources.environment) :
    ∃ before, run sources replies = runOn settings replies request before := by
  rw [run_eq replies h hlevel hrequest htext, if_pos hset]
  exact ⟨_, rfl⟩

end Run

theorem isSome_environment (hset : serverVariable ∈ Entries.keys sources.environment) :
    ∃ uri, sources.fromEnvironment? "neo4j_uri" = some uri := by
  obtain ⟨e, he, hname⟩ := List.mem_map.mp hset
  have hlower : serverVariable.map Char.toLower = variableStart ++ "neo4j_uri" := by decide +kernel
  have hkey : variableStart ++ "neo4j_uri" ∈ Entries.keys (lowerKeys sources.environment) :=
    mem_keys_lowerKeys.mpr ⟨e, he, by rw [hname, hlower]⟩
  exact Option.isSome_iff_exists.mp ((Entries.find?_isSome _ _).mpr hkey)

theorem uri_empty_of_set (hgiven : sources.given = []) (h : Settings.resolve sources = .ok settings)
    (hset : serverVariable ∈ Entries.keys sources.environment) (hserver : sources.server? = none) :
    settings.uri = "" := by
  obtain ⟨uri, huri⟩ := isSome_environment hset
  have hfirst : (sources.fromEnvironment? "neo4j_uri").or (sources.fromFile? "neo4j_uri") =
      some uri := by
    rw [huri]
    rfl
  rw [Sources.server?, hfirst, Option.filter_eq_none_iff] at hserver
  rw [uri_of_resolve hgiven h hfirst]
  simpa using hserver uri rfl

theorem uri_of_server (hgiven : sources.given = []) (h : Settings.resolve sources = .ok settings)
    {uri : String} (hserver : sources.server? = some uri) : settings.uri = uri ∧ uri ≠ "" := by
  obtain ⟨huri, hne⟩ := Option.filter_eq_some_iff.mp hserver
  exact ⟨uri_of_resolve hgiven h huri, of_decide_eq_true hne⟩

theorem runOn_nameless (huri : settings.uri = "") :
    (runOn settings replies request before).failure ≠ none := by
  have hmake : Session.make settings replies = .error .noUri := if_pos huri
  unfold runOn
  rw [hmake]
  exact nofun

end Report

section Configured

variable {sources : Sources} {settings : Settings} {replies : List Reply}

theorem only_shown_iff (hgiven : sources.given = []) (h : Settings.resolve sources = .ok settings)
    (hserver : sources.server? = none) :
    OnlyShown (run sources replies) ↔ RootLogger.refusal? {} settings.logLevel = none ∧
      serverVariable ∉ Entries.keys sources.environment := by
  obtain ⟨request, payload, text, body, hrequest, -, htext, -⟩ := exists_request
  constructor
  · rintro ⟨-, hdone, -⟩
    cases hlevel : RootLogger.refusal? {} settings.logLevel with
    | some e => exact absurd hdone (run_refused replies h hlevel).2
    | none =>
      refine ⟨rfl, fun hset => ?_⟩
      obtain ⟨before, hrun⟩ := run_set replies h hlevel hrequest htext hset
      rw [hrun] at hdone
      exact runOn_nameless replies before (uri_empty_of_set hgiven h hset hserver) hdone
  · rintro ⟨hlevel, hunset⟩
    obtain ⟨hsent, hdone, houtput⟩ := run_unset replies h hlevel hrequest htext hunset
    exact ⟨hsent, hdone, request, hrequest, houtput ▸ htext⟩

theorem sent_once_iff (hgiven : sources.given = []) (h : Settings.resolve sources = .ok settings)
    {uri : String} (hserver : sources.server? = some uri) :
    SentOnce settings (run sources replies) ↔ RootLogger.refusal? {} settings.logLevel = none ∧
      serverVariable ∈ Entries.keys sources.environment ∧ Takes settings := by
  obtain ⟨request, payload, text, body, hrequest, hpayload, htext, hbody⟩ := exists_request
  obtain ⟨huri, hne⟩ := uri_of_server hgiven h hserver
  rw [← huri] at hne
  constructor
  · rintro ⟨_, _, x, -, -, hsent, -⟩
    have hsome : (run sources replies).sent ≠ [] := by
      rw [hsent]
      exact List.cons_ne_nil x []
    cases hlevel : RootLogger.refusal? {} settings.logLevel with
    | some e => exact absurd (run_refused replies h hlevel).1 hsome
    | none =>
      by_cases hset : serverVariable ∈ Entries.keys sources.environment
      · obtain ⟨before, hrun⟩ := run_set replies h hlevel hrequest htext hset
        rw [hrun] at hsome
        exact ⟨rfl, hset, takes_of_sent_runOn replies before hne hpayload hbody hsome⟩
      · exact absurd (run_unset replies h hlevel hrequest htext hset).1 hsome
  · rintro ⟨hlevel, hset, htakes⟩
    obtain ⟨before, hrun⟩ := run_set replies h hlevel hrequest htext hset
    obtain ⟨x, hsent, haddressed, hx⟩ :=
      sent_runOn_takes replies before hne htakes hpayload hbody
    exact ⟨request, payload, x, hrequest, hpayload, hrun ▸ hsent, haddressed, hx ▸ hbody⟩

end Configured

/-- The sample is run on the server that is configured, and else only shown, exactly if the level for
the log is one, the variable is set in this spelling just when there is a server configured, and the
client can then send requests there. -/
theorem asConfigured_iff (environment : Entries String String) (file : String) {settings : Settings}
    (h : Settings.resolve { environment, file } = .ok settings) (replies : List Reply) :
    AsConfigured { environment, file } settings (run { environment, file } replies) ↔
      RootLogger.refusal? {} settings.logLevel = none ∧
        (serverVariable ∈ Entries.keys environment ↔
          (Sources.server? { environment, file }).isSome = true) ∧
        ((Sources.server? { environment, file }).isSome = true → Takes settings) := by
  unfold AsConfigured
  cases hserver : Sources.server? { environment, file } with
  | none => simp [only_shown_iff rfl h hserver]
  | some uri =>
    have huri : settings.uri = uri := (uri_of_server rfl h hserver).1
    simp [sent_once_iff rfl h hserver, huri]

/-- The address of a server in the settings file, and in the environment. -/
def filed : Sources := { file := "OGM_HTTP_NEO4J_URI=http://localhost:7474\n" }

def exported : Sources := { environment := [("OGM_HTTP_NEO4J_URI", "http://localhost:7474")] }

theorem exported_as_configured_filed_not :
    AsConfigured exported .defaults (run exported []) ∧
      ¬AsConfigured filed .defaults (run filed []) := by
  have hexported : Settings.resolve exported = .ok .defaults := by decide +kernel
  have hfiled : Settings.resolve filed = .ok .defaults := by decide +kernel
  have hserver : filed.server? = some "http://localhost:7474" := by decide +kernel
  have htakes : Takes .defaults := by
    have hsome : (addressee (Settings.defaults.endpoint ++ "/commit")).toOption.isSome = true := by
      decide +kernel
    obtain ⟨target, htarget⟩ := Outcome.eq_ok_of_isSome hsome
    exact ⟨by decide +kernel, target, htarget⟩
  constructor
  · apply (asConfigured_iff exported.environment exported.file hexported []).mpr
    exact ⟨by decide +kernel, by decide +kernel, fun _ => htakes⟩
  · intro hconfigured
    obtain ⟨-, hset, -⟩ := (asConfigured_iff filed.environment filed.file hfiled []).mp hconfigured
    exact nomatch hset.mpr (Option.isSome_of_eq_some hserver)

end Sample

end CypherLink

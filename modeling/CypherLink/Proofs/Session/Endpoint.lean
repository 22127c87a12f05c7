import Mathlib.Data.List.DropRight
import CypherLink.Proofs.Session.Course

/-!
Where transactions are addressed: at the server's address and the path, with slashes between them,
and `commit` behind that. Main statements: `Settings.endpoint_eq_joined_iff`, one slash stands
between them exactly if the address has at most one at its end, and `endpoint_and_commit`.
-/

namespace CypherLink

namespace Space

theorem trimRight_eq_rdropWhile (p : Char → Bool) (cs : List Char) :
    trimRight p cs = cs.rdropWhile p := rfl

theorem exists_replicate_trimRight (c : Char) (cs : List Char) :
    ∃ k, cs = trimRight (· = c) cs ++ List.replicate k c := by
  refine ⟨(cs.rtakeWhile (· = c)).length, ?_⟩
  have hall : ∀ d ∈ cs.rtakeWhile (· = c), d = c := by
    intro d hd
    simpa using List.mem_rtakeWhile_imp hd
  rw [trimRight_eq_rdropWhile, ← List.eq_replicate_of_mem hall, List.rdropWhile_append_rtakeWhile]

theorem getLast?_trimRight (c : Char) (cs : List Char) :
    (trimRight (· = c) cs).getLast? ≠ some c := by
  intro hlast
  have hne : trimRight (· = c) cs ≠ [] := by
    intro hnil
    rw [hnil] at hlast
    exact nomatch hlast
  have hnot := List.rdropWhile_last_not (· = c) cs hne
  rw [List.getLast?_eq_some_getLast hne] at hlast
  exact hnot (decide_eq_true (Option.some.inj hlast))

theorem trimRight_append_replicate {c : Char} {cs : List Char} (h : cs.getLast? ≠ some c) (n : Nat) :
    trimRight (· = c) (cs ++ List.replicate n c) = cs := by
  induction n with
  | zero =>
    rw [List.replicate_zero, List.append_nil, trimRight_eq_rdropWhile, List.rdropWhile_eq_self_iff]
    intro hne hlast
    exact h ((List.getLast?_eq_some_getLast hne).trans (congrArg some (of_decide_eq_true hlast)))
  | succ n ih =>
    rw [List.replicate_succ', ← List.append_assoc, trimRight_eq_rdropWhile,
      List.rdropWhile_concat_pos _ _ _ (by simp)]
    exact ih

end Space

/-- So many slashes. -/
def slashes (n : Nat) : String := String.ofList (List.replicate n '/')

namespace Settings

/-- The address of the server without slashes at its end. -/
def server (s : Settings) : String := String.ofList (Space.trimRight (· = '/') s.uri.toList)

def trimmedPath (s : Settings) : String := String.ofList (trimSlashes s.path.toList)

/-- The server and the path with one slash in between. -/
def joined (s : Settings) : String := s.server ++ slashes 1 ++ s.trimmedPath

variable (s : Settings)

theorem exists_uri_eq : ∃ k, s.uri = s.server ++ slashes k := by
  obtain ⟨k, hk⟩ := Space.exists_replicate_trimRight '/' s.uri.toList
  refine ⟨k, ?_⟩
  rw [server, slashes, ← String.ofList_append, ← hk, String.ofList_toList]

theorem getLast?_server : s.server.toList.getLast? ≠ some '/' := by
  rw [server, String.toList_ofList]
  exact Space.getLast?_trimRight '/' s.uri.toList

/-- A slash is added where the address has none. -/
theorem endpoint_eq {k : Nat} (h : s.uri = s.server ++ slashes k) :
    s.endpoint = s.server ++ slashes (max k 1) ++ s.trimmedPath := by
  have hlast : (s.uri.toList.getLast? = some '/') ↔ k ≠ 0 := by
    rw [h, String.toList_append, slashes, String.toList_ofList]
    cases k with
    | zero => simpa using s.getLast?_server
    | succ k => simp [List.getLast?_append, List.getLast?_replicate]
  have hslash : s.uri ++ (if s.uri.toList.getLast? = some '/' then "" else "/") =
      s.server ++ slashes (max k 1) := by
    cases k with
    | zero =>
      have hone : "/" = slashes 1 := by decide
      have hempty : slashes 0 = "" := rfl
      rw [if_neg (by simp [hlast]), h, hempty, String.append_empty, hone]
      rfl
    | succ k => rw [if_pos (by simp [hlast]), String.append_empty, h, Nat.max_eq_left (by omega)]
  rw [endpoint, hslash]
  rfl

theorem endpoint_eq_joined_iff {k : Nat} (h : s.uri = s.server ++ slashes k) :
    s.endpoint = s.joined ↔ k ≤ 1 := by
  rw [s.endpoint_eq h, joined, String.append_left_inj, String.append_right_inj]
  constructor
  · intro hslashes
    have hlength := congrArg String.length hslashes
    simp only [slashes, String.length_ofList, List.length_replicate] at hlength
    omega
  · intro hk
    rw [Nat.max_eq_right hk]

theorem getLast?_endpoint (h : trimSlashes s.path.toList ≠ []) :
    s.endpoint.toList.getLast? ≠ some '/' := by
  obtain ⟨k, hk⟩ := s.exists_uri_eq
  have hpath : s.trimmedPath.toList.getLast? ≠ some '/' := by
    rw [trimmedPath, String.toList_ofList]
    exact Space.getLast?_trimRight '/' _
  have hne : s.trimmedPath.toList ≠ [] := by
    rw [trimmedPath, String.toList_ofList]
    exact h
  rw [s.endpoint_eq hk, String.toList_append, List.getLast?_append_of_ne_nil _ hne]
  exact hpath

end Settings

namespace Session

theorem commitUrl_of_slashes {url : String} (h : url.toList.getLast? ≠ some '/') (n : Nat) :
    commitUrl (url ++ slashes n) = url ++ "/commit" := by
  rw [commitUrl, String.toList_append, slashes, String.toList_ofList,
    Space.trimRight_append_replicate h, String.ofList_toList]

section Posting

variable {s : Session} {i : Nat} {t : Transaction} {op : Operation}

theorem sent_perform (h : s.pending? i = some t) {o : Outgoing}
    (ho : op.outgoing? t = .ok (some o)) : (op.perform i s).2.sent = s.sent ++ s.carried o := by
  obtain ⟨ht, hp⟩ := pending?_eq_some.mp h
  rw [(ends_perform ht hp op).noted_perform.sent, Operation.ensuing, Operation.carried, ho]
  rfl

theorem sent_run (h : s.pending? i = some t) (hrun : op.action = .run) {payloads : List Payload}
    (hp : op.requests.mapM Request.payload = .ok payloads) :
    (op.perform i s).2.sent = s.sent ++ s.carried (.posting t.url payloads) := by
  apply sent_perform h
  rw [Operation.outgoing?, hrun, hp]
  rfl

theorem sent_commit (h : s.pending? i = some t) (hcommit : op.action = .commit)
    (hauto : t.autoCommit = false) :
    (op.perform i s).2.sent = s.sent ++ s.carried (.posting (commitUrl t.url) []) := by
  apply sent_perform h
  rw [Operation.outgoing?, hcommit, hauto]
  rfl

end Posting

/-- The endpoint is the server's address, slashes, and the path without those around it; there is one
slash exactly if the address ends in one or none, else there are as many as it ends in. Transactions
that commit by themselves post to `commit` behind the endpoint, and so does the commit of a
transaction that is located at the endpoint, with or without slashes behind it. -/
theorem endpoint_and_commit (s : Session)
    (hpath : Settings.trimSlashes s.settings.path.toList ≠ []) :
    (∃ k, s.settings.uri = s.settings.server ++ slashes k ∧
      s.settings.endpoint = s.settings.server ++ slashes (max k 1) ++ s.settings.trimmedPath ∧
      (s.settings.endpoint = s.settings.joined ↔ k ≤ 1)) ∧
    (∃ i u, begin true s = (.ok i, u) ∧ (u.pending? i).isSome = true ∧
      ∀ steps t, (u.after steps).pending? i = some t →
        ∀ (op : Operation) payloads, op.action = .run → op.requests.mapM Request.payload = .ok payloads →
          (op.perform i (u.after steps)).2.sent = (u.after steps).sent ++
            (u.after steps).carried (.posting (s.settings.endpoint ++ "/commit") payloads)) ∧
    ∀ u i t n, u.pending? i = some t → t.autoCommit = false →
      t.url = s.settings.endpoint ++ slashes n → ∀ op : Operation, op.action = .commit →
        (op.perform i u).2.sent =
          u.sent ++ u.carried (.posting (s.settings.endpoint ++ "/commit") []) := by
  refine ⟨?_, ?_, ?_⟩
  · obtain ⟨k, hk⟩ := s.settings.exists_uri_eq
    exact ⟨k, hk, s.settings.endpoint_eq hk, s.settings.endpoint_eq_joined_iff hk⟩
  · have hbegun : (s.adding (s.settings.endpoint ++ "/commit") true).transactions[
        s.transactions.length]? = some ⟨s.settings.endpoint ++ "/commit", true, .pending⟩ :=
      List.getElem?_concat_length
    refine ⟨s.transactions.length, s.adding (s.settings.endpoint ++ "/commit") true, rfl, ?_, ?_⟩
    · rw [pending?_eq_some.mpr ⟨hbegun, rfl⟩]
      rfl
    · intro steps t ht op payloads hrun hp
      obtain ⟨status, hafter⟩ := (course_program _ steps).transaction hbegun
      obtain rfl := Option.some.inj (hafter.symm.trans (pending?_eq_some.mp ht).1)
      exact sent_run ht hrun hp
  · intro u i t n ht hauto hurl op hcommit
    have hsent := sent_commit ht hcommit hauto
    rwa [hurl, commitUrl_of_slashes (s.settings.getLast?_endpoint hpath)] at hsent

/-- Slashes at every place where there may be some. -/
def slashed : Settings :=
  { Settings.defaults with uri := "http://localhost:7474//", path := "//db/data/transaction/" }

theorem endpoint_of_slashed :
    Settings.trimSlashes slashed.path.toList ≠ [] ∧
      slashed.endpoint = "http://localhost:7474//db/data/transaction" ∧
      slashed.endpoint ≠ slashed.joined := by
  have hpath : Settings.trimSlashes slashed.path.toList ≠ [] := by decide +kernel
  obtain ⟨⟨k, hk, -, hiff⟩, -⟩ := endpoint_and_commit { settings := slashed } hpath
  refine ⟨hpath, by decide +kernel, fun hjoined => ?_⟩
  have hserver : slashed.server = "http://localhost:7474" := by decide +kernel
  have hlength := congrArg String.length (hk.trans (congrArg (· ++ slashes k) hserver))
  have huri : slashed.uri.length = "http://localhost:7474".length + 2 := by decide +kernel
  have hone : k ≤ 1 := hiff.mp hjoined
  simp only [String.length_append, slashes, String.length_ofList, List.length_replicate] at hlength
  omega

end Session

end CypherLink

/-!
Maps that keep the order in which their keys were first given. A key given again keeps its place and
takes the new value. Main statements: `find?_put` and `keys_put`.
-/

namespace CypherLink

abbrev Entries (κ α : Type) := List (κ × α)

namespace Entries

variable {κ α : Type} [DecidableEq κ]

def keys (m : Entries κ α) : List κ := m.map Prod.fst

def find? (m : Entries κ α) (k : κ) : Option α :=
  match m with
  | [] => none
  | (k', v) :: rest => if k' = k then some v else find? rest k

def put (m : Entries κ α) (k : κ) (v : α) : Entries κ α :=
  match m with
  | [] => [(k, v)]
  | (k', v') :: rest => if k' = k then (k', v) :: rest else (k', v') :: put rest k v

def putAll (m : Entries κ α) (new : Entries κ α) : Entries κ α :=
  new.foldl (fun m e => put m e.1 e.2) m

theorem find?_put (m : Entries κ α) (k j : κ) (v : α) :
    find? (put m k v) j = if k = j then some v else find? m j := by
  induction m with
  | nil => simp [put, find?]
  | cons e rest ih =>
    obtain ⟨k', v'⟩ := e
    by_cases h : k' = k
    · subst h
      by_cases hj : k' = j <;> simp [put, find?, hj]
    · by_cases hj : k' = j
      · subst hj
        simp [put, find?, h, Ne.symm h]
      · simp [put, find?, h, hj, ih]

theorem keys_put (m : Entries κ α) (k : κ) (v : α) :
    keys (put m k v) = if k ∈ keys m then keys m else keys m ++ [k] := by
  induction m with
  | nil => simp [put, keys]
  | cons e rest ih =>
    obtain ⟨k', v'⟩ := e
    by_cases h : k' = k
    · subst h
      simp [put, keys]
    · by_cases hr : k ∈ keys rest <;> simp_all [put, keys, Ne.symm h]

theorem find?_isSome (m : Entries κ α) (k : κ) : (find? m k).isSome = true ↔ k ∈ keys m := by
  induction m with
  | nil => simp [find?, keys]
  | cons e rest ih =>
    obtain ⟨k', v'⟩ := e
    by_cases h : k' = k
    · simp [find?, keys, h]
    · simp_all [find?, keys, Ne.symm h]

end Entries

end CypherLink

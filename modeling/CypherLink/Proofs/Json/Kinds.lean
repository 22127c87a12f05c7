import CypherLink.Json.Reader
import CypherLink.Proofs.Entries
import CypherLink.Proofs.Outcome

/-!
The kinds of value that a text is read as: those of the wire format, all the way down. Main
statements: `wires` and `isWire_of_parse`.
-/

namespace CypherLink

namespace Value

mutual

/-- Whether the wire format knows the value and everything in it. -/
def isWire : Value → Bool
  | .null | .bool _ | .int _ | .real _ | .text _ => true
  | .list items => areWire items
  | .map entries => haveWire entries
  | .tuple _ | .set _ | .frozen _ | .point _ _ _ => false

def areWire : List Value → Bool
  | [] => true
  | v :: vs => isWire v && areWire vs

def haveWire : List (String × Value) → Bool
  | [] => true
  | (_, v) :: rest => isWire v && haveWire rest

end

theorem isWire_of_find? {es : List (String × Value)} {name : String} {v : Value}
    (h : haveWire es = true) (hv : Entries.find? es name = some v) : v.isWire = true := by
  induction es with
  | nil => cases hv
  | cons e rest ih =>
    obtain ⟨k, w⟩ := e
    simp only [haveWire, Bool.and_eq_true] at h
    by_cases hk : k = name
    · simp only [Entries.find?, hk, if_true, Option.some.injEq] at hv
      exact hv ▸ h.1
    · simp only [Entries.find?, hk, if_false] at hv
      exact ih h.2 hv

theorem haveWire_put {es : List (String × Value)} {v : Value} (name : String)
    (h : haveWire es = true) (hv : v.isWire = true) : haveWire (Entries.put es name v) = true := by
  induction es with
  | nil => simp [Entries.put, haveWire, hv]
  | cons e rest ih =>
    obtain ⟨k, w⟩ := e
    simp only [haveWire, Bool.and_eq_true] at h
    by_cases hk : k = name
    · simp [Entries.put, hk, haveWire, hv, h.2]
    · simp [Entries.put, hk, haveWire, h.1, ih h.2]

end Value

namespace Json

open Outcome Value

/-- What is read with that fuel is of the wire format. -/
structure Wires (fuel : Nat) : Prop where
  value {depth : Nat} {cs rest : List Char} {v : Value} :
    value fuel depth cs = .ok (v, rest) → v.isWire = true
  items {depth : Nat} {cs rest : List Char} {vs : List Value} :
    items fuel depth cs = .ok (vs, rest) → areWire vs = true
  members {depth : Nat} {seen es : List (String × Value)} {cs rest : List Char} :
    members fuel depth seen cs = .ok (es, rest) → haveWire seen = true → haveWire es = true

section Step

variable {fuel depth : Nat} {cs rest : List Char} {v : Value}

theorem isWire_of_word (h : word cs = some (v, rest)) : v.isWire = true := by
  obtain ⟨w, hw, hfound⟩ := List.exists_of_findSome?_eq_some h
  obtain ⟨_, -, hpair⟩ := Option.map_eq_some_iff.mp hfound
  obtain ⟨rfl, -⟩ := Prod.mk.inj hpair
  have hwords : ∀ w ∈ words, w.2.isWire = true := by decide
  exact hwords w hw

theorem isWire_of_magnitude {negative : Bool} (h : magnitude negative cs = .ok (v, rest)) :
    v.isWire = true := by
  obtain ⟨⟨whole, after⟩, -, h⟩ := bind_eq_ok.mp h
  dsimp only at h
  split at h
  · split at h
    · cases h
    · cases h
      rfl
  · cases h
    rfl

theorem isWire_of_number (h : number cs = .ok (v, rest)) : v.isWire = true := by
  unfold number at h
  split at h
  · split at h
    · cases h
      rfl
    · exact isWire_of_magnitude h
  · exact isWire_of_magnitude h

theorem isWire_of_value (ih : Wires fuel) (h : value (fuel + 1) depth cs = .ok (v, rest)) :
    v.isWire = true := by
  unfold value at h
  split at h
  · obtain ⟨⟨s, after⟩, -, h⟩ := bind_eq_ok.mp h
    cases h
    rfl
  · split at h
    · cases h
    · split at h
      · cases h
        rfl
      · obtain ⟨⟨vs, after⟩, hvs, h⟩ := bind_eq_ok.mp h
        cases h
        exact ih.items hvs
  · split at h
    · cases h
    · split at h
      · cases h
        rfl
      · obtain ⟨⟨es, after⟩, hes, h⟩ := bind_eq_ok.mp h
        cases h
        exact ih.members hes rfl
  · split at h
    · next found hword =>
      cases h
      exact isWire_of_word hword
    · exact isWire_of_number h

theorem areWire_of_items (ih : Wires fuel) {vs : List Value}
    (h : items (fuel + 1) depth cs = .ok (vs, rest)) : areWire vs = true := by
  unfold items at h
  obtain ⟨⟨v, after⟩, hv, h⟩ := bind_eq_ok.mp h
  have hv := ih.value hv
  dsimp only at h
  split at h
  · obtain ⟨⟨ws, after⟩, hws, h⟩ := bind_eq_ok.mp h
    cases h
    simp [areWire, hv, ih.items hws]
  · cases h
    simp [areWire, hv]
  · cases h

theorem haveWire_of_members (ih : Wires fuel) {seen es : List (String × Value)}
    (h : members (fuel + 1) depth seen cs = .ok (es, rest)) (hseen : haveWire seen = true) :
    haveWire es = true := by
  unfold members at h
  split at h
  · obtain ⟨⟨k, after⟩, -, h⟩ := bind_eq_ok.mp h
    obtain ⟨behind, -, h⟩ := bind_eq_ok.mp h
    obtain ⟨⟨v, after⟩, hv, h⟩ := bind_eq_ok.mp h
    have hput := haveWire_put (String.ofList k) hseen (ih.value hv)
    dsimp only at h
    split at h
    · exact ih.members h hput
    · cases h
      exact hput
    · cases h
  · cases h

end Step

theorem wires (fuel : Nat) : Wires fuel := by
  induction fuel with
  | zero =>
    constructor
    · intro depth cs rest v h
      rw [value] at h
      cases h
    · intro depth cs rest vs h
      rw [items] at h
      cases h
    · intro depth seen es cs rest h
      rw [members] at h
      cases h
  | succ fuel ih =>
    constructor
    · exact isWire_of_value ih
    · exact areWire_of_items ih
    · exact haveWire_of_members ih

theorem isWire_of_parse {text : List Char} {v : Value} (h : parse text = .ok v) :
    v.isWire = true := by
  obtain ⟨⟨w, rest⟩, hw, h⟩ := bind_eq_ok.mp h
  dsimp only at h
  split at h
  · cases h
    exact (wires _).value hw
  · cases h

end Json

end CypherLink

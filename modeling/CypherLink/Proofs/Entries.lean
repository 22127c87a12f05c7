import CypherLink.Entries

/-!
Ordered maps seen through a function of their values, and maps that are tabulated over a list of
distinct things. Main statements: `put_mapValues`, `mapValues_of_update` and `put_tabulate`.
-/

namespace CypherLink.Entries

variable {κ α β τ : Type} [DecidableEq κ]

def values (m : Entries κ α) : List α := m.map Prod.snd

def mapValues (φ : α → β) (m : Entries κ α) : Entries κ β := m.map fun e => (e.1, φ e.2)

omit [DecidableEq κ] in
theorem keys_append (m n : Entries κ α) : keys (m ++ n) = keys m ++ keys n := List.map_append

omit [DecidableEq κ] in
theorem keys_mapValues (φ : α → β) (m : Entries κ α) : keys (mapValues φ m) = keys m := by
  rw [keys, mapValues, List.map_map]
  rfl

theorem find?_mapValues (φ : α → β) (m : Entries κ α) (k : κ) :
    find? (mapValues φ m) k = (find? m k).map φ := by
  induction m with
  | nil => rfl
  | cons e rest ih =>
    obtain ⟨k', v⟩ := e
    by_cases h : k' = k
    · simp [mapValues, find?, h]
    · simpa [mapValues, find?, h] using ih

theorem put_mapValues (φ : α → β) (m : Entries κ α) (k : κ) (v : α) :
    put (mapValues φ m) k (φ v) = mapValues φ (put m k v) := by
  induction m with
  | nil => rfl
  | cons e rest ih =>
    obtain ⟨k', w⟩ := e
    by_cases h : k' = k
    · simp [mapValues, put, h]
    · simpa [mapValues, put, h] using ih

omit [DecidableEq κ] in
theorem mapValues_congr {φ ψ : α → β} {m : Entries κ α} (h : ∀ v ∈ values m, φ v = ψ v) :
    mapValues φ m = mapValues ψ m := by
  apply List.map_congr_left
  intro e he
  rw [h e.2 (List.mem_map_of_mem he)]

omit [DecidableEq κ] in
theorem mapValues_of_fixed {φ : α → α} {m : Entries κ α} (h : ∀ v ∈ values m, φ v = v) :
    mapValues φ m = m := (mapValues_congr h).trans (List.map_id m)

theorem put_put (m : Entries κ α) (k : κ) (v w : α) : put (put m k v) k w = put m k w := by
  induction m with
  | nil => simp [put]
  | cons e rest ih =>
    obtain ⟨k', u⟩ := e
    by_cases h : k' = k <;> simp [put, h, ih]

theorem put_found {m : Entries κ α} {k : κ} {v : α} (h : find? m k = some v) : put m k v = m := by
  induction m with
  | nil => simp [find?] at h
  | cons e rest ih =>
    obtain ⟨k', u⟩ := e
    by_cases hk : k' = k
    · simp only [find?, hk, if_true, Option.some.injEq] at h
      simp [put, hk, h]
    · simp only [find?, hk, if_false] at h
      simp [put, hk, ih h]

theorem put_absent {m : Entries κ α} {k : κ} (h : k ∉ keys m) (v : α) :
    put m k v = m ++ [(k, v)] := by
  induction m with
  | nil => rfl
  | cons e rest ih =>
    obtain ⟨k', u⟩ := e
    simp only [keys, List.map_cons, List.mem_cons, not_or] at h
    simp [put, Ne.symm h.1, ih h.2]

theorem find?_absent {m : Entries κ α} {k : κ} (h : k ∉ keys m) : find? m k = none := by
  rw [← Option.not_isSome_iff_eq_none, find?_isSome]
  exact h

theorem mem_of_find? {m : Entries κ α} {k : κ} {v : α} (h : find? m k = some v) : (k, v) ∈ m := by
  induction m with
  | nil => simp [find?] at h
  | cons e rest ih =>
    obtain ⟨k', u⟩ := e
    by_cases hk : k' = k
    · simp only [find?, hk, if_true, Option.some.injEq] at h
      simp [hk, h]
    · simp only [find?, hk, if_false] at h
      exact List.mem_cons_of_mem _ (ih h)

theorem find?_of_mem {m : Entries κ α} {k : κ} {v : α} (hn : (keys m).Nodup) (h : (k, v) ∈ m) :
    find? m k = some v := by
  induction m with
  | nil => simp at h
  | cons e rest ih =>
    obtain ⟨k', u⟩ := e
    simp only [keys, List.map_cons, List.nodup_cons] at hn
    rcases List.mem_cons.mp h with he | ht
    · obtain ⟨rfl, rfl⟩ := Prod.mk.inj he
      simp [find?]
    · have hne : k' ≠ k := by
        rintro rfl
        exact hn.1 (List.mem_map_of_mem ht)
      simp [find?, hne, ih hn.2 ht]

theorem mem_put {m : Entries κ α} {k : κ} {v : α} {e : κ × α} (h : e ∈ put m k v) :
    e ∈ m ∨ e = (k, v) := by
  induction m with
  | nil => exact .inr (by simpa [put] using h)
  | cons d rest ih =>
    obtain ⟨k', u⟩ := d
    by_cases hk : k' = k
    · simp only [put, hk, if_true, List.mem_cons] at h
      rcases h with rfl | h
      · exact .inr rfl
      · exact .inl (List.mem_cons_of_mem _ h)
    · simp only [put, hk, if_false, List.mem_cons] at h
      rcases h with rfl | h
      · exact .inl List.mem_cons_self
      · exact (ih h).imp_left (List.mem_cons_of_mem _)

theorem mem_values_put {m : Entries κ α} {k : κ} {v w : α} (h : w ∈ values (put m k v)) :
    w ∈ values m ∨ w = v := by
  obtain ⟨e, he, rfl⟩ := List.mem_map.mp h
  rcases mem_put he with hm | rfl
  · exact .inl (List.mem_map_of_mem hm)
  · exact .inr rfl

theorem mem_values_of_find? {m : Entries κ α} {k : κ} {v : α} (h : find? m k = some v) :
    v ∈ values m := List.mem_map_of_mem (mem_of_find? h)

theorem nodup_values_put {m : Entries κ α} {k : κ} {v : α} (hn : (values m).Nodup)
    (hv : v ∉ values m) : (values (put m k v)).Nodup := by
  induction m with
  | nil => simp [put, values]
  | cons e rest ih =>
    obtain ⟨k', u⟩ := e
    simp only [values, List.map_cons, List.nodup_cons, List.mem_cons, not_or] at hn hv
    by_cases hk : k' = k
    · simp only [put, hk, if_true, values, List.map_cons, List.nodup_cons]
      exact ⟨hv.2, hn.2⟩
    · simp only [put, hk, if_false, values, List.map_cons, List.nodup_cons]
      refine ⟨?_, ih hn.2 hv.2⟩
      intro hu
      rcases mem_values_put hu with h | h
      · exact hn.1 h
      · exact hv.1 h.symm

theorem nodup_keys_put {m : Entries κ α} {k : κ} {v : α} (hn : (keys m).Nodup) :
    (keys (put m k v)).Nodup := by
  rw [keys_put]
  by_cases hk : k ∈ keys m
  · rwa [if_pos hk]
  · rw [if_neg hk, List.nodup_append]
    refine ⟨hn, by simp, ?_⟩
    rintro a ha b hb rfl
    exact hk (List.mem_singleton.mp hb ▸ ha)

theorem mapValues_of_update {φ ψ : α → β} {m : Entries κ α} {k : κ} {i : α}
    (hn : (values m).Nodup) (hk : find? m k = some i) (h : ∀ j ≠ i, ψ j = φ j) :
    mapValues ψ m = put (mapValues φ m) k (ψ i) := by
  induction m with
  | nil => simp [find?] at hk
  | cons e rest ih =>
    obtain ⟨k', j⟩ := e
    simp only [values, List.map_cons, List.nodup_cons] at hn
    by_cases hkk : k' = k
    · simp only [find?, hkk, if_true, Option.some.injEq] at hk
      subst hk
      have hrest : mapValues ψ rest = mapValues φ rest := by
        apply mapValues_congr
        intro v hv
        exact h v (ne_of_mem_of_not_mem hv hn.1)
      simpa [mapValues, put, hkk] using hrest
    · simp only [find?, hkk, if_false] at hk
      have hj : j ≠ i := by
        rintro rfl
        exact hn.1 (mem_values_of_find? hk)
      have hrest := ih hn.2 hk
      simp only [mapValues] at hrest
      simp [mapValues, put, hkk, h j hj, hrest]

theorem putAll_of_nodup {m new : Entries κ α} (hn : (keys (m ++ new)).Nodup) :
    putAll m new = m ++ new := by
  induction new generalizing m with
  | nil => exact (List.append_nil m).symm
  | cons e rest ih =>
    have hk : e.1 ∉ keys m := by
      intro hm
      rw [keys_append, List.nodup_append] at hn
      exact hn.2.2 e.1 hm e.1 (List.mem_map_of_mem List.mem_cons_self) rfl
    rw [List.append_cons] at hn ⊢
    rw [putAll, List.foldl_cons, put_absent hk]
    exact ih hn

section Tabulate

/-- The map that gives each thing of a list a value under a key of its own. -/
def tabulate (key : τ → κ) (value : τ → α) (ts : List τ) : Entries κ α :=
  ts.map fun t => (key t, value t)

variable {key : τ → κ} {value : τ → α} {ts : List τ} {t : τ}

omit [DecidableEq κ] in
theorem keys_tabulate : keys (tabulate key value ts) = ts.map key := by
  simp [keys, tabulate, Function.comp_def]

theorem find?_tabulate (hk : ∀ u ∈ ts, key u = key t → u = t) (ht : t ∈ ts) :
    find? (tabulate key value ts) (key t) = some (value t) := by
  induction ts with
  | nil => simp at ht
  | cons u rest ih =>
    by_cases hu : key u = key t
    · obtain rfl := hk u List.mem_cons_self hu
      simp [tabulate, find?]
    · have hr : t ∈ rest := by
        rcases List.mem_cons.mp ht with rfl | h
        · exact absurd rfl hu
        · exact h
      have := ih (fun v hv => hk v (List.mem_cons_of_mem _ hv)) hr
      simpa [tabulate, find?, hu] using this

theorem put_tabulate [DecidableEq τ] (hk : ∀ u ∈ ts, key u = key t → u = t) (hn : ts.Nodup) (ht : t ∈ ts) (w : α) :
    put (tabulate key value ts) (key t) w =
      tabulate key (fun u => if u = t then w else value u) ts := by
  induction ts with
  | nil => simp at ht
  | cons u rest ih =>
    simp only [List.nodup_cons] at hn
    by_cases hu : key u = key t
    · obtain rfl := hk u List.mem_cons_self hu
      have hrest : ∀ v ∈ rest, v ≠ u := fun v hv => ne_of_mem_of_not_mem hv hn.1
      simpa [tabulate, put] using fun v hv hvu => absurd hvu (hrest v hv)
    · have hr : t ∈ rest := by
        rcases List.mem_cons.mp ht with rfl | h
        · exact absurd rfl hu
        · exact h
      have hut : u ≠ t := fun h => hu (congrArg key h)
      have := ih (fun v hv => hk v (List.mem_cons_of_mem _ hv)) hn.2 hr
      simpa [tabulate, put, hu, hut] using this

end Tabulate

end CypherLink.Entries

import Mathlib.Data.List.Nodup
/-!
# Lookups

Rows are found by what they hold under a key, and sorted by it. Entries under distinct keys are a
table: looking a key up finds the entry under it, in whatever order the entries are listed, and
entries under other keys have no part in it.

* `lookup_eq_some_iff_mem` — under distinct keys, to be found is to be listed.
* `lookup_eq_of_perm` — the order of the entries does not matter.
* `pairwise_mergeSort_key` — sorted rows are in the order of their keys.
-/

namespace VolatilityDesk

/-! ### Rows -/

section Rows

variable {γ : Type} {key : γ → String} {rows : List γ} {row : γ} {k : String}

theorem find?_eq_none_iff : rows.find? (key · == k) = none ↔ k ∉ rows.map key := by
  simp [List.find?_eq_none]

theorem key_of_find? (found : rows.find? (key · == k) = some row) : key row = k := by
  simpa using List.find?_some found

theorem mem_map_of_find? (found : rows.find? (key · == k) = some row) : k ∈ rows.map key :=
  List.mem_map.mpr ⟨row, List.mem_of_find?_eq_some found, key_of_find? found⟩

end Rows

/-! ### Rows in order -/

theorem pairwise_mergeSort_key {γ : Type} (key : γ → String) (rows : List γ) :
    (rows.mergeSort fun a b => decide (key a ≤ key b)).Pairwise fun a b => key a ≤ key b := by
  have sorted : (rows.mergeSort fun a b => decide (key a ≤ key b)).Pairwise
      fun a b => decide (key a ≤ key b) = true := by
    apply List.pairwise_mergeSort
    · intro a b c first second
      rw [decide_eq_true_iff] at first second ⊢
      exact String.le_trans first second
    · intro a b
      simpa using String.le_total (key a) (key b)
  exact sorted.imp of_decide_eq_true

/-- Distinct names in order ascend strictly. -/
theorem ascending_of_nodup {names : List String} (sorted : names.Pairwise (· ≤ ·))
    (distinct : names.Nodup) : names.Pairwise (· < ·) := by
  refine (sorted.and distinct).imp ?_
  rintro a b ⟨below, apart⟩
  by_contra above
  exact apart (String.le_antisymm below (String.not_lt.mp above))

/-! ### Entries -/

section Entries

variable {β : Type} {entries entries' : List (String × β)}

theorem lookup_eq_some_iff_mem (distinct : (entries.map (·.1)).Nodup) {key : String} {value : β} :
    entries.lookup key = some value ↔ (key, value) ∈ entries := by
  constructor
  · intro found
    obtain ⟨before, behind, rfl, -⟩ := List.lookup_eq_some_iff.mp found
    exact List.mem_append_right _ (List.mem_cons_self ..)
  · intro member
    induction entries with
    | nil => cases member
    | cons entry rest ih =>
      obtain ⟨alone, distinct⟩ := List.nodup_cons.mp distinct
      rcases List.mem_cons.mp member with rfl | member
      · simp
      · have apart : (key == entry.1) = false := by
          rw [beq_eq_false_iff_ne]
          intro same
          exact alone (List.mem_map.mpr ⟨_, member, same⟩)
        rw [List.lookup_cons, apart]
        exact ih distinct member

theorem lookup_eq_of_perm (perm : entries.Perm entries') (distinct : (entries.map (·.1)).Nodup)
    (key : String) : entries.lookup key = entries'.lookup key := by
  have distinct' := (perm.map (·.1)).nodup_iff.mp distinct
  apply Option.ext
  intro value
  rw [lookup_eq_some_iff_mem distinct, lookup_eq_some_iff_mem distinct', perm.mem_iff]

/-- A key is found among the entries under it as it is among all. -/
theorem lookup_filter (entries : List (String × β)) (key : String) :
    (entries.filter (·.1 == key)).lookup key = entries.lookup key := by
  induction entries with
  | nil => rfl
  | cons entry rest ih =>
    by_cases here : entry.1 = key
    · have found : (key == entry.1) = true := by simpa using here.symm
      rw [List.filter_cons_of_pos (by simpa using here), List.lookup_cons, List.lookup_cons, found]
    · have apart : (key == entry.1) = false := by simpa using Ne.symm here
      rw [List.filter_cons_of_neg (by simpa using here), List.lookup_cons, apart]
      exact ih

end Entries

end VolatilityDesk

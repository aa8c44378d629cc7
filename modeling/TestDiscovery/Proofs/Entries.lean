/-
# TestDiscovery.Proofs.Entries -- what stands under a key

Entries are looked up from the front.  When no key stands twice, what is found under a
key is the one entry with that key (`lookup_eq_some_iff_mem`).
-/
import TestDiscovery.Dictionary
import Mathlib.Data.List.Nodup

namespace TestDiscovery

set_option autoImplicit false

variable {α : Type} {es : List (String × α)} {k : String} {v : α}

theorem mem_of_lookup (h : es.lookup k = some v) : (k, v) ∈ es := by
  induction es with
  | nil => cases h
  | cons e rest ih =>
      rw [Dictionary.lookup_cons_eq_ite] at h
      split at h
      · rename_i here
        cases h
        rw [here]
        exact List.mem_cons_self
      · exact List.mem_cons_of_mem e (ih h)

theorem lookup_eq_none_iff_not_mem : es.lookup k = none ↔ k ∉ es.map Prod.fst := by
  induction es with
  | nil => simp
  | cons e rest ih =>
      rw [Dictionary.lookup_cons_eq_ite, List.map_cons, List.mem_cons, not_or, ← ih]
      split
      · rename_i here
        simp [here]
      · rename_i elsewhere
        simp [elsewhere]

theorem lookup_eq_some_iff_mem (unique : (es.map Prod.fst).Nodup) :
    es.lookup k = some v ↔ (k, v) ∈ es := by
  refine ⟨mem_of_lookup, fun h => ?_⟩
  induction es with
  | nil => cases h
  | cons e rest ih =>
      obtain ⟨fresh, others⟩ := List.nodup_cons.1 unique
      rw [Dictionary.lookup_cons_eq_ite]
      rcases List.mem_cons.1 h with rfl | later
      · exact if_pos rfl
      · have ne : k ≠ e.1 := fun here => fresh (here ▸ List.mem_map_of_mem later)
        rw [if_neg ne]
        exact ih others later

/-- Under ascending keys no key stands twice. -/
theorem nodup_of_ascending (h : es.Pairwise fun v w => v.1 < w.1) : (es.map Prod.fst).Nodup :=
  List.pairwise_map.2 (h.imp fun {v w} less same => by
    rw [same] at less
    exact String.lt_irrefl _ less)

theorem lookup_filter (p : String → Bool) (k : String) (es : List (String × α)) :
    (es.filter fun e => p e.1).lookup k = if p k then es.lookup k else none := by
  induction es with
  | nil => simp
  | cons e rest ih =>
      rw [List.filter_cons, Dictionary.lookup_cons_eq_ite]
      by_cases here : k = e.1
      · subst here
        cases kept : p e.1 with
        | true => simp [Dictionary.lookup_cons_eq_ite]
        | false => simp [ih, kept]
      · cases kept : p e.1 with
        | true => simp [Dictionary.lookup_cons_eq_ite, here, ih]
        | false => simp [here, ih]

/-! ## The number of entries -/

theorem length_putEntry {entries : List (String × String)} (key value : String)
    (ascending : entries.Pairwise fun a b => a.1 < b.1) :
    (Dictionary.putEntry key value entries).length =
      if (entries.lookup key).isSome then entries.length else entries.length + 1 := by
  induction entries with
  | nil => rfl
  | cons e rest ih =>
      obtain ⟨first, others⟩ := List.pairwise_cons.1 ascending
      rw [Dictionary.putEntry, Dictionary.lookup_cons_eq_ite]
      by_cases here : key = e.1
      · simp [here]
      · rw [if_neg here, if_neg here]
        by_cases before : key < e.1
        · -- A key below the first key is below all others too.
          have absent := Dictionary.lookup_of_forall_lt fun f hf => String.lt_trans before (first f hf)
          simp [before, absent]
        · rw [if_neg before, List.length_cons, ih others, List.length_cons]
          split <;> rfl

/-- A write adds an entry unless its key has a value. -/
theorem Dictionary.size_put (d : Dictionary) (key value : String) :
    (d.put key value).size = if (d.get? key).isSome then d.size else d.size + 1 :=
  length_putEntry key value d.ascending

end TestDiscovery

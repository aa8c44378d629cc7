/-
# TestDiscovery.Dictionary -- texts under keys

A dictionary holds one text under each of its keys.  The entries ascend by key and
this is part of the type, so a dictionary is known by what it answers
(`ext_get?`).  `get?` is its view: a write is seen at the written key and nowhere
else (`get?_put`).
-/

namespace TestDiscovery

set_option autoImplicit false

/-- Texts under keys; the entries ascend by key. -/
structure Dictionary where
  entries : List (String × String)
  ascending : entries.Pairwise fun a b => a.1 < b.1
  deriving DecidableEq, Repr

namespace Dictionary

/-! ## Entries -/

/-- Put a value at its place among entries in ascending order. -/
def putEntry (key value : String) : List (String × String) → List (String × String)
  | [] => [(key, value)]
  | (k, v) :: rest =>
    if key = k then (key, value) :: rest
    else if key < k then (key, value) :: (k, v) :: rest
    else (k, v) :: putEntry key value rest

theorem mem_putEntry {key value : String} {entries : List (String × String)}
    {e : String × String} (h : e ∈ putEntry key value entries) :
    e = (key, value) ∨ e ∈ entries := by
  induction entries with
  | nil => simpa [putEntry] using h
  | cons x rest ih =>
    simp only [putEntry] at h
    split at h
    · simp only [List.mem_cons] at h ⊢
      exact h.imp_right Or.inr
    · split at h
      · simpa using h
      · simp only [List.mem_cons] at h ⊢
        rcases h with rfl | h
        · exact Or.inr (Or.inl rfl)
        · exact (ih h).imp_right Or.inr

theorem lt_of_ne_of_not_lt {a b : String} (ne : a ≠ b) (h : ¬ a < b) : b < a := by
  have le : b ≤ a := String.not_lt.1 h
  exact Decidable.byContradiction fun n => ne (String.le_antisymm (String.not_lt.1 n) le)

theorem pairwise_putEntry (key value : String) {entries : List (String × String)}
    (h : entries.Pairwise fun a b => a.1 < b.1) :
    (putEntry key value entries).Pairwise fun a b => a.1 < b.1 := by
  induction entries with
  | nil => simp [putEntry]
  | cons x rest ih =>
    obtain ⟨first, others⟩ := List.pairwise_cons.1 h
    simp only [putEntry]
    split
    · rename_i same
      exact List.pairwise_cons.2 ⟨fun e he => same ▸ first e he, others⟩
    · rename_i ne
      split
      · rename_i lt
        refine List.pairwise_cons.2 ⟨fun e he => ?_, h⟩
        rcases List.mem_cons.1 he with rfl | he
        · exact lt
        · exact String.lt_trans lt (first e he)
      · rename_i notLt
        refine List.pairwise_cons.2 ⟨fun e he => ?_, ih others⟩
        rcases mem_putEntry he with rfl | he
        · exact lt_of_ne_of_not_lt ne notLt
        · exact first e he

theorem lookup_cons_eq_ite {α : Type} (k : String) (e : String × α) (rest : List (String × α)) :
    (e :: rest).lookup k = if k = e.1 then some e.2 else rest.lookup k := by
  obtain ⟨key, value⟩ := e
  by_cases h : k = key
  · simp [h]
  · have : (k == key) = false := by simpa using h
    simp [List.lookup_cons, h, this]

theorem lookup_putEntry (key value k : String) (entries : List (String × String)) :
    (putEntry key value entries).lookup k =
      if k = key then some value else entries.lookup k := by
  induction entries with
  | nil => simp only [putEntry, lookup_cons_eq_ite]
  | cons x rest ih =>
    simp only [putEntry]
    split
    · rename_i same
      simp only [lookup_cons_eq_ite, ← same]
      split <;> rfl
    · rename_i ne
      split
      · simp only [lookup_cons_eq_ite]
      · simp only [lookup_cons_eq_ite, ih]
        split
        · rename_i here
          rw [if_neg fun h => ne (h.symm.trans here)]
        · rfl

/-- A key below all keys has no value. -/
theorem lookup_of_forall_lt {k : String} {entries : List (String × String)}
    (h : ∀ e ∈ entries, k < e.1) : entries.lookup k = none := by
  induction entries with
  | nil => rfl
  | cons x rest ih =>
    have ne : k ≠ x.1 := fun e => String.lt_irrefl k (by
      have := h x List.mem_cons_self
      rwa [← e] at this)
    rw [lookup_cons_eq_ite, if_neg ne]
    exact ih fun e he => h e (List.mem_cons_of_mem _ he)

/-- Ascending entries are known by the values of the keys. -/
theorem eq_of_lookup {as bs : List (String × String)}
    (ha : as.Pairwise fun a b => a.1 < b.1) (hb : bs.Pairwise fun a b => a.1 < b.1)
    (h : ∀ k, as.lookup k = bs.lookup k) : as = bs := by
  induction as generalizing bs with
  | nil =>
    cases bs with
    | nil => rfl
    | cons b bs =>
      have := h b.1
      simp [lookup_cons_eq_ite] at this
  | cons a as ih =>
    cases bs with
    | nil =>
      have := h a.1
      simp [lookup_cons_eq_ite] at this
    | cons b bs =>
      obtain ⟨firstA, othersA⟩ := List.pairwise_cons.1 ha
      obtain ⟨firstB, othersB⟩ := List.pairwise_cons.1 hb
      have atA := h a.1
      have atB := h b.1
      simp only [lookup_cons_eq_ite, if_true] at atA atB
      have keys : a.1 = b.1 := by
        refine Decidable.byContradiction fun ne => ?_
        rw [if_neg ne] at atA
        rw [if_neg (Ne.symm ne)] at atB
        by_cases lt : a.1 < b.1
        · have := lookup_of_forall_lt fun e he => String.lt_trans lt (firstB e he)
          simp [this] at atA
        · have := lookup_of_forall_lt fun e he =>
            String.lt_trans (lt_of_ne_of_not_lt ne lt) (firstA e he)
          simp [this] at atB
      have values : a.2 = b.2 := by simpa [keys] using atA
      have heads : a = b := Prod.ext keys values
      subst heads
      congr 1
      refine ih othersA othersB fun k => ?_
      by_cases hk : k = a.1
      · rw [hk, lookup_of_forall_lt firstA, lookup_of_forall_lt firstB]
      · simpa [lookup_cons_eq_ite, hk] using h k

/-! ## Dictionaries -/

/-- The dictionary without entries. -/
def empty : Dictionary := ⟨[], .nil⟩

/-- The value of a key. -/
def get? (d : Dictionary) (key : String) : Option String := d.entries.lookup key

/-- The dictionary after a write; the old value of the key is gone. -/
def put (d : Dictionary) (key value : String) : Dictionary :=
  ⟨putEntry key value d.entries, pairwise_putEntry key value d.ascending⟩

/-- The dictionary after writes, one after the other. -/
def ofList (pairs : List (String × String)) : Dictionary :=
  pairs.foldl (fun d pair => d.put pair.1 pair.2) empty

/-- The entries in ascending order of their keys. -/
def toList (d : Dictionary) : List (String × String) := d.entries

/-- The keys in ascending order. -/
def keys (d : Dictionary) : List String := d.entries.map Prod.fst

/-- The number of entries. -/
def size (d : Dictionary) : Nat := d.entries.length

/-- There are no entries. -/
def isEmpty (d : Dictionary) : Bool := d.entries.isEmpty

theorem get?_put (d : Dictionary) (key value k : String) :
    (d.put key value).get? k = if k = key then some value else d.get? k :=
  lookup_putEntry key value k d.entries

/-- Dictionaries in which every key has the same value are equal. -/
theorem ext_get? {d e : Dictionary} (h : ∀ k, d.get? k = e.get? k) : d = e := by
  cases d with
  | mk ds hd =>
    cases e with
    | mk es he =>
      have : ds = es := eq_of_lookup hd he h
      subst this
      rfl

theorem mem_keys_put {d : Dictionary} {key value k : String} (h : k ∈ (d.put key value).keys) :
    k = key ∨ k ∈ d.keys := by
  obtain ⟨e, he, rfl⟩ := List.mem_map.1 h
  rcases mem_putEntry he with rfl | he
  · exact Or.inl rfl
  · exact Or.inr (List.mem_map_of_mem he)

end Dictionary

end TestDiscovery

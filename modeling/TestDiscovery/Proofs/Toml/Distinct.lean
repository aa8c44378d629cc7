/-
# TestDiscovery.Proofs.Toml.Distinct -- documents without repeated keys

No table of a document has a key twice, at any depth (`distinct_of_parse?`).

Entries come to a draft under keys that are free, and are otherwise replaced in their
place.  So every change of a table keeps its keys distinct, and `changeAt` carries this
through the tables on the way to it (`distinct_changeAt`).  The rest is one lemma per
reader and per operation of the draft, and the run over the lines.
-/
import TestDiscovery.Proofs.Entries
import TestDiscovery.Toml.Document
import Mathlib.Data.List.Nodup

namespace TestDiscovery.Toml

set_option autoImplicit false

open TestDiscovery.Text (Reading)

/-- No table in the value has a key twice. -/
inductive Value.Distinct : Value → Prop where
  | string (s : String) : Distinct (.string s)
  | integer (n : Int) : Distinct (.integer n)
  | float : Distinct .float
  | boolean (b : Bool) : Distinct (.boolean b)
  | dateTime (d : DateTime) : Distinct (.dateTime d)
  | array {items : List Value} (each : ∀ v ∈ items, Distinct v) : Distinct (.array items)
  | table {entries : List (String × Value)} (keys : (entries.map Prod.fst).Nodup)
      (each : ∀ e ∈ entries, Distinct e.2) : Distinct (.table entries)

/-- No table in what the entries will become has a key twice. -/
def Entries.Distinct (es : Entries) : Prop := (Value.table (finishEntries es)).Distinct

/-! ## Finished entries -/

theorem finishEntries_eq (es : Entries) : finishEntries es = es.map fun e => (e.1, e.2.finish) := by
  induction es with
  | nil => rfl
  | cons e rest ih =>
      obtain ⟨key, item⟩ := e
      rw [finishEntries, ih, List.map_cons]

theorem finishTables_eq (all : List Entries) :
    finishTables all = all.map fun es => .table (finishEntries es) := by
  induction all with
  | nil => rfl
  | cons es rest ih => rw [finishTables, ih, List.map_cons]

theorem Value.distinct_array_iff {items : List Value} :
    (Value.array items).Distinct ↔ ∀ v ∈ items, v.Distinct :=
  ⟨fun h => by cases h; assumption, .array⟩

theorem Value.distinct_table_iff {entries : Table} : (Value.table entries).Distinct ↔
    (entries.map Prod.fst).Nodup ∧ ∀ e ∈ entries, e.2.Distinct :=
  ⟨fun h => by cases h; exact ⟨‹_›, ‹_›⟩, fun h => .table h.1 h.2⟩

theorem distinct_tables_iff {all : List Entries} :
    (Item.tables all).finish.Distinct ↔ ∀ es ∈ all, Entries.Distinct es := by
  rw [Item.finish, finishTables_eq, Value.distinct_array_iff, List.forall_mem_map]
  rfl

namespace Entries

theorem distinct_iff {es : Entries} :
    Distinct es ↔ (es.map Prod.fst).Nodup ∧ ∀ e ∈ es, e.2.finish.Distinct := by
  rw [Distinct, finishEntries_eq, Value.distinct_table_iff, List.map_map, List.forall_mem_map]
  rfl

theorem distinct_nil : Distinct [] := distinct_iff.2 (by simp)

variable {es : Entries} {key : String} {item : Item}

theorem Distinct.lookup (h : Distinct es) (found : es.lookup key = some item) :
    item.finish.Distinct :=
  (distinct_iff.1 h).2 _ (mem_of_lookup found)

theorem Distinct.add (h : Distinct es) (free : es.lookup key = none)
    (new : item.finish.Distinct) : Distinct (es.add key item) := by
  obtain ⟨keys, each⟩ := distinct_iff.1 h
  have fresh := lookup_eq_none_iff_not_mem.1 free
  refine distinct_iff.2 ⟨?_, fun e he => ?_⟩
  · rw [Entries.add, List.map_append, List.map_singleton, ← List.concat_eq_append]
    exact List.Nodup.concat fresh keys
  · rcases List.mem_append.1 he with old | last
    · exact each e old
    · rw [List.mem_singleton.1 last]
      exact new

theorem Distinct.replace (h : Distinct es) (new : item.finish.Distinct) :
    Distinct (es.replace key item) := by
  obtain ⟨keys, each⟩ := distinct_iff.1 h
  have same : (es.replace key item).map Prod.fst = es.map Prod.fst := by
    rw [Entries.replace, List.map_map]
    refine List.map_congr_left fun e _ => ?_
    simp only [Function.comp_apply]
    split
    · rfl
    · rfl
  refine distinct_iff.2 ⟨same ▸ keys, fun e he => ?_⟩
  obtain ⟨old, here, rfl⟩ := List.mem_map.1 he
  dsimp only
  split
  · exact new
  · exact each old here

theorem Distinct.filter (h : Distinct es) (p : String × Item → Bool) : Distinct (es.filter p) := by
  obtain ⟨keys, each⟩ := distinct_iff.1 h
  exact distinct_iff.2
    ⟨keys.sublist (List.filter_sublist.map _), fun e he => each e (List.mem_of_mem_filter he)⟩

end Entries

/-! ## Changes of a table -/

/-- A change that keeps keys distinct does so inside other tables; `P` is what it says of its
answer. -/
theorem distinct_changeAt {α : Type} {P : α → Prop} {link : TableKind}
    {change : TableKind → Entries → Option (Entries × α)}
    (keeps : ∀ kind es after a, Entries.Distinct es → change kind es = some (after, a) →
      Entries.Distinct after ∧ P a)
    {path : List String} {kind : TableKind} {es after : Entries} {a : α}
    (h : Entries.Distinct es) (changed : changeAt link change path kind es = some (after, a)) :
    Entries.Distinct after ∧ P a := by
  induction path generalizing kind es after a with
  | nil => exact keeps kind es after a h changed
  | cons key path ih =>
      rw [changeAt] at changed
      split at changed
      · rename_i free
        obtain ⟨⟨child, answer⟩, inner, result⟩ := Option.bind_eq_some_iff.1 changed
        cases result
        obtain ⟨distinct, answers⟩ := ih Entries.distinct_nil inner
        exact ⟨h.add free distinct, answers⟩
      · cases changed
      · rename_i found
        split at changed
        · cases changed
        · obtain ⟨⟨child, answer⟩, inner, result⟩ := Option.bind_eq_some_iff.1 changed
          cases result
          obtain ⟨distinct, answers⟩ := ih (h.lookup found) inner
          exact ⟨h.replace distinct, answers⟩
      · rename_i all found
        split at changed
        · cases changed
        · rename_i last lastOfAll
          obtain ⟨⟨child, answer⟩, inner, result⟩ := Option.bind_eq_some_iff.1 changed
          cases result
          have each := distinct_tables_iff.1 (h.lookup found)
          obtain ⟨distinct, answers⟩ := ih (each last (List.mem_of_getLast? lastOfAll)) inner
          refine ⟨h.replace (distinct_tables_iff.2 fun es he => ?_), answers⟩
          rcases List.mem_append.1 he with before | new
          · exact each es (List.dropLast_subset all before)
          · rw [List.mem_singleton.1 new]
            exact distinct

theorem distinct_putNew {afterDots : Bool} {key : String} {v : Value} {kind : TableKind}
    {es after : Entries} {a : Unit} (hv : v.Distinct) (h : Entries.Distinct es)
    (put : putNew afterDots key v kind es = some (after, a)) : Entries.Distinct after := by
  rw [putNew] at put
  split at put
  · cases put
  · split at put
    · rename_i free
      cases put
      exact h.add free hv
    · cases put

theorem Entries.Distinct.put {es after : Entries} {key : List String} {v : Value}
    (h : Distinct es) (hv : v.Distinct) (put : es.put key v = some after) : Distinct after := by
  obtain ⟨⟨path, last⟩, -, put⟩ := Option.bind_eq_some_iff.1 put
  obtain ⟨⟨es', _⟩, changed, result⟩ := Option.bind_eq_some_iff.1 put
  cases result
  exact (distinct_changeAt (P := fun _ => True)
    (fun _ _ _ _ distinct put => ⟨distinct_putNew hv distinct put, trivial⟩) h changed).1

/-! ## Values -/

theorem Entries.Distinct.putAll {pairs : List (List String × Value)} {es after : Entries}
    (h : Distinct es) (each : ∀ pair ∈ pairs, pair.2.Distinct)
    (run : pairs.foldlM (fun (es : Entries) (pair : List String × Value) => es.put pair.1 pair.2)
      es = some after) : Distinct after := by
  induction pairs generalizing es with
  | nil =>
      cases run
      exact h
  | cons pair rest ih =>
      obtain ⟨first, others⟩ := List.forall_mem_cons.1 each
      obtain ⟨next, put, run⟩ := Option.bind_eq_some_iff.1 run
      exact ih (h.put first put) others run

theorem distinct_of_inlineTable {pairs : List (List String × Value)} {v : Value}
    (each : ∀ pair ∈ pairs, pair.2.Distinct) (h : inlineTable pairs = some v) : v.Distinct := by
  obtain ⟨es, run, result⟩ := Option.bind_eq_some_iff.1 h
  cases result
  exact Entries.distinct_nil.putAll each run

theorem distinct_of_scalar? {cs : List Char} {v : Value} (h : scalar? cs = some v) :
    v.Distinct := by
  unfold scalar? at h
  split at h
  · cases h
    exact .boolean true
  · split at h
    · cases h
      exact .boolean false
    · split at h
      · cases h
        exact .dateTime _
      · split at h
        · cases h
          exact .float
        · obtain ⟨n, -, rfl⟩ := Option.map_eq_some_iff.1 h
          exact .integer n

theorem distinct_of_scalar {cs : List Char} {r : Reading Value} (h : scalar cs = some r) :
    r.value.Distinct := by
  simp only [scalar] at h
  split at h
  · cases h
    exact .dateTime _
  · obtain ⟨v, read, rfl⟩ := Option.map_eq_some_iff.1 h
    exact distinct_of_scalar? read

/-- The reader reads values without repeated keys. -/
def ReadsDistinct (value : List Char → Option (Reading Value)) : Prop :=
  ∀ cs r, value cs = some r → r.value.Distinct

theorem readsDistinct_simple : ReadsDistinct value?.simple? := by
  intro cs r h
  unfold value?.simple? at h
  split at h
  · obtain ⟨s, -, rfl⟩ := Option.map_eq_some_iff.1 h
    exact .string s.value
  · obtain ⟨s, -, rfl⟩ := Option.map_eq_some_iff.1 h
    exact .string s.value
  · exact distinct_of_scalar h

variable {value : List Char → Option (Reading Value)}

theorem distinct_of_pair? (reads : ReadsDistinct value) {cs : List Char}
    {r : Reading (List String × Value)} (h : pair? value cs = some r) : r.value.2.Distinct := by
  obtain ⟨k, -, h⟩ := Option.bind_eq_some_iff.1 h
  dsimp only at h
  split at h
  · obtain ⟨v, read, result⟩ := Option.bind_eq_some_iff.1 h
    cases result
    exact reads _ v read
  · cases h

theorem distinct_of_items? (reads : ReadsDistinct value) {skip : Nat} {cs : List Char}
    {r : Reading (List Value)} (h : items? value skip cs = some r) :
    ∀ v ∈ r.value, v.Distinct := by
  induction cs generalizing skip r with
  | nil => cases h
  | cons c cs ih =>
      cases skip with
      | succ skip => exact ih h
      | zero =>
          simp only [items?] at h
          split at h
          · cases h
            exact fun v hv => nomatch hv
          · obtain ⟨first, read, h⟩ := Option.bind_eq_some_iff.1 h
            have distinct := reads _ first read
            split at h
            · cases h
              simpa using distinct
            · obtain ⟨more, later, result⟩ := Option.bind_eq_some_iff.1 h
              cases result
              exact List.forall_mem_cons.2 ⟨distinct, ih later⟩
            · cases h

theorem distinct_of_pairs? (reads : ReadsDistinct value) {skip : Nat} {cs : List Char}
    {r : Reading (List (List String × Value))} (h : pairs? value skip cs = some r) :
    ∀ pair ∈ r.value, pair.2.Distinct := by
  induction cs generalizing skip r with
  | nil => cases h
  | cons c cs ih =>
      cases skip with
      | succ skip => exact ih h
      | zero =>
          simp only [pairs?] at h
          obtain ⟨first, read, h⟩ := Option.bind_eq_some_iff.1 h
          have distinct := distinct_of_pair? reads read
          split at h
          · cases h
            simpa using distinct
          · obtain ⟨more, later, result⟩ := Option.bind_eq_some_iff.1 h
            cases result
            exact List.forall_mem_cons.2 ⟨distinct, ih later⟩
          · cases h

theorem distinct_of_inlinePairs? (reads : ReadsDistinct value) {cs : List Char}
    {r : Reading (List (List String × Value))} (h : inlinePairs? value cs = some r) :
    ∀ pair ∈ r.value, pair.2.Distinct := by
  simp only [inlinePairs?] at h
  split at h
  · cases h
    exact fun pair hp => nomatch hp
  · exact distinct_of_pairs? reads h

/-- Values are read without repeated keys, to any depth. -/
theorem readsDistinct_value (levels : Nat) : ReadsDistinct (value? levels) := by
  induction levels with
  | zero => exact readsDistinct_simple
  | succ levels ih =>
      intro cs r h
      unfold value? at h
      split at h
      · obtain ⟨items, read, rfl⟩ := Option.map_eq_some_iff.1 h
        exact .array (distinct_of_items? ih read)
      · obtain ⟨pairs, read, h⟩ := Option.bind_eq_some_iff.1 h
        obtain ⟨v, made, result⟩ := Option.bind_eq_some_iff.1 h
        cases result
        exact distinct_of_inlineTable (distinct_of_inlinePairs? ih read) made
      · exact readsDistinct_simple cs r h

/-! ## Drafts -/

/-- No table of the draft has a key twice. -/
structure Draft.Distinct (d : Draft) : Prop where
  finished : Entries.Distinct d.finished
  current : Entries.Distinct d.current

theorem Draft.distinct_start : Draft.start.Distinct := ⟨Entries.distinct_nil, Entries.distinct_nil⟩

theorem Draft.Distinct.place {d : Draft} (hd : d.Distinct) {last : String} {kind : TableKind}
    {es after : Entries} {a : Unit} (h : Entries.Distinct es)
    (placed : close.place d last kind es = some (after, a)) : Entries.Distinct after := by
  have alone : Entries.Distinct d.current := hd.current
  unfold close.place at placed
  split at placed
  · split at placed
    · rename_i free
      cases placed
      refine h.add free (distinct_tables_iff.2 fun es he => ?_)
      rw [List.mem_singleton.1 he]
      exact alone
    · rename_i all found
      cases placed
      refine h.replace (distinct_tables_iff.2 fun es he => ?_)
      rcases List.mem_append.1 he with before | new
      · exact distinct_tables_iff.1 (h.lookup found) es before
      · rw [List.mem_singleton.1 new]
        exact alone
    · cases placed
  · split at placed
    · rename_i free
      cases placed
      exact h.add free alone
    · cases placed

theorem Draft.Distinct.close {d : Draft} (hd : d.Distinct) {es : Entries}
    (h : d.close = some es) : Entries.Distinct es := by
  unfold Draft.close at h
  split at h
  · cases h
    exact hd.current
  · obtain ⟨⟨es', _⟩, changed, result⟩ := Option.bind_eq_some_iff.1 h
    cases result
    exact (distinct_changeAt (P := fun _ => True)
      (fun _ _ _ _ distinct placed => ⟨hd.place distinct placed, trivial⟩) hd.finished changed).1

theorem distinct_claim {last : String} {kind : TableKind} {es after current : Entries}
    (h : Entries.Distinct es) (claimed : claim last kind es = some (after, current)) :
    Entries.Distinct after ∧ Entries.Distinct current := by
  unfold claim at claimed
  split at claimed
  · cases claimed
    exact ⟨h, Entries.distinct_nil⟩
  · rename_i found
    cases claimed
    exact ⟨h.filter _, h.lookup found⟩
  · cases claimed

theorem distinct_claimMany {last : String} {kind : TableKind} {es after current : Entries}
    (h : Entries.Distinct es) (claimed : claimMany last kind es = some (after, current)) :
    Entries.Distinct after ∧ Entries.Distinct current := by
  unfold claimMany at claimed
  split at claimed
  · rename_i free
    cases claimed
    exact ⟨h.add free (distinct_tables_iff.2 fun es he => nomatch he), Entries.distinct_nil⟩
  · cases claimed
    exact ⟨h, Entries.distinct_nil⟩
  · cases claimed

theorem Draft.Distinct.header {d after : Draft} (hd : d.Distinct) {isMany : Bool}
    {key : List String} (h : d.header isMany key = some after) : after.Distinct := by
  obtain ⟨finished, closed, h⟩ := Option.bind_eq_some_iff.1 h
  obtain ⟨⟨path, last⟩, -, h⟩ := Option.bind_eq_some_iff.1 h
  obtain ⟨⟨finished', current⟩, changed, result⟩ := Option.bind_eq_some_iff.1 h
  cases result
  have keeps : ∀ kind es after current, Entries.Distinct es →
      (if isMany then claimMany last else claim last) kind es = some (after, current) →
      Entries.Distinct after ∧ Entries.Distinct current := by
    intro kind es after current distinct claimed
    split at claimed
    · exact distinct_claimMany distinct claimed
    · exact distinct_claim distinct claimed
  obtain ⟨inFinished, inCurrent⟩ := distinct_changeAt keeps (hd.close closed) changed
  exact ⟨inFinished, inCurrent⟩

theorem Draft.Distinct.put {d after : Draft} (hd : d.Distinct) {key : List String} {v : Value}
    (hv : v.Distinct) (h : d.put key v = some after) : after.Distinct := by
  obtain ⟨current, put, result⟩ := Option.bind_eq_some_iff.1 h
  cases result
  exact ⟨hd.finished, hd.current.put hv put⟩

/-! ## Lines -/

theorem distinct_of_line? {d : Draft} (hd : d.Distinct) {cs : List Char} {r : Reading Draft}
    (h : line? d cs = some r) : r.value.Distinct := by
  unfold line? at h
  split at h
  · obtain ⟨k, -, h⟩ := Option.bind_eq_some_iff.1 h
    obtain ⟨stop, -, h⟩ := Option.bind_eq_some_iff.1 h
    obtain ⟨after, header, result⟩ := Option.bind_eq_some_iff.1 h
    cases result
    exact hd.header header
  · obtain ⟨k, -, h⟩ := Option.bind_eq_some_iff.1 h
    obtain ⟨stop, -, h⟩ := Option.bind_eq_some_iff.1 h
    obtain ⟨after, header, result⟩ := Option.bind_eq_some_iff.1 h
    cases result
    exact hd.header header
  · obtain ⟨p, read, h⟩ := Option.bind_eq_some_iff.1 h
    obtain ⟨stop, -, h⟩ := Option.bind_eq_some_iff.1 h
    obtain ⟨after, put, result⟩ := Option.bind_eq_some_iff.1 h
    cases result
    exact hd.put (distinct_of_pair? (readsDistinct_value nestLimit) read) put

theorem distinct_of_linesFrom {d after : Draft} (hd : d.Distinct) {skip : Nat} {cs : List Char}
    (h : linesFrom d skip cs = some after) : after.Distinct := by
  induction cs generalizing d skip with
  | nil =>
      cases h
      exact hd
  | cons c cs ih =>
      cases skip with
      | succ skip => exact ih hd h
      | zero =>
          simp only [linesFrom] at h
          split at h
          · exact ih hd h
          · split at h
            · exact ih hd h
            · obtain ⟨r, line, h⟩ := Option.bind_eq_some_iff.1 h
              exact ih (distinct_of_line? hd line) h

/-- **No table of a document has a key twice.** -/
theorem distinct_of_parse? {text : String} {t : Table} (h : parse? text = some t) :
    (Value.table t).Distinct := by
  obtain ⟨d, lines, finish⟩ := Option.bind_eq_some_iff.1 h
  obtain ⟨es, closed, rfl⟩ := Option.map_eq_some_iff.1 finish
  exact (distinct_of_linesFrom Draft.distinct_start lines).close closed

theorem nodup_keys_of_parse? {text : String} {t : Table} (h : parse? text = some t) :
    (t.map Prod.fst).Nodup :=
  (Value.distinct_table_iff.1 (distinct_of_parse? h)).1

end TestDiscovery.Toml

import Mathlib.Data.List.Induction
import Mathlib.Data.List.Nodup
import QueryLint.Table

/-!
# Laws of tables

A table is given by the order of its names and by what is read under them
(`Table.eq_of_keys_of_get?`). After many writes every name stands where it was written first and has
what was written last (`Table.keys_insertAll`, `Table.get?_insertAll`). So entries can be collected
in a table of their own before they are written into another (`Table.insertAll_ofList`). Entries in
another order are read the same (`Table.alike_of_perm`).
-/

namespace QueryLint

/-- A further item is kept if it is new. -/
theorem eraseDups_concat (items : List String) (item : String) :
    (items ++ [item]).eraseDups =
      if item ∈ items then items.eraseDups else items.eraseDups ++ [item] := by
  rw [List.eraseDups_append]
  by_cases h : item ∈ items <;> simp [List.removeAll, h, List.eraseDups_cons]

theorem eraseDups_eq_self {items : List String} (h : items.Nodup) : items.eraseDups = items := by
  induction items using List.reverseRecOn with
  | nil => rfl
  | append_singleton rest item ih =>
      rw [List.nodup_append] at h
      have hnew : item ∉ rest := fun hmem ↦ h.2.2 item hmem item (by simp) rfl
      rw [eraseDups_concat, if_neg hnew, ih h.1]

/-- A value is found with the first item that has its name. -/
theorem lookup_map_entry {α β : Type} (name : β → String) (value : β → α) (items : List β)
    (key : String) :
    (items.map fun item ↦ (name item, value item)).lookup key =
      (items.find? (name · = key)).map value := by
  induction items with
  | nil => rfl
  | cons item rest ih =>
      rw [List.map_cons, Table.lookup_cons_entry, ih, List.find?_cons]
      by_cases h : name item = key
      · simp [h]
      · have hkey : ¬ key = name item := fun e ↦ h e.symm
        simp [h, hkey]

/-- Among items of different names, each is found under its own. -/
theorem find?_eq_some_of_nodup {β : Type} {name : β → String} {items : List β}
    (h : (items.map name).Nodup) {item : β} (hitem : item ∈ items) :
    items.find? (name · = name item) = some item := by
  obtain ⟨before, later, rfl⟩ := List.append_of_mem hitem
  rw [List.map_append, List.nodup_append] at h
  refine List.find?_eq_some_iff_append.mpr ⟨by simp, before, later, rfl, fun other hother ↦ ?_⟩
  have hne := h.2.2 (name other) (List.mem_map_of_mem hother) (name item) (by simp)
  simpa using hne

theorem find?_eq_none_of_not_mem {β : Type} {name : β → String} {items : List β} {key : String}
    (h : key ∉ items.map name) : items.find? (name · = key) = none := by
  refine List.find?_eq_none.mpr fun item hitem hname ↦ h ?_
  exact List.mem_map.mpr ⟨item, hitem, by simpa using hname⟩

namespace Table

variable {α β : Type}

/-! ## What is read -/

/-- What is read under a name is an entry. -/
theorem mem_entries_of_get? {table : Table α} {name : String} {value : α}
    (h : table.get? name = some value) : (name, value) ∈ table.entries := by
  obtain ⟨before, after, hentries, -⟩ := List.lookup_eq_some_iff.mp h
  simp [hentries]

theorem get?_eq_some_iff {table : Table α} {name : String} {value : α} :
    table.get? name = some value ↔ (name, value) ∈ table.entries := by
  refine ⟨mem_entries_of_get?, fun h ↦ ?_⟩
  obtain ⟨before, later, hentries⟩ := List.append_of_mem h
  refine List.lookup_eq_some_iff.mpr ⟨before, later, hentries, fun entry hentry ↦ ?_⟩
  have hnodup := table.nodup
  rw [hentries, List.map_append, List.nodup_append] at hnodup
  have hne := hnodup.2.2 entry.1 (List.mem_map_of_mem hentry) name (by simp)
  simpa using hne.symm

theorem contains_iff (table : Table α) (name : String) :
    table.contains name = true ↔ name ∈ table.keys :=
  (table.mem_keys_iff name).symm

/-- A table is its names with what is read under them. -/
theorem entries_eq_filterMap_keys (table : Table α) :
    table.entries = table.keys.filterMap fun name ↦ (table.get? name).map (name, ·) := by
  unfold keys
  rw [List.filterMap_map]
  have hread : ∀ entry ∈ table.entries,
      ((fun name ↦ (table.get? name).map (name, ·)) ∘ Prod.fst) entry = some entry := by
    intro entry hentry
    have hget : table.get? entry.1 = some entry.2 := get?_eq_some_iff.mpr hentry
    simp [hget]
  rw [List.filterMap_congr hread, List.filterMap_some]

theorem eq_of_entries_eq {first second : Table α} (h : first.entries = second.entries) :
    first = second := by
  cases first
  cases second
  cases h
  rfl

/-- Tables with the same names in the same order and the same values under them are the same. -/
theorem eq_of_keys_of_get? {first second : Table α} (hkeys : first.keys = second.keys)
    (hget : ∀ name, first.get? name = second.get? name) : first = second := by
  refine eq_of_entries_eq ?_
  rw [entries_eq_filterMap_keys, entries_eq_filterMap_keys, hkeys, funext hget]

/-! ## Many writes -/

theorem insertAll_concat (table : Table α) (entries : List (String × α)) (entry : String × α) :
    table.insertAll (entries ++ [entry]) = (table.insertAll entries).insert entry.1 entry.2 := by
  simp [insertAll]

/-- New names are added in the order in which they first come in. -/
theorem keys_insertAll (table : Table α) (entries : List (String × α)) :
    (table.insertAll entries).keys = (table.keys ++ entries.map Prod.fst).eraseDups := by
  induction entries using List.reverseRecOn with
  | nil =>
      rw [List.map_nil, List.append_nil]
      exact (eraseDups_eq_self table.nodup).symm
  | append_singleton rest entry ih =>
      rw [insertAll_concat, keys_insert, ih, List.map_append, ← List.append_assoc]
      simp only [List.mem_eraseDups]
      exact (eraseDups_concat _ entry.1).symm

/-- Of several values under one name the last one counts. -/
theorem get?_insertAll (table : Table α) (entries : List (String × α)) (name : String) :
    (table.insertAll entries).get? name =
      (entries.reverse.lookup name <|> table.get? name) := by
  induction entries using List.reverseRecOn with
  | nil => rfl
  | append_singleton rest entry ih =>
      rw [insertAll_concat, get?_insert, ih, List.reverse_append, List.reverse_singleton,
        List.singleton_append, lookup_cons_entry]
      split <;> rfl

/-- In a table it does not matter from which end a name is looked for. -/
theorem lookup_reverse_entries (table : Table α) (name : String) :
    table.entries.reverse.lookup name = table.get? name := by
  have hreversed : (table.entries.reverse.map Prod.fst).Nodup := by
    rw [List.map_reverse, List.nodup_reverse]
    exact table.nodup
  ext value
  have hread : (Table.mk table.entries.reverse hreversed).get? name = some value ↔
      table.get? name = some value := by
    rw [get?_eq_some_iff, get?_eq_some_iff, List.mem_reverse]
  exact hread

/-- To write the entries of a table after a further write to it is to make that write last. -/
theorem insertAll_insert (table added : Table α) (key : String) (value : α) :
    table.insertAll (added.insert key value).entries =
      (table.insertAll added.entries).insert key value := by
  refine eq_of_keys_of_get? ?_ fun name ↦ ?_
  · rw [keys_insertAll, keys_insert, keys_insertAll]
    show (table.keys ++ (added.insert key value).keys).eraseDups =
      if key ∈ (table.keys ++ added.keys).eraseDups then (table.keys ++ added.keys).eraseDups
      else (table.keys ++ added.keys).eraseDups ++ [key]
    rw [keys_insert]
    by_cases hadded : key ∈ added.keys
    · simp [hadded]
    · rw [if_neg hadded, ← List.append_assoc, eraseDups_concat]
      simp only [List.mem_eraseDups]
  · rw [get?_insertAll, get?_insert, get?_insertAll, lookup_reverse_entries,
      lookup_reverse_entries, get?_insert]
    split <;> rfl

/-- Entries can be collected in a table before they are written into another. -/
theorem insertAll_insertAll (table added : Table α) (entries : List (String × α)) :
    table.insertAll (added.insertAll entries).entries =
      (table.insertAll added.entries).insertAll entries := by
  induction entries generalizing added with
  | nil => rfl
  | cons entry rest ih =>
      show table.insertAll ((added.insert entry.1 entry.2).insertAll rest).entries =
        ((table.insertAll added.entries).insert entry.1 entry.2).insertAll rest
      rw [ih, insertAll_insert]

theorem insertAll_ofList (table : Table α) (entries : List (String × α)) :
    table.insertAll (ofList entries).entries = table.insertAll entries :=
  insertAll_insertAll table empty entries

/-- A table of two lists is that of the first with the entries of the second written to it. -/
theorem ofList_append (first second : List (String × α)) :
    ofList (first ++ second) = (ofList first).insertAll (ofList second).entries := by
  rw [insertAll_ofList]
  simp [ofList, insertAll]

theorem insertAll_ofList_append (table : Table α) (first second : List (String × α)) :
    table.insertAll (ofList (first ++ second)).entries =
      (table.insertAll (ofList first).entries).insertAll (ofList second).entries := by
  rw [ofList_append, insertAll_insertAll]

/-! ## Completion -/

theorem get?_insertNew (table : Table α) (key name : String) (value : α) :
    (table.insertNew key value).get? name =
      (table.get? name <|> if name = key then some value else none) := by
  unfold insertNew contains
  cases hkey : table.get? key with
  | none =>
      rw [Option.isSome_none, if_neg Bool.false_ne_true, get?_insert]
      by_cases h : name = key <;> simp [h, hkey]
  | some present =>
      rw [Option.isSome_some, if_pos rfl]
      by_cases h : name = key <;> simp [h, hkey]

theorem keys_insertNew (table : Table α) (key : String) (value : α) :
    (table.insertNew key value).keys =
      if key ∈ table.keys then table.keys else table.keys ++ [key] := by
  unfold insertNew
  by_cases h : key ∈ table.keys
  · rw [if_pos ((contains_iff table key).mpr h), if_pos h]
  · rw [if_neg (mt (contains_iff table key).mp h), keys_insert]

/-- Missing names come after all others. -/
theorem keys_foldl_insertNew (name : β → String) (value : β → α) {items : List β}
    (h : (items.map name).Nodup) (table : Table α) :
    (items.foldl (fun table item ↦ table.insertNew (name item) (value item)) table).keys =
      table.keys ++ (items.map name).filter (· ∉ table.keys) := by
  have hkeys : (items.foldl (fun table item ↦ table.insertNew (name item) (value item))
      table).keys = (table.keys ++ items.map name).eraseDups := by
    clear h
    induction items using List.reverseRecOn with
    | nil =>
        rw [List.map_nil, List.append_nil]
        exact (eraseDups_eq_self table.nodup).symm
    | append_singleton rest item ih =>
        rw [List.foldl_concat, keys_insertNew, ih, List.map_append, ← List.append_assoc]
        simp only [List.mem_eraseDups]
        exact (eraseDups_concat _ (name item)).symm
  have hmissing : (items.map name).removeAll table.keys =
      (items.map name).filter (· ∉ table.keys) := by
    simp [List.removeAll]
  have hown : table.keys.eraseDups = table.keys := eraseDups_eq_self table.nodup
  rw [hkeys, List.eraseDups_append, hmissing, hown, eraseDups_eq_self (h.filter _)]

/-- A table has its own values under its names, and the first that is given under a missing one. -/
theorem get?_foldl_insertNew (name : β → String) (value : β → α) (items : List β)
    (table : Table α) (key : String) :
    (items.foldl (fun table item ↦ table.insertNew (name item) (value item)) table).get? key =
      (table.get? key <|> (items.find? (name · = key)).map value) := by
  induction items generalizing table with
  | nil => simp
  | cons item rest ih =>
      rw [List.foldl_cons, ih, get?_insertNew, List.find?_cons]
      by_cases h : name item = key
      · subst h
        cases table.get? (name item) <;> simp
      · have hkey : ¬ key = name item := fun e ↦ h e.symm
        simp [h, hkey]

/-! ## Another order -/

section

variable {first second : Table α}

/-- Both tables have the same values under the same names. -/
def Alike (first second : Table α) : Prop := ∀ name, first.get? name = second.get? name

/-- Tables with the same entries have them in another order at most. -/
theorem perm_of_forall_mem_iff (h : ∀ entry, entry ∈ first.entries ↔ entry ∈ second.entries) :
    first.entries.Perm second.entries :=
  (List.perm_ext_iff_of_nodup (first.nodup.of_map _) (second.nodup.of_map _)).mpr h

/-- Entries can be looked up in any order. -/
theorem alike_of_perm (h : first.entries.Perm second.entries) : first.Alike second := by
  intro name
  ext value
  rw [get?_eq_some_iff, get?_eq_some_iff, h.mem_iff]

/-- The table with these entries in another order. -/
def ofPerm {table : Table α} {entries : List (String × α)} (h : table.entries.Perm entries) :
    Table α :=
  ⟨entries, (h.map Prod.fst).nodup_iff.mp table.nodup⟩

theorem Alike.contains (h : first.Alike second) (name : String) :
    first.contains name = second.contains name := by
  unfold Table.contains
  rw [h name]

/-- Alike tables are completed alike. -/
theorem Alike.foldl_insertNew (h : first.Alike second) (key : β → String) (value : β → α)
    (items : List β) :
    (items.foldl (fun table item ↦ table.insertNew (key item) (value item)) first).Alike
      (items.foldl (fun table item ↦ table.insertNew (key item) (value item)) second) := by
  induction items generalizing first second with
  | nil => exact h
  | cons item rest ih =>
      refine ih fun name ↦ ?_
      rw [get?_insertNew, get?_insertNew, h name]

end

/-! ## Other values -/

/-- The table with the same names, in the same order, and other values. -/
def map (f : α → β) (table : Table α) : Table β where
  entries := table.entries.map fun entry ↦ (entry.1, f entry.2)
  nodup := by simpa [Function.comp_def] using table.nodup

@[simp] theorem get?_map (f : α → β) (table : Table α) (name : String) :
    (table.map f).get? name = (table.get? name).map f := by
  obtain ⟨entries, nodup⟩ := table
  simp only [get?, map]
  clear nodup
  induction entries with
  | nil => rfl
  | cons entry rest ih =>
      rw [List.map_cons, lookup_cons_entry, lookup_cons_entry, ih]
      split <;> rfl

@[simp] theorem keys_map (f : α → β) (table : Table α) : (table.map f).keys = table.keys := by
  simp [keys, map, Function.comp_def]

@[simp] theorem map_id (table : Table α) : table.map id = table :=
  eq_of_keys_of_get? (keys_map id table) fun name ↦ by simp

theorem map_insert (f : α → β) (table : Table α) (key : String) (value : α) :
    (table.insert key value).map f = (table.map f).insert key (f value) := by
  refine eq_of_keys_of_get? ?_ fun name ↦ ?_
  · rw [keys_map, keys_insert, keys_insert, keys_map]
  · rw [get?_map, get?_insert, get?_insert, get?_map]
    split <;> rfl

/-- Values can be changed before or after they are written. -/
theorem map_insertAll (f : α → β) (table : Table α) (entries : List (String × α)) :
    (table.insertAll entries).map f = (table.map f).insertAll (entries.map (Prod.map id f)) := by
  induction entries generalizing table with
  | nil => rfl
  | cons entry rest ih =>
      show ((table.insert entry.1 entry.2).insertAll rest).map f = _
      rw [ih, map_insert]
      rfl

/-! ## Tables of definitions -/

/-- A table holds what the items of a list define: every name stands where it is defined first, with
the value of the last item that defines it. -/
structure Collects (name : β → String) (value : β → α) (items : List β) (table : Table α) :
    Prop where
  keys : table.keys = (items.map name).eraseDups
  get? : ∀ key, table.get? key = (items.reverse.find? (name · = key)).map value

theorem collects_ofList (name : β → String) (value : β → α) (items : List β) :
    Collects name value items (ofList (items.map fun item ↦ (name item, value item))) where
  keys := by simp [ofList, keys_insertAll, Function.comp_def]
  get? := fun key ↦ by
    rw [ofList, get?_insertAll, ← List.map_reverse, lookup_map_entry]
    simp

namespace Collects

variable {name : β → String} {value : β → α} {items : List β} {table : Table α}

/-- There is one such table. -/
theorem eq_ofList (h : table.Collects name value items) :
    table = ofList (items.map fun item ↦ (name item, value item)) := by
  have hlist := collects_ofList name value items
  exact eq_of_keys_of_get? (h.keys.trans hlist.keys.symm) fun key ↦
    (h.get? key).trans (hlist.get? key).symm

/-- A table to which that of further items is written holds these as well. -/
theorem insertAll (h : table.Collects name value items) (more : List β) :
    (table.insertAll (ofList (more.map fun item ↦ (name item, value item))).entries).Collects
      name value (items ++ more) := by
  rw [h.eq_ofList, ← ofList_append, ← List.map_append]
  exact collects_ofList name value (items ++ more)

end Collects

end Table

end QueryLint

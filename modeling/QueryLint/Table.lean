/-!
# Tables

A `Table α` holds named values in the order in which their names first came in. Writing under a name
that is already there replaces the value and keeps its place. Main statements: `get?_insert` reads a
table back after a write, and `keys_insert` gives its order.
-/

namespace QueryLint

/-- Named values in order; no name occurs twice. -/
structure Table (α : Type) where
  /-- The names and their values, in order. -/
  entries : List (String × α)
  /-- No name occurs twice. -/
  nodup : (entries.map Prod.fst).Nodup
  deriving DecidableEq

namespace Table

variable {α : Type}

/-- The table without entries. -/
def empty : Table α := ⟨[], List.nodup_nil⟩

instance : Inhabited (Table α) := ⟨empty⟩

/-- The names, in order. -/
def keys (table : Table α) : List String := table.entries.map Prod.fst

/-- The values, in the order of their names. -/
def values (table : Table α) : List α := table.entries.map Prod.snd

/-- The value under a name. -/
def get? (table : Table α) (key : String) : Option α := table.entries.lookup key

/-- Whether there is a value under a name. -/
def contains (table : Table α) (key : String) : Bool := (table.get? key).isSome

/-- Write a value into a list of entries: in the place of its name, or at the end. -/
def put (key : String) (value : α) : List (String × α) → List (String × α)
  | [] => [(key, value)]
  | entry :: rest =>
    if entry.1 = key then (key, value) :: rest else entry :: put key value rest

/-- Writing adds the name at the end if it was not there. -/
theorem map_fst_put (key : String) (value : α) (entries : List (String × α)) :
    (put key value entries).map Prod.fst =
      if key ∈ entries.map Prod.fst then entries.map Prod.fst
      else entries.map Prod.fst ++ [key] := by
  induction entries with
  | nil => simp [put]
  | cons entry rest ih =>
    by_cases h : entry.1 = key
    · simp [put, h]
    · have h' : key ≠ entry.1 := fun e ↦ h e.symm
      simp only [put, h, if_false, List.map_cons, ih, List.mem_cons, h', false_or]
      split <;> simp

/-- A look-up stops at the first entry with the name. -/
theorem lookup_cons_entry (entry : String × α) (rest : List (String × α)) (name : String) :
    (entry :: rest).lookup name = if name = entry.1 then some entry.2 else rest.lookup name := by
  obtain ⟨key, value⟩ := entry
  rw [List.lookup_cons]
  by_cases h : name = key
  · simp [h]
  · have hb : (name == key) = false := by simpa using h
    simp [h, hb]

/-- What is read from entries after writing one of them. -/
theorem lookup_put (key name : String) (value : α) (entries : List (String × α)) :
    (put key value entries).lookup name =
      if name = key then some value else entries.lookup name := by
  induction entries with
  | nil => simp only [put, lookup_cons_entry]
  | cons entry rest ih =>
    by_cases h : entry.1 = key
    · simp only [put, h, if_true, lookup_cons_entry]
      split <;> rfl
    · simp only [put, h, if_false, lookup_cons_entry, ih]
      by_cases hn : name = entry.1
      · simp only [hn, if_true, h, if_false]
      · simp only [hn, if_false]

/-- Write a value under a name. -/
def insert (table : Table α) (key : String) (value : α) : Table α where
  entries := put key value table.entries
  nodup := by
    rw [map_fst_put]
    split
    · exact table.nodup
    · next h =>
      refine List.nodup_append.2 ⟨table.nodup, by simp, ?_⟩
      intro a ha b hb e
      rw [List.mem_singleton] at hb
      exact h (hb ▸ e ▸ ha)

/-- Write entries one after the other. -/
def insertAll (table : Table α) (entries : List (String × α)) : Table α :=
  entries.foldl (fun table entry ↦ table.insert entry.1 entry.2) table

/-- The table of a list of entries; of several under one name, the last one counts. -/
def ofList (entries : List (String × α)) : Table α :=
  empty.insertAll entries

/-- Write a value under a name unless there is one already. -/
def insertNew (table : Table α) (key : String) (value : α) : Table α :=
  if table.contains key then table else table.insert key value

@[simp] theorem get?_empty (key : String) : (empty : Table α).get? key = none := rfl

@[simp] theorem keys_empty : (empty : Table α).keys = [] := rfl

/-- A write is read back under its name and changes nothing under any other. -/
theorem get?_insert (table : Table α) (key name : String) (value : α) :
    (table.insert key value).get? name = if name = key then some value else table.get? name :=
  lookup_put key name value table.entries

/-- A write keeps the order and adds a new name at the end. -/
theorem keys_insert (table : Table α) (key : String) (value : α) :
    (table.insert key value).keys =
      if key ∈ table.keys then table.keys else table.keys ++ [key] :=
  map_fst_put key value table.entries

/-- The names of a table are those it has a value for. -/
theorem mem_keys_iff (table : Table α) (key : String) :
    key ∈ table.keys ↔ (table.get? key).isSome := by
  obtain ⟨entries, nodup⟩ := table
  simp only [keys, get?]
  clear nodup
  induction entries with
  | nil => simp
  | cons entry rest ih =>
    rw [List.map_cons, List.mem_cons, lookup_cons_entry, ih]
    by_cases h : key = entry.1 <;> simp [h]

end Table

end QueryLint

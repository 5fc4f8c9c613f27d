/-!
# Look-up tables

A `Table` keeps at most one value for each key.  It answers look-ups and its
size; it has no order that means anything.

Four facts are all that is needed of it: what a look-up finds after a value
was put in, after one was taken out, and after all were changed, and that an
empty table finds nothing.
-/

namespace LineProtocol

/-- Values by key. -/
structure Table (κ ν : Type) where
  entries : List (κ × ν) := []
  deriving Repr, DecidableEq

namespace Table

variable {κ ν : Type} [DecidableEq κ]

/-- The value of a key. -/
def find?
    (table : Table κ ν)
    (key : κ) :
    Option ν :=
  (table.entries.find? (·.1 = key)).map (·.2)

/-- Takes a key out. -/
def erase
    (table : Table κ ν)
    (key : κ) :
    Table κ ν :=
  ⟨table.entries.filter (·.1 ≠ key)⟩

/-- Gives a key a value, in place of the one it had. -/
def insert
    (table : Table κ ν)
    (key : κ)
    (value : ν) :
    Table κ ν :=
  ⟨(key, value) :: (table.erase key).entries⟩

/-- Changes the value of a key, if it has one. -/
def modify
    (table : Table κ ν)
    (key : κ)
    (change : ν → ν) :
    Table κ ν :=
  ⟨table.entries.map fun entry =>
    if entry.1 = key then (entry.1, change entry.2) else entry⟩

/-- Changes the value of every key. -/
def map
    (table : Table κ ν)
    (change : ν → ν) :
    Table κ ν :=
  ⟨table.entries.map fun entry => (entry.1, change entry.2)⟩

/-- The number of keys. -/
def size (table : Table κ ν) : Nat :=
  table.entries.length

@[simp]
theorem find?_empty (key : κ) : ({} : Table κ ν).find? key = none :=
  rfl

theorem find?_erase
    (table : Table κ ν)
    (key other : κ) :
    (table.erase key).find? other =
      if other = key then none else table.find? other := by
  rw [find?, erase, List.find?_filter]
  by_cases same : other = key
  · have nowhere :
        table.entries.find?
            (fun entry => decide (decide (entry.1 ≠ key) = true ∧
              decide (entry.1 = other) = true)) =
          none := by
      rw [List.find?_eq_none]
      intro entry _
      simp only [decide_eq_true_eq]
      exact fun found => found.1 (found.2.trans same)
    rw [nowhere]
    simp [same]
  · have searched :
        (fun entry : κ × ν =>
            decide (decide (entry.1 ≠ key) = true ∧
              decide (entry.1 = other) = true)) =
          fun entry => decide (entry.1 = other) := by
      funext entry
      by_cases here : entry.1 = other <;> simp [here, same]
    rw [searched]
    simp [same, find?]

theorem find?_insert
    (table : Table κ ν)
    (key other : κ)
    (value : ν) :
    (table.insert key value).find? other =
      if other = key then some value else table.find? other := by
  by_cases same : other = key
  · simp [insert, find?, same]
  · have different : ¬ key = other := fun equal => same equal.symm
    have behind := find?_erase table key other
    simp only [same, if_false] at behind
    simpa [insert, find?, List.find?_cons, different, same] using behind

theorem find?_map
    (table : Table κ ν)
    (change : ν → ν)
    (key : κ) :
    (table.map change).find? key = (table.find? key).map change := by
  rw [find?, map, List.find?_map, Option.map_map, find?, Option.map_map]
  rfl

end Table

end LineProtocol

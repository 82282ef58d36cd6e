namespace Availability

/-- Values under distinct text keys. -/
abbrev Table (α : Type) := List (String × α)

namespace Table

variable {α : Type}

def get? (table : Table α) (key : String) : Option α := (table.find? (·.1 == key)).map (·.2)

def erase (table : Table α) (key : String) : Table α := table.filter (·.1 != key)

def put (table : Table α) (key : String) (value : α) : Table α := (key, value) :: table.erase key

def adjust (table : Table α) (key : String) (f : α → α) : Table α :=
  table.map fun entry => if entry.1 == key then (entry.1, f entry.2) else entry

theorem get?_erase_self (table : Table α) (key : String) : (table.erase key).get? key = none := by
  simp [get?, erase, List.find?_filter]

theorem get?_erase_ne (table : Table α) {key other : String} (distinct : other ≠ key) :
    (table.erase key).get? other = table.get? other := by
  simp only [get?, erase, List.find?_filter]
  congr 2
  funext entry
  by_cases same : entry.1 = other
  · simp [same, distinct]
  · simp [same]

theorem get?_put_self (table : Table α) (key : String) (value : α) :
    (table.put key value).get? key = some value := by
  simp [put, get?]

theorem get?_put_ne (table : Table α) {key other : String} (value : α) (distinct : other ≠ key) :
    (table.put key value).get? other = table.get? other := by
  have skipped : (key == other) = false := by simpa using Ne.symm distinct
  simp only [put, get?, List.find?_cons, skipped]
  exact table.get?_erase_ne distinct

end Table

end Availability

namespace CommandScript

/-- Names with their entries, each name at most once when built by `insert`. -/
structure Table (α : Type) where
  entries : List (String × α) := []

namespace Table

variable {α : Type}

/-- The entry under a name. -/
def get? (table : Table α) (name : String) : Option α :=
  table.entries.lookup name

def contains (table : Table α) (name : String) : Bool :=
  (table.get? name).isSome

def erase (table : Table α) (name : String) : Table α :=
  ⟨table.entries.filter fun entry => entry.1 != name⟩

/-- Adds an entry in place of any other under the same name. -/
def insert (table : Table α) (name : String) (a : α) : Table α :=
  ⟨(name, a) :: (table.erase name).entries⟩

def ofList (entries : List (String × α)) : Table α :=
  entries.foldl (fun table entry => table.insert entry.1 entry.2) {}

/-- The names in the order of their characters. -/
def names (table : Table α) : List String :=
  (table.entries.map Prod.fst).mergeSort fun a b => decide (a ≤ b)

@[simp] theorem get?_insert_self (table : Table α) (name : String) (a : α) :
    (table.insert name a).get? name = some a := by
  simp [get?, insert]

theorem lookup_filter_ne (entries : List (String × α)) {name other : String}
    (distinct : other ≠ name) :
    (entries.filter fun entry => entry.1 != name).lookup other = entries.lookup other := by
  induction entries with
  | nil => rfl
  | cons entry rest ih =>
    obtain ⟨key, value⟩ := entry
    by_cases same : key = name
    · subst same
      simp [ih, List.lookup_cons, beq_false_of_ne distinct]
    · simp [same, ih, List.lookup_cons]

@[simp] theorem get?_insert_of_ne (table : Table α) {name other : String} (a : α)
    (distinct : other ≠ name) : (table.insert name a).get? other = table.get? other := by
  simp [get?, insert, erase, List.lookup_cons, beq_false_of_ne distinct,
    lookup_filter_ne _ distinct]

@[simp] theorem get?_erase_of_ne (table : Table α) {name other : String}
    (distinct : other ≠ name) : (table.erase name).get? other = table.get? other := by
  simp [get?, erase, lookup_filter_ne _ distinct]

@[simp] theorem get?_erase_self (table : Table α) (name : String) :
    (table.erase name).get? name = none := by
  simp only [get?, erase, List.lookup_eq_none_iff, List.mem_filter, bne_iff_ne]
  exact fun entry member same => member.2 same.symm

end Table

end CommandScript

/-!
# Tables by name

A table holds values by name and lists them in the order of their names, which is the order of code
points.  Variables, providers, and named sources are kept in tables.

`get?_insert` and `get?_erase` say what the two changes do to every look-up.
-/

namespace Colloquy

/-- Values by name. -/
structure Table (α : Type) where
  entries : List (String × α)

namespace Table

variable {α : Type}

/-- The table without entries. -/
def empty : Table α := ⟨[]⟩

instance : Inhabited (Table α) := ⟨empty⟩

/-- The value of a name in a list of entries. -/
def find? (name : String) : List (String × α) → Option α
  | [] => none
  | (n, v) :: es => if name = n then some v else find? name es

/-- The value of a name. -/
def get? (t : Table α) (name : String) : Option α := find? name t.entries

/-- The entries with a value put in the place of its name. -/
def put (name : String) (value : α) : List (String × α) → List (String × α)
  | [] => [(name, value)]
  | (n, v) :: es =>
    if name = n then (name, value) :: es
    else if name < n then (name, value) :: (n, v) :: es
    else (n, v) :: put name value es

/-- The table with a new value for a name. -/
def insert (t : Table α) (name : String) (value : α) : Table α := ⟨put name value t.entries⟩

/-- The table without a name. -/
def erase (t : Table α) (name : String) : Table α := ⟨t.entries.filter (·.1 ≠ name)⟩

/-- The table of a list of entries; a later entry replaces an earlier one of its name. -/
def ofList (es : List (String × α)) : Table α := es.foldl (fun t e => t.insert e.1 e.2) empty

/-- The names in order. -/
def names (t : Table α) : List String := t.entries.map (·.1)

@[simp] theorem get?_empty (name : String) : (empty : Table α).get? name = none := rfl

theorem find?_put (m name : String) (value : α) (es : List (String × α)) :
    find? m (put name value es) = if m = name then some value else find? m es := by
  induction es with
  | nil => simp [put, find?]
  | cons e es ih =>
    obtain ⟨n, v⟩ := e
    unfold put
    split
    · next h => subst h; by_cases hm : m = name <;> simp [find?, hm]
    · split
      · simp [find?]
      · next h _ =>
        by_cases hm : m = n
        · subst hm
          have : m ≠ name := fun hmn => h hmn.symm
          simp [find?, this]
        · simp [find?, hm, ih]

/-- After an insertion a name has the new value if it is the inserted one, and its old one else. -/
theorem get?_insert (t : Table α) (m name : String) (value : α) :
    (t.insert name value).get? m = if m = name then some value else t.get? m :=
  find?_put m name value t.entries

/-- After an erasure the erased name has no value, and every other name has its old one. -/
theorem get?_erase (t : Table α) (m name : String) :
    (t.erase name).get? m = if m = name then none else t.get? m := by
  unfold erase get?
  generalize t.entries = es
  induction es with
  | nil => simp [find?]
  | cons e es ih =>
    obtain ⟨n, v⟩ := e
    by_cases hn : n = name
    · subst hn
      by_cases hm : m = n <;> simp_all [find?]
    · by_cases hm : m = n
      · subst hm; simp [find?, hn]
      · simp_all [find?]

end Table

end Colloquy

/-!
Objects are finite maps that remember the order in which their keys arrived. They are kept as lists
of entries, and every operation here keeps the position of a key that is already present.
-/

namespace SchemaAlgebra

/-- Entries in order, each a key with its value. -/
abbrev Fields (κ α : Type) := List (κ × α)

namespace Fields

variable {κ α β : Type}

/-- The keys, in order. -/
def keys (fields : Fields κ α) : List κ :=
  fields.map Prod.fst

/-- The values, in order. -/
def values (fields : Fields κ α) : List α :=
  fields.map Prod.snd

variable [DecidableEq κ]

/-- The value of the first entry with the key. -/
def get? : Fields κ α → κ → Option α
  | [], _ => none
  | (k, v) :: rest, key => if k = key then some v else get? rest key

/-- Whether some entry has the key. -/
def has (fields : Fields κ α) (key : κ) : Bool :=
  (fields.get? key).isSome

/-- Give a key a value: a present key keeps its place, a new one goes last. -/
def put : Fields κ α → κ → α → Fields κ α
  | [], key, value => [(key, value)]
  | (k, v) :: rest, key, value =>
      if k = key then (k, value) :: rest else (k, v) :: put rest key value

/-- Remove every entry with the key. -/
def erase : Fields κ α → κ → Fields κ α
  | [], _ => []
  | (k, v) :: rest, key => if k = key then erase rest key else (k, v) :: erase rest key

/-- Collect entries in order; of two entries with one key the first gives the place and the last
the value. -/
def collect (entries : Fields κ α) : Fields κ α :=
  entries.foldl (fun fields entry => fields.put entry.1 entry.2) []

/-- Replace the key `old` by `new`, wherever it stands. -/
def relabel (fields : Fields κ α) (old new : κ) : Fields κ α :=
  fields.map fun entry => (if entry.1 = old then new else entry.1, entry.2)

@[simp] theorem get?_nil (key : κ) : get? ([] : Fields κ α) key = none := rfl

theorem get?_cons (k : κ) (v : α) (rest : Fields κ α) (key : κ) :
    get? ((k, v) :: rest) key = if k = key then some v else get? rest key := rfl

theorem get?_put (fields : Fields κ α) (key other : κ) (value : α) :
    (fields.put key value).get? other = if key = other then some value else fields.get? other := by
  induction fields with
  | nil => simp [put, get?]
  | cons entry rest ih =>
      obtain ⟨k, v⟩ := entry
      by_cases h : k = key
      · subst h
        by_cases h' : k = other <;> simp [put, get?, h']
      · by_cases h' : k = other
        · subst h'
          simp [put, get?, h, Ne.symm h]
        · simp [put, get?, h, h', ih]

@[simp] theorem get?_put_self (fields : Fields κ α) (key : κ) (value : α) :
    (fields.put key value).get? key = some value := by
  simp [get?_put]

theorem get?_erase (fields : Fields κ α) (key other : κ) :
    (fields.erase key).get? other = if key = other then none else fields.get? other := by
  induction fields with
  | nil => simp [erase]
  | cons entry rest ih =>
      obtain ⟨k, v⟩ := entry
      by_cases h : k = key
      · subst h
        by_cases h' : k = other
        · simpa [erase, h'] using ih
        · simp [erase, get?, h', ih]
      · by_cases h' : k = other
        · subst h'
          simp [erase, get?, h, Ne.symm h]
        · simp [erase, get?, h, h', ih]

theorem get?_map (fields : Fields κ α) (f : α → β) (key : κ) :
    get? (fields.map fun entry => (entry.1, f entry.2)) key = (fields.get? key).map f := by
  induction fields with
  | nil => rfl
  | cons entry rest ih =>
      obtain ⟨k, v⟩ := entry
      by_cases h : k = key <;> simp [get?, h, ih]

theorem mem_of_get? {fields : Fields κ α} {key : κ} {value : α}
    (found : fields.get? key = some value) : (key, value) ∈ fields := by
  induction fields with
  | nil => simp at found
  | cons entry rest ih =>
      obtain ⟨k, v⟩ := entry
      by_cases h : k = key
      · simp [get?, h] at found
        simp [h, found]
      · simp [get?, h] at found
        exact List.mem_cons_of_mem _ (ih found)

theorem has_iff_mem_keys (fields : Fields κ α) (key : κ) :
    fields.has key = true ↔ key ∈ fields.keys := by
  induction fields with
  | nil => simp [has, keys]
  | cons entry rest ih =>
      obtain ⟨k, v⟩ := entry
      simp only [has, keys] at ih ⊢
      by_cases h : k = key
      · simp [get?, h]
      · simp [get?, h, Ne.symm h, ih]

theorem keys_put (fields : Fields κ α) (key : κ) (value : α) :
    (fields.put key value).keys = if fields.has key then fields.keys else fields.keys ++ [key] := by
  induction fields with
  | nil => simp [put, keys, has]
  | cons entry rest ih =>
      obtain ⟨k, v⟩ := entry
      simp only [keys, has] at ih ⊢
      by_cases h : k = key
      · simp [put, get?, h]
      · simp only [put, get?, h, if_false, List.map_cons, ih]
        by_cases present : (get? rest key).isSome = true <;> simp [present]

theorem keys_erase (fields : Fields κ α) (key : κ) :
    (fields.erase key).keys = fields.keys.filter fun other => other ≠ key := by
  induction fields with
  | nil => rfl
  | cons entry rest ih =>
      obtain ⟨k, v⟩ := entry
      by_cases h : k = key <;> simp_all [erase, keys]

end Fields

end SchemaAlgebra

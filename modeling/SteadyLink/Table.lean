/-!
# Finite maps

Finite maps as lists of entries. A new key goes to the end; a key that is there already keeps its
place.
-/

namespace SteadyLink

/-- A finite map. Of two entries with one key, the first counts. -/
structure Table (κ α : Type) where
  entries : List (κ × α)
  deriving DecidableEq

namespace Table

variable {κ α : Type} [DecidableEq κ]

def empty : Table κ α := ⟨[]⟩

instance : Inhabited (Table κ α) := ⟨empty⟩

def find (key : κ) : List (κ × α) → Option α
  | [] => none
  | (k, v) :: rest => if k = key then some v else find key rest

/-- The entries with the value of one key replaced, or with a new entry at the end. -/
def replace (key : κ) (value : α) : List (κ × α) → List (κ × α)
  | [] => [(key, value)]
  | (k, v) :: rest =>
    if k = key then (key, value) :: rest else (k, v) :: replace key value rest

def remove (key : κ) : List (κ × α) → List (κ × α)
  | [] => []
  | (k, v) :: rest => if k = key then remove key rest else (k, v) :: remove key rest

def get? (t : Table κ α) (key : κ) : Option α := find key t.entries

def insert (t : Table κ α) (key : κ) (value : α) : Table κ α := ⟨replace key value t.entries⟩

def erase (t : Table κ α) (key : κ) : Table κ α := ⟨remove key t.entries⟩

def size (t : Table κ α) : Nat := t.entries.length

def isEmpty (t : Table κ α) : Bool := t.entries.isEmpty

def map (f : α → α) (t : Table κ α) : Table κ α :=
  ⟨t.entries.map fun entry => (entry.1, f entry.2)⟩

theorem find_replace (key other : κ) (value : α) (entries : List (κ × α)) :
    find other (replace key value entries) =
      if other = key then some value else find other entries := by
  induction entries with
  | nil => grind [replace, find]
  | cons entry rest ih =>
    obtain ⟨k, v⟩ := entry
    by_cases hk : k = key <;> by_cases ho : other = key <;> grind [replace, find]

theorem find_remove (key other : κ) (entries : List (κ × α)) :
    find other (remove key entries) = if other = key then none else find other entries := by
  induction entries with
  | nil => simp [remove, find]
  | cons entry rest ih =>
    obtain ⟨k, v⟩ := entry
    by_cases hk : k = key <;> by_cases ho : other = key <;> grind [remove, find]

theorem get?_insert (t : Table κ α) (key other : κ) (value : α) :
    (t.insert key value).get? other = if other = key then some value else t.get? other :=
  find_replace key other value t.entries

theorem get?_erase (t : Table κ α) (key other : κ) :
    (t.erase key).get? other = if other = key then none else t.get? other :=
  find_remove key other t.entries

theorem get?_map (f : α → α) (t : Table κ α) (key : κ) :
    (t.map f).get? key = (t.get? key).map f := by
  obtain ⟨entries⟩ := t
  simp only [get?, map]
  induction entries with
  | nil => rfl
  | cons entry rest ih => by_cases h : entry.1 = key <;> simp [find, h, ih]

end Table

end SteadyLink

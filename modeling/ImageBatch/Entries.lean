/-!
Entries: values under names, in the order of the names.

Names are compared by code point. `insert` puts a name where it belongs and replaces the value of a name
that is there already, so entries built by insertion are sorted and name nothing twice. The two laws of
look-up after insertion hold whatever the order.
-/

namespace ImageBatch

/-- Values under names. -/
abbrev Entries (α : Type) := List (String × α)

namespace Entries

variable {α β : Type}

/-- The value under a name. -/
def get? (name : String) : Entries α → Option α
  | [] => none
  | (key, value) :: rest => if key = name then some value else get? name rest

def contains (name : String) (entries : Entries α) : Bool := (entries.get? name).isSome

/-- The entries with `value` under `name`. -/
def insert (name : String) (value : α) : Entries α → Entries α
  | [] => [(name, value)]
  | (key, old) :: rest =>
    if key = name then (name, value) :: rest
    else if name < key then (name, value) :: (key, old) :: rest
    else (key, old) :: insert name value rest

/-- Entries with all pairs inserted in turn; of equal names the last one stays. -/
def insertAll (entries : Entries α) (pairs : List (String × α)) : Entries α :=
  pairs.foldl (fun acc (name, value) => insert name value acc) entries

def ofList (pairs : List (String × α)) : Entries α := insertAll [] pairs

def names (entries : Entries α) : List String := entries.map (·.1)

def values (entries : Entries α) : List α := entries.map (·.2)

def mapValues (f : α → β) (entries : Entries α) : Entries β := entries.map fun (k, v) => (k, f v)

@[simp] theorem get?_insert_self (name : String) (value : α) (entries : Entries α) :
    get? name (insert name value entries) = some value := by
  induction entries with
  | nil => simp [insert, get?]
  | cons entry rest ih =>
    obtain ⟨key, old⟩ := entry
    unfold insert
    split
    · simp [get?]
    · split
      · simp [get?]
      · simp_all [get?]

theorem get?_insert_of_ne {name other : String} (ne : other ≠ name) (value : α)
    (entries : Entries α) : get? other (insert name value entries) = get? other entries := by
  induction entries with
  | nil => simp [insert, get?, Ne.symm ne]
  | cons entry rest ih =>
    obtain ⟨key, old⟩ := entry
    unfold insert
    split
    · subst_vars; simp [get?, Ne.symm ne]
    · split
      · simp [get?, Ne.symm ne]
      · simp [get?, ih]

theorem get?_insert (name other : String) (value : α) (entries : Entries α) :
    get? other (insert name value entries) =
      if other = name then some value else get? other entries := by
  split
  · subst_vars; simp
  · exact get?_insert_of_ne ‹_› value entries

end Entries

end ImageBatch

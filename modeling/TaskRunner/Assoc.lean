/-!
# Tables in order of insertion

A table of values under keys that keeps the order in which the keys were first given. Putting a
value under a key that is there replaces the value in its place (`find?_insert_self`,
`find?_insert_ne`, `keys_insert_of_mem`); a new key goes to the end (`toList_insert_of_not_mem`).
-/

namespace TaskRunner

/-- Values under keys, in the order in which the keys were first given. -/
structure Assoc (κ : Type) (α : Type) where
  toList : List (κ × α)

namespace Assoc

variable {κ α : Type} [DecidableEq κ]

/-- The table without entries. -/
def empty : Assoc κ α := ⟨[]⟩

instance : Inhabited (Assoc κ α) := ⟨empty⟩

/-- The keys in order. -/
def keys (t : Assoc κ α) : List κ := t.toList.map Prod.fst

/-- The values in order. -/
def values (t : Assoc κ α) : List α := t.toList.map Prod.snd

/-- The number of entries. -/
def size (t : Assoc κ α) : Nat := t.toList.length

/-- The value under a key. -/
def find? (t : Assoc κ α) (key : κ) : Option α :=
  (t.toList.find? fun entry => entry.1 = key).map Prod.snd

/-- Whether there is a value under a key. -/
def contains (t : Assoc κ α) (key : κ) : Bool := (t.find? key).isSome

/-- The entries with the value under `key` replaced, or with a new entry at the end. -/
def insertList (key : κ) (value : α) : List (κ × α) → List (κ × α)
  | [] => [(key, value)]
  | entry :: rest => if entry.1 = key then (key, value) :: rest else entry :: insertList key value rest

/-- Puts a value under a key. -/
def insert (t : Assoc κ α) (key : κ) (value : α) : Assoc κ α := ⟨insertList key value t.toList⟩

/-- Removes the value under a key, if there is one. -/
def erase (t : Assoc κ α) (key : κ) : Assoc κ α := ⟨t.toList.filter fun entry => entry.1 ≠ key⟩

/-- Puts every entry of a list, in its order. -/
def insertAll (t : Assoc κ α) (entries : List (κ × α)) : Assoc κ α :=
  entries.foldl (fun t entry => t.insert entry.1 entry.2) t

/-- The table that holds the entries of a list, later ones first in force. -/
def ofList (entries : List (κ × α)) : Assoc κ α := empty.insertAll entries

@[simp] theorem find?_empty (key : κ) : (empty : Assoc κ α).find? key = none := rfl

theorem find?_insert_self (t : Assoc κ α) (key : κ) (value : α) : (t.insert key value).find? key = some value := by
  obtain ⟨l⟩ := t
  induction l with
  | nil => simp [insert, insertList, find?]
  | cons entry rest ih =>
    by_cases h : entry.1 = key
    · simp [insert, insertList, find?, h]
    · simpa [insert, insertList, find?, h] using ih

theorem find?_insert_ne (t : Assoc κ α) {key other : κ} (value : α) (h : other ≠ key) :
    (t.insert key value).find? other = t.find? other := by
  obtain ⟨l⟩ := t
  induction l with
  | nil => simp [insert, insertList, find?, Ne.symm h]
  | cons entry rest ih =>
    by_cases hk : entry.1 = key
    · simp [insert, insertList, find?, hk, Ne.symm h]
    · by_cases ho : entry.1 = other
      · subst ho
        simp [insert, insertList, find?, hk]
      · simpa [insert, insertList, find?, hk, ho] using ih

theorem contains_iff_mem_keys (t : Assoc κ α) (key : κ) : t.contains key = true ↔ key ∈ t.keys := by
  simp only [contains, find?, keys, Option.isSome_map, List.find?_isSome, List.mem_map, decide_eq_true_eq]

theorem toList_insert_of_not_mem (t : Assoc κ α) {key : κ} (value : α) (h : key ∉ t.keys) :
    (t.insert key value).toList = t.toList ++ [(key, value)] := by
  obtain ⟨l⟩ := t
  induction l with
  | nil => rfl
  | cons entry rest ih =>
    simp only [keys, List.map_cons, List.mem_cons, not_or] at h
    have hne : entry.1 ≠ key := Ne.symm h.1
    have := ih h.2
    simp only [insert] at this ⊢
    simp [insertList, hne, this]

theorem keys_insert_of_mem (t : Assoc κ α) {key : κ} (value : α) (h : key ∈ t.keys) :
    (t.insert key value).keys = t.keys := by
  obtain ⟨l⟩ := t
  induction l with
  | nil => cases h
  | cons entry rest ih =>
    by_cases hk : entry.1 = key
    · simp [insert, insertList, keys, hk]
    · simp only [keys, List.map_cons, List.mem_cons] at h
      have := ih (h.resolve_left (Ne.symm hk))
      simp only [insert, keys] at this ⊢
      simp [insertList, hk, this]

end Assoc

end TaskRunner

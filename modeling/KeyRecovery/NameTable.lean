/-!
# Tables by name

* `NameTable` : entries under distinct names, in the order of the names;
* `NameTable.find?`, `NameTable.insert` : the entry under a name, and a new entry in its place;
* `NameTable.find?_insert` : the new entry is found and the others stay.
-/

namespace KeyRecovery

abbrev NameTable (α : Type) := List (String × α)

namespace NameTable

variable {α : Type}

def find? (t : NameTable α) (name : String) : Option α := List.lookup name t

def insert (name : String) (a : α) : NameTable α → NameTable α
  | [] => [(name, a)]
  | (other, b) :: rest =>
    if name = other then (name, a) :: rest
    else if name < other then (name, a) :: (other, b) :: rest
    else (other, b) :: insert name a rest

theorem find?_cons (t : NameTable α) (key other : String) (b : α) :
    find? ((key, b) :: t) other = if other = key then some b else t.find? other := by
  by_cases h : other = key
  · simp [find?, h]
  · have hb : (other == key) = false := by simpa using h
    simp [find?, List.lookup_cons, hb, h]

theorem find?_insert (t : NameTable α) (name other : String) (a : α) :
    (insert name a t).find? other = if other = name then some a else t.find? other := by
  induction t with
  | nil => rw [insert, find?_cons]
  | cons e rest ih =>
    obtain ⟨key, b⟩ := e
    unfold insert
    split
    · next h => subst h; rw [find?_cons, find?_cons]; split <;> rfl
    · next h =>
      split
      · rw [find?_cons]
      · rw [find?_cons, ih, find?_cons]
        by_cases h' : other = key
        · subst h'; simp [Ne.symm h]
        · simp [h']

end NameTable

end KeyRecovery

/-!
# Input that waits

* `Typeahead` : what came in and was not yet read, in pieces;
* `Typeahead.next` : reading one byte, or learning that there is none;
* `Typeahead.add` : bytes that can be read at once.

Reading takes the bytes of the first piece. An empty piece is read as an end of the input, and reading
goes on behind it.
-/

namespace KeyRecovery

structure Typeahead where
  ready : List (List UInt8)
  deriving DecidableEq

namespace Typeahead

def empty : Typeahead := ⟨[]⟩

def contents (t : Typeahead) : List UInt8 := t.ready.flatten

def size (t : Typeahead) : Nat := t.contents.length

def next (t : Typeahead) : Option UInt8 × Typeahead :=
  match t.ready with
  | [] => (none, t)
  | [] :: more => (none, ⟨more⟩)
  | [b] :: more => (some b, ⟨more⟩)
  | (b :: rest) :: more => (some b, ⟨rest :: more⟩)

/-- A byte that is read can be read no more. -/
theorem size_next {t u : Typeahead} {b : UInt8} (h : t.next = (some b, u)) : u.size < t.size := by
  unfold next at h
  split at h <;> simp only [Prod.mk.injEq, reduceCtorEq, false_and] at h
  all_goals
    next heq =>
      obtain ⟨-, rfl⟩ := h
      simp [size, contents, heq]

def add (t : Typeahead) (bytes : List UInt8) : Typeahead := ⟨t.ready ++ bytes.map fun b => [b]⟩

theorem contents_add (t : Typeahead) (bytes : List UInt8) :
    (t.add bytes).contents = t.contents ++ bytes := by
  induction bytes with
  | nil => simp [contents, add]
  | cons b rest ih => simp_all [contents, add]

theorem next_add (b : UInt8) (bytes : List UInt8) :
    (empty.add (b :: bytes)).next = (some b, empty.add bytes) := rfl

end Typeahead

end KeyRecovery

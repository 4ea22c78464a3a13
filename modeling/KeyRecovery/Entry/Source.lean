import KeyRecovery.Text.Quoted

/-!
# Sources of characters

* `ReadError`, `ModeError` : why a source cannot deliver, and why the mode of a terminal cannot be changed;
* `Source` : what the entry needs of a source: reading a character or learning that there are no
  more, and closing. A source holds only so much, and each character read leaves less;
* `Script` : the characters of given texts, in order;
* `Interrupted` : a source of which one read fails.
-/

namespace KeyRecovery

inductive ReadError
  | stream (message : String)
  | system (code : Int) (text : String)
  | negativeDescriptor (descriptor : Int)
  deriving DecidableEq

def ReadError.message : ReadError → String
  | .stream message => message
  | .system code text => "[Errno " ++ toString code ++ "] " ++ text
  | .negativeDescriptor d =>
    "file descriptor cannot be a negative integer (" ++ toString d ++ ")"

structure ModeError where
  code : Int
  text : List Char
  deriving DecidableEq

namespace ModeError

/-- What the system says about a refused mode. -/
def pair (e : ModeError) : String := "(" ++ toString e.code ++ ", " ++ Text.quoted e.text ++ ")"

def message (e : ModeError) : String := "unable to switch terminal to raw mode: " ++ e.pair

def gone : ModeError := ⟨5, "Input/output error".toList⟩

end ModeError

/-- What can be read character by character and closed. Reading answers `none` at the end. Closing a
source always closes it, but a mode may be left behind that cannot be brought back. -/
class Source (σ : Type) where
  read : σ → Except ReadError (Option Char) × σ
  close : σ → Except ModeError Unit × σ
  /-- How much the source may still deliver. -/
  pending : σ → Nat
  pending_read : ∀ s c t, read s = (.ok (some c), t) → pending t < pending s

structure Script where
  rest : List Char
  closed : Bool
  deriving DecidableEq

namespace Script

/-- The characters of some texts, one text after the other. -/
def ofTexts (texts : List (List Char)) : Script := ⟨texts.flatten, false⟩

def read (s : Script) : Option Char × Script :=
  if s.closed then (none, s)
  else match s.rest with
    | [] => (none, s)
    | c :: rest => (some c, { s with rest := rest })

/-- Closes a script; its characters stay unread. -/
def close (s : Script) : Script := { s with closed := true }

instance : Source Script where
  read s := (.ok s.read.1, s.read.2)
  close s := (.ok (), s.close)
  pending s := s.rest.length
  pending_read := by
    intro s c t h
    unfold read at h
    split at h
    · simp at h
    · split at h
      · simp at h
      · next heq =>
        simp only [Prod.mk.injEq] at h
        simp [← h.2, heq]

end Script

structure Interrupted (σ : Type) where
  inner : σ
  after : Nat
  error : ReadError

namespace Interrupted

variable {σ : Type} [Source σ]

def read (s : Interrupted σ) : Except ReadError (Option Char) × Interrupted σ :=
  match s.after with
  | 0 => (.error s.error, s)
  | n + 1 =>
    let (result, inner) := Source.read s.inner
    (result, { s with inner := inner, after := n })

instance : Source (Interrupted σ) where
  read := read
  close s :=
    let (answer, inner) := Source.close s.inner
    (answer, { s with inner := inner })
  pending s := Source.pending s.inner
  pending_read := by
    intro s c t h
    unfold read at h
    split at h
    · simp at h
    · next n _ =>
      simp only [Prod.mk.injEq] at h
      obtain ⟨h₁, rfl⟩ := h
      exact Source.pending_read s.inner c _ (Prod.ext h₁ rfl)

end Interrupted

end KeyRecovery

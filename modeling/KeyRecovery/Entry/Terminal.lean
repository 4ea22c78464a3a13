import KeyRecovery.Entry.Source
import KeyRecovery.Entry.Typeahead

/-!
# Reading from a terminal

* `Attributes` : the attributes of a terminal, and what raw mode makes of them;
* `Device` : what a descriptor leads to, with the input waiting there and the attributes of a terminal;
* `Terminal` : a reader on a device. Opening it saves the attributes of a terminal and switches to raw
  mode, which drops what was typed before; closing it once brings the saved attributes back;
* `Terminal.read` : one byte as one character, nothing once the reader is closed;
* `Terminal.awaited` : what a read that waits for input finds in the end.
-/

namespace KeyRecovery

/-- The attributes of a terminal. What is raw is changed no further by switching to raw mode. -/
class Attributes (α : Type) where
  raw : α → α
  raw_raw : ∀ a, raw (raw a) = raw a

/-- The attributes that a switch to raw mode is known by: input is taken line by line, and echoed. -/
structure Mode where
  canonical : Bool
  echo : Bool
  deriving DecidableEq, Repr

namespace Mode

def cooked : Mode := ⟨true, true⟩

instance : Attributes Mode where
  raw _ := ⟨false, false⟩
  raw_raw _ := rfl

end Mode

/-- What a descriptor leads to. -/
inductive DeviceKind
  | pipe
  | terminal
  /-- A terminal whose other end is gone: it has attributes, but cannot be read. -/
  | hungUp
  /-- What a terminal is once its other end went away in use: input that ends, and no attributes. -/
  | severed
  | directory
  /-- Nothing: the descriptor was closed. -/
  | unbound
  /-- Nothing: the descriptor is negative. -/
  | negative
  deriving DecidableEq, Repr

structure Device (α : Type) where
  kind : DeviceKind
  waiting : Typeahead
  mode : α
  deriving DecidableEq

namespace Device

variable {α : Type}

/-- A device where no input waits. -/
def idle (kind : DeviceKind) (mode : α) : Device α := ⟨kind, .empty, mode⟩

def isTerminal (d : Device α) : Bool := d.kind == .terminal || d.kind == .hungUp

def contents (d : Device α) : List UInt8 := d.waiting.contents

/-- Bytes come in that can be read at once. -/
def receive (d : Device α) (bytes : List UInt8) : Device α := { d with waiting := d.waiting.add bytes }

/-- The other end goes away. A terminal loses what was not read. -/
def sever (d : Device α) : Device α :=
  if d.kind = .terminal then { d with kind := .severed, waiting := .empty } else d

/-- Switches to raw mode, and drops what was typed before. -/
def toRaw [Attributes α] (d : Device α) : Device α :=
  { d with waiting := .empty, mode := Attributes.raw d.mode }

/-- The number and the text with which the system refuses to read from a device. -/
def refusal? (d : Device α) : Option (Int × String) :=
  match d.kind with
  | .pipe | .terminal | .severed | .negative => none
  | .hungUp => some (5, "Input/output error")
  | .directory => some (21, "Is a directory")
  | .unbound => some (9, "Bad file descriptor")

end Device

structure Terminal (α : Type) where
  device : Device α
  saved : Option α
  closed : Bool
  deriving DecidableEq

namespace Terminal

variable {α : Type}

def on (d : Device α) : Terminal α := ⟨d, none, false⟩

/-- Opens the reader: on a terminal, saves the attributes, over what an earlier opening saved, and
switches to raw mode, unless the system refuses the switch. -/
def openWith [Attributes α] (refusal : Option ModeError) (t : Terminal α) :
    Except ModeError Unit × Terminal α :=
  if t.device.isTerminal then
    let t := { t with saved := some t.device.mode }
    match refusal with
    | some e => (.error e, t)
    | none => (.ok (), { t with device := t.device.toRaw })
  else (.ok (), t)

def opened [Attributes α] (t : Terminal α) : Terminal α := (t.openWith none).2

def read (t : Terminal α) : Except ReadError (Option Char) × Terminal α :=
  if t.closed then (.ok none, t)
  else if t.device.kind = .negative then (.error (.negativeDescriptor (-1)), t)
  else match t.device.refusal? with
    | some (code, text) =>
      (.error (.stream ("Error " ++ toString code ++ " while reading input: " ++ text)), t)
    | none =>
      let (b, rest) := t.device.waiting.next
      (.ok (b.map fun b => Char.ofNat b.toNat), { t with device := { t.device with waiting := rest } })

/-- Closes the reader and brings the saved attributes back, unless its device is a terminal no more. A
closed reader stays as it is. -/
def close (t : Terminal α) : Except ModeError Unit × Terminal α :=
  if t.closed then (.ok (), t)
  else match t.saved with
    | none => (.ok (), { t with closed := true })
    | some mode =>
      if t.device.isTerminal then (.ok (), ⟨{ t.device with mode := mode }, none, true⟩)
      else (.error .gone, { t with closed := true })

/-- An open reader as its next read finds it. A read waits until there is something to read, so on a terminal
where nothing comes in any more it waits for the other end to go away. -/
def awaited (t : Terminal α) : Terminal α :=
  if t.closed = false ∧ t.device.waiting = .empty then { t with device := t.device.sever } else t

theorem size_awaited_le (t : Terminal α) : t.awaited.device.waiting.size ≤ t.device.waiting.size := by
  unfold awaited
  split
  · next h =>
    simp only [Device.sever]
    split
    · exact Nat.zero_le _
    · exact Nat.le_refl _
  · exact Nat.le_refl _

theorem size_read {s t : Terminal α} {c : Char} (h : s.read = (.ok (some c), t)) :
    t.device.waiting.size < s.device.waiting.size := by
  unfold read at h
  split at h
  · simp at h
  · split at h
    · simp at h
    · split at h
      · simp at h
      · simp only [Prod.mk.injEq, Except.ok.injEq, Option.map_eq_some_iff] at h
        obtain ⟨⟨b, hb, -⟩, rfl⟩ := h
        exact Typeahead.size_next (Prod.ext hb rfl)

instance : Source (Terminal α) where
  read t := t.awaited.read
  close := close
  pending t := t.device.waiting.size
  pending_read s _ _ h := Nat.lt_of_lt_of_le (size_read h) s.size_awaited_le

end Terminal

end KeyRecovery

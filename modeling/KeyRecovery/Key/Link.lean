import KeyRecovery.Key.Chain

/-!
# The chain without memory

* `Chain.link` : the hash after `n` rounds, as an iteration;
* `Chain.state` : what the next round hashes;
* `Chain.stretched` : the key of a packed password and a salt.

This is the chain as one writes it down: no buffer, no observer, no failure.
-/

namespace KeyRecovery.Chain

def state (first salt last : List UInt8) (n : Nat) : List UInt8 :=
  first ++ salt ++ last ++ LittleEndian.encode 8 n

def link (hash : List UInt8 → Digest) (first salt : List UInt8) : Nat → List UInt8
  | 0 => List.replicate digestLength 0
  | n + 1 => (hash (state first salt (link hash first salt n) n)).bytes

def stretched (hash : List UInt8 → Digest) (packed salt : List UInt8) (n : Nat) : List UInt8 :=
  link hash (hash packed).bytes salt n

theorem length_link (hash : List UInt8 → Digest) (first salt : List UInt8) (n : Nat) :
    (link hash first salt n).length = digestLength := by
  cases n with
  | zero => simp [link]
  | succ n => exact (hash _).length_bytes

theorem length_state {first salt last : List UInt8} (hf : first.length = digestLength)
    (hs : salt.length = saltLength) (hl : last.length = digestLength) (n : Nat) :
    (state first salt last n).length = stateLength := by
  simp [state, hf, hs, hl, stateLength, counterOffset, hashOffset, Nat.add_assoc]

end KeyRecovery.Chain

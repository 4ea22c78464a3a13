/-!
# Little-endian numbers

* `LittleEndian.encode w n` : the low `w` bytes of `n`, least significant first;
* `LittleEndian.decode` : the number a byte string stands for;
* `LittleEndian.bound w` : the first number that `w` bytes do not hold;
* `decode_encode`, `encode_decode` : the two undo each other below `bound w`.
-/

namespace KeyRecovery.LittleEndian

def encode : Nat → Nat → List UInt8
  | 0, _ => []
  | w + 1, n => UInt8.ofNat n :: encode w (n / 256)

def decode : List UInt8 → Nat
  | [] => 0
  | b :: rest => b.toNat + 256 * decode rest

/-- The first number that `w` bytes do not hold. -/
def bound : Nat → Nat
  | 0 => 1
  | w + 1 => 256 * bound w

@[simp] theorem length_encode (w n : Nat) : (encode w n).length = w := by
  induction w generalizing n with
  | zero => rfl
  | succ w ih => simp [encode, ih]

theorem decode_lt (bytes : List UInt8) : decode bytes < bound bytes.length := by
  induction bytes with
  | nil => simp [decode, bound]
  | cons b rest ih =>
    have hb : b.toNat < 256 := b.toNat_lt
    simp only [decode, List.length_cons, bound]
    omega

theorem decode_encode {w n : Nat} (h : n < bound w) : decode (encode w n) = n := by
  induction w generalizing n with
  | zero => simp only [bound] at h; simp only [encode, decode]; omega
  | succ w ih =>
    have hq : n / 256 < bound w := Nat.div_lt_of_lt_mul h
    simp only [encode, decode, ih hq, UInt8.toNat_ofNat']
    omega

theorem encode_decode (bytes : List UInt8) : encode bytes.length (decode bytes) = bytes := by
  induction bytes with
  | nil => rfl
  | cons b rest ih =>
    have hb : b.toNat < 256 := b.toNat_lt
    have hq : (b.toNat + 256 * decode rest) / 256 = decode rest := by omega
    simp only [decode, List.length_cons, encode, hq, ih, List.cons.injEq, and_true]
    apply UInt8.toNat_inj.1
    rw [UInt8.toNat_ofNat']
    omega

end KeyRecovery.LittleEndian

import KeyRecovery.Password.Packed
import KeyRecovery.Proofs.Pieces

/-!
# Packing and unpacking undo each other

* `pack_ofNat`, `unpack_of_size` : packing eight sixteen-bit words and unpacking sixteen bytes succeed;
* `words_bytes`, `bytes_words` : and each undoes the other;
* `getElem?_bytes` : where the two bytes of a word stand;
* `pack_eq_ok_iff`, `pack_eq_count_iff`, `pack_eq_range_iff`, `unpack_eq_ok_iff` : what is packed and unpacked,
  and what is refused;
* `unpack_bytes`, `pack_words` : the one after the other;
* `pack_unpack_exact` : the two undo each other on all that they do not refuse, and cut nothing off.
-/

namespace KeyRecovery.Packed

theorem length_bytes (ws : List Nat) : (bytes ws).length = 2 * ws.length := by
  induction ws with
  | nil => rfl
  | cons w ws ih =>
    rw [bytes, List.flatMap_cons, List.length_append, LittleEndian.length_encode, ← bytes, ih,
      List.length_cons]
    omega

theorem length_words (d : List UInt8) : (words d).length = d.length / 2 := by
  fun_induction words d with
  | case1 low high rest ih => simp only [List.length_cons, ih]; omega
  | case2 d h =>
    match d, h with
    | [], _ => rfl
    | [b], _ => simp
    | low :: high :: rest, h => exact absurd rfl (h low high rest)

theorem words_lt (d : List UInt8) : ∀ w ∈ words d, w < 0x10000 := by
  fun_induction words d with
  | case1 low high rest ih =>
    intro w hw
    rcases List.mem_cons.1 hw with rfl | hw
    · exact LittleEndian.decode_lt [low, high]
    · exact ih w hw
  | case2 d h => simp

theorem words_bytes {ws : List Nat} (h : ∀ w ∈ ws, w < 0x10000) : words (bytes ws) = ws := by
  induction ws with
  | nil => rfl
  | cons w ws ih =>
    have hw : w < LittleEndian.bound 2 := h w List.mem_cons_self
    have hd : words (bytes (w :: ws)) =
        LittleEndian.decode (LittleEndian.encode 2 w) :: words (bytes ws) := rfl
    rw [hd, LittleEndian.decode_encode hw, ih fun v hv => h v (List.mem_cons_of_mem w hv)]

theorem bytes_words {d : List UInt8} (h : d.length % 2 = 0) : bytes (words d) = d := by
  fun_induction words d with
  | case1 low high rest ih =>
    have hrest : rest.length % 2 = 0 := by simp only [List.length_cons] at h; omega
    have hword : LittleEndian.encode 2 (LittleEndian.decode [low, high]) = [low, high] :=
      LittleEndian.encode_decode [low, high]
    rw [bytes, List.flatMap_cons, ← bytes, ih hrest, hword, List.cons_append, List.cons_append,
      List.nil_append]
  | case2 d hd =>
    match d, hd with
    | [], _ => rfl
    | [b], _ => simp at h
    | low :: high :: rest, hd => exact absurd rfl (hd low high rest)

theorem fits_natCast {n : Nat} (h : n < 0x10000) : fits n = true := by
  simp only [fits, Bool.and_eq_true, decide_eq_true_eq]
  omega

theorem pack_ofNat {ws : List Nat} (hn : ws.length = Password.blockCount)
    (h : ∀ w ∈ ws, w < 0x10000) : pack (ws.map Int.ofNat) = .ok (bytes ws) := by
  have hfind : (ws.map Int.ofNat).find? (!fits ·) = none := by
    rw [List.find?_eq_none]
    intro v hv
    obtain ⟨w, hw, rfl⟩ := List.mem_map.1 hv
    simp [fits_natCast (h w hw)]
  have hmap : (ws.map Int.ofNat).map Int.toNat = ws := by
    rw [List.map_map]
    exact List.map_id ws
  rw [pack, if_neg (by simpa using hn), hfind, hmap]

theorem unpack_of_size {d : List UInt8} (h : d.length = size) : unpack d = .ok (words d) := by
  rw [unpack, if_neg (by simpa using h)]

/-! ## What is packed, and what is refused -/

theorem fits_iff {n : Int} : fits n = true ↔ 0 ≤ n ∧ n ≤ 65535 := by
  simp only [fits, Bool.and_eq_true, decide_eq_true_eq]
  omega

/-- Values that fit are the words below the bound. -/
theorem exists_words {values : List Int} (h : ∀ v ∈ values, 0 ≤ v ∧ v ≤ 65535) :
    ∃ ws : List Nat, ws.map Int.ofNat = values ∧ ∀ w ∈ ws, w < 0x10000 := by
  refine ⟨values.map Int.toNat, ?_, fun w hw => ?_⟩
  · rw [List.map_map]
    exact (List.map_congr_left fun v hv => Int.toNat_of_nonneg (h v hv).1).trans (List.map_id values)
  · obtain ⟨v, hv, rfl⟩ := List.mem_map.1 hw
    have := h v hv
    omega

theorem forall_fits_map {ws : List Nat} (h : ∀ w ∈ ws, w < 0x10000) :
    ∀ v ∈ ws.map Int.ofNat, 0 ≤ v ∧ v ≤ 65535 := by
  intro v hv
  obtain ⟨w, hw, rfl⟩ := List.mem_map.1 hv
  exact fits_iff.1 (fits_natCast (h w hw))

/-- The three answers about values. -/
theorem pack_cases (values : List Int) :
    (values.length ≠ Password.blockCount ∧ pack values = .error (.count values.length)) ∨
    (values.length = Password.blockCount ∧
      ∃ v, values.find? (!fits ·) = some v ∧ pack values = .error (.range v)) ∨
    (values.length = Password.blockCount ∧
      ∃ ws : List Nat, ws.map Int.ofNat = values ∧ (∀ w ∈ ws, w < 0x10000) ∧ pack values = .ok (bytes ws)) := by
  by_cases hn : values.length = Password.blockCount
  · cases hf : values.find? (!fits ·) with
    | some v => exact .inr (.inl ⟨hn, v, rfl, by rw [pack, if_neg (not_not_intro hn), hf]⟩)
    | none =>
      have hall : ∀ v ∈ values, 0 ≤ v ∧ v ≤ 65535 := fun v hv =>
        fits_iff.1 (by simpa using List.find?_eq_none.1 hf v hv)
      obtain ⟨ws, rfl, hws⟩ := exists_words hall
      exact .inr (.inr ⟨hn, ws, rfl, hws, pack_ofNat (by simpa using hn) hws⟩)
  · exact .inl ⟨hn, by rw [pack, if_pos hn]⟩

theorem pack_eq_ok_iff {values : List Int} {d : List UInt8} :
    pack values = .ok d ↔ values.length = Password.blockCount ∧
      ∃ ws : List Nat, ws.map Int.ofNat = values ∧ (∀ w ∈ ws, w < 0x10000) ∧ bytes ws = d := by
  constructor
  · intro h
    rcases pack_cases values with ⟨-, hp⟩ | ⟨-, v, -, hp⟩ | ⟨hn, ws, hv, hws, hp⟩ <;> rw [hp] at h
    · cases h
    · cases h
    · exact ⟨hn, ws, hv, hws, Except.ok.inj h⟩
  · rintro ⟨hn, ws, rfl, hws, rfl⟩
    exact pack_ofNat (by simpa using hn) hws

theorem exists_pack_iff {values : List Int} :
    (∃ d, pack values = .ok d) ↔ values.length = Password.blockCount ∧ ∀ v ∈ values, 0 ≤ v ∧ v ≤ 65535 := by
  constructor
  · rintro ⟨d, h⟩
    obtain ⟨hn, ws, rfl, hws, -⟩ := pack_eq_ok_iff.1 h
    exact ⟨hn, forall_fits_map hws⟩
  · rintro ⟨hn, hv⟩
    obtain ⟨ws, hmap, hws⟩ := exists_words hv
    exact ⟨_, pack_eq_ok_iff.2 ⟨hn, ws, hmap, hws, rfl⟩⟩

theorem pack_eq_count_iff {values : List Int} {n : Nat} :
    pack values = .error (.count n) ↔ values.length ≠ Password.blockCount ∧ n = values.length := by
  constructor
  · intro h
    rcases pack_cases values with ⟨hn, hp⟩ | ⟨-, v, -, hp⟩ | ⟨-, ws, -, -, hp⟩ <;> rw [hp] at h
    · exact ⟨hn, (PackError.count.inj (Except.error.inj h)).symm⟩
    · cases h
    · cases h
  · rintro ⟨hn, rfl⟩
    rw [pack, if_pos hn]

theorem pack_eq_range_iff {values : List Int} {v : Int} :
    pack values = .error (.range v) ↔ values.length = Password.blockCount ∧ ¬ (0 ≤ v ∧ v ≤ 65535) ∧
      ∃ before after, values = before ++ v :: after ∧ ∀ u ∈ before, 0 ≤ u ∧ u ≤ 65535 := by
  have hfind : values.find? (!fits ·) = some v ↔ ¬ (0 ≤ v ∧ v ≤ 65535) ∧
      ∃ before after, values = before ++ v :: after ∧ ∀ u ∈ before, 0 ≤ u ∧ u ≤ 65535 := by
    simp only [List.find?_eq_some_iff_append, Bool.not_not, ← fits_iff, Bool.not_eq_true, Bool.not_eq_true']
  rw [← hfind]
  constructor
  · intro h
    rcases pack_cases values with ⟨-, hp⟩ | ⟨hn, u, hu, hp⟩ | ⟨-, ws, -, -, hp⟩ <;> rw [hp] at h
    · cases h
    · rw [← PackError.range.inj (Except.error.inj h)]
      exact ⟨hn, hu⟩
    · cases h
  · rintro ⟨hn, hv⟩
    rw [pack, if_neg (not_not_intro hn), hv]

theorem unpack_eq_ok_iff {d : List UInt8} {ws : List Nat} :
    unpack d = .ok ws ↔ d.length = size ∧ words d = ws := by
  by_cases h : d.length = size
  · simp [unpack_of_size h, h]
  · simp [unpack, h]

theorem unpack_of_length_ne {d : List UInt8} (h : d.length ≠ size) : unpack d = .error (.size d.length) := by
  rw [unpack, if_pos h]

/-! ## Inverses -/

theorem getElem?_bytes {ws : List Nat} {i w : Nat} (h : ws[i]? = some w) :
    (bytes ws)[i * 2]? = some (UInt8.ofNat w) ∧ (bytes ws)[i * 2 + 1]? = some (UInt8.ofNat (w / 256)) := by
  obtain ⟨hi, rfl⟩ := List.getElem?_eq_some_iff.1 h
  have hw : ∀ p ∈ ws.map (LittleEndian.encode 2), p.length = 2 := by
    intro p hp
    obtain ⟨w, -, rfl⟩ := List.mem_map.1 hp
    exact LittleEndian.length_encode 2 w
  have hpiece {j : Nat} (hj : j < 2) :
      (bytes ws)[i * 2 + j]? = (LittleEndian.encode 2 ws[i])[j]? := by
    have := Pieces.getElem?_flatten hw [] (i := i) (by simpa using hi) hj
    rwa [List.append_nil, ← List.flatMap_def, ← bytes, List.getElem_map] at this
  exact ⟨hpiece (j := 0) (by decide), hpiece (j := 1) (by decide)⟩

theorem unpack_bytes {ws : List Nat} (hn : ws.length = Password.blockCount)
    (h : ∀ w ∈ ws, w < 0x10000) : unpack (bytes ws) = .ok ws := by
  refine unpack_eq_ok_iff.2 ⟨?_, words_bytes h⟩
  rw [length_bytes, hn]
  rfl

theorem pack_words {d : List UInt8} (h : d.length = size) : pack ((words d).map Int.ofNat) = .ok d := by
  have hn : (words d).length = Password.blockCount := by
    rw [length_words, h]
    rfl
  rw [pack_ofNat hn (words_lt d), bytes_words (by rw [h]; rfl)]

/-- **Packing and unpacking undo each other, and cut nothing off.** Eight values between 0 and 65535 are packed
into sixteen bytes, each as two bytes with the lower one first, which are unpacked as the same values. Nothing
else is packed: not another number of values, and no value out of range, of which the first is reported.
Sixteen bytes are unpacked as eight such values, which are packed into the same bytes. No other number of bytes
is unpacked. -/
theorem pack_unpack_exact :
    (∀ values : List Int,
      ((∃ d, pack values = .ok d) ↔ values.length = 8 ∧ ∀ v ∈ values, 0 ≤ v ∧ v ≤ 65535) ∧
      (∀ d, pack values = .ok d → d.length = 16 ∧
        (∃ ws, unpack d = .ok ws ∧ ws.map Int.ofNat = values) ∧
        ∀ (i : Nat) (v : Int), values[i]? = some v → ∃ low high : UInt8,
          d[2 * i]? = some low ∧ d[2 * i + 1]? = some high ∧ v = (low.toNat : Int) + 256 * high.toNat) ∧
      (∀ n, pack values = .error (.count n) ↔ values.length ≠ 8 ∧ n = values.length) ∧
      (∀ v, pack values = .error (.range v) ↔ values.length = 8 ∧ ¬ (0 ≤ v ∧ v ≤ 65535) ∧
        ∃ before after, values = before ++ v :: after ∧ ∀ u ∈ before, 0 ≤ u ∧ u ≤ 65535)) ∧
    ∀ d : List UInt8,
      ((∃ ws, unpack d = .ok ws) ↔ d.length = 16) ∧
      (∀ ws, unpack d = .ok ws → ws.length = 8 ∧ (∀ w ∈ ws, w ≤ 65535) ∧
        pack (ws.map Int.ofNat) = .ok d) ∧
      (d.length ≠ 16 → unpack d = .error (.size d.length)) := by
  refine ⟨fun values => ⟨exists_pack_iff, fun d h => ?_, fun n => pack_eq_count_iff,
    fun v => pack_eq_range_iff⟩, fun d => ⟨?_, fun ws h => ?_, unpack_of_length_ne⟩⟩
  · obtain ⟨hn, ws, rfl, hws, rfl⟩ := pack_eq_ok_iff.1 h
    have hunpack := unpack_bytes (by simpa using hn) hws
    refine ⟨(unpack_eq_ok_iff.1 hunpack).1, ⟨ws, hunpack, rfl⟩, fun i v hv => ?_⟩
    rw [List.getElem?_map, Option.map_eq_some_iff] at hv
    obtain ⟨w, hw, rfl⟩ := hv
    obtain ⟨hlow, hhigh⟩ := getElem?_bytes hw
    rw [Nat.mul_comm i 2] at hlow hhigh
    refine ⟨_, _, hlow, hhigh, ?_⟩
    have hlt : w < 0x10000 := hws w (List.mem_of_getElem? hw)
    rw [UInt8.toNat_ofNat', UInt8.toNat_ofNat', Int.ofNat_eq_natCast]
    omega
  · simp only [unpack_eq_ok_iff, exists_and_left, exists_eq', and_true]
    rfl
  · obtain ⟨hd, rfl⟩ := unpack_eq_ok_iff.1 h
    refine ⟨?_, fun w hw => Nat.le_of_lt_succ (words_lt d w hw), pack_words hd⟩
    rw [length_words, hd]
    rfl

/-- Words at both ends of the range; nine values; a value that would be the first word again if it were cut to
sixteen bits, with a greater and a negative one behind it; and an odd number of bytes. -/
theorem pack_unpack_exact_limits :
    let values : List Int := [0, 1, 65535, 256, 255, 32768, 9, 65534]
    (∃ d, pack values = .ok d ∧ d.length = 16 ∧ unpack d = .ok [0, 1, 65535, 256, 255, 32768, 9, 65534]) ∧
      pack (values ++ [0]) = .error (.count 9) ∧
      pack [0, 65536, 1, 18446744073709551616, -1, 0, 0, 0] = .error (.range 65536) ∧
      unpack (List.replicate 15 0) = .error (.size 15) ∧
      ∃ ws, unpack (List.replicate 16 255) = .ok ws ∧ pack (ws.map Int.ofNat) = .ok (List.replicate 16 255) := by
  intro values
  obtain ⟨hpack, hunpack⟩ := pack_unpack_exact
  obtain ⟨hok, hinverse, -⟩ := hpack values
  obtain ⟨-, -, hcount, -⟩ := hpack (values ++ [0])
  obtain ⟨-, -, -, hrange⟩ := hpack [0, 65536, 1, 18446744073709551616, -1, 0, 0, 0]
  obtain ⟨-, -, hsize⟩ := hunpack (List.replicate 15 0)
  obtain ⟨hok', hinverse', -⟩ := hunpack (List.replicate 16 255)
  obtain ⟨d, hd⟩ := hok.2 ⟨rfl, by decide⟩
  obtain ⟨hlen, ⟨ws, hws, hmap⟩, -⟩ := hinverse d hd
  obtain ⟨ws', hws'⟩ := hok'.2 rfl
  have hvalues : ws = [0, 1, 65535, 256, 255, 32768, 9, 65534] :=
    (List.map_inj_right fun _ _ => Int.ofNat.inj).1 hmap
  refine ⟨⟨d, hd, hlen, hvalues ▸ hws⟩, (hcount 9).2 ⟨by decide, rfl⟩,
    (hrange 65536).2 ⟨rfl, by decide, [0], _, rfl, by decide⟩, hsize (by decide), ws', hws',
    (hinverse' ws' hws').2.2⟩

end KeyRecovery.Packed

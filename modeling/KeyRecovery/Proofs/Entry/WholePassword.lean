import KeyRecovery.Proofs.Entry.Dialogue
import KeyRecovery.Proofs.Entry.GoodBlocks
import KeyRecovery.Proofs.Form.Mount
import KeyRecovery.Proofs.Password.Digits

/-!
# A password given whole and the same password typed

What stands between the blocks of an accepted password is ignored by the machine, as long as it is no
digit and does not erase.

* `Machine.Typable p` : what stands between the blocks of text `p` is so;
* `Machine.holding_take` : what a machine holds after some characters of such a password;
* `Machine.password?_whole` : the password that comes out in the end;
* `Dialogue.decides_whole`, `run_whole` : a dialogue on such a password is decided by its last character, and
  ends with the password;
* `typed_eq_whole` : typed, given to a dialogue or given to the form, it leads to the same key.
-/

namespace KeyRecovery

open Source (Delivers afterReads)
open Machine (start)

/-- Between the blocks of a text stands nothing that is a digit or erases. -/
def Machine.Typable (p : List Char) : Prop :=
  Password.Between (fun c => c.isDigit = false ∧ c ∉ Stroke.erasers) p

instance (p : List Char) : Decidable (Machine.Typable p) :=
  inferInstanceAs (Decidable (Password.Between _ p))

theorem Machine.Typable.between_digits {p : List Char} (ht : Machine.Typable p) :
    Password.Between (fun c => c.isDigit = false) p :=
  fun i hi c hc => (ht i hi c hc).1

section Accepted

variable {p : List Char} {ns : List Nat} (hp : Password.shortValues p = .ok ns)
include hp

namespace Machine

/-- A typable password erases nothing. -/
theorem Typable.not_mem_erasers (ht : Typable p) : ∀ c ∈ p, c ∉ Stroke.erasers := by
  intro c hc
  obtain ⟨i, hi⟩ := List.mem_iff_getElem?.1 hc
  rcases Password.isDigit_or_separator hp hi with hd | hs
  · exact (Stroke.not_mem_of_isDigit hd).1
  · exact (ht i hs c hi).2

theorem holding_take (ht : Typable p) (j : Nat) :
    Holding (start.typed (p.take j)) ((p.take j).filter Char.isDigit) := by
  have hgood := Password.good_of_mem_split hp
  have hcount : (Password.split p).length ≤ Password.blockCount :=
    Nat.le_of_eq (Password.length_split p)
  have hprefix : (p.take j).filter Char.isDigit <+: (Password.split p).flatten := by
    rw [← Password.filter_isDigit hp ht.between_digits]
    exact (List.take_prefix j p).filter _
  exact holding_start.afterText hgood hcount
    (fun c hc => ht.not_mem_erasers hp c (List.mem_of_mem_take hc)) hprefix

theorem stage_take_iff (ht : Typable p) {j : Nat} (hj : j ≤ 55) :
    (start.typed (p.take j)).stage = .allBlocksValid ↔ j = 55 := by
  rw [(holding_take hp ht j).complete_iff,
    Password.length_filter_take hp ht.between_digits hj]

theorem password?_whole (ht : Typable p) :
    (start.typed p).password? = some (Password.encode ns) := by
  obtain ⟨hlen, hns, hsplit⟩ := Password.shortValues_eq_ok_iff.1 hp
  have hall : p.take 55 = p := List.take_of_length_le (Nat.le_of_eq hlen)
  have hstage := (stage_take_iff hp ht (Nat.le_refl 55)).2 rfl
  have hholds := holding_take hp ht 55
  rw [hall] at hstage hholds
  rw [Password.filter_isDigit hp ht.between_digits] at hholds
  have hblocks := hholds.blocks_eq (Password.length_of_mem_split hlen) (Password.length_split p)
  rw [password?_eq_some_iff.2 ⟨hstage, rfl⟩, hblocks, hsplit, Password.encode]

end Machine

namespace Dialogue

theorem decides_whole (ht : Machine.Typable p)
    (ha : Password.Between (fun c => c ∉ Stroke.aborters) p)
    (rest : List Char) : Decides start (p ++ rest) 54 := by
  have hlen : p.length = 55 := (Password.shortValues_eq_ok_iff.1 hp).1
  have htake (j : Nat) (hj : j ≤ 55) : (p ++ rest).take j = p.take j :=
    List.take_append_of_le_length (by omega)
  refine ⟨by rw [List.length_append]; omega, fun j hj c hc => ⟨?_, ?_⟩, fun c _ => .inr ?_⟩
  · rw [List.getElem?_append_left (by omega)] at hc
    rcases Password.isDigit_or_separator hp hc with hd | hs
    · exact (Stroke.not_mem_of_isDigit hd).2
    · exact ha j hs c hc
  · rw [htake _ (by omega), Ne, Machine.stage_take_iff hp ht (by omega)]
    omega
  · rw [htake _ (Nat.le_refl 55)]
    exact (Machine.stage_take_iff hp ht (Nat.le_refl 55)).2 rfl

theorem run_whole (ht : Machine.Typable p) (ha : Password.Between (fun c => c ∉ Stroke.aborters) p)
    (prompt : List Char) {rest : List Char} {σ : Type} [Source σ] {s : σ} {fault : Option ReadError}
    (hs : Delivers s (p ++ rest) fault) :
    (run prompt s).result = .ok (Password.encode ns) ∧
      (run prompt s).source = (Source.close (afterReads s 55)).2 ∧
      ((Source.close (afterReads s 55)).1 = .ok () → (run prompt s).outcome = .ok (Password.encode ns)) := by
  have hlen : p.length = 55 := (Password.shortValues_eq_ok_iff.1 hp).1
  obtain ⟨d, hlaw⟩ := exists_lawful prompt hs
  obtain rfl : d = 54 := hlaw.decides.unique (decides_whole hp ht ha rest)
  have hresult : (run prompt s).result = .ok (Password.encode ns) := by
    refine hlaw.ending.eq_ok (hlaw.taking 54 (Nat.le_refl 54)) ?_
    rw [List.take_append_of_le_length (Nat.le_of_eq hlen.symm), List.take_of_length_le (Nat.le_of_eq hlen)]
    exact Machine.password?_whole hp ht
  exact ⟨hresult, hlaw.consumed, fun hc => (hlaw.closed hc).trans hresult⟩

/-- A terminal on which a typable password waits has not lost its other end when it is closed. -/
theorem run_whole_terminal (ht : Machine.Typable p)
    (ha : Password.Between (fun c => c ∉ Stroke.aborters) p) (prompt : List Char) {rest : List Char}
    {α : Type} {t : Terminal α} {bytes : List UInt8} (h : t.Offers bytes)
    (hbytes : Terminal.latin bytes = p ++ rest) :
    (run prompt t).outcome = .ok (Password.encode ns) ∧
      (run prompt t).source.device.contents = bytes.drop 55 := by
  have hlen : p.length = 55 := (Password.shortValues_eq_ok_iff.1 hp).1
  have hlong : ¬ bytes.length < 55 := by
    have hlength := congrArg List.length hbytes
    simp only [Terminal.latin, List.length_map, List.length_append] at hlength
    omega
  obtain ⟨-, hleft, hanswer⟩ := h.close_after 55
  obtain ⟨-, hsource, houtcome⟩ := run_whole hp ht ha prompt (hbytes ▸ h.delivers)
  exact ⟨houtcome (hanswer.trans (if_neg fun hshort => hlong hshort.2)), hsource ▸ hleft⟩

end Dialogue

end Accepted

/-- A derivation looks at the short values of a password alone. -/
theorem derive_congr {σ ε : Type} {p q : List Char}
    (h : Password.shortValues q = Password.shortValues p) (hash : Hasher σ ε) (n : Nat)
    (threshold : Int) (salt : Ref) (m : Memory) (s : σ) :
    derive hash n threshold q salt m s = derive hash n threshold p salt m s := by
  unfold derive
  rw [h]

/-- **A password given whole is the same password typed.** Let a text be accepted, with nothing between its
blocks that is a digit or erases. Typed from the start, every character of it is taken, none is rejected, and
the password is complete with the last character and not before. It is then written with hyphens, has the same
digits, and so the same short values and the same derivations. A form that is shown with the text as its
password types it, and asks for the key of what was typed. If also nothing between the blocks aborts, a dialogue
on any source that begins with the text ends with that password, and reads no further than the text. -/
theorem typed_eq_whole {p : List Char} {ns : List Nat} (hp : Password.shortValues p = .ok ns)
    (ht : Machine.Typable p) :
    let m (j : Nat) := start.typed (p.take j)
    ∃ q, (∀ j c, p[j]? = some c → (m j).feed [c] = .ok (m (j + 1)) ∧ (m (j + 1)).lastError = none ∧
        ((m (j + 1)).stage = .allBlocksValid ↔ j + 1 = 55)) ∧
      (start.typed p).password? = some q ∧
      (q.length = 55 ∧ Password.HasHyphens q ∧
        ∀ i < 55, i ∉ Password.separatorPlaces → q[i]? = p[i]?) ∧
      Password.shortValues q = .ok ns ∧
      (∀ (σ ε : Type) (hash : Hasher σ ε) n threshold salt memory s,
        derive hash n threshold q salt memory s = derive hash n threshold p salt memory s) ∧
      (∀ f : Form, f.machine = start → f.settings.password = some p →
        ∃ f', f.mount = .ok f' ∧ f'.machine = start.typed p ∧
          f'.jobs = f.jobs ++ [⟨q, f.settings.salt⟩]) ∧
      (Password.Between (fun c => c ∉ Stroke.aborters) p →
        ∀ (prompt rest : List Char),
          (∀ (σ : Type) [Source σ] (s : σ) fault, Delivers s (p ++ rest) fault →
            (Dialogue.run prompt s).result = .ok q ∧
              (Dialogue.run prompt s).source = (Source.close (afterReads s 55)).2 ∧
              ((Source.close (afterReads s 55)).1 = .ok () → (Dialogue.run prompt s).outcome = .ok q)) ∧
          (Dialogue.run prompt (⟨p ++ rest, false⟩ : Script)).outcome = .ok q ∧
          (Dialogue.run prompt (⟨p ++ rest, false⟩ : Script)).source = ⟨rest, true⟩ ∧
          ∀ (α : Type) (t : Terminal α) bytes, t.Offers bytes → Terminal.latin bytes = p ++ rest →
            (Dialogue.run prompt t).outcome = .ok q ∧
              (Dialogue.run prompt t).source.device.contents = bytes.drop 55) := by
  intro m
  obtain ⟨hlen, hns, -⟩ := Password.shortValues_eq_ok_iff.1 hp
  have hlen : p.length = 55 := hlen
  have hn := Password.length_of_shortValues hp
  have hpassword := Machine.password?_whole hp ht
  have hvalues := Password.shortValues_encode hn hns
  refine ⟨Password.encode ns, fun j c hc => ?_, hpassword,
    ⟨Password.length_encode hn, Password.hasHyphens_encode hn,
      Password.getElem?_encode_of_shortValues hp⟩,
    hvalues, fun σ ε => derive_congr (hvalues.trans hp.symm), fun f hf hset => ?_,
    fun ha prompt rest => ?_⟩
  · have hj : j < 55 := hlen ▸ (List.getElem?_eq_some_iff.1 hc).1
    have hd : (m j).done = false := by
      rw [(Machine.holding_take hp ht j).done_eq_false_iff,
        Ne, Password.length_filter_take hp ht.between_digits (Nat.le_of_lt hj)]
      omega
    have hnext : m (j + 1) = (m j).stroke c := Machine.typed_take_succ start hc
    exact ⟨hnext ▸ Machine.feed_eq hd c, (Machine.holding_take hp ht (j + 1)).kept,
      Machine.stage_take_iff hp ht hj⟩
  · have hd : f.machine.done = false := by rw [hf]; rfl
    have htyped : f.settings.password.getD [] = p := by rw [hset, Option.getD_some]
    obtain ⟨f', hmount, hm, hjobs⟩ := Form.mount_machine hd
    rw [hf, htyped] at hm hjobs
    rw [Form.requests, hpassword] at hjobs
    exact ⟨f', hmount, hm, hjobs⟩
  · obtain ⟨-, hsource, houtcome⟩ := Dialogue.run_whole hp ht ha prompt (Script.delivers (p ++ rest))
    rw [Script.close_after, List.drop_left' hlen] at hsource houtcome
    exact ⟨fun σ _ s fault => Dialogue.run_whole hp ht ha prompt, houtcome rfl, hsource,
      fun α t bytes => Dialogue.run_whole_terminal hp ht ha prompt⟩

/-- Seven different characters between the blocks, in a text with more behind it, and in the settings of a
form. -/
theorem typed_eq_whole_separated :
    let p := "135795 001100x597531\t000077é720885_011000\r046662\x00344707".toList
    let q := "135795-001100-597531-000077-720885-011000-046662-344707".toList
    let settings : Settings := ⟨List.replicate 16 0, some p, 20, false⟩
    let f := Form.new settings 1 .working fun _ => .ok ()
    Machine.Typable p ∧ Password.shortValues p = Password.shortValues q ∧
      (∃ f', f.mount = .ok f' ∧ f'.jobs = [⟨q, List.replicate 16 0⟩]) ∧
      (Dialogue.run [] (⟨p ++ ['9'], false⟩ : Script)).outcome = .ok q ∧
      (Dialogue.run [] (⟨p ++ ['9'], false⟩ : Script)).source = ⟨['9'], true⟩ := by
  intro p q settings f
  have ht : Machine.Typable p := by decide
  have hp : Password.shortValues p = .ok [12345, 100, 54321, 7, 65535, 1000, 4242, 31337] := by
    decide +kernel
  obtain ⟨q', -, hq', -, hvalues, -, hform, hrun⟩ := typed_eq_whole hp ht
  obtain rfl : q = q' := by
    refine Option.some.inj (Eq.trans ?_ hq')
    decide +kernel
  obtain ⟨f', hmount, -, hjobs⟩ := hform f rfl rfl
  obtain ⟨-, houtcome, hsource, -⟩ := hrun (by decide) [] ['9']
  exact ⟨ht, hp.trans hvalues.symm, ⟨f', hmount, hjobs⟩, houtcome, hsource⟩

end KeyRecovery

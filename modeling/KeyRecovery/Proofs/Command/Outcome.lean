import KeyRecovery.Proofs.Command.Refusal
import KeyRecovery.Proofs.Entry.Dialogue
import KeyRecovery.Proofs.Key.Blank
import KeyRecovery.Proofs.Key.Reference
import KeyRecovery.Proofs.Text.Hex

/-!
# How a run ends

A run that was given a password, or reads a text for one:

* `Entered given text result` : what comes of a password given up front, or else of the one typed in a text;
* `KeyOf rounds password salt k` : `k` is the key that a derivation makes;
* `Refused`, `Delivered` : the reports of a run without a key, and of one with a key;
* `ask_entered`, `conclude_accepted`, `conclude_rejected` : asking, and the two ends;
* `run_outcome` : a run ends in one of the two ways, and its key is wiped.
-/

namespace KeyRecovery

open Dialogue (Decides Ending)
open Machine (start)

/-! ## The key -/

def KeyOf (rounds : Nat) (password : List Char) (salt k : List UInt8) : Prop :=
  ∀ threshold (r : Ref) (m : Memory), m.Holds r.id → m.read r = salt →
    (derive Sha256.hasher rounds threshold password r m ()).outcome = .ok k

theorem exists_keyOf {password : List Char} {ns : List Nat} {salt : List UInt8}
    (hp : Password.shortValues password = .ok ns) (hs : salt.length = 16) (rounds : Nat) :
    ∃ k, KeyOf rounds password salt k ∧ k.length = 32 := by
  refine ⟨_, fun threshold r m hr hm => ?_, Chain.length_link Sha256.digest
    (Sha256.digest (Password.digitBytes password)).bytes salt rounds⟩
  rw [outcome_derive (fun _ _ => rfl) hr, hm]
  exact Key.reference_eq_ok_iff.2 ⟨⟨ns, hp⟩, hs, rfl⟩

namespace Command

/-! ## The password -/

/-- The text that standard input holds. -/
def Input.text? : Input → Option (List Char)
  | .text s => some s
  | .device d => (Text.Utf8.decode d.contents).toOption
  | .interrupted | .broken => none

/-- The failure of an entry that ends too early. -/
def earlyEnd (place : Nat) : Failure := ⟨.inputStream, Dialogue.endedMessage place, none, none⟩

/-- What comes of a password given up front or, if there is none or an empty one, of the one typed in a text. -/
inductive Entered (given : Option (List Char)) (text : List Char) : Except Failure (List Char) → Prop
  | accepted {p : List Char} {ns : List Nat} (hg : given = some p) (hne : p ≠ [])
      (h : Password.shortValues p = .ok ns) : Entered given text (.ok p)
  | rejected {p : List Char} {e : PasswordError} (hg : given = some p) (hne : p ≠ [])
      (h : Password.shortValues p = .error e) : Entered given text (.error e.failure)
  | completed {d : Nat} {p : List Char} (hg : given = none ∨ given = some []) (hd : Decides start text d)
      (hp : (start.typed (text.take (d + 1))).password? = some p) : Entered given text (.ok p)
  | ended {d : Nat} (hg : given = none ∨ given = some []) (hd : Decides start text d)
      (hp : (start.typed (text.take (d + 1))).password? = none) :
      Entered given text (.error (earlyEnd (start.typed (text.take d)).place))

section

variable {given : Option (List Char)} {text p : List Char} {result : Except Failure (List Char)}

theorem Entered.of_given (h : Entered given text result) (hg : given = some p) (hne : p ≠ []) :
    (∃ ns, Password.shortValues p = .ok ns ∧ result = .ok p) ∨
      ∃ e, Password.shortValues p = .error e ∧ result = .error e.failure := by
  subst hg
  cases h with
  | accepted hg _ h =>
    obtain rfl := Option.some.inj hg
    exact .inl ⟨_, h, rfl⟩
  | rejected hg _ h =>
    obtain rfl := Option.some.inj hg
    exact .inr ⟨_, h, rfl⟩
  | completed hg | ended hg => exact absurd (Option.some.inj (hg.resolve_left nofun)) hne

theorem Entered.eq_of_completed (h : Entered given text result) (hg : given = none) {d : Nat}
    (hd : Decides start text d) (hp : (start.typed (text.take (d + 1))).password? = some p) :
    result = .ok p := by
  subst hg
  cases h with
  | accepted hg | rejected hg => cases hg
  | completed _ hd' hp' =>
    obtain rfl := hd.unique hd'
    rw [Option.some.inj (hp'.symm.trans hp)]
  | ended _ hd' hp' =>
    obtain rfl := hd.unique hd'
    cases hp'.symm.trans hp

end

variable {settings : Settings} {fromStdin : Bool} {input : Input} {text : List Char}

theorem ask_given {p : List Char} (h : settings.password = some p) (hne : p ≠ []) :
    ask settings fromStdin input = (.password p, []) := by
  unfold ask
  rw [h]
  cases p with
  | nil => exact absurd rfl hne
  | cons c rest => rfl

theorem ask_stdin (hs : settings.password = none ∨ settings.password = some [])
    (ht : input.text? = some text) : ask settings true input = askOn (Script.ofTexts [text]) := by
  have hread : ask settings true input = askInput true input := by
    unfold ask
    rcases hs with hs | hs <;> rw [hs]
  rw [hread]
  cases input with
  | text s =>
    cases ht
    rfl
  | interrupted => cases ht
  | broken => cases ht
  | device d =>
    simp only [Input.text?] at ht
    cases hd : Text.Utf8.decode d.contents with
    | error e =>
      rw [hd] at ht
      cases ht
    | ok s =>
      rw [hd] at ht
      cases ht
      simp only [askInput, hd]

/-- A text that is read as a whole gives a password that is accepted, or ends too early. -/
theorem askOn_text (text : List Char) :
    (∃ d p, Decides start text d ∧ (start.typed (text.take (d + 1))).password? = some p ∧
      (askOn (Script.ofTexts [text])).1 = .password p ∧ ∃ ns, Password.shortValues p = .ok ns) ∨
    ∃ d, Decides start text d ∧ (start.typed (text.take (d + 1))).password? = none ∧
      (askOn (Script.ofTexts [text])).1 =
        .failed (Dialogue.endedMessage (start.typed (text.take d)).place) := by
  have hscript : Script.ofTexts [text] = ⟨text, false⟩ := by simp [Script.ofTexts]
  obtain ⟨d, hlaw⟩ := Dialogue.exists_lawful Dialogue.standardPrompt (Script.delivers text)
  have htaking := hlaw.taking d (Nat.le_refl d)
  have houtcome := hlaw.closed (congrArg Prod.fst (Script.close_after text (d + 1)))
  unfold askOn
  simp only [hscript, houtcome]
  cases hp : (start.typed (text.take (d + 1))).password? with
  | some p =>
    refine .inl ⟨d, p, hlaw.decides, hp, ?_, ?_⟩
    · rw [hlaw.ending.eq_ok htaking hp]
      rfl
    · have hsound := Machine.sound_start.afterTyping (text.take (d + 1))
      obtain ⟨hv, rfl⟩ := Machine.password?_eq_some_iff.1 hp
      obtain ⟨ns, hns, -⟩ := hsound.shortValues_join (hsound.valid hv)
      exact ⟨ns, hns⟩
  | none =>
    refine .inr ⟨d, hlaw.decides, hp, ?_⟩
    have hending := hlaw.ending
    generalize (Dialogue.run Dialogue.standardPrompt (⟨text, false⟩ : Script)).result = result at hending
    cases hending with
    | complete c p hc ha hp' =>
      rw [hp] at hp'
      cases hp'
    | abort c hc ha => rfl
    | ended hd hf => rfl
    | failed e hd hf => cases hf

/-! ## Handing a key out -/

theorem put_dump {clipboard : Clipboard} {k : List UInt8} (hk : k.length = 32) :
    clipboard.put (Hex.dump [] k) = if clipboard.refusesText then .error ⟨⟩
      else .ok { clipboard with copies := clipboard.copies ++ [Hex.dump [] k] } := by
  have hne : (Hex.dump [] k).isEmpty = false := by
    rw [List.isEmpty_eq_false_iff, ← List.length_pos_iff, Hex.length_dump, hk]
    decide
  simp only [Clipboard.put, hne, Bool.false_eq_true, if_false]

theorem handOut_out (settings : Settings) (stamp : String) (clipboard : Clipboard) (k : List UInt8) :
    (handOut settings stamp clipboard k).out = String.ofList (Key.text k) ++ "\n" := by
  unfold handOut
  split
  · split <;> rfl
  · rfl

theorem handOut_of_refuses {clipboard : Clipboard} {k : List UInt8} (hk : k.length = 32)
    (h : clipboard.refusesText = true) (settings : Settings) (stamp : String) :
    (handOut settings stamp clipboard k).clipboard = clipboard ∧
      (handOut settings stamp clipboard k).failure = if settings.copy then some ⟨⟩ else none := by
  unfold handOut
  rw [put_dump hk, if_pos h]
  split <;> simp [*]

theorem handOut_of_takes {clipboard : Clipboard} {k : List UInt8} (hk : k.length = 32)
    (h : clipboard.refusesText = false) (settings : Settings) (stamp : String) :
    (handOut settings stamp clipboard k).clipboard.copies =
        clipboard.copies ++ (if settings.copy then [Hex.dump [] k] else []) ∧
      (handOut settings stamp clipboard k).failure = none := by
  unfold handOut
  rw [put_dump hk, h]
  split <;> simp [*]

section

variable {w : World} {password : List Char}

/-! ## The derivation of a run -/

/-- The derivation of a run. The salt lies in a frozen buffer. -/
def derivation (settings : Settings) (w : World) (password : List Char) : Derivation Unit Empty :=
  derive Sha256.hasher w.rounds settings.level password (.buffer 0)
    (Memory.empty.allocAs true settings.salt).2 ()

/-- The key of a run as it is handed out. -/
def lending (settings : Settings) (w : World) (password : List Char) : Lending Empty Handed :=
  deriveAndWipe Sha256.hasher w.rounds settings.level password (.buffer 0)
    (Memory.empty.allocAs true settings.salt).2 ()
    fun key m => (handOut settings w.stamp w.clipboard (m.bytes key), m)

theorem blank_lending (settings : Settings) (w : World) (password : List Char) :
    (lending settings w password).memory.Blank fun _ => False :=
  blank_deriveAndWipe _ _ _ _ _ _ ((Memory.Blank.empty _).frozen settings.salt) _ fun _ _ => rfl

theorem lending_of_error {e : DeriveError Empty} (h : (derivation settings w password).result = .error e) :
    lending settings w password = ⟨(derivation settings w password).memory, none,
      (derivation settings w password).log, .error e⟩ :=
  deriveAndWipe_of_error _ _ _ _ _ _ _ _ h

theorem lending_of_ok {key : BufferId} (h : (derivation settings w password).result = .ok key) :
    lending settings w password = ⟨(derivation settings w password).memory.zero key, some key,
      (derivation settings w password).log, .ok (handOut settings w.stamp w.clipboard
        ((derivation settings w password).memory.bytes key))⟩ :=
  deriveAndWipe_of_ok _ _ _ _ _ _ _ _ h

theorem outcome_derivation {k : List UInt8} (h : KeyOf w.rounds password settings.salt k) :
    (derivation settings w password).outcome = .ok k :=
  h settings.level (.buffer 0) _ (Memory.holds_allocAs true _ _) rfl

/-! ## The two ends -/

theorem isA_of_rejected (e : PasswordError) :
    e.failure.kind.isA .invalidPassword = true ∧ e.failure.kind.isA .recoveryKey = true := by
  cases e with
  | length n => exact ⟨rfl, rfl⟩
  | block e =>
    simp only [PasswordError.failure, BlockError.failure, BlockError.kind]
    cases e.fault <;> exact ⟨rfl, rfl⟩

/-- The report of a run that a failure ends: it hands out nothing, and says why on standard error. -/
structure Refused (settings : Settings) (w : World) (f : Failure) (r : Report) : Prop where
  outcome : r.outcome = .returned 1
  out : r.out = ""
  clipboard : r.clipboard = w.clipboard
  key : r.key = none
  blank : r.memory.Blank fun _ => False
  err : ∃ said, r.err = said ++ lines w.stamp settings.level [failureRecord f.message]

/-- The report of a run that hands out key `k`: on standard output, and on the clipboard if it is to be
copied and the clipboard takes it. The buffer of the key is wiped in both cases. -/
structure Delivered (settings : Settings) (w : World) (k : List UInt8) (r : Report) : Prop where
  out : r.out = String.ofList (Key.text k) ++ "\n"
  taken : w.clipboard.refusesText = false → r.outcome = .returned 0 ∧
    r.clipboard.copies = w.clipboard.copies ++ if settings.copy then [Hex.dump [] k] else []
  refused : w.clipboard.refusesText = true → r.clipboard = w.clipboard ∧
    r.outcome = if settings.copy then .crashed (.clipboard ⟨⟩) else .returned 0
  wiped : ∃ key, r.key = some key ∧ r.memory.bytes key = List.replicate 32 0
  blank : r.memory.Blank fun _ => False

theorem conclude_of_error {e : PasswordError}
    (h : (lending settings w password).result = .error (.password e)) (said : String) :
    conclude settings w said (.password password) =
      ⟨.returned 1, "", said ++ lines w.stamp settings.level (lending settings w password).log ++
          lines w.stamp settings.level [failureRecord e.failure.message],
        w.clipboard, [], settings.level, (lending settings w password).memory,
        (lending settings w password).key⟩ := by
  unfold conclude
  unfold lending at *
  simp only [Memory.allocAs, Memory.empty, List.length_nil, List.nil_append] at *
  simp only [h]

theorem conclude_of_ok {handed : Handed} (h : (lending settings w password).result = .ok handed)
    (said : String) :
    conclude settings w said (.password password) =
      ⟨handed.failure.elim (.returned 0) fun e => .crashed (.clipboard e), handed.out,
        said ++ lines w.stamp settings.level (lending settings w password).log ++ handed.err,
        handed.clipboard, [], settings.level, (lending settings w password).memory,
        (lending settings w password).key⟩ := by
  unfold conclude
  unfold lending at *
  simp only [Memory.allocAs, Memory.empty, List.length_nil, List.nil_append] at *
  simp only [h]
  cases handed.failure <;> rfl

theorem conclude_rejected {e : PasswordError} (h : Password.shortValues password = .error e)
    (said : String) : Refused settings w e.failure (conclude settings w said (.password password)) := by
  have hd : (derivation settings w password).result = .error (.password e) := by
    rw [derivation, derive_of_rejected _ _ _ _ _ _ h]
  have hl := lending_of_error hd
  rw [conclude_of_error (congrArg Lending.result hl)]
  exact ⟨rfl, rfl, rfl, congrArg Lending.key hl, blank_lending settings w password, _, rfl⟩

theorem conclude_accepted {k : List UInt8} (h : KeyOf w.rounds password settings.salt k)
    (hk : k.length = 32) (said : String) :
    Delivered settings w k (conclude settings w said (.password password)) := by
  obtain ⟨key, hkey, hbytes⟩ := Derivation.outcome_eq_ok_iff.1 (outcome_derivation h)
  have hl := lending_of_ok hkey
  rw [hbytes] at hl
  rw [conclude_of_ok (congrArg Lending.result hl)]
  refine ⟨handOut_out .., fun ht => ?_, fun ht => ?_, ⟨key, congrArg Lending.key hl, ?_⟩,
    blank_lending settings w password⟩
  · obtain ⟨hcopies, hfailure⟩ := handOut_of_takes hk ht settings w.stamp
    simp only [hfailure]
    exact ⟨rfl, hcopies⟩
  · obtain ⟨hcopies, hfailure⟩ := handOut_of_refuses hk ht settings w.stamp
    simp only [hfailure]
    refine ⟨hcopies, ?_⟩
    cases settings.copy <;> rfl
  · rw [hl, Memory.bytes_zero, if_pos rfl, hbytes, hk]

end

/-! ## A run -/

theorem ask_entered {input : Input} (hsource : (∃ p, settings.password = some p ∧ p ≠ []) ∨
    fromStdin = true ∧ input.text? = some text) :
    (∃ p, Entered settings.password text (.ok p) ∧ (ask settings fromStdin input).1 = .password p ∧
      ∃ ns, Password.shortValues p = .ok ns) ∨
    (∃ e p, Entered settings.password text (.error e.failure) ∧
      (ask settings fromStdin input).1 = .password p ∧ (settings.password = some p ∧ p ≠ []) ∧
      Password.shortValues p = .error e) ∨
    ∃ place, Entered settings.password text (.error (earlyEnd place)) ∧
      (settings.password = none ∨ settings.password = some []) ∧
      (ask settings fromStdin input).1 = .failed (Dialogue.endedMessage place) := by
  by_cases hgiven : ∃ p, settings.password = some p ∧ p ≠ []
  · obtain ⟨p, hp, hne⟩ := hgiven
    rw [ask_given hp hne]
    cases hv : Password.shortValues p with
    | ok ns => exact .inl ⟨p, .accepted hp hne hv, rfl, ns, hv⟩
    | error e => exact .inr (.inl ⟨e, p, .rejected hp hne hv, rfl, ⟨hp, hne⟩, hv⟩)
  · obtain ⟨rfl, ht⟩ := hsource.resolve_left hgiven
    have hnone : settings.password = none ∨ settings.password = some [] := by
      cases hp : settings.password with
      | none => exact .inl rfl
      | some p => exact .inr (congrArg some (not_not.1 fun hne => hgiven ⟨p, hp, hne⟩))
    rw [ask_stdin hnone ht]
    obtain ⟨d, p, hd, hp, ha, hns⟩ | ⟨d, hd, hp, ha⟩ := askOn_text text
    · exact .inl ⟨p, .completed hnone hd hp, ha, hns⟩
    · exact .inr (.inr ⟨_, .ended hnone hd hp, hnone, ha⟩)

/-- **How a run ends.** Settings that were resolved, and a password given up front that is not empty, or else
a text to read one from: either a password comes of it, and the run hands out its key, on standard output and,
if that is asked for, on the clipboard, and returns zero, unless the clipboard refuses; or a failure comes of
it, about a password that is rejected or a text that ends too early, and the run returns one and hands out
nothing. In both cases nothing of the key is left. A command line with such settings, and no form, runs so. -/
theorem run_outcome {request : Request} {environment : Environment} {files : FileSystem}
    (hset : Settings.resolve request environment files = .ok settings) (w : World)
    (fromStdin : Bool) (text : List Char)
    (hsource : (∃ p, settings.password = some p ∧ p ≠ []) ∨
      fromStdin = true ∧ w.input.text? = some text) :
    let r := run settings fromStdin w
    (∃ result, Entered settings.password text result ∧
      (∀ p, result = .ok p → ∃ k, KeyOf w.rounds p settings.salt k ∧
        ((Hex.dump [] k).length = 64 ∧ ∀ c ∈ Hex.dump [] k, c ∈ Hex.lowercase) ∧
        Delivered settings w k r) ∧
      ∀ f, result = .error f → f.kind.isA .recoveryKey = true ∧
        (∀ p, settings.password = some p → p ≠ [] → f.kind.isA .invalidPassword = true) ∧
        (settings.password = none ∨ settings.password = some [] → f.kind = .inputStream) ∧
        Refused settings w f r) ∧
    ∀ words options, Options.parse words = .ok options →
      Settings.resolve options.request w.environment w.files = .ok settings →
      options.tui = false → options.stdin = fromStdin → execute words w = r := by
  intro r
  refine ⟨?_, fun words options hp hs htui hstdin => ?_⟩
  · have hr : r = conclude settings w
        (transcript w.stamp settings.level (ask settings fromStdin w.input).2)
        (ask settings fromStdin w.input).1 := rfl
    rw [hr]
    obtain ⟨p, he, ha, ns, hns⟩ | ⟨e, p, he, ha, ⟨hg, hne⟩, hv⟩ | ⟨place, he, hg, ha⟩ := ask_entered hsource
    · obtain ⟨k, hk, hlen⟩ := exists_keyOf hns (Settings.length_salt hset) w.rounds
      refine ⟨_, he, fun p' hp' => ?_, nofun⟩
      cases hp'
      rw [ha]
      exact ⟨k, hk, ⟨by rw [Hex.length_dump, hlen], fun c => Hex.mem_lowercase_of_dump⟩,
        conclude_accepted hk hlen _⟩
    · refine ⟨_, he, nofun, fun f hf => ?_⟩
      cases hf
      rw [ha]
      refine ⟨(isA_of_rejected e).2, fun _ _ _ => (isA_of_rejected e).1, fun hg' => ?_,
        conclude_rejected hv _⟩
      rw [hg] at hg'
      exact absurd (Option.some.inj (hg'.resolve_left nofun)) hne
    · refine ⟨_, he, nofun, fun f hf => ?_⟩
      cases hf
      rw [ha]
      refine ⟨rfl, fun p hp hne => ?_, fun _ => rfl,
        ⟨rfl, rfl, rfl, rfl, Memory.Blank.empty _, _, rfl⟩⟩
      rw [hp] at hg
      exact absurd (Option.some.inj (hg.resolve_left nofun)) hne
  · rw [execute_of_resolve_ok hp hs, htui, hstdin]
    rfl

/-- A password typed on standard input, one given up front with other characters between its blocks, and one
given up front that is rejected. All of them are to be copied. -/
theorem run_outcome_routes :
    let p := Password.encode [12345, 100, 54321, 7, 65535, 1000, 4242, 31337]
    let given := "135795 001100x597531_000077/720885+011000é046662=344707".toList
    let bad := "135795-001100-597531-000077-720885-011000-046662-344708".toList
    let salt := (List.range 16).map UInt8.ofNat
    let asked (words : List (List Char)) :=
      "--salt=000102030405060708090a0b0c0d0e0f".toList :: "--copy".toList :: words
    let w : World := ⟨fun _ => none, (⟨[], []⟩ : Folder).fileSystem, .text (p ++ ['\n']), .working, 1, ""⟩
    let yields (r : Report) (k : List UInt8) := r.outcome = .returned 0 ∧
      r.out = String.ofList (Key.text k) ++ "\n" ∧ r.clipboard.copies = [Hex.dump [] k]
    (∃ k, KeyOf 1 p salt k ∧ yields (execute (asked ["--stdin".toList]) w) k) ∧
    (∃ k, KeyOf 1 given salt k ∧ yields (execute (asked ["--password".toList, given]) w) k) ∧
    (execute (asked ["--password".toList, bad]) w).outcome = .returned 1 ∧
    (execute (asked ["--password".toList, bad]) w).out = "" ∧
    (execute (asked ["--password".toList, bad]) w).clipboard.copies = [] := by
  intro p given bad salt asked w yields
  let text : List Char := "000102030405060708090a0b0c0d0e0f".toList
  let options (q : Option (List Char)) : Options := ⟨some text, none, q, q.isNone, true, false, false⟩
  let settings (q : Option (List Char)) : Settings := ⟨salt, q, LogLevel.standard, true⟩
  have hresolve (q : Option (List Char)) :
      Settings.resolve (options q).request w.environment w.files = .ok (settings q) := by
    have hsalt : Settings.resolveSalt (options q).request w.environment w.files = .ok salt := by
      have hparse : Salt.parse text = .ok salt := by decide +kernel
      exact congrArg (Except.mapError SettingsError.salt) hparse
    unfold Settings.resolve
    rw [hsalt]
    cases q <;> rfl
  have hyields {r : Report} {k : List UInt8} {q : Option (List Char)}
      (h : Delivered (settings q) w k r) : yields r k :=
    ⟨(h.taken rfl).1, h.out, (h.taken rfl).2⟩
  refine ⟨?_, ?_, ?_⟩
  · have hd : Decides start (p ++ ['\n']) 54 := by decide +kernel
    have hp : (start.typed ((p ++ ['\n']).take (54 + 1))).password? = some p := by decide +kernel
    obtain ⟨⟨result, he, hok, -⟩, hexecute⟩ :=
      run_outcome (hresolve none) w true (p ++ ['\n']) (.inr ⟨rfl, rfl⟩)
    obtain ⟨k, hk, -, hdelivered⟩ := hok p (he.eq_of_completed rfl hd hp)
    rw [hexecute _ (options none) (by decide +kernel) (hresolve none) rfl rfl]
    exact ⟨k, hk, hyields hdelivered⟩
  · obtain ⟨⟨result, he, hok, -⟩, hexecute⟩ :=
      run_outcome (hresolve (some given)) w false [] (.inl ⟨given, rfl, by decide⟩)
    have hv : Password.shortValues given = .ok [12345, 100, 54321, 7, 65535, 1000, 4242, 31337] := by
      decide +kernel
    obtain ⟨-, -, hresult⟩ | ⟨e, hrejected, -⟩ := he.of_given rfl (by decide)
    · obtain ⟨k, hk, -, hdelivered⟩ := hok given hresult
      rw [hexecute _ (options (some given)) (by decide +kernel) (hresolve (some given)) rfl rfl]
      exact ⟨k, hk, hyields hdelivered⟩
    · cases hrejected.symm.trans hv
  · obtain ⟨⟨result, he, -, hfailed⟩, hexecute⟩ :=
      run_outcome (hresolve (some bad)) w false [] (.inl ⟨bad, rfl, by decide⟩)
    have hv : Password.shortValues bad = .error (.block ⟨.notMultiple, 8, "344708".toList⟩) := by
      decide +kernel
    obtain ⟨ns, haccepted, -⟩ | ⟨e, -, hresult⟩ := he.of_given rfl (by decide)
    · cases haccepted.symm.trans hv
    · obtain ⟨-, -, -, hrefused⟩ := hfailed e.failure hresult
      rw [hexecute _ (options (some bad)) (by decide +kernel) (hresolve (some bad)) rfl rfl]
      exact ⟨hrefused.outcome, hrefused.out, congrArg Clipboard.copies hrefused.clipboard⟩

end Command

end KeyRecovery

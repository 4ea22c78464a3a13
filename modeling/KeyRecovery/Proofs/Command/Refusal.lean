import KeyRecovery.Command.Run
import KeyRecovery.Proofs.Settings.Precedence
import Mathlib.Data.List.Basic

/-!
# Settings that cannot be resolved

* `Path.Homeless set known p` : path `p` starts at a home directory that nobody knows;
* `Path.expandHome_eq_noHome_iff` : it is these paths that cannot be expanded for want of a home;
* `Settings.Stranded r env fs` : request `r` asks for a salt file below such a home, or for one that there is
  no room for;
* `Settings.resolve_error_cases`, `isUsageError_iff` : what fails first fails the settings, and that is a
  usage error unless the request is stranded;
* `refused_iff_not_stranded` : how a run ends that has options and no settings.
-/

namespace KeyRecovery

namespace Path

variable {set : Option (List Char)} {known : Option (List Char) → Option (List Char)} {p : Path}

/-- A path that starts at a home directory which is not known, or is known by a `~` again. -/
def Homeless (set : Option (List Char)) (known : Option (List Char) → Option (List Char))
    (p : Path) : Prop :=
  p.root = [] ∧ ∃ user rest, p.parts = ('~' :: user) :: rest ∧ '\x00' ∉ user ∧
    ∀ h, home? set known user = some h → (dropSlashes h).head? = some '~'

theorem expandHome_of_root (h : p.root ≠ []) : p.expandHome set known = .ok p := by
  unfold expandHome
  rw [if_pos (by simp [h])]

theorem expandHome_tilde {user : List Char} {rest : List (List Char)} (hr : p.root = [])
    (hp : p.parts = ('~' :: user) :: rest) (h0 : '\x00' ∉ user) :
    p.expandHome set known = .error .noHome ↔
      ∀ h, home? set known user = some h → (dropSlashes h).head? = some '~' := by
  unfold expandHome
  rw [hr, hp]
  simp only [List.isEmpty_nil, Bool.not_true, Bool.false_eq_true, if_false, List.contains_eq_mem, h0,
    decide_false]
  cases home? set known user with
  | none => simp
  | some h =>
    simp only [Option.some.injEq, forall_eq']
    split
    · next hh => simp [hh]
    · next hh => simp [hh]

theorem expandHome_ne_noMemory : p.expandHome set known ≠ .error .noMemory := by
  unfold expandHome
  split
  · nofun
  · split
    · split
      · nofun
      · split
        · nofun
        · dsimp only
          split <;> nofun
    · nofun

theorem expandHome_eq_noHome_iff : p.expandHome set known = .error .noHome ↔ p.Homeless set known := by
  by_cases hr : p.root = []
  · constructor
    · intro h
      have hh := h
      unfold expandHome at h
      rw [hr] at h
      simp only [List.isEmpty_nil, Bool.not_true, Bool.false_eq_true, if_false] at h
      split at h
      · next user rest hp =>
        split at h
        · cases h
        · next h0 =>
          have h0 : '\x00' ∉ user := by simpa using h0
          exact ⟨hr, user, rest, hp, h0, (expandHome_tilde hr hp h0).1 hh⟩
      · cases h
    · rintro ⟨-, user, rest, hp, h0, hh⟩
      exact (expandHome_tilde hr hp h0).2 hh
  · rw [expandHome_of_root hr]
    exact ⟨nofun, fun h => absurd h.1 hr⟩

end Path

/-! ## Settings -/

namespace Settings

variable {r : Request} {env : Environment} {fs : FileSystem} {e : SettingsError}

/-- A request for a salt file below a home directory that is not known, or for one that holds more than there is
room for. -/
def Stranded (r : Request) (env : Environment) (fs : FileSystem) : Prop :=
  ∃ name, r.saltFile = some name ∧ ((Path.parse name).Homeless (env homeVariable) fs.home ∨
    ∃ path, (Path.parse name).expandHome (env homeVariable) fs.home = .ok path ∧
      fs.read path = .error .noMemory)

/-- A failure that nobody expects. -/
def Unexpected (e : SettingsError) : Prop := e = .file .noHome ∨ e = .file .noMemory

theorem not_unexpected {e' : FileError} (h : e' ≠ .noHome) (h' : e' ≠ .noMemory) :
    ¬ Unexpected (.file e') := by
  rintro (heq | heq)
  · exact h (SettingsError.file.inj heq)
  · exact h' (SettingsError.file.inj heq)

theorem readSaltFile_of_path {name : List Char} {path : Path}
    (h : (Path.parse name).expandHome (env homeVariable) fs.home = .ok path) :
    readSaltFile env fs name = ((fs.read path).mapError .file >>= fun contents =>
      (Salt.ofFile contents).mapError .salt) := by
  unfold readSaltFile
  rw [h]
  rfl

theorem resolveSalt_of_stranded (h : Stranded r env fs) :
    ∃ e, Unexpected e ∧ resolveSalt r env fs = .error e := by
  obtain ⟨name, hname, hh | ⟨path, hpath, hread⟩⟩ := h
  · refine ⟨_, .inl rfl, ?_⟩
    rw [resolveSalt_eq_readSaltFile hname, readSaltFile, Path.expandHome_eq_noHome_iff.2 hh]
    rfl
  · refine ⟨_, .inr rfl, ?_⟩
    rw [resolveSalt_eq_readSaltFile hname, readSaltFile_of_path hpath, hread]
    rfl

/-- A salt file fails in no way that nobody expects, unless the request for it is stranded. -/
theorem readSaltFile_of_not_stranded {name : List Char} (hname : r.saltFile = some name)
    (h : ¬ Stranded r env fs) (he : readSaltFile env fs name = .error e) : ¬ Unexpected e := by
  cases hp : (Path.parse name).expandHome (env homeVariable) fs.home with
  | error e' =>
    have heq : e = .file e' := by
      unfold readSaltFile at he
      rw [hp] at he
      exact (Except.error.inj he).symm
    rw [heq]
    refine not_unexpected (fun hn => h ⟨name, hname, .inl ?_⟩) fun hn => ?_
    · exact Path.expandHome_eq_noHome_iff.1 (hn ▸ hp)
    · exact Path.expandHome_ne_noMemory (hn ▸ hp)
  | ok path =>
    rw [readSaltFile_of_path hp] at he
    cases hr : fs.read path with
    | error e' =>
      have heq : e = .file e' := by
        rw [hr] at he
        exact (Except.error.inj he).symm
      rw [heq]
      exact not_unexpected (fun hn => fs.read_ne_noHome path (hn ▸ hr))
        fun hn => h ⟨name, hname, .inr ⟨path, hp, hn ▸ hr⟩⟩
    | ok contents =>
      rw [hr] at he
      obtain ⟨e', -, rfl⟩ := Memory.exists_of_mapError_error he
      exact fun hu => hu.elim nofun nofun

theorem resolveSalt_of_not_stranded (h : ¬ Stranded r env fs) (he : resolveSalt r env fs = .error e) :
    ¬ Unexpected e := by
  unfold resolveSalt at he
  split at he
  · next name hname => exact readSaltFile_of_not_stranded hname h he
  · split at he
    · cases he
      exact fun hu => hu.elim nofun nofun
    · cases he
      exact fun hu => hu.elim nofun nofun
    · obtain ⟨e', -, rfl⟩ := Memory.exists_of_mapError_error he
      exact fun hu => hu.elim nofun nofun

theorem isLevel_of_resolveLevel (h : resolveLevel r env = .error e) : ∃ l, e = .level l := by
  unfold resolveLevel at h
  split at h
  · cases h
  · split at h
    · obtain ⟨l, -, rfl⟩ := Memory.exists_of_mapError_error h
      exact ⟨l, rfl⟩
    · cases h

/-- What fails first fails the settings: the salt, and then the log level. -/
theorem resolve_error_cases (h : resolve r env fs = .error e) :
    resolveSalt r env fs = .error e ∨ resolveLevel r env = .error e := by
  rcases Memory.error_cases_of_bind h with h | ⟨salt, -, h⟩
  · exact .inl h
  · rcases Memory.error_cases_of_bind h with h | ⟨level, -, h⟩
    · exact .inr h
    · cases h

end Settings

/-! ## The command -/

namespace Command

open Settings (Stranded)

theorem isUsageError_eq_false_iff {e : SettingsError} :
    isUsageError e = false ↔ Settings.Unexpected e := by
  unfold isUsageError Settings.Unexpected
  split
  · simp
  · simp
  · next h₁ h₂ => simpa using ⟨h₁, h₂⟩

theorem isUsageError_iff {r : Request} {env : Environment} {fs : FileSystem} {e : SettingsError}
    (h : Settings.resolve r env fs = .error e) : isUsageError e = true ↔ ¬ Stranded r env fs := by
  by_cases hs : Stranded r env fs
  · obtain ⟨e', hu, hr⟩ := Settings.resolveSalt_of_stranded hs
    obtain rfl : e = e' := Except.error.inj (h.symm.trans (Settings.resolve_of_resolveSalt_error hr))
    simp [isUsageError_eq_false_iff.2 hu, hs]
  · have he : isUsageError e = true := by
      refine Bool.not_eq_false _ |>.mp fun he => ?_
      have he := isUsageError_eq_false_iff.1 he
      rcases Settings.resolve_error_cases h with hr | hr
      · exact Settings.resolveSalt_of_not_stranded hs hr he
      · obtain ⟨l, rfl⟩ := Settings.isLevel_of_resolveLevel hr
        exact he.elim nofun nofun
    simp [he, hs]

variable {words : List (List Char)} {w : World} {options : Options}

/-- The report of a run that ends in front of its work: it says `err`, and nothing else was done. -/
def idle (w : World) (outcome : Outcome) (err : String) : Report :=
  ⟨outcome, "", err, w.clipboard, [], Log.defaultThreshold, .empty, none⟩

theorem execute_of_resolve_error {e : SettingsError} (hp : Options.parse words = .ok options)
    (h : Settings.resolve options.request w.environment w.files = .error e) :
    execute words w =
      if isUsageError e then idle w (.exited 2) (Options.refusal e.message)
      else idle w (.crashed (.settings e)) "" := by
  have hprepare : prepare words w = .error
      (if isUsageError e then idle w (.exited 2) (Options.refusal e.message)
        else idle w (.crashed (.settings e)) "") := by
    unfold prepare
    simp only [hp, h]
    split <;> rfl
  unfold execute
  rw [hprepare]

theorem execute_of_resolve_ok {settings : Settings} (hp : Options.parse words = .ok options)
    (h : Settings.resolve options.request w.environment w.files = .ok settings) :
    execute words w =
      if options.tui then
        ⟨.returned 0, "", "", w.clipboard, [settings], settings.level, .empty, none⟩
      else run settings options.stdin w := by
  have hprepare : prepare words w = .ok (options, settings) := by
    unfold prepare
    simp only [hp, h]
  unfold execute
  rw [hprepare]

/-- A run that has its settings ends in no exit. -/
theorem outcome_run_ne_exited (settings : Settings) (fromStdin : Bool) (w : World) (code : Nat) :
    (run settings fromStdin w).outcome ≠ .exited code := by
  unfold run conclude
  simp only
  split
  · nofun
  · nofun
  · nofun
  · split
    · nofun
    · nofun
    · next handed _ => cases handed.failure <;> nofun

/-- **Settings that cannot be resolved.** On a command line that has options, a run exits with code two
just if there are no settings and the request for them is not stranded; then it has said why, and has read
and written nothing else. A stranded request has no settings, and ends the run with a failure that nobody
handles. Without settings nothing depends on what could be read, or on the work that a key would be. -/
theorem refused_iff_not_stranded (hp : Options.parse words = .ok options) (w : World) :
    let resolved := Settings.resolve options.request w.environment w.files
    let stranded := Stranded options.request w.environment w.files
    ((execute words w).outcome = .exited 2 ↔ (∃ e, resolved = .error e) ∧ ¬ stranded) ∧
    (∀ e, resolved = .error e → ¬ stranded →
      execute words w = idle w (.exited 2) (Options.refusal e.message)) ∧
    (stranded → ∃ e, resolved = .error e ∧ execute words w = idle w (.crashed (.settings e)) "") ∧
    ∀ e, resolved = .error e → ∀ input rounds stamp,
      execute words { w with input := input, rounds := rounds, stamp := stamp } = execute words w := by
  intro resolved stranded
  have husage (e : SettingsError) (he : resolved = .error e) (hs : ¬ stranded) :
      execute words w = idle w (.exited 2) (Options.refusal e.message) := by
    rw [execute_of_resolve_error hp he, if_pos ((isUsageError_iff he).2 hs)]
  have hcrash (hs : stranded) : ∃ e, resolved = .error e ∧
      execute words w = idle w (.crashed (.settings e)) "" := by
    obtain ⟨e, -, hr⟩ := Settings.resolveSalt_of_stranded hs
    have he : resolved = .error e := Settings.resolve_of_resolveSalt_error hr
    refine ⟨e, he, ?_⟩
    rw [execute_of_resolve_error hp he, if_neg fun hu => (isUsageError_iff he).1 hu hs]
  refine ⟨⟨fun hexit => ?_, fun ⟨⟨e, he⟩, hs⟩ => ?_⟩, husage, hcrash, fun e he input rounds stamp => ?_⟩
  · cases hr : resolved with
    | error e =>
      refine ⟨⟨e, rfl⟩, fun hs => ?_⟩
      obtain ⟨e', -, hreport⟩ := hcrash hs
      rw [hreport] at hexit
      cases hexit
    | ok settings =>
      rw [execute_of_resolve_ok hp hr] at hexit
      split at hexit
      · cases hexit
      · exact absurd hexit (outcome_run_ne_exited settings options.stdin w 2)
  · rw [husage e he hs]
    rfl
  · rw [execute_of_resolve_error hp he]
    exact execute_of_resolve_error hp he

/-- A folder with one file below the home directory, one byte too short for a salt. -/
def shortSalt : World where
  environment name := if name = Settings.homeVariable then some "home".toList else none
  files := (⟨[(["home".toList, "k".toList], List.replicate 15 0)], []⟩ : Folder).fileSystem
  input := .interrupted
  clipboard := .working
  rounds := 1
  stamp := ""

theorem refused_short_salt :
    let words := ["--salt-file=~/k".toList, "--copy".toList]
    let options : Options := ⟨none, some "~/k".toList, none, false, true, false, false⟩
    Options.parse words = .ok options ∧
      (execute words shortSalt).outcome = .exited 2 ∧
      (execute words shortSalt).err =
        Options.refusal "salt file must hold exactly 16 bytes, got 15" := by
  intro words options
  have hp : Options.parse words = .ok options := by decide +kernel
  have he : Settings.resolve options.request shortSalt.environment shortSalt.files =
      .error (.salt (.wrongFileLength 15)) := by decide +kernel
  have hs : ¬ Stranded options.request shortSalt.environment shortSalt.files := (isUsageError_iff he).1 rfl
  obtain ⟨hexit, hreport, -, -⟩ := refused_iff_not_stranded hp shortSalt
  refine ⟨hp, hexit.2 ⟨⟨_, he⟩, hs⟩, ?_⟩
  rw [hreport _ he hs]
  decide +kernel

/-- The home directory of a user whom nobody knows: no settings, and no usage error. -/
theorem crashed_below_unknown_home :
    let words := ["--salt-file".toList, "~no_such_user_q/x".toList]
    let options : Options :=
      ⟨none, some "~no_such_user_q/x".toList, none, false, false, false, false⟩
    Options.parse words = .ok options ∧
      Settings.resolve options.request shortSalt.environment shortSalt.files =
        .error (.file .noHome) ∧
      (execute words shortSalt).outcome ≠ .exited 2 := by
  intro words options
  have hp : Options.parse words = .ok options := by decide +kernel
  have he : Settings.resolve options.request shortSalt.environment shortSalt.files =
      .error (.file .noHome) := by decide +kernel
  refine ⟨hp, he, ?_⟩
  rw [execute_of_resolve_error hp he]
  nofun

end Command

end KeyRecovery

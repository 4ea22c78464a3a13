import KeyRecovery.Proofs.Memory.Frame
import KeyRecovery.Proofs.Settings.Salt
import KeyRecovery.Settings.Basic

/-!
# Who is heard when settings are made

Three questions have an answer in the request or in the environment, and that of the salt has two in the request.
What stands behind something else is not even looked at.

* `Settings.Usable r env fs salt` : the salts that settings can have, `resolveSalt_eq_ok_iff` : which are the
  ones that are found;
* `resolve_of_resolveSalt_error` : without a salt there are no settings, for the reason that there is none;
* `SameSalt`, `SameHeard` : two requests, in two environments, that say the same where they are heard;
* `resolveSalt_congr`, `resolve_congr` : they have the same salt, and the same settings;
* `AgreeBut name env env'` : two environments that differ in no other variable;
* `SameHeard.of_agreeBut` : if that one is not heard, or empty in one and not set in the other, they are such two;
* `resolve_precedence` : so each setting comes from the first that answers, and the salt is settled first.
-/

namespace KeyRecovery

/-! ## The salt -/

theorem Salt.ofFile_eq_ok_iff {contents salt : List UInt8} :
    Salt.ofFile contents = .ok salt ↔ contents = salt ∧ salt.length = 16 := by
  unfold Salt.ofFile
  split
  · next h =>
    constructor
    · intro heq
      cases heq
      exact ⟨rfl, h⟩
    · rintro ⟨rfl, -⟩
      rfl
  · next h =>
    refine ⟨nofun, ?_⟩
    rintro ⟨rfl, hlen⟩
    exact absurd hlen h

namespace Settings

variable {r r' : Request} {env env' : Environment} {fs : FileSystem}

/-- A salt that settings can have: what the file that was asked for holds or, if none was, what the text
denotes that was given or else is set. -/
inductive Usable (r : Request) (env : Environment) (fs : FileSystem) : List UInt8 → Prop
  | file {name : List Char} {path : Path} {contents : List UInt8} : r.saltFile = some name →
      (Path.parse name).expandHome (env homeVariable) fs.home = .ok path → fs.read path = .ok contents →
      contents.length = 16 → Usable r env fs contents
  | given {text : List Char} {salt : List UInt8} : r.saltFile = none → r.salt = some text →
      Salt.Written text salt → salt.length = 16 → Usable r env fs salt
  | environment {text : List Char} {salt : List UInt8} : r.saltFile = none → r.salt = none →
      env saltVariable = some text → Salt.Written text salt → salt.length = 16 → Usable r env fs salt

theorem Usable.length_eq {salt : List UInt8} (h : Usable r env fs salt) : salt.length = 16 := by
  cases h <;> assumption

theorem resolveSalt_of_text {text : List Char} {salt : List UInt8} (hfile : r.saltFile = none)
    (htext : r.salt.or (env saltVariable) = some text) :
    resolveSalt r env fs = .ok salt ↔ Salt.Written text salt ∧ salt.length = 16 := by
  rw [← Salt.parse_eq_ok_iff]
  unfold resolveSalt
  rw [hfile, htext]
  cases text with
  | nil => exact ⟨nofun, nofun⟩
  | cons c rest =>
    exact ⟨Memory.eq_ok_of_mapError_ok, fun h => congrArg (Except.mapError SettingsError.salt) h⟩

theorem resolveSalt_eq_readSaltFile {name : List Char} (h : r.saltFile = some name) :
    resolveSalt r env fs = readSaltFile env fs name := by
  unfold resolveSalt
  rw [h]

theorem resolveSalt_of_name {name : List Char} {salt : List UInt8} (h : r.saltFile = some name) :
    resolveSalt r env fs = .ok salt ↔
      ∃ path contents, (Path.parse name).expandHome (env homeVariable) fs.home = .ok path ∧
        fs.read path = .ok contents ∧ contents = salt ∧ salt.length = 16 := by
  simp only [← Salt.ofFile_eq_ok_iff]
  rw [resolveSalt_eq_readSaltFile h]
  unfold readSaltFile
  constructor
  · intro h
    obtain ⟨path, hpath, h⟩ := Memory.exists_of_bind_ok h
    obtain ⟨contents, hcontents, h⟩ := Memory.exists_of_bind_ok h
    exact ⟨path, contents, Memory.eq_ok_of_mapError_ok hpath, Memory.eq_ok_of_mapError_ok hcontents,
      Memory.eq_ok_of_mapError_ok h⟩
  · rintro ⟨path, contents, hpath, hcontents, hsalt⟩
    rw [hpath]
    show ((fs.read path).mapError SettingsError.file >>= _) = _
    rw [hcontents]
    show (Salt.ofFile contents).mapError SettingsError.salt = _
    rw [hsalt]
    rfl

/-- The salts that are found are those that can be used. -/
theorem resolveSalt_eq_ok_iff {salt : List UInt8} : resolveSalt r env fs = .ok salt ↔ Usable r env fs salt := by
  constructor
  · intro h
    cases hfile : r.saltFile with
    | some name =>
      obtain ⟨path, contents, hpath, hcontents, rfl, hlen⟩ := (resolveSalt_of_name hfile).1 h
      exact .file hfile hpath hcontents hlen
    | none =>
      cases hsalt : r.salt with
      | some given =>
        obtain ⟨hwritten, hlen⟩ := (resolveSalt_of_text hfile (by rw [hsalt]; rfl)).1 h
        exact .given hfile hsalt hwritten hlen
      | none =>
        cases hset : env saltVariable with
        | some text =>
          obtain ⟨hwritten, hlen⟩ := (resolveSalt_of_text hfile (by rw [hsalt, hset]; rfl)).1 h
          exact .environment hfile hsalt hset hwritten hlen
        | none =>
          unfold resolveSalt at h
          rw [hfile, hsalt, hset] at h
          cases h
  · intro h
    cases h with
    | file hfile hpath hcontents hlen =>
      exact (resolveSalt_of_name hfile).2 ⟨_, _, hpath, hcontents, rfl, hlen⟩
    | given hfile hsalt hwritten hlen =>
      exact (resolveSalt_of_text hfile (by rw [hsalt]; rfl)).2 ⟨hwritten, hlen⟩
    | environment hfile hsalt hset hwritten hlen =>
      exact (resolveSalt_of_text hfile (by rw [hsalt, hset]; rfl)).2 ⟨hwritten, hlen⟩

theorem length_salt {settings : Settings} (h : resolve r env fs = .ok settings) :
    settings.salt.length = 16 := by
  obtain ⟨salt, hs, h⟩ := Memory.exists_of_bind_ok h
  obtain ⟨level, -, h⟩ := Memory.exists_of_bind_ok h
  cases h
  exact (resolveSalt_eq_ok_iff.1 hs).length_eq

theorem resolve_of_resolveSalt_error {e : SettingsError} (h : resolveSalt r env fs = .error e) :
    resolve r env fs = .error e := by
  unfold resolve
  rw [h]
  rfl

/-! ## What is heard -/

structure SameSalt (r : Request) (env : Environment) (r' : Request) (env' : Environment) : Prop where
  home : env' homeVariable = env homeVariable
  file : r'.saltFile = r.saltFile
  salt : r.saltFile = none → r'.salt = r.salt
  saltText : r.saltFile = none → r.salt = none → nonempty? env' saltVariable = nonempty? env saltVariable

structure SameHeard (r : Request) (env : Environment) (r' : Request) (env' : Environment) : Prop
    extends SameSalt r env r' env' where
  password : r'.password = r.password
  passwordText : r.password = none → nonempty? env' passwordVariable = nonempty? env passwordVariable
  level : r'.level = r.level
  levelText : r.level = none → nonempty? env' levelVariable = nonempty? env levelVariable
  copy : r'.copy = r.copy

/-- Without a file there is no salt unless a text that is not empty was given, or else is set. -/
theorem resolveSalt_of_no_file (h : r.saltFile = none) :
    resolveSalt r env fs =
      match r.salt.or (nonempty? env saltVariable) with
      | none | some [] => .error .noSalt
      | some text => (Salt.parse text).mapError .salt := by
  unfold resolveSalt
  rw [h]
  cases r.salt with
  | some text => rfl
  | none =>
    simp only [nonempty?, Option.none_or]
    cases env saltVariable with
    | none => rfl
    | some text => cases text <;> rfl

theorem resolveSalt_congr (h : SameSalt r env r' env') (fs : FileSystem) :
    resolveSalt r' env' fs = resolveSalt r env fs := by
  cases hf : r.saltFile with
  | none =>
    rw [resolveSalt_of_no_file (h.file.trans hf), resolveSalt_of_no_file hf, h.salt hf]
    cases hs : r.salt with
    | none => rw [h.saltText hf hs]
    | some text => rfl
  | some name =>
    rw [resolveSalt_eq_readSaltFile (h.file.trans hf), resolveSalt_eq_readSaltFile hf, readSaltFile,
      readSaltFile, h.home]

theorem resolveLevel_congr (h : SameHeard r env r' env') : resolveLevel r' env' = resolveLevel r env := by
  unfold resolveLevel
  rw [h.level]
  cases hl : r.level with
  | none => rw [h.levelText hl]
  | some level => rfl

theorem resolve_congr (h : SameHeard r env r' env') (fs : FileSystem) :
    resolve r' env' fs = resolve r env fs := by
  have hpassword : r'.password.or (nonempty? env' passwordVariable) =
      r.password.or (nonempty? env passwordVariable) := by
    rw [h.password]
    cases hp : r.password with
    | none => rw [h.passwordText hp]
    | some password => rfl
  unfold resolve
  rw [resolveSalt_congr h.toSameSalt, resolveLevel_congr h, hpassword, h.copy]

/-! ## One variable -/

def AgreeBut (name : String) (env env' : Environment) : Prop := ∀ other, other ≠ name → env' other = env other

/-- Whether anybody looks at a variable, given what is asked for explicitly. -/
def Heard (r : Request) (name : String) : Prop :=
  (name = saltVariable ∧ r.saltFile = none ∧ r.salt = none) ∨
    (name = passwordVariable ∧ r.password = none) ∨ (name = levelVariable ∧ r.level = none)

theorem heard_salt : Heard r saltVariable ↔ r.saltFile = none ∧ r.salt = none := by
  simp [Heard, saltVariable, passwordVariable, levelVariable]

theorem heard_password : Heard r passwordVariable ↔ r.password = none := by
  simp [Heard, saltVariable, passwordVariable, levelVariable]

theorem heard_level : Heard r levelVariable ↔ r.level = none := by
  simp [Heard, saltVariable, passwordVariable, levelVariable]

theorem AgreeBut.nonempty?_eq {name : String} (h : AgreeBut name env env')
    (hname : Heard r name → nonempty? env' name = nonempty? env name) {other : String} (hother : Heard r other) :
    nonempty? env' other = nonempty? env other := by
  by_cases heq : other = name
  · subst heq
    exact hname hother
  · unfold nonempty?
    rw [h other heq]

theorem SameHeard.of_agreeBut {name : String} (h : AgreeBut name env env') (hhome : name ≠ homeVariable)
    (hname : Heard r name → nonempty? env' name = nonempty? env name) : SameHeard r env r env' where
  home := h homeVariable hhome.symm
  file := rfl
  salt _ := rfl
  saltText hf hs := h.nonempty?_eq hname (heard_salt.2 ⟨hf, hs⟩)
  password := rfl
  passwordText hp := h.nonempty?_eq hname (heard_password.2 hp)
  level := rfl
  levelText hl := h.nonempty?_eq hname (heard_level.2 hl)
  copy := rfl

theorem resolve_of_not_heard {name : String} (hhome : name ≠ homeVariable) (h : ¬ Heard r name)
    (henv : AgreeBut name env env') (fs : FileSystem) : resolve r env' fs = resolve r env fs :=
  resolve_congr (.of_agreeBut henv hhome fun hheard => absurd hheard h) fs

/-- Next to a file the text of a salt is not heard. -/
theorem resolve_of_file (h : r.saltFile ≠ none) (salt : Option (List Char)) (env : Environment) (fs : FileSystem) :
    resolve { r with salt := salt } env fs = resolve r env fs := by
  have hsame : SameHeard r env { r with salt := salt } env :=
    { home := rfl, file := rfl, salt := fun hf => absurd hf h, saltText := fun hf => absurd hf h,
      password := rfl, passwordText := fun _ => rfl, level := rfl, levelText := fun _ => rfl, copy := rfl }
  exact resolve_congr hsame fs

/-- A variable other than the home that is empty might as well not be set. -/
theorem resolve_of_empty {name : String} (hhome : name ≠ homeVariable) (henv : AgreeBut name env env')
    (hempty : env name = some []) (hnone : env' name = none) (fs : FileSystem) :
    resolve r env' fs = resolve r env fs := by
  refine resolve_congr (.of_agreeBut henv hhome fun _ => ?_) fs
  unfold nonempty?
  rw [hempty, hnone]
  rfl

/-- The salt is not looked for where the level is. -/
theorem SameSalt.of_agreeBut_level (level : Option Int) (h : AgreeBut levelVariable env env') :
    SameSalt r env { r with level := level } env' where
  home := h homeVariable (by decide)
  file := rfl
  salt _ := rfl
  saltText _ _ := by
    unfold nonempty?
    rw [h saltVariable (by decide)]

/-! ## Who is heard -/

/-- **What was asked for comes before what is set, and the salt before the rest.** Settings have a salt of
sixteen bytes. Whether there are any, and which, or why not, is the same whatever the salt is set to if a salt or
a file with one was asked for, whatever the salt asked for if a file was, and whatever the password or the level
is set to if another was asked for: an empty answer is one, and what is not heard may be malformed. A variable
that is empty counts as one that is not set. Where no salt can be used, it is the salt's error that is
reported, whatever is said of the level. -/
theorem resolve_precedence (r : Request) (env : Environment) (fs : FileSystem) :
    (∀ settings, resolve r env fs = .ok settings → settings.salt.length = 16) ∧
    (r.salt ≠ none ∨ r.saltFile ≠ none → ∀ env', AgreeBut saltVariable env env' →
      resolve r env' fs = resolve r env fs) ∧
    (r.saltFile ≠ none → ∀ salt, resolve { r with salt := salt } env fs = resolve r env fs) ∧
    (r.password ≠ none → ∀ env', AgreeBut passwordVariable env env' →
      resolve r env' fs = resolve r env fs) ∧
    (r.level ≠ none → ∀ env', AgreeBut levelVariable env env' → resolve r env' fs = resolve r env fs) ∧
    (∀ name ∈ [saltVariable, passwordVariable, levelVariable], ∀ env', AgreeBut name env env' →
      env name = some [] → env' name = none → resolve r env' fs = resolve r env fs) ∧
    ((¬ ∃ salt, Usable r env fs salt) → ∃ e, resolveSalt r env fs = .error e ∧
      ∀ level env', AgreeBut levelVariable env env' → resolve { r with level := level } env' fs = .error e) := by
  refine ⟨fun settings => length_salt, ?_, fun h salt => resolve_of_file h salt env fs, ?_, ?_, ?_, ?_⟩
  · intro h env' henv
    refine resolve_of_not_heard (by decide) (fun hheard => ?_) henv fs
    obtain ⟨hfile, hsalt⟩ := heard_salt.1 hheard
    exact h.elim (absurd hsalt) (absurd hfile)
  · exact fun h env' henv => resolve_of_not_heard (by decide) (mt heard_password.1 h) henv fs
  · exact fun h env' henv => resolve_of_not_heard (by decide) (mt heard_level.1 h) henv fs
  · intro name hname env' henv hempty hnone
    have hhome : name ≠ homeVariable := by
      rintro rfl
      exact absurd hname (by decide)
    exact resolve_of_empty hhome henv hempty hnone fs
  · intro h
    cases he : resolveSalt r env fs with
    | ok salt => exact absurd ⟨salt, resolveSalt_eq_ok_iff.1 he⟩ h
    | error e =>
      refine ⟨e, rfl, fun level env' henv => resolve_of_resolveSalt_error ?_⟩
      rw [resolveSalt_congr (.of_agreeBut_level level henv), he]

/-- Where a salt, an empty password and a level are asked for, the variables may be malformed; so may the salt
next to a file. An empty salt is none, and a malformed one is complained of before a malformed level. -/
theorem resolve_precedence_malformed :
    let fs := Folder.fileSystem ⟨[(["salt".toList], List.replicate 16 7)], []⟩
    let set (name : String) (text : String) : Environment := fun other =>
      if other = name then some text.toList else none
    let asked : Request := ⟨some (List.replicate 32 '7'), none, some [], some 30, false⟩
    let settings : Settings := ⟨List.replicate 16 119, some [], 30, false⟩
    let filed : Request := { Request.silent with saltFile := some "salt".toList }
    let stray : Request := { Request.silent with salt := some "zz".toList }
    resolve asked (set saltVariable "zz") fs = .ok settings ∧
      resolve asked (set passwordVariable "x") fs = .ok settings ∧
      resolve asked (set levelVariable "chatty") fs = .ok settings ∧
      resolve { filed with salt := some "zz".toList } (set levelVariable "") fs =
        .ok ⟨List.replicate 16 7, none, 20, false⟩ ∧
      resolve Request.silent (set saltVariable "") fs = .error .noSalt ∧
      resolve stray (set levelVariable "chatty") fs = .error (.salt (.notHex "zz".toList)) := by
  intro fs set asked settings filed stray
  let unset : Environment := fun _ => none
  have hset (name text : String) : AgreeBut name unset (set name text) := fun other h => if_neg h
  have hunset (name : String) : AgreeBut name (set name "") unset := fun other h => (if_neg h).symm
  have hempty (name : String) : set name "" name = some [] := if_pos rfl
  have hasked : resolve asked unset fs = .ok settings := by decide +kernel
  have hfiled : resolve filed unset fs = .ok ⟨List.replicate 16 7, none, 20, false⟩ := by decide +kernel
  have hstray : resolveSalt stray unset fs = .error (.salt (.notHex "zz".toList)) := by decide +kernel
  obtain ⟨-, hsalt, -, hpassword, hlevel, -⟩ := resolve_precedence asked unset fs
  obtain ⟨-, -, hfile, -⟩ := resolve_precedence filed (set levelVariable "") fs
  obtain ⟨-, -, -, -, -, hvariable, -⟩ := resolve_precedence filed (set levelVariable "") fs
  obtain ⟨-, -, -, -, -, hvariable', -⟩ := resolve_precedence Request.silent (set saltVariable "") fs
  obtain ⟨-, -, -, -, -, -, hunusable⟩ := resolve_precedence stray unset fs
  refine ⟨(hsalt (.inl (by decide)) _ (hset _ "zz")).trans hasked,
    (hpassword (by decide) _ (hset _ "x")).trans hasked,
    (hlevel (by decide) _ (hset _ "chatty")).trans hasked, ?_, ?_, ?_⟩
  · rw [hfile (by decide), ← hvariable levelVariable (by decide) unset (hunset _) (hempty _) rfl, hfiled]
  · rw [← hvariable' saltVariable (by decide) unset (hunset _) (hempty _) rfl]
    decide +kernel
  · obtain ⟨e, he, hall⟩ := hunusable fun ⟨salt, h⟩ => by
      rw [← resolveSalt_eq_ok_iff, hstray] at h
      cases h
    rw [hstray] at he
    cases he
    exact hall none _ (hset _ "chatty")

end Settings

end KeyRecovery

import KeyRecovery.Text.Quoted

/-!
# Paths of files

* `Path`, `Path.parse` : a path as its parts, without empty ones and single dots;
* `Path.text` : a path as it is shown;
* `Path.home?`, `Path.expandHome` : a path with a first part `~` or `~user` replaced by a home directory;
* `FileError`, `FileSystem` : reading files, and why that fails;
* `Folder` : a directory of named contents, with `Folder.read` walking a path part by part.
-/

namespace KeyRecovery

/-- A path: the slashes that it starts with (none, one or two) and its parts. -/
structure Path where
  root : List Char
  parts : List (List Char)
  deriving DecidableEq

namespace Path

def pieces : List Char → List (List Char)
  | [] => [[]]
  | c :: rest =>
    if c = '/' then [] :: pieces rest
    else match pieces rest with
      | p :: ps => (c :: p) :: ps
      | [] => [[c]]

/-- The root that a text starts with: exactly two slashes are kept, any other number counts as one. -/
def rootOf (s : List Char) : List Char :=
  match (s.takeWhile (· = '/')).length with
  | 0 => []
  | 2 => ['/', '/']
  | _ => ['/']

def parse (s : List Char) : Path :=
  ⟨rootOf s, (pieces s).filter fun p => p ≠ [] && p ≠ ['.']⟩

def text (p : Path) : List Char :=
  if p.root.isEmpty && p.parts.isEmpty then ['.'] else p.root ++ ['/'].intercalate p.parts

/-- A text without slashes at its end. -/
def dropSlashes (s : List Char) : List Char := (s.reverse.dropWhile (· = '/')).reverse

end Path

inductive FileError
  | system (code : Nat) (text : String) (path : Path)
  | zeroCharacter
  | noHome
  /-- There is no room for what the file holds. -/
  | noMemory
  deriving DecidableEq

def FileError.message : FileError → String
  | .system code text path =>
    "[Errno " ++ toString code ++ "] " ++ text ++ ": " ++ Text.quoted path.text
  | .zeroCharacter => "embedded null byte"
  | .noHome => "Could not determine home directory."
  | .noMemory => ""

namespace Path

/-- The home directory that `~user` stands for, where `~` alone stands for one's own: the one that is set
comes before the one that is known. -/
def home? (set : Option (List Char)) (known : Option (List Char) → Option (List Char))
    (user : List Char) : Option (List Char) :=
  if user.isEmpty then set.or (known none) else known (some user)

/-- Replaces a first part `~` or `~user` of a path without a root by the home directory. -/
def expandHome (set : Option (List Char)) (known : Option (List Char) → Option (List Char))
    (p : Path) : Except FileError Path :=
  if !p.root.isEmpty then .ok p
  else match p.parts with
    | ('~' :: user) :: rest =>
      if user.contains '\x00' then .error .zeroCharacter
      else match home? set known user with
        | none => .error .noHome
        | some h =>
          let h := dropSlashes h
          if h.head? = some '~' then .error .noHome
          else
            let base := parse (if h.isEmpty then ['/'] else h)
            .ok ⟨base.root, base.parts ++ rest⟩
    | _ => .ok p

end Path

/-- A way to read files, and what is known of home directories: one's own, and those of users by name.
Reading a file asks for no home. -/
structure FileSystem where
  read : Path → Except FileError (List UInt8)
  home : Option (List Char) → Option (List Char)
  read_ne_noHome : ∀ p, read p ≠ .error .noHome

structure Folder where
  files : List (List (List Char) × List UInt8)
  directories : List (List (List Char))

namespace Folder

def byteLength (s : List Char) : Nat := s.foldl (fun n c => n + c.utf8Size) 0

/-- The longest name of a file, in bytes. -/
def nameLimit : Nat := 255

/-- The longest path, in bytes. -/
def pathLimit : Nat := 4095

/-- Where a walk has got to: a place in the folder, or somewhere outside of it. -/
inductive Spot
  | inside (parts : List (List Char))
  | outside
  deriving DecidableEq

/-- The contents of a file. -/
def file? (f : Folder) (parts : List (List Char)) : Option (List UInt8) := f.files.lookup parts

/-- Whether a place is a directory: one that is listed, or one above a file or a directory. -/
def isDirectory (f : Folder) (parts : List (List Char)) : Bool :=
  parts.isEmpty || f.directories.any (parts.isPrefixOf ·) ||
    f.files.any fun (place, _) => parts.isPrefixOf place && place ≠ parts

/-- One step of a walk. Nothing outside the folder is known but directories above it. -/
def step (f : Folder) (path : Path) (s : Spot) (name : List Char) : Except FileError Spot :=
  match s with
  | .outside =>
    if name = ['.', '.'] then .ok .outside
    else if nameLimit < byteLength name then .error (.system 36 "File name too long" path)
    else .error (.system 2 "No such file or directory" path)
  | .inside parts =>
    if (f.file? parts).isSome then .error (.system 20 "Not a directory" path)
    else if name = ['.', '.'] then .ok (if parts.isEmpty then .outside else .inside parts.dropLast)
    else if nameLimit < byteLength name then .error (.system 36 "File name too long" path)
    else
      let next := parts ++ [name]
      if (f.file? next).isSome || f.isDirectory next then .ok (.inside next)
      else .error (.system 2 "No such file or directory" path)

def walk (f : Folder) (path : Path) (s : Spot) (names : List (List Char)) : Except FileError Spot :=
  names.foldlM (f.step path) s

def read (f : Folder) (path : Path) : Except FileError (List UInt8) :=
  if path.text.contains '\x00' then .error .zeroCharacter
  else if pathLimit < byteLength path.text then .error (.system 36 "File name too long" path)
  else match f.walk path (if path.root.isEmpty then .inside [] else .outside) path.parts with
    | .error e => .error e
    | .ok .outside => .error (.system 21 "Is a directory" path)
    | .ok (.inside parts) =>
      match f.file? parts with
      | some contents => .ok contents
      | none => .error (.system 21 "Is a directory" path)

theorem step_ne_noHome (f : Folder) (path : Path) (s : Spot) (name : List Char) :
    f.step path s name ≠ .error .noHome := by
  cases s with
  | outside =>
    simp only [step]
    split
    · nofun
    · split <;> nofun
  | inside parts =>
    simp only [step]
    split
    · nofun
    · split
      · nofun
      · split
        · nofun
        · split <;> nofun

theorem walk_ne_noHome (f : Folder) (path : Path) (s : Spot) (names : List (List Char)) :
    f.walk path s names ≠ .error .noHome := by
  induction names generalizing s with
  | nil => nofun
  | cons name names ih =>
    have hstep := f.step_ne_noHome path s name
    unfold walk
    rw [List.foldlM_cons]
    cases h : f.step path s name with
    | error e =>
      rw [h] at hstep
      exact hstep
    | ok t => exact ih t

theorem read_ne_noHome (f : Folder) (path : Path) : f.read path ≠ .error .noHome := by
  have hwalk := f.walk_ne_noHome path (if path.root.isEmpty then .inside [] else .outside) path.parts
  unfold read
  split
  · nofun
  · split
    · nofun
    · split
      · next e he =>
        rintro h
        cases h
        exact hwalk he
      · nofun
      · split <;> nofun

/-- A folder as a way to read files, where no home directories are known. -/
def fileSystem (f : Folder) : FileSystem := ⟨f.read, fun _ => none, f.read_ne_noHome⟩

end Folder

end KeyRecovery

/-
ScriptSyntax.FileSystem — files and folders, and what a path names among
them.

A `Reader` is all that is asked of a system: the bytes at each path, or
the reason why there are none. A `FileSystem` holds files and folders by
their places; a place is the list of names that lead to it from the root.
`FileSystem.read` follows a path name by name, which makes the system a
reader. `FileSystem.writeFile` and `FileSystem.makeFolder` add to a file
system.
-/

namespace ScriptSyntax

/-! ## 1. Paths -/

namespace Path

/-- The names in a path, which are separated by slashes and may be
empty. -/
def names : List Char → List (List Char)
  | [] => [[]]
  | c :: rest =>
    if c = '/' then [] :: names rest
    else match names rest with
      | [] => [[c]]
      | name :: later => (c :: name) :: later

/-- The names in a path, as strings. -/
def parts (path : String) : List String :=
  (names path.toList).map String.ofList

/-- Whether a name stays in the folder that it is looked up in. -/
def Stays (name : String) : Prop :=
  name = "" ∨ name = "."

instance (name : String) : Decidable (Stays name) :=
  inferInstanceAs (Decidable (_ ∨ _))

/-- The name of what a path leads to: the last one in it, apart from those
that stay in a folder. A path has none if it leads nowhere but out of a
folder in the end. -/
def fileName? (path : String) : Option String :=
  ((parts path).reverse.find? (¬ Stays ·)).filter (· ≠ "..")

theorem names_ne_nil (path : List Char) : names path ≠ [] := by
  cases path with
  | nil => simp [names]
  | cons c rest =>
    rw [names]
    split
    · simp
    · split <;> simp

end Path

/-! ## 2. Reading files -/

/-- Why a file has no text. -/
inductive ReadFailure where
  | missing
  | notDirectory
  | isDirectory
  | notUtf8
  /-- Any other reason, in the words of the system. -/
  | other (reason : String)
  deriving DecidableEq

/-- The reason in words, with the number that the system has for it. -/
def ReadFailure.reason : ReadFailure → String
  | .missing => "No such file or directory (os error 2)"
  | .notDirectory => "Not a directory (os error 20)"
  | .isDirectory => "Is a directory (os error 21)"
  | .notUtf8 => "stream did not contain valid UTF-8"
  | .other reason => reason

/-- What is found under each path: the bytes of a file, or the reason why
they cannot be had. -/
abbrev Reader := String → Except ReadFailure ByteArray

/-- Files with their bytes, and folders, which may be empty. A folder that
leads to something else need not be listed. -/
structure FileSystem where
  files : List (List String × ByteArray)
  folders : List (List String)
  /-- The folder from which paths are followed. -/
  working : List String

namespace FileSystem

/-- What is found at a place. -/
inductive Content where
  | nothing
  | file (bytes : ByteArray)
  | folder

/-- Looks up a place. There are always the root and the working folder. -/
def content (system : FileSystem) (place : List String) : Content :=
  match system.files.lookup place with
  | some bytes => .file bytes
  | none =>
    let leadsOn := system.files.any fun entry => place.isPrefixOf entry.1
    if leadsOn || (system.working :: system.folders).any (place.isPrefixOf ·) then .folder
    else .nothing

/-- The place that a name leads to from a folder. No name and `.` stay
where they are, and `..` leads out of the folder, but not out of the
root. -/
def enter (name : String) (place : List String) : List String :=
  if Path.Stays name then place
  else if name = ".." then place.dropLast
  else place ++ [name]

/-- Follows names one by one. Every name has to be looked up in a
folder. -/
def walk (system : FileSystem) : List String → List String → Except ReadFailure (List String)
  | place, [] => .ok place
  | place, name :: names =>
    match system.content place with
    | .nothing => .error .missing
    | .file _ => .error .notDirectory
    | .folder => system.walk (enter name place) names

/-- Where a path begins: at the root if it begins with a slash, and else
in the working folder. -/
def origin (system : FileSystem) (path : String) : List String :=
  if path.toList.head? = some '/' then [] else system.working

/-- The bytes of the file that a path names. -/
def read (system : FileSystem) (path : String) : Except ReadFailure ByteArray :=
  match system.walk (system.origin path) (Path.parts path) with
  | .error failure => .error failure
  | .ok place =>
    match system.content place with
    | .nothing => .error .missing
    | .folder => .error .isDirectory
    | .file bytes => .ok bytes

instance : Coe FileSystem Reader := ⟨read⟩

/-! ## 3. Adding files and folders -/

/-- The folders that a system keeps at its root. -/
def rootFolders : List String :=
  ["bin", "boot", "dev", "etc", "home", "lib", "media", "mnt", "opt", "proc", "root", "run", "sbin",
    "srv", "sys", "tmp", "usr", "var"]

/-- A system whose working folder is empty, and so are its null device and
its standard input. The working folder has a name that stands in no path,
so that it is never entered from above. -/
def fresh : FileSystem where
  files := [(["dev", "null"], ByteArray.empty), (["dev", "stdin"], ByteArray.empty)]
  folders := rootFolders.map ([·])
  working := ["tmp", ""]

/-- The system with a folder wherever a walk along the names comes by, also
where the next name leads out of it again. -/
def addFolders (system : FileSystem) (place : List String) : List String → FileSystem
  | [] => system
  | name :: names =>
    let next := enter name place
    { system with folders := next :: system.folders }.addFolders next names

/-- The system with a folder at a path, and all folders on the way. -/
def makeFolder (system : FileSystem) (path : String) : FileSystem :=
  system.addFolders (system.origin path) (Path.parts path)

/-- The place that a path leads to when there is a folder at every name
but the last. -/
def destination (system : FileSystem) (path : String) : List String :=
  (Path.parts path).foldl (fun place name => enter name place) (system.origin path)

/-- The system with a file at a path, in place of the one that was there,
and all folders on the way. -/
def writeFile (system : FileSystem) (path : String) (bytes : ByteArray) : FileSystem :=
  let parents := system.addFolders (system.origin path) (Path.parts path).dropLast
  { parents with files := (system.destination path, bytes) :: parents.files }

/-- A file that was written is found at its place. -/
theorem content_writeFile (system : FileSystem) (path : String) (bytes : ByteArray) :
    (system.writeFile path bytes).content (system.destination path) = .file bytes := by
  simp [writeFile, content]

end FileSystem

end ScriptSyntax

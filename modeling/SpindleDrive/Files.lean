/-!
# Files

What is asked of a file system: to read a file, to write one, and to say whether there is one.

* `FileFault` — why a file cannot be read or written.
* `FileAccess` — the three requests, in any monad.
* `Directory` — a directory of plain files, held in memory, with `Directory.access` to it.
* `Directory.follow` — where a path leads, part by part.

A path may leave the directory, upwards or by way of the root.  Out there only the directories are
known that every system has; what is written there is not kept.
-/

namespace SpindleDrive

/-- Why a file cannot be read or written. -/
inductive FileFault where
  | missing
  | isDirectory
  | notDirectory
  | nameTooLong
  /-- The content is not UTF-8. -/
  | notText
  | other (reason : String)
  deriving DecidableEq, Repr

def FileFault.message : FileFault → String
  | missing => "No such file or directory (os error 2)"
  | isDirectory => "Is a directory (os error 21)"
  | notDirectory => "Not a directory (os error 20)"
  | nameTooLong => "File name too long (os error 36)"
  | notText => "stream did not contain valid UTF-8"
  | other reason => reason

/-- What is asked of a file system. -/
structure FileAccess (m : Type → Type) where
  read : String → m (Except FileFault ByteArray)
  contains : String → m Bool
  write : String → ByteArray → m (Except FileFault Unit)

/-- A directory of plain files. -/
structure Directory where
  files : List (String × ByteArray) := []

namespace Directory

/-! ## The files -/

def content? (d : Directory) (name : String) : Option ByteArray :=
  d.files.lookup name

def has (d : Directory) (name : String) : Bool := (d.content? name).isSome

/-- Gives a file a new content; a file that is not there is added. -/
def put (d : Directory) (name : String) (content : ByteArray) : Directory where
  files :=
    if d.has name then d.files.map fun (n, old) => (n, if n = name then content else old)
    else d.files ++ [(name, content)]

/-! ## Paths -/

/-- Where a path can be on its way. -/
inductive Location where
  /-- In the directory itself. -/
  | here
  /-- In a directory that holds it. -/
  | above
  | root
  /-- In a directory of the root. -/
  | standard (name : String)
  deriving DecidableEq, Repr

/-- The way up. -/
def Location.parent : Location → Location
  | here | above => above
  | root | standard _ => root

/-- The directories of the root. -/
def standardNames : List String :=
  ["bin", "boot", "dev", "etc", "home", "lib", "media", "mnt", "opt", "proc", "root", "run", "sbin",
    "srv", "sys", "tmp", "usr", "var"]

/-- What has a name. -/
inductive Node where
  | directory (location : Location)
  | file (content : ByteArray)

/-- What has a name at a location.  The null device is a file that stays empty. -/
def node? (d : Directory) : Location → String → Option Node
  | .here, name => (d.content? name).map .file
  | .above, _ => none
  | .root, name => if name ∈ standardNames then some (.directory (.standard name)) else none
  | .standard directory, name =>
    if directory = "dev" ∧ name = "null" then some (.file .empty) else none

/-- What a path leads to. -/
inductive Place where
  | directory
  /-- A name at a location, whether it is there or not, and whether the path says that it is a
  directory. -/
  | entry (location : Location) (name : String) (asDirectory : Bool)

/-- Names have at most 255 bytes. -/
def isLongName (name : String) : Bool := 255 < name.utf8ByteSize

/-- Follows a path that is taken apart at its slashes.  All names but the last must be those of
directories. -/
def followParts (d : Directory) : Location → List String → Except FileFault Place
  | _, [] => .ok .directory
  | location, part :: rest =>
    if part = "" ∨ part = "." then d.followParts location rest
    else if part = ".." then d.followParts location.parent rest
    else if rest.all (· = "") then .ok (.entry location part !rest.isEmpty)
    else if isLongName part then .error .nameTooLong
    else
      match d.node? location part with
      | none => .error .missing
      | some (.file _) => .error .notDirectory
      | some (.directory inner) => d.followParts inner rest

/-- Follows a path, which must have fewer than 4096 bytes. -/
def follow (d : Directory) (path : String) : Except FileFault Place :=
  if path = "" then .error .missing
  else if 4096 ≤ path.utf8ByteSize then .error .nameTooLong
  else d.followParts (if path.startsWith "/" then .root else .here) (path.splitOn "/")

/-! ## Access -/

def read (d : Directory) (path : String) : Except FileFault ByteArray := do
  match ← d.follow path with
  | .directory => throw .isDirectory
  | .entry location name asDirectory =>
    if isLongName name then throw .nameTooLong
    match d.node? location name with
    | none => throw .missing
    | some (.directory _) => throw .isDirectory
    | some (.file content) => if asDirectory then throw .notDirectory else return content

def contains (d : Directory) (path : String) : Bool :=
  match d.follow path with
  | .error _ => false
  | .ok .directory => true
  | .ok (.entry location name asDirectory) =>
    match d.node? location name with
    | none => false
    | some (.directory _) => true
    | some (.file _) => !asDirectory

/-- The file that a path to be written to means. -/
def target (d : Directory) (path : String) : Except FileFault (Location × String) := do
  match ← d.follow path with
  | .directory => throw .isDirectory
  | .entry location name asDirectory =>
    if asDirectory then throw .isDirectory
    if isLongName name then throw .nameTooLong
    match d.node? location name with
    | some (.directory _) => throw .isDirectory
    | _ => return (location, name)

def write (d : Directory) (path : String) (content : ByteArray) :
    Except FileFault Unit × Directory :=
  match d.target path with
  | .error fault => (.error fault, d)
  | .ok (location, name) => (.ok (), if location = .here then d.put name content else d)

/-- Access to the directory that is the state. -/
def access : FileAccess (StateM Directory) where
  read path := return (← get).read path
  contains path := return (← get).contains path
  write path content := modifyGet (·.write path content)

end Directory

end SpindleDrive

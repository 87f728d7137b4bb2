import FieldStudy.Storage.IoError
import FieldStudy.Text.Split

/-!
# A store of files

Folders and files by path, as a value. A file is known by a number that its name stands for, so a file
that is open stays writable after its name is removed.
-/

namespace FieldStudy

/-- The names from the root to a file or folder. -/
abbrev Path := List String

inductive FileEntry
  | folder
  | file (id : Nat)
deriving DecidableEq, Repr

/-- The names that exist, and the bytes of every file by its number. -/
structure FileStore where
  entries : List (Path × FileEntry) := []
  contents : List (List UInt8) := []
deriving DecidableEq, Repr

namespace FileStore

def find? (s : FileStore) (p : Path) : Option FileEntry :=
  if p.isEmpty then some .folder else (s.entries.find? (·.1 == p)).map (·.2)

def bytes (s : FileStore) (id : Nat) : List UInt8 := s.contents.getD id []

/-- The bytes of the file at a path. -/
def read? (s : FileStore) (p : Path) : Option (List UInt8) :=
  match s.find? p with
  | some (.file id) => some (s.bytes id)
  | _ => none

def add (s : FileStore) (p : Path) (e : FileEntry) : FileStore :=
  { s with entries := s.entries ++ [(p, e)] }

/-! ## Folders -/

def isFolder (s : FileStore) (p : Path) : Bool := s.find? p = some .folder

/-- Adds the folders of `rest` below `base`, one within the other; existing ones are kept. -/
def createFoldersFrom (s : FileStore) (base : Path) :
    List String → Except IoError FileStore
  | [] => .ok s
  | name :: rest =>
    let p := base ++ [name]
    match s.find? p with
    | some .folder => s.createFoldersFrom p rest
    | some (.file _) => .error (if rest.isEmpty then .exists else .notFolder)
    | none => (s.add p .folder).createFoldersFrom p rest

/-- Creates a folder and those above it. -/
def createFolders (s : FileStore) (p : Path) : Except IoError FileStore :=
  s.createFoldersFrom [] p

/-- Removes a folder with everything below it. -/
def removeFolder (s : FileStore) (p : Path) : Except IoError FileStore :=
  match s.find? p with
  | some .folder => .ok { s with entries := s.entries.filter fun e => !p.isPrefixOf e.1 }
  | some (.file _) => .error .notFolder
  | none => .error .notFound

/-- The files below a folder, by their path from it. -/
def filesBelow (s : FileStore) (p : Path) : List (Path × Nat) :=
  s.entries.filterMap fun (q, e) =>
    match e, p.isPrefixOf? q with
    | .file id, some rest => some (rest, id)
    | _, _ => none

/-- The number of folders directly below a folder. -/
def folderCount (s : FileStore) (p : Path) : Nat :=
  s.entries.countP fun (q, e) => e = .folder && p.isPrefixOf q && q.length == p.length + 1

/-! ## File names within a folder -/

/-- The longest name of a file, in bytes. -/
def maxNameLength : Nat := 255

/-- Follows the steps of a relative path up to the last one, which is returned with its folder. -/
def walk (s : FileStore) (base : Path) : List String → Except IoError (Path × String)
  | [] => .error .isFolder
  | [name] =>
    if name == ".." then .error .isFolder
    else if maxNameLength < name.utf8ByteSize then .error .nameTooLong
    else .ok (base, name)
  | name :: rest =>
    if name == ".." then s.walk base.dropLast rest
    else if maxNameLength < name.utf8ByteSize then .error .nameTooLong
    else match s.find? (base ++ [name]) with
      | some .folder => s.walk (base ++ [name]) rest
      | some (.file _) => .error .notFolder
      | none => .error .notFound

/-- The steps of a path as written: empty ones and single points are left out. -/
def steps (cs : List Char) : List String :=
  ((Text.splitAll '/' cs).filter fun step => !step.isEmpty && step != ['.']).map String.ofList

/-- The longest path of a file as written, in bytes. -/
def maxPathLength : Nat := 4095

/-- The length of a name behind the path of the folder that it is relative to, in bytes. -/
def writtenLength (folder : Path) (name : String) : Nat :=
  if name.toList.head? = some '/' then name.utf8ByteSize
  else folder.foldr (fun step n => step.utf8ByteSize + 1 + n) 0 + 1 + name.utf8ByteSize

/-- Drops the empty steps and single points at the front of a relative path. -/
def dropIdleSteps : List (List Char) → List (List Char)
  | [] => []
  | step :: rest => if step.isEmpty || step == ['.'] then dropIdleSteps rest else step :: rest

/-- A relative path as written, but for empty steps and single points at its two ends. A path from the root is
left as it is. -/
def bareText (name : String) : String :=
  if name.toList.head? = some '/' then name
  else
    let bare := (dropIdleSteps (dropIdleSteps (Text.splitAll '/' name.toList)).reverse).reverse
    String.ofList (Text.join ['/'] bare)

/-- Whether a path as written ends in a slash or in a step of a single point, as only a folder may be named. -/
def namesFolder (cs : List Char) : Bool :=
  ((Text.splitAll '/' cs).getLast?).any fun step => step.isEmpty || step == ['.']

/-- The last step of a path that is named relative to a folder, unless that leads upwards. -/
def lastStep? (folder : Path) (name : String) : Option String :=
  let base := if name.toList.head? = some '/' then [] else folder
  (base ++ steps name.toList).getLast?.filter (· != "..")

/-- The path of a file that is named relative to a folder. A name that begins with a slash starts at the
root. -/
def locate (s : FileStore) (folder : Path) (name : String) : Except IoError Path :=
  let cs := name.toList
  if cs.contains '\x00' then .error .nulInName
  else if maxPathLength < writtenLength folder name then .error .nameTooLong
  else
    let base := if cs.head? = some '/' then [] else folder
    if !s.isFolder base then .error .notFound
    else if namesFolder cs then .error .isFolder
    else (s.walk base (steps cs)).map fun (folder, name) => folder ++ [name]

/-! ## Files -/

/-- Opens a file for appending and creates it if there is none; answers its number. -/
def openAppend (s : FileStore) (folder : Path) (name : String) :
    Except IoError (Nat × FileStore) :=
  match s.locate folder name with
  | .error e => .error e
  | .ok p =>
    match s.find? p with
    | some (.file id) => .ok (id, s)
    | some .folder => .error .isFolder
    | none =>
      .ok (s.contents.length, { s.add p (.file s.contents.length) with
        contents := s.contents ++ [[]] })

def append (s : FileStore) (id : Nat) (data : List UInt8) : FileStore :=
  { s with contents := s.contents.set id (s.bytes id ++ data) }

/-- Replaces the contents of a file, which is created if there is none. -/
def write (s : FileStore) (folder : Path) (name : String) (data : List UInt8) :
    Except IoError FileStore :=
  (s.openAppend folder name).map fun (id, s) => { s with contents := s.contents.set id data }

end FileStore

end FieldStudy

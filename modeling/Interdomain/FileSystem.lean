import Interdomain.FileStore
import Interdomain.Text.Split

/-!
# File systems

A file system is a tree: a directory holds files and directories by name. A location is the row of
names from the root, and a path is a way to a location: it is followed name by name, and only
directories are passed through, so `a/../b` leads to `b` only where `a` is a directory. Two paths
may lead to one location, and then what is written under one is read under the other.
-/

namespace Interdomain

/-- What is at a location. -/
inductive Entry where
  /-- A directory with its entries by name. -/
  | directory (entries : List (String × Entry))
  /-- A file with its contents. -/
  | file (contents : String)
  deriving Inhabited

/-- The names from the root to an entry. -/
abbrev Location := List String

namespace Entry

def isDirectory : Entry → Bool
  | directory _ => true
  | file _ => false

def find? : Entry → Location → Option Entry
  | e, [] => some e
  | directory entries, name :: rest => (List.lookup name entries).bind fun e ↦ find? e rest
  | file _, _ :: _ => none

/-- Entries with one of them put under a name, in place of what is there. -/
def assign (name : String) (new : Entry) : List (String × Entry) → List (String × Entry)
  | [] => [(name, new)]
  | e :: rest => if e.1 = name then (name, new) :: rest else e :: assign name new rest

/-- Put an entry at the end of some names. Nothing changes where a directory on the way is
missing. -/
def put : Entry → Location → Entry → Entry
  | _, [], new => new
  | directory entries, name :: rest, new =>
    match List.lookup name entries with
    | some e => directory (assign name (put e rest new) entries)
    | none => directory (if rest.isEmpty then assign name new entries else entries)
  | file contents, _ :: _, _ => file contents

def erase : Entry → Location → Entry
  | directory entries, [name] => directory (entries.filter (·.1 ≠ name))
  | directory entries, name :: rest =>
    match List.lookup name entries with
    | some e => directory (assign name (erase e rest) entries)
    | none => directory entries
  | e, _ => e

mutual

/-- The files of an entry that has some path, with their own paths. -/
def files (path : String) : Entry → List (String × String)
  | directory entries => filesAmong path entries
  | file contents => [(path, contents)]

/-- The files of the entries of a directory that has some path, with their own paths. -/
def filesAmong (path : String) : List (String × Entry) → List (String × String)
  | [] => []
  | (name, e) :: rest =>
    files (if path.isEmpty then name else path ++ "/" ++ name) e ++ filesAmong path rest

end

end Entry

/-- A file system with a working directory, at which relative paths start. -/
structure FileSystem where
  root : Entry := .directory []
  workingDirectory : Location := []

namespace FileSystem

/-! ## Paths -/

/-- The names of a path. Between two slashes, and after one at an end, there is an empty name. -/
def names (path : String) : List String := (splitAll '/' path.toList).map String.ofList

def longestName : Nat := 255

/-- The most bytes that a path may have. -/
def longestPath : Nat := 4095

/-- Whether a file or a directory may have a name. -/
def isAllowedName (name : String) : Bool :=
  name.utf8ByteSize ≤ longestName && !name.toList.contains '\x00'

/-- Whether a path can be followed at all. -/
def isAllowedPath (path : String) : Bool := !path.isEmpty && path.utf8ByteSize ≤ longestPath

/-- What is at a location. -/
def contentAt? (fs : FileSystem) (location : Location) : Option Entry := fs.root.find? location

def isDirectory (fs : FileSystem) (location : Location) : Bool :=
  (fs.contentAt? location).any Entry.isDirectory

/-- Follow one name from a directory: an empty name and a dot stay there, two dots go up. -/
def step? (fs : FileSystem) (location : Location) (name : String) : Option Location :=
  if !fs.isDirectory location then none
  else if name = "" ∨ name = "." then some location
  else if name = ".." then some location.dropLast
  else if isAllowedName name then some (location ++ [name])
  else none

/-- Where a path starts. -/
def start (fs : FileSystem) (path : String) : Location :=
  if path.toList.head? = some '/' then [] else fs.workingDirectory

/-- Follow a path to its location, at which there may be nothing. -/
def locate? (fs : FileSystem) (path : String) : Option Location :=
  if isAllowedPath path then (names path).foldlM fs.step? (fs.start path) else none

/-! ## Reading -/

def find? (fs : FileSystem) (path : String) : Option Entry := (fs.locate? path).bind fs.contentAt?

/-- The contents of the file that a path leads to. -/
def read? (fs : FileSystem) (path : String) : Option String :=
  match fs.find? path with
  | some (.file contents) => some contents
  | _ => none

/-- The files below the working directory, by path and in the order of their paths. -/
def files (fs : FileSystem) : List (String × String) :=
  match fs.contentAt? fs.workingDirectory with
  | some e => (e.files "").mergeSort fun a b ↦ (compare a.1 b.1).isLE
  | none => []

/-! ## Writing -/

/-- Put an entry at a location. -/
def put (fs : FileSystem) (location : Location) (e : Entry) : FileSystem :=
  { fs with root := fs.root.put location e }

/-- Follow one name to a directory, which is made if there is nothing. -/
def enter? (s : FileSystem × Location) (name : String) : Option (FileSystem × Location) := do
  let next ← s.1.step? s.2 name
  match s.1.contentAt? next with
  | some (.directory _) => return (s.1, next)
  | some (.file _) => none
  | none => return (s.1.put next (.directory []), next)

/-- Write a file. The directories on the way to it are made; a directory is not overwritten. -/
def write? (fs : FileSystem) (path contents : String) : Option FileSystem := do
  if !isAllowedPath path then none
  let (fs, parent) ← (names path).dropLast.foldlM enter? (fs, fs.start path)
  let location ← fs.step? parent ((names path).getLast?.getD "")
  if fs.isDirectory location then none else return fs.put location (.file contents)

/-! ## Removal -/

/-- Remove the empty directory that a path leads to by its last name; dots, and the root, are no
such name. A path on which a directory is gone leads to nothing, and then nothing is left to do. -/
def removeEmpty (fs : FileSystem) (path : String) : FileSystem × Bool :=
  let row := (names path).filter (· ≠ "")
  match row.dropLast.foldlM fs.step? (fs.start path) with
  | none => (fs, true)
  | some parent =>
    if !fs.isDirectory parent then (fs, true)
    else match row.getLast? with
      | none => (fs, false)
      | some name =>
        if name = "." ∨ name = ".." then (fs, false)
        else ({ fs with root := fs.root.erase (parent ++ [name]) }, true)

/-- Remove a directory with all that is in it: it is emptied first. -/
def remove (fs : FileSystem) (path : String) : FileSystem × Bool :=
  match fs.locate? path with
  | none => (fs, false)
  | some location =>
    if fs.isDirectory location then (fs.put location (.directory [])).removeEmpty path
    else (fs, false)

instance : FileStore (StateM FileSystem) where
  read? path := fun fs ↦ (fs.read? path, fs)
  isThere path := fun fs ↦ ((fs.find? path).isSome, fs)
  remove path := fun fs ↦
    let (fs, done) := fs.remove path
    (done, fs)
  write path contents := fun fs ↦
    match fs.write? path contents with
    | some fs => (true, fs)
    | none => (false, fs)

end FileSystem

end Interdomain

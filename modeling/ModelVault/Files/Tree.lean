import ModelVault.Bytes

/-!
Files in memory: what reading and writing under a name do to a tree of directories. A name goes from the
working directory or, with a slash in front, from the root.
-/

namespace ModelVault

/-- Why a file cannot be read or written. -/
inductive FileError where
  | notFound
  | isDirectory
  /-- What should be a directory on the way to the file is none. -/
  | notDirectory
  | permissionDenied
  /-- No file can have this name. -/
  | invalidName
  | other
  deriving DecidableEq, Repr

/-- A place in the tree: the parts of its name, with an empty part in front for the root. -/
abbrev Place := List String

namespace Place

private def step (place : Place) (part : String) : Place :=
  if part = "" ∨ part = "." then place
  else if part = ".." ∧ place ≠ [] ∧ place.getLast? ≠ some ".." then place.dropLast
  else place ++ [part]

/-- The place of a name. A part of two points leads up. -/
def ofName (name : String) : Place :=
  let below := (name.splitOn "/").foldl step []
  if name.startsWith "/" then "" :: below else below

/-- Only a directory can have a name that ends like this. -/
def endsAsDirectory (name : String) : Bool :=
  name.endsWith "/" || name.endsWith "/."

/-- The file that is empty and stays so. -/
def null : Place := ["", "dev", "null"]

end Place

/-- The files of a tree, and directories beyond those on the way to a file. -/
structure FileTree where
  files : List (Place × Bytes)
  directories : List Place

namespace FileTree

/-- What is at a place. -/
inductive Entry where
  | file (contents : Bytes)
  | directory
  | missing
  /-- A file is on the way to the place. -/
  | obstructed

/-- The tree of files in the working directory, beside the directories that there always are. -/
def ofFiles (files : List (String × Bytes)) : FileTree where
  files := files.map fun (name, contents) => (Place.ofName name, contents)
  directories := [[""], ["", "dev"], ["", "etc"], ["", "tmp"]]

def entry (place : Place) (tree : FileTree) : Entry :=
  match tree.files.find? (·.1 = place) with
  | some (_, contents) => .file contents
  | none =>
    if place = Place.null then .file []
    else if place.all (· = "..") ∨ place ∈ tree.directories ∨
        tree.files.any (fun file => place.isPrefixOf file.1) then
      .directory
    else if tree.files.any (fun file => file.1.isPrefixOf place) then .obstructed
    else .missing

def read (name : String) (tree : FileTree) : Except FileError Bytes :=
  if name.contains '\x00' then .error .invalidName
  else if name.isEmpty then .error .notFound
  else
    match tree.entry (Place.ofName name) with
    | .file contents => if Place.endsAsDirectory name then .error .notDirectory else .ok contents
    | .directory => .error .isDirectory
    | .missing => .error .notFound
    | .obstructed => .error .notDirectory

def holds (name : String) (tree : FileTree) : Bool :=
  (tree.read name).isOk

/-- Write a file, in the place of one that was there. -/
def write (name : String) (contents : Bytes) (tree : FileTree) : Except FileError FileTree :=
  let place := Place.ofName name
  if name.contains '\x00' then .error .invalidName
  else if name.isEmpty then .error .notFound
  else
    match tree.entry place, tree.entry place.dropLast with
    | .directory, _ => .error .isDirectory
    | .obstructed, _ => .error .notDirectory
    | .file _, _ =>
      if Place.endsAsDirectory name then .error .notDirectory
      else if place = Place.null then .ok tree
      else .ok { tree with files := (place, contents) :: tree.files.filter (·.1 ≠ place) }
    | .missing, .directory =>
      if Place.endsAsDirectory name then .error .isDirectory
      else .ok { tree with files := (place, contents) :: tree.files }
    | .missing, _ => .error .notFound

/-- A new file can be made under this name. -/
def canCreate (name : String) (tree : FileTree) : Bool :=
  match tree.entry (Place.ofName name) with
  | .missing => (tree.write name []).isOk
  | _ => false

end FileTree

end ModelVault

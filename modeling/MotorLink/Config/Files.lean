import MotorLink.Config.Decode

/-!
Settings in files: which file a run reads, and what comes of the bytes in it.

A run gets the bytes from the system.
A tree of files stands in for the system where loading is tried out without one: what it answers to
a path, the errors of a path included, follows from what was written to it and from nothing else.
-/

namespace MotorLink

/-- A stand-in for a file system: directories and files by the names on the way to them. -/
structure FileTree where
  directories : List (List String)
  files : List (List String × ByteArray)

/-- A place that a path passes: a place in the tree, or one of the directories the tree lies in. -/
inductive Place where
  | inside (names : List String)
  | around
deriving DecidableEq, Repr

namespace Place

/-- Where a path starts: at the top if nothing stands before its first slash, else in the tree. -/
def start (names : List String) : Place := if names.head? = some "" then .around else .inside []

/-- The directory above a place; the one at the top is above itself. -/
def parent : Place → Place
  | .inside [] => .around
  | .inside (name :: names) => .inside (name :: names).dropLast
  | .around => .around

/-- The place that a name leads to; around the tree, nothing has a name. -/
def enter? (place : Place) (name : String) : Option Place :=
  if name == "" || name == "." then some place
  else if name == ".." then some place.parent
  else match place with
    | .inside names => some (.inside (names ++ [name]))
    | .around => none

end Place

/-- The greatest length of a name in bytes, as common file systems have it. -/
def maxNameBytes : Nat := 255

/-- The greatest length of a path in bytes, as common file systems have it. -/
def maxPathBytes : Nat := 4095

/-- Why a path cannot be followed at all. -/
def pathFault? (path : String) : Option FileError :=
  if path.contains '\x00' then some .zeroByteInPath
  else if path.isEmpty then some .notFound
  else if maxPathBytes < path.utf8ByteSize then some .nameTooLong
  else none

namespace FileTree

/-- A tree that holds nothing yet. -/
def empty : FileTree := ⟨[], []⟩

/-- Makes the directory at a place of the tree. -/
def makeDirectory (tree : FileTree) : Place → FileTree
  | .inside names => { tree with directories := names :: tree.directories }
  | .around => tree

/-- Makes every directory that names lead through from a place, and tells where they end. -/
def makeDirectories : FileTree → Place → List String → Option (FileTree × Place)
  | tree, place, [] => some (tree, place)
  | tree, place, name :: rest => do
    let next ← place.enter? name
    (tree.makeDirectory next).makeDirectories next rest

/-- Writes a file and makes the directories on the way; outside the tree nothing is written. -/
def write (tree : FileTree) (path : String) (contents : ByteArray) : FileTree :=
  let names := path.splitOn "/"
  let written? : Option FileTree := do
    let (tree, directory) ← tree.makeDirectories (.start names) names.dropLast
    match ← directory.enter? (names.getLastD "") with
    | .inside file => some { tree with files := (file, contents) :: tree.files }
    | .around => none
  written?.getD tree

/-- Whether names lead to a directory of the tree. -/
def isDirectory (tree : FileTree) (names : List String) : Bool :=
  names.isEmpty || tree.directories.contains names

/-- Follows the names of a path from a place to a file. -/
def follow (tree : FileTree) : Place → List String → Except FileError ByteArray
  | _, [] => .error .isDirectory
  | place, name :: rest =>
    if maxNameBytes < name.utf8ByteSize then .error .nameTooLong
    else match place.enter? name with
      | none => .error .notFound
      | some .around => tree.follow .around rest
      | some (.inside names) =>
        match tree.files.lookup names with
        | some contents => if rest.isEmpty then .ok contents else .error .notDirectory
        | none =>
          if tree.isDirectory names then tree.follow (.inside names) rest else .error .notFound

/-- The contents of the file that a path leads to. -/
def read (tree : FileTree) (path : String) : Except FileError ByteArray :=
  match pathFault? path with
  | some fault => .error fault
  | none =>
    let names := path.splitOn "/"
    tree.follow (.start names) names

/-- Whether a path leads to anything. -/
def holds (tree : FileTree) (path : String) : Bool :=
  match tree.read path with
  | .ok _ => true
  | .error error => error == .isDirectory

end FileTree

/-- The text of a file. -/
def textOfFile (contents : Except FileError ByteArray) : Except FileError String :=
  match contents with
  | .error error => .error error
  | .ok bytes =>
    match String.fromUTF8? bytes with
    | some source => .ok source
    | none => .error .notText

namespace Config

/-- The settings in the bytes of a file. -/
def load (contents : Except FileError ByteArray) : Except LinkError Config :=
  ofFile (textOfFile contents)

/-- The file that a run reads when it is given none. -/
def defaultPath : String := "config/default.toml"

/-- The file that a run reads, if any: the given one, or the default one where it exists. -/
def pathToLoad (given : Option String) (defaultExists : Bool) : Option String :=
  match given with
  | some path => some path
  | none => if defaultExists then some defaultPath else none

end Config

/-- Why a run has no settings: the file that was to be read, and what was wrong with it. -/
structure LoadError where
  path : String
  cause : LinkError
deriving DecidableEq, Repr

/-- The wording of a run without settings. -/
def LoadError.message (error : LoadError) : String := "loading " ++ error.path

/-- The settings of a run; without a file to read they are the standard ones. -/
def Config.forRun (path : Option String) (contents : String → Except FileError ByteArray) :
    Except LoadError Config :=
  match path with
  | none => .ok {}
  | some path => (Config.load (contents path)).mapError (LoadError.mk path)

end MotorLink

import LiveFlags.Error.Storage
import Std.Data.ExtTreeMap

/-!
# A file system

Files and directories by path. A path is a list of names, the empty path is a directory that is
always there. Looking up a path goes from name to name: each but the last has to be a directory,
and a name longer than 255 bytes is refused when its turn comes; a path longer than 4095 bytes is
refused at once.

A `FileAction` keeps what it has done when it fails. Renaming a file is one step: there is no state
in between in which neither the old nor the new content can be read.
-/

namespace LiveFlags

/-- A path from the top. -/
abbrev Path := List String

namespace Path

/-- The path whose names a text gives with slashes between them. -/
def ofText (text : String) : Path :=
  (text.splitOn "/").filter (· ≠ "")

/-- The names with slashes between them. -/
def text (path : Path) : String :=
  "/".intercalate path

end Path

/-- What stands at a path. -/
inductive Node where
  | file (content : List UInt8)
  | directory
deriving DecidableEq, Repr

/-- Why an action on files fails. -/
inductive FileFault where
  | notFound
  | alreadyExists
  | notADirectory
  | isADirectory
  | nameTooLong
  /-- The content of a file is no text. -/
  | notText
deriving DecidableEq, Repr

namespace FileFault

def kind : FileFault → IoKind
  | .notFound => .notFound
  | .alreadyExists => .alreadyExists
  | .notADirectory => .notADirectory
  | .isADirectory => .isADirectory
  | .nameTooLong => .invalidFilename
  | .notText => .invalidData

def message : FileFault → String
  | .notFound => "No such file or directory (os error 2)"
  | .alreadyExists => "File exists (os error 17)"
  | .notADirectory => "Not a directory (os error 20)"
  | .isADirectory => "Is a directory (os error 21)"
  | .nameTooLong => "File name too long (os error 36)"
  | .notText => "stream did not contain valid UTF-8"

def toStorageError (fault : FileFault) : StorageError :=
  .io fault.kind fault.message

end FileFault

/-- Files and directories below the top. -/
structure FileSystem where
  nodes : Std.ExtTreeMap Path Node := ∅

/-- An action that reads or changes files and may fail. -/
abbrev FileAction (α : Type) := FileSystem → Except FileFault α × FileSystem

namespace FileSystem

/-- The longest name, in bytes. -/
def longestName : Nat := 255

/-- The longest path, in bytes with a separator before each name. -/
def longestPath : Nat := 4095

/-- Looks up names one after another below a node. -/
def findFrom (fs : FileSystem) (above : Path) (node : Node) : Path → Except FileFault Node
  | [] => .ok node
  | name :: names =>
    match node with
    | .file _ => .error .notADirectory
    | .directory =>
      if longestName < name.utf8ByteSize then .error .nameTooLong
      else
        match fs.nodes[above ++ [name]]? with
        | none => .error .notFound
        | some next => fs.findFrom (above ++ [name]) next names

/-- What stands at a path. -/
def find (fs : FileSystem) (path : Path) : Except FileFault Node :=
  if longestPath < path.foldl (fun bytes name => bytes + name.utf8ByteSize + 1) 0 then
    .error .nameTooLong
  else fs.findFrom [] .directory path

def isDirectory (fs : FileSystem) (path : Path) : Bool :=
  match fs.find path with
  | .ok .directory => true
  | _ => false

/-- Whether something can be put at a path where there is nothing: all that is above it has to be
there. -/
def vacant (fs : FileSystem) (path : Path) : Except FileFault Unit := do
  match ← fs.find path.dropLast with
  | .file _ => .error .notADirectory
  | .directory => .ok ()

/-- The paths of what is below a directory, as seen from there and in the order of their texts; a
slash follows those of directories. -/
def listing (fs : FileSystem) (top : Path) : List String :=
  let texts := fs.nodes.toList.filterMap fun (path, node) =>
    if top.isPrefixOf path ∧ top.length < path.length then
      some (Path.text (path.drop top.length) ++ (if node = .directory then "/" else ""))
    else none
  texts.mergeSort (· ≤ ·)

/-- Puts a node at a path. -/
def place (fs : FileSystem) (path : Path) (node : Node) : FileSystem :=
  ⟨fs.nodes.insert path node⟩

end FileSystem

namespace FileAction

open FileSystem

/-- Lets one action follow another; nothing follows a failure. -/
def andThen {α β : Type} (first : FileAction α) (second : α → FileAction β) : FileAction β :=
  fun fs =>
    match first fs with
    | (.ok a, fs) => second a fs
    | (.error fault, fs) => (.error fault, fs)

/-- Creates one directory. -/
def makeDirectory (path : Path) : FileAction Unit := fun fs =>
  match fs.find path with
  | .ok _ => (.error .alreadyExists, fs)
  | .error .notFound =>
    match fs.vacant path with
    | .ok _ => (.ok (), fs.place path .directory)
    | .error fault => (.error fault, fs)
  | .error fault => (.error fault, fs)

/-- Creates a directory unless it is there. -/
def ensureDirectory (path : Path) : FileAction Unit := fun fs =>
  match makeDirectory path fs with
  | (.ok _, fs) => (.ok (), fs)
  | (.error fault, fs) => (if fs.isDirectory path then .ok () else .error fault, fs)

/-- Creates a directory and those above it that are missing. The names are given from the last to
the first. -/
def makeDirectoriesUp : (names : List String) → FileAction Unit
  | [] => fun fs => (.ok (), fs)
  | name :: above => fun fs =>
    match ensureDirectory (name :: above).reverse fs with
    | (.error .notFound, fs) =>
      andThen (makeDirectoriesUp above) (fun _ => ensureDirectory (name :: above).reverse) fs
    | result => result

/-- Creates a directory and those above it that are missing. -/
def makeDirectories (path : Path) : FileAction Unit :=
  makeDirectoriesUp path.reverse

/-- Opens a file for writing with the content that `start` makes of the old one; a file that is not
there is created. -/
def openFile (start : List UInt8 → List UInt8) (path : Path) : FileAction Unit := fun fs =>
  match fs.find path with
  | .ok (.file content) => (.ok (), fs.place path (.file (start content)))
  | .ok .directory => (.error .isADirectory, fs)
  | .error .notFound =>
    match fs.vacant path with
    | .ok _ => (.ok (), fs.place path (.file (start [])))
    | .error fault => (.error fault, fs)
  | .error fault => (.error fault, fs)

/-- Creates an empty file, or empties the one that is there. -/
def create (path : Path) : FileAction Unit :=
  openFile (fun _ => []) path

/-- Opens a file and keeps its content. -/
def touch (path : Path) : FileAction Unit :=
  openFile id path

/-- Adds bytes at the end of a file. -/
def append (path : Path) (bytes : List UInt8) : FileAction Unit :=
  openFile (· ++ bytes) path

/-- Moves a file to another path, where it takes the place of what was there. -/
def rename (source target : Path) : FileAction Unit := fun fs =>
  match fs.find source, fs.find target with
  | .error fault, _ => (.error fault, fs)
  | .ok _, .ok .directory => (.error .isADirectory, fs)
  | .ok node, _ => (.ok (), ⟨(fs.nodes.erase source).insert target node⟩)

/-- Removes a file; one that is not there is removed already. -/
def removeIfPresent (path : Path) : FileAction Unit := fun fs =>
  match fs.find path with
  | .ok (.file _) => (.ok (), ⟨fs.nodes.erase path⟩)
  | .ok .directory => (.error .isADirectory, fs)
  | .error .notFound => (.ok (), fs)
  | .error fault => (.error fault, fs)

/-- The content of a file. -/
def read (path : Path) : FileAction (List UInt8) := fun fs =>
  match fs.find path with
  | .ok (.file content) => (.ok content, fs)
  | .ok .directory => (.error .isADirectory, fs)
  | .error fault => (.error fault, fs)

end FileAction

end LiveFlags

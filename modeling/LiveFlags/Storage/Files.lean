import LiveFlags.Storage.Basic
import LiveFlags.Storage.FileName
import LiveFlags.Storage.FileSystem

/-!
# Storage in files

Below its root, a `FileStorage` has one directory for each namespace and one file for each key. A
new content is first written into a temporary file, which is then renamed, so that a reader finds
the whole old or the whole new content, whenever the writer stops. A lock on a file of the namespace
keeps writers apart.

`FileStorage.steps` is the list of file operations that a write consists of; the write stops at the
first one that fails.
-/

namespace LiveFlags

/-- One operation on files. -/
inductive FileStep where
  | makeDirectories (path : Path)
  | lock (path : Path)
  | create (path : Path)
  | append (path : Path) (bytes : List UInt8)
  | sync (path : Path)
  | rename (source target : Path)
  | remove (path : Path)
deriving DecidableEq, Repr

namespace FileStep

/-- What an operation does. -/
def run : FileStep → FileAction Unit
  | .makeDirectories path => FileAction.makeDirectories path
  | .lock path => FileAction.touch path
  | .create path => FileAction.create path
  | .append path bytes => FileAction.append path bytes
  | .sync _ => fun fs => (.ok (), fs)
  | .rename source target => FileAction.rename source target
  | .remove path => FileAction.removeIfPresent path

/-- Runs operations until one fails. -/
def runAll : List FileStep → FileAction Unit
  | [] => fun fs => (.ok (), fs)
  | step :: steps => FileAction.andThen step.run fun _ => runAll steps

end FileStep

/-- A storage below a directory of a file system. -/
structure FileStorage where
  files : FileSystem
  root : Path

namespace FileStorage

/-- Opens a storage, which creates its root. -/
def mount (root : Path) (files : FileSystem) : Except FileFault FileStorage × FileSystem :=
  match FileAction.makeDirectories root files with
  | (.ok _, files) => (.ok { files, root }, files)
  | (.error fault, files) => (.error fault, files)

/-- The directory of a namespace. The empty namespace is kept in the root itself. -/
def directory (root : Path) (space : String) : Path :=
  if FileName.encode space = "" then root else root ++ [FileName.encode space]

/-- The file of a key. -/
def file (root : Path) (space key : String) : Path :=
  directory root space ++ [FileName.ofKey key]

/-- The temporary file beside the file of a key. -/
def temporary (root : Path) (space key : String) : Path :=
  directory root space ++ [FileName.temporary (FileName.ofKey key)]

/-- The file operations that put a text under a key, or remove what is there. -/
def steps (root : Path) (space key : String) (text : Option String) : List FileStep :=
  [.makeDirectories (directory root space), .lock (directory root space ++ [FileName.lock])] ++
    match text with
    | some text =>
      let prepared := temporary root space key
      [.create prepared, .append prepared (Utf8.encode text.toList), .sync prepared,
        .rename prepared (file root space key)]
    | none => [.remove (file root space key)]

/-- The text in the file of a key. -/
def get (s : FileStorage) (space key : String) : Except StorageError (Option String) :=
  match s.files.find (file s.root space key) with
  | .ok (.file content) =>
    match Utf8.decode? content with
    | some text => .ok (some text)
    | none => .error FileFault.notText.toStorageError
  | .ok .directory => .error FileFault.isADirectory.toStorageError
  | .error .notFound => .ok none
  | .error fault => .error fault.toStorageError

/-- Writes or removes a text. -/
def set (s : FileStorage) (space key : String) (text : Option String) :
    Except StorageError Unit × FileStorage :=
  let (result, files) := FileStep.runAll (steps s.root space key text) s.files
  (result.mapError FileFault.toStorageError, { s with files })

instance : Storage FileStorage where
  get s space key := (s.get space key, s)
  set s space key text := s.set space key text

end FileStorage

end LiveFlags

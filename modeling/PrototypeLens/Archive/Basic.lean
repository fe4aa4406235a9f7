import PrototypeLens.FileTree
import PrototypeLens.Text.Utf8

/-!
# Archives

The dependency archives that resources are read from: packed jars and unpacked folders.
-/

namespace PrototypeLens

open Text.Utf8 (Byte)

/-! ## Storage -/

/-- A file next to which archives lie, or an archive in one file. -/
inductive StoredFile where
  /-- A file that is not a jar. -/
  | plain (content : List Byte)
  /-- A jar, by entry. -/
  | jar (entries : List (String × List Byte))

/-- Where archives are stored. -/
structure ArchiveStore where
  /-- The folder that the paths of archives start from. -/
  root : String := "/"
  /-- What is stored, there and elsewhere. -/
  tree : FileTree StoredFile := {}

/-- What stands at the path of an archive. -/
inductive Archive where
  /-- Nothing. -/
  | missing
  /-- A file that is not a jar. -/
  | unreadable
  /-- A jar, by entry. -/
  | jar (entries : List (String × List Byte))
  /-- A folder of class files, at a path among others. -/
  | folder (tree : FileTree StoredFile) (path : String)

/-- What stands at a path. -/
def ArchiveStore.archiveAt (store : ArchiveStore) (path : String) : Archive :=
  let full := Text.joinPath store.root path
  match store.tree.lookup full with
  | .error _ => .missing
  | .ok .folder => .folder store.tree full
  | .ok (.file (.plain _)) => .unreadable
  | .ok (.file (.jar entries)) => .jar entries

/-! ## Resources -/

/-- Why a resource could not be read. -/
inductive ArchiveError where
  /-- There is no archive. -/
  | missing
  /-- The archive is not a jar. -/
  | unreadable
  /-- The path leads to a folder. -/
  | isFolder (path : String)
deriving DecidableEq, Repr

/-- The text of a failure to read from the archive at `name`. -/
def ArchiveError.message (name : String) : ArchiveError → String
  | missing => "failed to open archive " ++ name
  | unreadable => "failed to read zip " ++ name
  | isFolder path => "failed to read " ++ Text.joinPath name path

namespace Archive

/-- The bytes of a resource, if the archive has it. A path may lead out of a folder; a jar holds
resources only for those who open it as an archive. -/
def read (archive : Archive) (path : String) : Except ArchiveError (Option (List Byte)) :=
  match archive with
  | missing => .error .missing
  | unreadable => .error .unreadable
  | jar entries => .ok ((entries.reverse.find? (·.1 == path)).map (·.2))
  | folder tree root => match tree.lookup (Text.joinPath root path) with
    | .error _ => .ok none
    | .ok .folder => .error (.isFolder path)
    | .ok (.file (.plain content)) => .ok (some content)
    | .ok (.file (.jar _)) => .ok none

/-- The text of a resource, with malformed bytes replaced. -/
def readText (archive : Archive) (path : String) : Except ArchiveError (Option String) :=
  (archive.read path).map fun content => content.map Text.Utf8.decodeLossy

end Archive

end PrototypeLens

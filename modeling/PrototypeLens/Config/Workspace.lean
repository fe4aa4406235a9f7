import PrototypeLens.Config.Decoding
import PrototypeLens.FileTree
import PrototypeLens.Text.Utf8

/-!
# Workspaces

Where the configuration of a workspace is looked for, and how it is loaded.
-/

namespace PrototypeLens

open Text.Utf8 (Byte)

/-- The folder of a project. -/
structure Workspace where
  /-- Its absolute path. -/
  root : String
  /-- The file system that it lies in, as far as it is known. -/
  tree : FileTree (List Byte)

namespace Workspace

/-- The places of a configuration file, the first one that holds a file wins. -/
def configNames : List String := ["protoscope.toml", ".protoscope.toml"]

/-- The shortest path that leads where an absolute path leads; the path itself if it leads
nowhere. -/
def canonicalPath (w : Workspace) (path : String) : String :=
  match w.tree.resolve path with
  | .ok place => "/" ++ "/".intercalate place
  | .error _ => path

/-- Whether an absolute path leads to a file. -/
def isFile (w : Workspace) (path : String) : Bool :=
  match w.tree.lookup path with
  | .ok (.file _) => true
  | _ => false

/-- The path of the configuration file: the one that the environment names, whether or not it is
there, or else the first usual one that is there. -/
def configPath? (w : Workspace) (named : Option String) : Option String :=
  match named with
  -- Taken as it is, so that a missing file is reported instead of passed over.
  | some path => some (w.canonicalPath (Text.joinPath w.root path))
  | none =>
    ((configNames.map (Text.joinPath w.root)).find? w.isFile).map w.canonicalPath

/-- The text of the file at an absolute path. -/
def readText (w : Workspace) (path : String) : Except ReadError String :=
  match w.tree.lookup path with
  | .error .notFound => .error .notFound
  | .error .notAFolder => .error .notAFolder
  | .error .nameTooLong => .error .nameTooLong
  | .ok .folder => .error .isFolder
  | .ok (.file content) => match Text.Utf8.decode? content with
    | some text => .ok text
    | none => .error .notText

/-- The configuration in a file. -/
def loadFrom (w : Workspace) (path : String) : Except ConfigError Configuration :=
  match w.readText path with
  | .error cause => .error (.unreadable path cause)
  | .ok text => Configuration.parse text

/-- The configuration of the workspace and the file that it comes from; the defaults if there is
no such file. -/
def load (w : Workspace) (named : Option String) :
    Except ConfigError (Configuration × Option String) :=
  match w.configPath? named with
  | none => .ok ({}, none)
  | some path => (w.loadFrom path).map fun config => (config, some path)

end Workspace

end PrototypeLens

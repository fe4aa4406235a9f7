import PrototypeLens.Text.Path

/-!
# File trees

Folders and files from the top of a file system on, and how a path leads through them.
-/

namespace PrototypeLens

/-- What is known of a file system, by place. A place without content is a folder; every folder on
the way to an entry is there too. A later entry of a place replaces an earlier one. -/
structure FileTree (α : Type) where
  /-- Places by components, with the content of a file. -/
  entries : List (List String × Option α) := []

/-- What a path leads to. -/
inductive FileNode (α : Type) where
  | folder
  | file (content : α)

/-- Why a path leads nowhere. -/
inductive PathError where
  /-- A component is not there. -/
  | notFound
  /-- A component that has to be a folder is a file. -/
  | notAFolder
  /-- A component is longer than any name, or the path longer than any path. -/
  | nameTooLong
deriving DecidableEq, Repr

namespace FileTree

variable {α : Type}

/-! ## Reading -/

/-- How many bytes a name may have. -/
def nameLimit : Nat := 255

/-- What is at a place. The top is a folder. -/
def node? (tree : FileTree α) (place : List String) : Option (FileNode α) :=
  -- A later entry replaces an earlier one, so they are searched from the end.
  match tree.entries.reverse.find? (·.1 == place) with
  | some (_, some content) => some (.file content)
  | some (_, none) => some .folder
  | none =>
    if place.isEmpty || tree.entries.any fun entry => place.isPrefixOf entry.1 then some .folder
    else none

/-- One step from a place along a component of a path. The top is above itself. -/
def step (tree : FileTree α) (place : List String) (component : String) :
    Except PathError (List String) :=
  match tree.node? place with
  | none => .error .notFound
  | some (.file _) => .error .notAFolder
  | some .folder =>
    -- Only a place that is a folder may be left again, so this comes after asking what is there.
    if component = "" || component = "." then .ok place
    else if component = ".." then .ok place.dropLast
    else if nameLimit < component.utf8ByteSize then .error .nameTooLong
    else if (tree.node? (place ++ [component])).isSome then .ok (place ++ [component])
    else .error .notFound

/-- The place that an absolute path leads to. -/
def resolve (tree : FileTree α) (path : String) : Except PathError (List String) :=
  (Text.pathComponents path).foldlM tree.step []

/-- How many bytes a path may have that is opened. -/
def pathLimit : Nat := 4095

/-- What is found when an absolute path is opened. -/
def lookup (tree : FileTree α) (path : String) : Except PathError (FileNode α) :=
  if pathLimit < path.utf8ByteSize then .error .nameTooLong
  else match tree.resolve path with
    | .error e => .error e
    | .ok place => match tree.node? place with
      | some node => .ok node
      | none => .error .notFound

/-! ## Writing -/

/-- Makes a folder unless something is at its place. -/
def makeFolder (tree : FileTree α) (place : List String) : FileTree α :=
  if (tree.node? place).isSome then tree else ⟨tree.entries ++ [(place, none)]⟩

/-- Puts a file, or a folder if there is no content, where components lead from a folder. The
folders on the way are made. -/
def insertAt (tree : FileTree α) (content : Option α) (folder : List String) :
    List String → FileTree α
  | [] => match content with
    | some content => ⟨tree.entries ++ [(folder, some content)]⟩
    | none => tree.makeFolder folder
  | component :: rest =>
    if component = "" || component = "." then tree.insertAt content folder rest
    else if component = ".." then tree.insertAt content folder.dropLast rest
    else
      let place := folder ++ [component]
      (if rest.isEmpty then tree else tree.makeFolder place).insertAt content place rest

/-- Puts a file, or a folder if there is no content, where a path leads from a folder. -/
def insert (tree : FileTree α) (folder : List String) (path : String) (content : Option α) :
    FileTree α :=
  tree.insertAt content folder (Text.pathComponents path)

end FileTree

end PrototypeLens

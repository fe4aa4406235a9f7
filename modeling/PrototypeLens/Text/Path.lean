import PrototypeLens.Text.Name

/-!
# Paths

File paths as texts: their components, the file name and its extension.
-/

namespace PrototypeLens.Text

/-- The components of a path, empty ones and `.` included. -/
def pathComponents (path : String) : List String := (splitAt '/' path.toList).map String.ofList

/-- Whether a path starts at the root of the file system. -/
def isAbsolutePath (path : String) : Bool := path.toList.head? == some '/'

/-- The last component of a path that names something; none if it leads upwards. -/
def fileName? (path : String) : Option String :=
  ((pathComponents path).filter fun c => c ≠ "" && c ≠ ".").getLast?.filter (· ≠ "..")

/-- The file name before and after its last dot. A dot that opens the name does not count. -/
def splitFileName? (path : String) : Option (String × Option String) :=
  (fileName? path).map fun name => match splitLast? '.' name.toList with
    | some (stem@(_ :: _), extension) => (String.ofList stem, some (String.ofList extension))
    | _ => (name, none)

def extension? (path : String) : Option String := (splitFileName? path).bind (·.2)

/-- The file name without its extension. -/
def fileStem? (path : String) : Option String := (splitFileName? path).map (·.1)

/-- A path inside a folder; an absolute path stays as it is, and so does one in an unnamed
folder. -/
def joinPath (folder path : String) : String :=
  if isAbsolutePath path || folder.isEmpty then path
  else if folder.toList.getLast? == some '/' then folder ++ path
  else folder ++ "/" ++ path

end PrototypeLens.Text

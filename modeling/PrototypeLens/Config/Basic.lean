import PrototypeLens.Augment.Basic

/-!
# Configuration

The settings of a workspace, and why a configuration file is refused.
-/

namespace PrototypeLens

/-! ## Settings -/

/-- What is logged, and where to. -/
structure LoggingSettings where
  /-- The name of a level, or the directives of a log filter. -/
  level : String := "info"
  /-- Whether records are written as JSON. -/
  json : Bool := false
  /-- Whether records go to the standard error stream. -/
  stderr : Bool := true
  /-- The file that records are appended to. -/
  file : Option String := none
deriving DecidableEq, Repr

/-- The settings of a workspace. -/
structure Configuration where
  /-- What is logged. -/
  logging : LoggingSettings := {}
  /-- The optional features. -/
  features : Features := {}
  /-- How templates are found. -/
  discovery : DiscoverySettings := {}
deriving DecidableEq, Repr

/-! ## Errors -/

/-- Why a file could not be read. -/
inductive ReadError where
  /-- A component of the path is not there. -/
  | notFound
  /-- The path leads to a folder. -/
  | isFolder
  /-- The path leads through a file. -/
  | notAFolder
  /-- A component of the path, or the path itself, is too long. -/
  | nameTooLong
  /-- The content is not UTF-8. -/
  | notText
deriving DecidableEq, Repr

/-- The text of a read error, as the operating system words it. -/
def ReadError.message : ReadError → String
  | .notFound => "No such file or directory (os error 2)"
  | .isFolder => "Is a directory (os error 21)"
  | .notAFolder => "Not a directory (os error 20)"
  | .nameTooLong => "File name too long (os error 36)"
  | .notText => "stream did not contain valid UTF-8"

/-- Why there is no configuration. -/
inductive ConfigError where
  /-- The file could not be read. -/
  | unreadable (path : String) (cause : ReadError)
  /-- The text is not a TOML document. -/
  | malformed
  /-- A setting has a value of another type. -/
  | unexpectedType
  /-- No setting has this name; those that the table knows are listed. -/
  | unknownField (name : String) (known : List String)
deriving DecidableEq, Repr

/-- A name between backquotes. -/
def quoteName (name : String) : String := "\x60" ++ name ++ "\x60"

/-- The names that would have been right. -/
def expectedNames : List String → String
  | [] => "there are no fields"
  | [a] => "expected " ++ quoteName a
  | [a, b] => "expected " ++ quoteName a ++ " or " ++ quoteName b
  | names => "expected one of " ++ ", ".intercalate (names.map quoteName)

/-- The text of a configuration error. -/
def ConfigError.message : ConfigError → String
  | .unreadable path cause => "failed to read config file " ++ path ++ ": " ++ cause.message
  | .malformed => "failed to parse toml config: not a document"
  | .unexpectedType => "failed to parse toml config: unexpected type"
  | .unknownField name known =>
    "failed to parse toml config: unknown field " ++ quoteName name ++ ", " ++ expectedNames known

end PrototypeLens

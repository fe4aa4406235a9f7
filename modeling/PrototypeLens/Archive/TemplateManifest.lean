import PrototypeLens.Archive.Basic
import PrototypeLens.Text.Case

/-!
# Template manifests

The list of annotations that a generator library ships: one record `kind:name` a line. Blank lines,
comments and lines without a kind or a name are passed over.
-/

namespace PrototypeLens

/-- What a record declares its annotation to be. -/
inductive ManifestKind where
  /-- A generation template. -/
  | template
  /-- Any other kind, in lower case. -/
  | other (kind : String)
deriving DecidableEq, Repr

/-- A record of a manifest. -/
structure ManifestEntry where
  /-- The qualified name of the annotation. -/
  name : String
  /-- What it is. -/
  kind : ManifestKind
deriving DecidableEq, Repr

namespace ManifestEntry

/-- Whether a record declares a template. -/
def isTemplate (entry : ManifestEntry) : Bool := entry.kind == .template

/-- The kind that a word stands for. -/
def kindOfWord (word : String) : ManifestKind :=
  if Text.asciiLower word = "template" then .template else .other (Text.asciiLower word)

/-- The record on a line, if there is one. -/
def ofLine? (line : String) : Option ManifestEntry :=
  match Text.trimChars line.toList with
  | [] | '#' :: _ => none
  -- Only the first colon separates, so that a name may hold others.
  | cs => (Text.splitFirst? ':' cs).bind fun (kind, name) =>
    match Text.trimChars kind, Text.trimChars name with
    | [], _ | _, [] => none
    | kind, name => some ⟨String.ofList name, kindOfWord (String.ofList kind)⟩

/-- The records of a manifest, in order. -/
def parse (text : String) : List ManifestEntry := (Text.lines text).filterMap ofLine?

end ManifestEntry

/-- The records of the manifest at a path of an archive; an archive without one has no records. -/
def Archive.templateManifest (archive : Archive) (path : String) :
    Except ArchiveError (List ManifestEntry) :=
  (archive.readText path).map fun text => (text.map ManifestEntry.parse).getD []

end PrototypeLens

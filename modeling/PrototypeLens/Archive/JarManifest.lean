import PrototypeLens.Archive.Basic
import PrototypeLens.Table

/-!
# Jar manifests

The main section of a jar's manifest: headers `key: value` up to the first empty line. A line that
starts with a blank continues the value of the header before it.
-/

namespace PrototypeLens

/-- The headers of a main section. -/
structure JarManifest where
  /-- The values by key. -/
  headers : Table String String := ∅

namespace JarManifest

/-- The value of a header. -/
def get? (manifest : JarManifest) (key : String) : Option String := manifest.headers.get? key

/-- A section that is being read, with the key of its last header. -/
structure Progress where
  /-- The headers so far. -/
  headers : Table String String := ∅
  /-- The header that a continuation line extends. -/
  last : Option String := none

/-- Takes a line that is not empty. -/
def Progress.take (p : Progress) (line : List Char) : Progress :=
  match line with
  -- A continuation is not trimmed, unlike the value that it continues.
  | ' ' :: rest =>
    match p.last.bind fun key => (p.headers.get? key).map fun value => (key, value) with
    | some (key, value) => { p with headers := p.headers.insert key (value ++ String.ofList rest) }
    | none => p
  | _ =>
    match Text.splitFirst? ':' line with
    | some (key, value) =>
      let key := String.ofList (Text.trimChars key)
      ⟨p.headers.insert key (String.ofList (Text.trimChars value)), some key⟩
    -- A line without a colon leaves the last header open.
    | none => p

/-- The lines of the main section: all lines before the first empty one, without the carriage
returns at their ends. -/
def mainSection (text : String) : List (List Char) :=
  ((Text.lines text).map fun line => (line.toList.reverse.dropWhile (· == '\r')).reverse).takeWhile
    fun line => !line.isEmpty

/-- Reads the main section of a manifest. -/
def parse (text : String) : JarManifest :=
  ⟨((mainSection text).foldl Progress.take {}).headers⟩

end JarManifest

end PrototypeLens

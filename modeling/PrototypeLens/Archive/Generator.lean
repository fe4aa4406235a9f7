import PrototypeLens.Archive.JarManifest
import PrototypeLens.Text.Case

/-!
# The generator's own archives

Recognising the code generator among the archives of a class path, and reading its version off the
name of its jar.
-/

namespace PrototypeLens

/-! ## Version numbers -/

/-- The rest of a version number: `pendingDot` tells that a dot was read which counts only if a
digit follows it. -/
def versionTail (pendingDot : Bool) : List Char → List Char
  | [] => []
  | c :: cs =>
    if c.isDigit then (if pendingDot then ['.', c] else [c]) ++ versionTail false cs
    else if c = '.' && !pendingDot then versionTail true cs
    -- Also after a pending dot: a second dot in a row ends the number before both.
    else []

/-- The first dotted number in a file name; empty if the name has no digit. -/
def versionOfFileName (name : String) : String :=
  String.ofList (versionTail false (name.toList.dropWhile fun c => !c.isDigit))

/-! ## Recognising the generator -/

/-- Where a jar keeps its manifest. -/
def jarManifestPath : String := "META-INF/MANIFEST.MF"

/-- The vendor that the generator's jars name. -/
def generatorVendor : String := "Binis Belev"

/-- What the file name of a generator jar contains. -/
def generatorJarMarker : String := "code-generator"

/-- Whether a path is named like a jar of the generator. -/
def hasGeneratorName (path : String) : Bool :=
  (Text.extension? path).any (fun extension => Text.asciiLower extension = "jar") &&
    (Text.fileStem? path).any fun stem => Text.hasInside generatorJarMarker.toList stem.toList

/-- Whether an archive names the generator's vendor. -/
def Archive.isFromGeneratorVendor (archive : Archive) : Bool :=
  match archive.readText jarManifestPath with
  | .ok (some text) =>
    ((JarManifest.parse text).get? "Implementation-Vendor").any (Text.trim · = generatorVendor)
  -- An archive without a manifest that can be read names no vendor.
  | _ => false

/-- Whether the archive at a path is one of the generator's own. -/
def isGeneratorArchive (archiveAt : String → Archive) (path : String) : Bool :=
  hasGeneratorName path && (archiveAt path).isFromGeneratorVendor

/-- The version of the generator on a class path: that of the first of its archives whose name
carries one. -/
def generatorVersion? (archiveAt : String → Archive) (classpath : List String) : Option String :=
  ((classpath.filter (isGeneratorArchive archiveAt)).filterMap fun path =>
    (Text.fileName? path).map versionOfFileName).find? (· ≠ "")

end PrototypeLens

import PrototypeLens.Model.Expression
import PrototypeLens.Text.Path

/-!
# Files

What a host knows about a file: where it lies, the type references in it and its expressions.
-/

namespace PrototypeLens

/-- Where a file lies. -/
inductive FileLocation where
  /-- In the project's sources. -/
  | source
  /-- In the dependency archive at a path. -/
  | archive (path : String)
deriving DecidableEq, Repr

/-- A reference to a type in a source text. -/
structure TypeReference where
  /-- The qualified name of the type. -/
  name : String
  /-- The range of the reference. -/
  span : Span
  /-- The innermost declaration around it. -/
  enclosing : Option DeclId
deriving DecidableEq, Repr

structure SourceFile where
  /-- The path, inside its archive if it lies in one. -/
  path : String
  /-- Where it lies. -/
  location : FileLocation := .source
  /-- The build module it belongs to. -/
  buildModule : Option ModuleId := none
  /-- The type references in it, in order. -/
  references : List TypeReference := []
  /-- Its expressions. -/
  exprs : Arena := {}

/-- Whether a file is a Java source of the project. -/
def SourceFile.isJavaSource (file : SourceFile) : Bool :=
  file.location == .source && Text.extension? file.path == some "java"

end PrototypeLens

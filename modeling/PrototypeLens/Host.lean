import PrototypeLens.Archive.Generator
import PrototypeLens.Failure
import PrototypeLens.Model.Declaration
import PrototypeLens.Model.SourceFile
import PrototypeLens.Walk

/-!
# The host

The queries that the engine puts to the program model of its host. A host knows finitely many
names and declarations; it lists them, and the lists bound every lookup.
-/

namespace PrototypeLens

/-- A program model that answers queries, or fails to. -/
structure Host where
  /-- The declaration with a qualified name. -/
  find : String → Except QueryError (Option DeclId)
  /-- The declaration behind an identifier. -/
  declaration : DeclId → Except QueryError Declaration
  /-- The file behind an identifier. -/
  file : FileId → Except QueryError SourceFile
  /-- The declarations of a file, in the order of their identifiers. -/
  declarationsIn : FileId → Except QueryError (List DeclId)
  /-- The archives on the project's class path. -/
  classpath : List String
  /-- What stands at the path of an archive. -/
  archiveAt : String → Archive
  /-- A list of all names that resolve. -/
  names : List String
  /-- A list of all identifiers with a declaration. -/
  ids : List DeclId
  /-- Names outside the list do not resolve. -/
  mem_names : ∀ {name id}, find name = .ok (some id) → name ∈ names
  /-- Identifiers outside the list have no declaration. -/
  mem_ids : ∀ {id decl}, declaration id = .ok decl → id ∈ ids

namespace Host

/-- The declaration with a qualified name, together with its identifier. -/
def findData (host : Host) (name : String) : Except QueryError (Option (DeclId × Declaration)) := do
  match ← host.find name with
  | some id => return some (id, ← host.declaration id)
  | none => return none

theorem findData_mem_names {host : Host} {name : String} {entry : DeclId × Declaration}
    (h : host.findData name = .ok (some entry)) : name ∈ host.names := by
  cases hf : host.find name with
  | error e => simp [findData, hf, bind, Except.bind] at h
  | ok found => cases found with
    | none => simp [findData, hf, bind, Except.bind, pure, Except.pure] at h
    | some id => exact host.mem_names hf

/-! ## Type graphs -/

/-- The declared types with some of the types they mention as neighbours. A node holds its
declaration; `neighbours` may also turn a declaration away. -/
def typeGraph (host : Host) (neighbours : Declaration → Option (List String)) :
    Graph QueryError String Declaration where
  expand name := (host.findData name).map fun entry =>
    entry.bind fun (_, decl) => (neighbours decl).map fun next => (decl, next)
  nodes := host.names
  mem_nodes {name a} h := by
    cases hd : host.findData name with
    | error e => simp [hd, Except.map] at h
    | ok entry => cases entry with
      | none => simp [hd, Except.map] at h
      | some entry => exact findData_mem_names hd

/-- The declared types with their supertypes. -/
def supertypeGraph (host : Host) : Graph QueryError String Declaration :=
  host.typeGraph fun decl => some decl.supertypes

/-! ## Assignability -/

/-- The root of all reference types. -/
def objectType : String := "java.lang.Object"

/-- Whether a value of type `source` may be assigned to the type named `target`: the same type, a
reference to the root type, a primitive to its box, or a type to one of its supertypes. -/
def isAssignable (host : Host) (source : JavaType) (target : String) : Except QueryError Bool :=
  if source.canonicalText = target then .ok true
  else match source with
    | .void => .ok false
    | .primitive p => .ok (p.wrapper == target || target == objectType)
    | .array _ => .ok (target == objectType)
    | .named name =>
      -- The root type is reached without asking the host.
      if target = objectType then .ok true
      else (host.supertypeGraph.walk [name] (· == target)).map (·.arrived)

end Host

end PrototypeLens

import PrototypeLens.Augment.Basic
import PrototypeLens.Registry.Refresh

/-!
# The editor's side

An editor keeps one registry for its workspace and runs each request in a session of its own. As
for lookups, cancellation is the only failure that it hands on.
-/

namespace PrototypeLens

/-! ## State -/

/-- What an editor keeps between requests. -/
structure Editor where
  /-- The answers of earlier lookups. -/
  registry : Registry := {}
  /-- Whether the class path carries the generator, once that was asked for. -/
  generatorUsed : Option Bool := none

/-- A request of an editor. -/
abbrev EditorM (α : Type) := ExceptT Cancelled (StateM Editor) α

/-- A computation behind a request, in which host queries may fail. -/
abbrev Inspection (α : Type) := SessionM QueryError α

namespace Inspection

/-- The answer of a host query. -/
def query {α : Type} (result : Except QueryError α) : Inspection α :=
  match result with
  | .ok a => pure a
  | .error e => throw e

/-- A request as a part of an inspection. -/
def ask {α : Type} (request : Request α) : Inspection α := fun s =>
  let (result, s) := request s
  (match result with
    | .ok a => .ok a
    -- Requests fail by cancellation alone.
    | .error _ => .error .cancelled, s)

/-- An inspection as a request: cancellation passes, and any other failure is answered by
`nothing`. -/
def contain {α : Type} (nothing : α) (inspection : Inspection α) : Request α := fun s =>
  let (result, s) := inspection s
  (match result with
    | .ok a => .ok a
    | .error .cancelled => .error {}
    | .error _ => .ok nothing, s)

end Inspection

namespace Editor

/-- Runs a request in a session of its own. -/
def run {α : Type} (request : Request α) : EditorM α := fun editor =>
  let (result, s) := request { registry := editor.registry }
  (result, { editor with registry := s.registry })

/-- Runs an inspection in a session of its own. -/
def inspect {α : Type} (nothing : α) (inspection : Inspection α) : EditorM α :=
  run (inspection.contain nothing)

/-! ## The generator -/

/-- Whether the class path carries one of the generator's archives. The answer is kept. -/
def isGeneratorUsed (host : Host) : EditorM Bool := do
  match (← get).generatorUsed with
  | some used => pure used
  | none =>
    -- No query to the host, so that the answer cannot be cancelled.
    let used := host.classpath.any (isGeneratorArchive host.archiveAt)
    modify fun editor => { editor with generatorUsed := some used }
    pure used

/-- The version of the generator on the class path. -/
def generatorVersion? (host : Host) : Option String :=
  PrototypeLens.generatorVersion? host.archiveAt host.classpath

/-! ## Members, refreshing and closing -/

/-- The members of a category that the generator will add to a declaration. -/
def augment (scope : Scope) (features : Features) (id : DeclId) (kind : MemberKind) :
    EditorM (List VirtualMember) :=
  run (Request.augment scope features id kind)

/-- Drops the answers that derive from a file and reports the build module that is affected. -/
def refresh (host : Host) (file : FileId) : EditorM (List ModuleId) := fun editor =>
  let (result, registry) := editor.registry.refresh host file
  (result, { editor with registry })

/-- Whether a saved file may have changed answers: only Java sources of the project do. -/
def isRefreshedOnSave (host : Host) (file : FileId) : Except Cancelled Bool :=
  match host.file file with
  | .ok data => .ok data.isJavaSource
  | .error .cancelled => .error {}
  | .error _ => .ok false

/-- Refreshes the files that were saved, in order, and reports the affected build modules. -/
def filesSaved (host : Host) : List FileId → EditorM (List ModuleId)
  | [] => pure []
  | file :: files => do
    match isRefreshedOnSave host file with
    | .error e => throw e
    | .ok false => filesSaved host files
    | .ok true =>
      let affected ← refresh host file
      -- If a later file is cancelled, what this one reported is lost.
      return affected ++ (← filesSaved host files)

/-- Forgets the answers of earlier lookups. -/
def closeRegistry (editor : Editor) : Editor := { editor with registry := editor.registry.close }

/-- Forgets everything. -/
def close (editor : Editor) : Editor := { registry := editor.registry.close }

end Editor

/-! ## Positions -/

/-- Where a link to a declaration leads: the path of its file and the offset of its name. -/
def navigationTarget (host : Host) (id : DeclId) : Except QueryError String := do
  let decl ← host.declaration id
  let file ← host.file decl.file
  let offset := (decl.focus.map (·.start)).getD 0
  return file.path ++ ":" ++ toString offset

/-- The better candidate for the innermost declaration around an offset: a shorter span wins over
the one found before. -/
def innermost (offset : Nat) (best : Option (DeclId × Nat)) (id : DeclId) (span : Option Span) :
    Option (DeclId × Nat) :=
  match span with
  | none => best
  | some span =>
    -- A span as long as the best one so far does not replace it.
    if span.contains offset && best.all (fun (_, length) => span.length < length) then
      some (id, span.length)
    else best

/-- The innermost declaration of a file around an offset; of equally long ones the first. -/
def declarationAt? (host : Host) (file : FileId) (offset : Nat) :
    Except QueryError (Option DeclId) := do
  let ids ← host.declarationsIn file
  let best ← ids.foldlM (fun best id => do
    return innermost offset best id (← host.declaration id).span) none
  return best.map (·.1)

end PrototypeLens

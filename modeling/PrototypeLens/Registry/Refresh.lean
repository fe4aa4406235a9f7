import PrototypeLens.Host
import PrototypeLens.Registry.Basic

/-!
# Refreshing

Dropping the answers that were read from a file, and those derived from them, when the file has
changed. The build modules of what was dropped are reported, so that the host may rebuild them.
-/

namespace PrototypeLens

namespace Registry

/-! ## What derives from a file -/

/-- The names whose answers were read from a file. -/
def ownedBy (r : Registry) (file : FileId) : List String := r.owners.keysWhere (· == file)

/-- Names with the names whose answers were derived from theirs. -/
def dependencyGraph (r : Registry) : Graph Empty String Unit where
  expand name := .ok ((r.dependents.get? name).map fun names => ((), names))
  nodes := r.dependents.entries.map (·.1)
  mem_nodes {name a} h := by
    obtain ⟨names, hn, _⟩ := Option.map_eq_some_iff.1 (Except.ok.inj h)
    exact Table.mem_keys_of_get? hn

/-- The given names and all names whose answers were derived from theirs, in any number of
steps. -/
def withDependents (r : Registry) (names : List String) : List String :=
  match r.dependencyGraph.walk names with
  | .ok journey => journey.seen

/-! ## Dropping names -/

/-- Whether there is an answer about a name. -/
def answers (r : Registry) (name : String) : Bool :=
  r.classes.contains name || r.templates.contains name || r.knownTemplates.contains name ||
    r.nonTemplates.contains name || r.generated.contains name || r.nonGenerated.contains name ||
    r.validators.contains name

/-- Drops everything about a name. -/
def forget (r : Registry) (name : String) : Registry :=
  { r with
    classes := r.classes.erase name
    templates := r.templates.erase name
    knownTemplates := r.knownTemplates.remove name
    -- Also names that are never templates, which an invalidation puts back.
    nonTemplates := r.nonTemplates.remove name
    generated := r.generated.erase name
    nonGenerated := r.nonGenerated.remove name
    validators := r.validators.erase name
    owners := r.owners.erase name
    dependents := r.dependents.erase name }

/-- Drops everything about the given names. If a template is among them, all answers that a
template may change go too. -/
def forgetAll (r : Registry) (names : List String) : Registry :=
  let dropped := names.foldl forget { r with epoch := r.epoch + 1 }
  -- Asked of the registry before anything was dropped.
  if names.any (· ∈ r.knownTemplates) then dropped.invalidateAll else dropped

/-! ## Refreshing a file -/

/-- The qualified names that a file declares. -/
def declaredNames (host : Host) (file : FileId) : Except QueryError (List String) := do
  let decls ← (← host.declarationsIn file).mapM host.declaration
  return decls.filterMap (·.qualifiedName)

/-- The names that a refresh of a file starts from. Where the host cannot tell what the file
declares, the recorded owners have to do. -/
def refreshedNames (r : Registry) (host : Host) (file : FileId) :
    Except Cancelled (List String) :=
  match declaredNames host file with
  | .ok declared => .ok (r.ownedBy file ++ declared)
  | .error .cancelled => .error {}
  | .error _ => .ok (r.ownedBy file)

/-- The build module of a file as far as the host can tell. -/
def moduleOf (host : Host) (file : FileId) : Except Cancelled (List ModuleId) :=
  match host.file file with
  | .ok data => .ok data.buildModule.toList
  | .error .cancelled => .error {}
  | .error _ => .ok []

/-- Drops what derives from a file and reports the build module that is affected. A cancellation
before anything was dropped leaves the registry as it is. -/
def refresh (r : Registry) (host : Host) (file : FileId) :
    Except Cancelled (List ModuleId) × Registry :=
  match r.refreshedNames host file with
  | .error e => (.error e, r)
  | .ok names =>
    -- The dependents of what the file declares are found before anything is dropped.
    let names := r.withDependents names
    (if names.any r.answers then moduleOf host file else .ok [], r.forgetAll names)

end Registry

end PrototypeLens

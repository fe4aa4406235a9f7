import PrototypeLens.Host
import PrototypeLens.Registry.Basic

/-!
# Sessions

A lookup runs in a session: the registry of the workspace together with the recursion guards of the
request. Lookups re-enter each other, as registering a declaration discovers the templates of its
annotations, which discovers theirs; the guards keep each of them from re-entering itself. What a
lookup has changed in the registry stays when it fails.
-/

namespace PrototypeLens

/-! ## Guards -/

/-- What is being computed further up in the same request. -/
structure Guards where
  /-- Annotations that are being discovered. -/
  discovering : NameSet := []
  /-- Declarations that are being registered. -/
  registering : NameSet := []
  /-- Templates whose defaults are being computed. -/
  defaulting : NameSet := []
  /-- Annotations whose validation facets are being resolved. -/
  validating : NameSet := []
  /-- How many registrations of declarations and templates are nested. -/
  depth : Nat := 0
  /-- Declarations that members are being added to. -/
  augmenting : List DeclId := []
deriving DecidableEq, Repr

namespace Guards

/-- Marks a declaration as one that members are being added to. -/
def mark (g : Guards) (id : DeclId) : Guards := { g with augmenting := id :: g.augmenting }

/-- Takes the mark off a declaration. -/
def unmark (g : Guards) (id : DeclId) : Guards :=
  { g with augmenting := g.augmenting.filter (· ≠ id) }

/-- Taking the mark off a declaration undoes marking one that was not marked. -/
theorem unmark_mark {g : Guards} {id : DeclId} (h : id ∉ g.augmenting) :
    (g.mark id).unmark id = g := by
  have hsame : g.augmenting.filter (· ≠ id) = g.augmenting :=
    List.filter_eq_self.2 fun other hother => by simpa using (ne_of_mem_of_not_mem hother h)
  rw [mark, unmark, List.filter_cons_of_neg (by simp), hsame]

end Guards

/-- The state of a request. -/
structure Session where
  /-- The answers of earlier lookups. -/
  registry : Registry
  /-- What this request is computing. -/
  guards : Guards := {}

/-! ## The scope of a lookup -/

/-- How templates and generated declarations are told apart from others. -/
structure DiscoverySettings where
  /-- Where an archive keeps its template manifest. -/
  manifestPath : String := "binis/annotations"
  /-- The annotations that mark a generated declaration and name its prototype. -/
  generatedMarkers : List String := ["javax.annotation.processing.Generated"]
deriving DecidableEq, Repr

/-- What a lookup asks: the host, under the settings of the workspace. -/
structure Scope where
  host : Host
  settings : DiscoverySettings

/-! ## Computations -/

/-- A computation in a session that may fail; the session outlives the failure. -/
abbrev SessionM (ε α : Type) := ExceptT ε (StateM Session) α

abbrev Lookup (α : Type) := SessionM LookupError α

namespace Lookup

/-- The answer of a host query. -/
def query {α : Type} (result : Except QueryError α) : Lookup α :=
  match result with
  | .ok a => pure a
  | .error e => throw (.query e)

/-- A result that needs no session. -/
def ofExcept {α : Type} (result : Except LookupError α) : Lookup α :=
  match result with
  | .ok a => pure a
  | .error e => throw e

def ask {α : Type} (view : Registry → α) : Lookup α := return view (← get).registry

def askGuards {α : Type} (view : Guards → α) : Lookup α := return view (← get).guards

/-- Changes the registry. -/
def record (change : Registry → Registry) : Lookup Unit :=
  modify fun s => { s with registry := change s.registry }

end Lookup

/-- Runs a computation between two changes of the guards; the second one is made however it
ends. -/
def SessionM.within {ε α : Type} (enter leave : Guards → Guards) (body : SessionM ε α) :
    SessionM ε α :=
  fun s =>
    let (result, s) := body { s with guards := enter s.guards }
    -- The registry is that of the body, also after a failure.
    (result, { s with guards := leave s.guards })

/-- Runs a registration. -/
def SessionM.nested {ε α : Type} (body : SessionM ε α) : SessionM ε α :=
  body.within (fun g => { g with depth := g.depth + 1 }) (fun g => { g with depth := g.depth - 1 })

end PrototypeLens

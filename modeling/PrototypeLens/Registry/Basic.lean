import PrototypeLens.Descriptor.Basic
import PrototypeLens.Registry.ValidationDescriptor

/-!
# The registry

The registry of a workspace keeps the answers of earlier lookups. Its tables are filled one name at
a time. Each answer is kept only if no invalidation happened since its computation began, which the
epoch tells; and each is kept together with the file that it was read from, so that it can be
dropped when the file changes.
-/

namespace PrototypeLens

/-! ## Well-known annotations -/

/-- The root template of prototypes. -/
def codePrototype : String := "net.binis.codegen.annotation.CodePrototype"

/-- The root template of enums. -/
def enumPrototype : String := "net.binis.codegen.annotation.EnumPrototype"

/-- The root templates; every other template derives from one of them or carries the marker. -/
def rootTemplates : List String := [codePrototype, enumPrototype]

/-- The annotation that marks an annotation type as a template. -/
def templateMarker : String := "net.binis.codegen.annotation.CodePrototypeTemplate"

/-- Names that are never templates. -/
def neverTemplates : NameSet :=
  ["java.lang.annotation.Target", "java.lang.annotation.Retention",
   "java.lang.annotation.Documented", "java.lang.annotation.Inherited",
   "java.lang.annotation.Repeatable", "java.lang.annotation.Native",
   "java.util.Collections", "java.util.Map", "java.util.Set", "java.util.List"]

/-! ## Tables -/

/-- The answers of earlier lookups. -/
structure Registry where
  /-- Counts the invalidations. -/
  epoch : Nat := 0
  /-- Declarations with the prototype they were resolved to, if any. -/
  classes : Table String (Option Descriptor) := ∅
  /-- Templates with their defaults. -/
  templates : Table String Descriptor := ∅
  /-- Every annotation that was registered as a template. -/
  knownTemplates : NameSet := []
  /-- Annotations that are not templates. -/
  nonTemplates : NameSet := neverTemplates
  /-- Generated declarations with the name of their prototype. -/
  generated : Table String String := ∅
  /-- Declarations that are not generated. -/
  nonGenerated : NameSet := []
  /-- Annotations with what they validate. -/
  validators : Table String ValidationDescriptor := ∅
  /-- The file that the answers about a name were read from. -/
  owners : Table String FileId := ∅
  /-- The templates and validation annotations whose answers were derived from an annotation. -/
  dependents : Table String NameSet := ∅

namespace Registry

/-! ## Recording -/

/-- Records the file that the answers about a name were read from. -/
def recordOwner (r : Registry) (name : String) (file : FileId) : Registry :=
  { r with owners := r.owners.insert name file }

/-- Records the owner of a name if its file is known. -/
def recordOwner? (r : Registry) (name : String) : Option FileId → Registry
  | some file => r.recordOwner name file
  | none => r

/-- Records that the answer about `dependent` was derived from `parent`. -/
def recordDependent (r : Registry) (parent dependent : String) : Registry :=
  { r with dependents :=
      r.dependents.insert parent (((r.dependents.get? parent).getD []).add dependent) }

/-! ## Publishing -/

/-- The prototype that a declaration was resolved to, kept if the epoch is still that of the
computation. -/
def publishClass (r : Registry) (epoch : Nat) (name : String) (file : FileId)
    (prototype : Option Descriptor) : Registry :=
  if r.epoch = epoch then
    -- The first answer of an epoch stays.
    { r with classes := r.classes.insertNew name prototype }.recordOwner name file
  else r

/-- The defaults of a template, kept if the epoch is still that of the computation. -/
def publishTemplate (r : Registry) (epoch : Nat) (name : String) (file : Option FileId)
    (defaults : Descriptor) : Registry :=
  if r.epoch = epoch then
    { r with templates := r.templates.insertNew name defaults }.recordOwner? name file
  else r

/-- The prototype of a generated declaration, kept if the epoch is still that of the
computation. -/
def publishGenerated (r : Registry) (epoch : Nat) (name : String) (file : FileId)
    (prototype : String) : Registry :=
  if r.epoch = epoch then
    { r with generated := r.generated.insertNew name prototype }.recordOwner name file
  else r

/-- That a declaration is not generated, kept if the epoch is still that of the computation. -/
def publishNonGenerated (r : Registry) (epoch : Nat) (name : String) (file : FileId) : Registry :=
  if r.epoch = epoch then
    { r with nonGenerated := r.nonGenerated.add name }.recordOwner name file
  else r

/-- What an annotation validates, kept if the epoch is still that of the computation. -/
def publishValidator (r : Registry) (epoch : Nat) (name : String) (file : Option FileId)
    (descriptor : ValidationDescriptor) : Registry :=
  if r.epoch = epoch then
    { r with validators := r.validators.insertNew name descriptor }.recordOwner? name file
  else r

/-! ## Invalidation -/

/-- Drops every answer that a new template may change: all but the known templates, the
validators, the owners and the dependents. -/
def invalidateAll (r : Registry) : Registry :=
  { r with
    epoch := r.epoch + 1
    templates := ∅
    classes := ∅
    generated := ∅
    nonGenerated := []
    nonTemplates := neverTemplates }

/-- Makes an annotation known as a template. One that was not known before invalidates what was
answered without it. -/
def announceTemplate (r : Registry) (name : String) : Registry :=
  if name ∈ r.knownTemplates then r
  else { r with knownTemplates := r.knownTemplates.add name }.invalidateAll

/-- Makes it known that an annotation is not a template, unless it is known as one. -/
def denyTemplate (r : Registry) (name : String) (file : Option FileId) : Registry :=
  if name ∈ r.knownTemplates || name ∈ r.nonTemplates then r
  else { r with nonTemplates := r.nonTemplates.add name }.recordOwner? name file

/-- Forgets everything; only the epoch goes on. -/
def close (r : Registry) : Registry := { epoch := r.epoch + 1 }

end Registry

end PrototypeLens

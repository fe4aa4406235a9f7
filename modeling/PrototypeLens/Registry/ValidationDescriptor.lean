/-!
# Validation descriptors

What a validation annotation does and which member types it may be used on.
-/

namespace PrototypeLens

/-- What an annotation validates. The defaults are those of an annotation that validates
nothing. -/
structure ValidationDescriptor where
  /-- The annotation type that this was derived from. -/
  declaration : Option String := none
  /-- The member types that are allowed: `none` leaves them to the usage, and an empty list allows
  every type. -/
  targets : Option (List String) := none
  /-- Whether it checks values. -/
  validator : Bool := false
  /-- Whether it changes values. -/
  sanitizer : Bool := false
  /-- Whether it runs code. -/
  executor : Bool := false
deriving DecidableEq, Repr

namespace ValidationDescriptor

/-- Whether the annotation is a validation annotation at all. -/
def isValidation (d : ValidationDescriptor) : Bool := d.validator || d.sanitizer || d.executor

/-- The root of the validators. -/
def validateRoot : String := "net.binis.codegen.annotation.validation.Validate"

/-- The root of the sanitizers. -/
def sanitizeRoot : String := "net.binis.codegen.annotation.validation.Sanitize"

/-- The root of the executors. -/
def executeRoot : String := "net.binis.codegen.annotation.validation.Execute"

/-- The descriptor of a root; it allows every type. -/
def root? (name : String) : Option ValidationDescriptor :=
  if name = validateRoot then
    some { declaration := some name, targets := some [], validator := true }
  else if name = sanitizeRoot then
    some { declaration := some name, targets := some [], sanitizer := true }
  else if name = executeRoot then
    some { declaration := some name, targets := some [], executor := true }
  else none

end ValidationDescriptor

end PrototypeLens

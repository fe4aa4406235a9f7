import PrototypeLens.Diagnostic
import PrototypeLens.Lookup.Class

/-!
# Validation annotations

Which annotations validate, sanitize or execute, and the findings about their usages. An annotation
type does what the first validation annotation on it does. The types that it may be used on come
from its usage, from the annotation it derives from, or from a predefined group.
-/

namespace PrototypeLens

/-! ## Target groups -/

/-- The interface that marks the predefined groups. -/
def targetsAware : String :=
  "net.binis.codegen.validation.consts.ValidationTargets.TargetsAware"

/-- What the names of the predefined groups start with. -/
def targetGroupScope : String := "net.binis.codegen.validation.consts.ValidationTargets."

/-- The primitive types of a group. -/
def groupPrimitives : List String :=
  ["int", "long", "double", "float", "short", "byte", "boolean", "char"]

/-- The boxes of a group. -/
def groupWrappers : List String :=
  ["java.lang.Integer", "java.lang.Long", "java.lang.Double", "java.lang.Float",
   "java.lang.Short", "java.lang.Byte", "java.lang.Boolean", "java.lang.Character"]

def numbersOf (types : List String) : List String :=
  types.filter fun type =>
    type ∉ ["boolean", "char", "java.lang.Boolean", "java.lang.Character"]

/-- The types of a predefined group. -/
def targetGroup? (name : String) : Option (List String) :=
  match (Text.dropStart? targetGroupScope.toList name.toList).map String.ofList with
  | some "Primitives" => some groupPrimitives
  | some "Wrappers" => some groupWrappers
  | some "Common" => some (groupPrimitives ++ groupWrappers ++ ["java.lang.String"])
  | some "PrimitiveNumbers" => some (numbersOf groupPrimitives)
  | some "WrapperNumbers" => some (numbersOf groupWrappers)
  | some "Numbers" => some (numbersOf groupPrimitives ++ numbersOf groupWrappers)
  | _ => none

/-! ## Findings -/

/-- The code of a usage outside prototypes. -/
def validationContextCode : String := "validation-context"

/-- The code of a usage on something other than a method. -/
def validationPlacementCode : String := "validation-placement"

/-- The code of a usage on a method of the wrong type. -/
def validationTargetCode : String := "validation-target-type"

/-- A usage has no effect here. -/
def contextFinding (mark : AnnotationUse) : Diagnostic where
  severity := .warning
  code := validationContextCode
  message := "Validation annotation @" ++ Text.simpleName mark.name ++
    " has effect only on prototypes"
  span := mark.span

/-- A usage belongs on a method. -/
def placementFinding (mark : AnnotationUse) : Diagnostic where
  severity := .warning
  code := validationPlacementCode
  message := "Validation annotation @" ++ Text.simpleName mark.name ++
    " should be applied to a method"
  span := mark.span

/-- A usage does not admit the type of its method. -/
def targetFinding (mark : AnnotationUse) (type : JavaType) (targets : List String) :
    Diagnostic where
  severity := .error
  code := validationTargetCode
  message := "Invalid type '" ++ type.canonicalText ++ "' for @" ++ Text.simpleName mark.name ++
    ". Allowed types: " ++ ", ".intercalate targets
  span := mark.span

namespace Lookup

variable (scope : Scope)

/-! ## Targets -/

/-- The types that a class literal among the targets stands for: a predefined group for its
members, if its declaration tells that it is one; any other class for itself. -/
def targetsOfClass (name : String) : Except QueryError (List String) :=
  (scope.host.findData name).map fun entry =>
    let aware := entry.any fun (_, decl) => decl.implemented.contains targetsAware
    if aware then (targetGroup? name).getD [name] else [name]

/-- The types that a `targets` attribute lists. -/
def targetsOf (value : AttrValue) : Except QueryError (List String) :=
  (value.classes.mapM (targetsOfClass scope)).map List.flatten

/-! ## Facets -/

/-- The targets that an annotation type takes over from a validation annotation on it: none of its
own accord if it leaves them to its usages, else those of the usage or of the annotation used. -/
def inheritedTargets (declaresTargets : Bool) (mark : AnnotationUse)
    (parent : ValidationDescriptor) : Lookup (Option (List String)) :=
  if declaresTargets then pure none
  else match mark.attr? "targets" with
    | some value => some <$> query (targetsOf scope value)
    | none => pure parent.targets

/-- What an annotation type validates by the annotations on it, where `facets` tells of others. An
annotation that is being resolved does not count. -/
def facetsOfUses (facets : String → Lookup ValidationDescriptor) (name : String)
    (declaresTargets : Bool) : List AnnotationUse → Lookup ValidationDescriptor
  | [] => pure {}
  | mark :: marks => do
    if (← askGuards (·.validating)).contains mark.name then
      facetsOfUses facets name declaresTargets marks
    else
      let parent ← facets mark.name
      -- Recorded also if nothing is taken over, since the annotation was asked.
      record (·.recordDependent mark.name name)
      if parent.isValidation then
        let targets ← inheritedTargets scope declaresTargets mark parent
        pure { parent with declaration := some name, targets }
      else facetsOfUses facets name declaresTargets marks

/-- Resolves an annotation, where `facets` resolves others, and keeps the answer. -/
def facetsStep (facets : String → Lookup ValidationDescriptor) (name : String) :
    Lookup ValidationDescriptor := do
  let epoch ← ask (·.epoch)
  let decl ← declarationOf? scope name
  let result ← match decl.filter (·.isAnnotationType) with
    | some decl =>
      facetsOfUses scope facets name (!(decl.methodsNamed "targets").isEmpty) decl.annotations
    | none => pure {}
  record (·.publishValidator epoch name (decl.map (·.file)) result)
  pure result

/-- What an annotation validates, through at most `limit` nested annotations. An annotation that is
met again validates nothing. -/
def facetsWithin : Nat → String → Lookup ValidationDescriptor
  | 0, _ => throw .tooDeep
  | limit + 1, name => do
    match ValidationDescriptor.root? name with
    | some root => pure root
    | none =>
      match ← ask (·.validators.get? name) with
      | some descriptor => pure descriptor
      | none =>
        -- Met again: answered without being kept.
        if (← askGuards (·.validating)).contains name then pure {}
        else
          SessionM.within (fun g => { g with validating := g.validating.add name })
            (fun g => { g with validating := g.validating.remove name })
            (facetsStep scope (facetsWithin limit) name)

/-- What an annotation validates. -/
def validationDescriptor (name : String) : Lookup ValidationDescriptor :=
  facetsWithin scope (scope.host.names.length + 1) name

/-! ## Usages -/

/-- Whether a type may be assigned to one of the targets, which are tried in order. -/
def isAllowed (type : JavaType) : List String → Except QueryError Bool
  | [] => .ok false
  | target :: targets => do
    if ← scope.host.isAssignable type target then return true
    isAllowed type targets

def isInPrototype (decl : Declaration) : Lookup Bool :=
  match decl.qualifiedName with
  | some name => return (← prototype? scope name).isSome
  | none => pure false

/-- The targets that hold for a usage: its own, if the annotation is one that takes them, or else
those of the annotation. -/
def usageTargets (mark : AnnotationUse) (descriptor : ValidationDescriptor) :
    Lookup (Option (List String)) :=
  match mark.attr? "targets", descriptor.declaration with
  | some value, some _ => some <$> query (targetsOf scope value)
  | _, _ => pure descriptor.targets

/-- The finding about the type of a method, if there is one. -/
def typeFindings (mark : AnnotationUse) (descriptor : ValidationDescriptor) (method : Method) :
    Lookup (List Diagnostic) := do
  let targets := (← usageTargets scope mark descriptor).getD []
  if targets.isEmpty then pure []
  else if ← query (isAllowed scope method.returnType targets) then pure []
  else pure [targetFinding mark method.returnType targets]

/-- The findings about one usage of a validation annotation. -/
def usageFindings (decl : Declaration) (target : SiteTarget) (mark : AnnotationUse)
    (descriptor : ValidationDescriptor) : Lookup (List Diagnostic) := do
  let inPrototype ← isInPrototype scope decl
  -- On an annotation type a usage defines another annotation, which may stand anywhere.
  let context := if inPrototype || decl.isAnnotationType then [] else [contextFinding mark]
  let method := match target with
    | .method index => decl.methods[index]?
    | _ => none
  match method with
  | none => pure (context ++ if decl.isAnnotationType then [] else [placementFinding mark])
  | some method => return context ++ (← typeFindings scope mark descriptor method)

/-- The findings about the annotation at a site; other annotations have none. -/
def siteFindings (site : AnnotationSite) : Lookup (List Diagnostic) := do
  let decl ← query (scope.host.declaration site.decl)
  match site.resolve? decl with
  | none => pure []
  | some mark =>
    let descriptor ← validationDescriptor scope mark.name
    if descriptor.isValidation then usageFindings scope decl site.target mark descriptor
    else pure []

end Lookup

end PrototypeLens

import PrototypeLens.Editor.Basic

/-!
# Problems

The inspections of a file: direct uses of prototypes, enrichers and prototypes in the wrong place,
and misused validation annotations.
-/

namespace PrototypeLens

/-! ## Findings -/

/-- The code of a direct use of a prototype. -/
def prototypeUsedCode : String := "prototype-used"

/-- The code of an enricher on a kind of declaration that it does not support. -/
def enricherTargetCode : String := "enricher-target"

/-- The code of an interface prototype on something else. -/
def strategyTargetCode : String := "prototype-strategy-target"

/-- A prototype is used where the generated type should be; if that is declared, the use can be
replaced. -/
def prototypeUsedFinding (file : FileId) (reference : TypeReference) (generated : String)
    (declared : Bool) : Diagnostic where
  severity := .warning
  code := prototypeUsedCode
  message := "Prototype '" ++ Text.simpleName reference.name ++
    "' is used directly, use the generated '" ++ Text.simpleName generated ++ "' instead"
  span := some reference.span
  fixes := if declared then
      [{ title := "Replace with '" ++ generated ++ "'"
         edits := [⟨file, reference.span, generated⟩] }]
    else []

/-- An enricher does not support a declaration. -/
def enricherTargetFinding (e : Enricher) (decl : Declaration) : Diagnostic where
  severity := e.severity
  code := enricherTargetCode
  message := "Enricher '" ++ e.displayName ++ "' can't be applied to " ++ decl.kind.describe ++
    ". Allowed targets: " ++ ", ".intercalate e.targetDescriptions
  span := decl.focus

/-- A prototype that has to be an interface is something else. -/
def strategyTargetFinding (d : Descriptor) (decl : Declaration) : Diagnostic where
  severity := .error
  code := strategyTargetCode
  message := "@" ++ (d.prototypeAnnotationName?.map Text.simpleName).getD "prototype" ++
    " can only be applied to interfaces"
  span := decl.focus

/-- Whether a prototype has to be an interface. -/
def Descriptor.isInterfaceOnly (d : Descriptor) : Bool := d.strategy == .prototype || d.isEnum

/-- The findings about a prototype's declaration. -/
def placementFindings (d : Descriptor) (decl : Declaration) : List Diagnostic :=
  (d.enrichers.filter (!·.appliesTo decl.kind)).map (enricherTargetFinding · decl) ++
    if d.isInterfaceOnly && decl.kind != .interfaceType then [strategyTargetFinding d decl] else []

namespace Inspection

variable (scope : Scope)

/-! ## Direct uses of prototypes -/

/-- Whether uses of prototypes inside a declaration are reported: not in prototypes, and not in
anonymous or local classes. -/
def reportsUses (enclosing : DeclId) : Inspection Bool := do
  let decl ← query (scope.host.declaration enclosing)
  if decl.qualifiedName.isNone then pure false
  else return !(← ask (Request.isPrototypeDecl scope enclosing))

/-- The finding about a type reference, if there is one. -/
def useFindings (file : FileId) (reference : TypeReference) : Inspection (List Diagnostic) := do
  match reference.enclosing with
  | none => pure []
  | some enclosing =>
    if !(← reportsUses scope enclosing) then pure []
    else if !(← ask (Request.isPrototype scope reference.name)) then pure []
    else
      let generated ← ask (Request.generatedNameOf scope reference.name)
      let declared := (← ask (Request.findDeclaration scope generated)).isSome
      pure [prototypeUsedFinding file reference generated declared]

/-- The direct uses of prototypes in a file. -/
def prototypeUses (file : FileId) : Inspection (List Diagnostic) := do
  -- The declarations of the file are registered before any of its references is looked at.
  (← query (scope.host.declarationsIn file)).forM fun id =>
    ask (Request.registerDeclaration scope id)
  let data ← query (scope.host.file file)
  return (← data.references.mapM (useFindings scope file)).flatten

/-! ## Misplaced prototypes and enrichers -/

/-- The findings about a declaration if it is a prototype. -/
def declarationPlacement (id : DeclId) : Inspection (List Diagnostic) := do
  match ← ask (Request.prototypeDataOf scope id) with
  | none => pure []
  | some d => return placementFindings d (← query (scope.host.declaration id))

/-- The misplaced enrichers and prototypes of a file. -/
def misplaced (file : FileId) : Inspection (List Diagnostic) := do
  let ids ← query (scope.host.declarationsIn file)
  return (← ids.mapM (declarationPlacement scope)).flatten

/-! ## Validation annotations -/

/-- The findings about the validation annotations of a declaration. -/
def declarationValidation (id : DeclId) : Inspection (List Diagnostic) := do
  let decl ← query (scope.host.declaration id)
  let findings ← (AnnotationSite.all id decl).mapM fun site =>
    ask (Request.validationFindings scope site)
  return findings.flatten

/-- The misused validation annotations of a file. -/
def misusedValidation (file : FileId) : Inspection (List Diagnostic) := do
  let ids ← query (scope.host.declarationsIn file)
  return (← ids.mapM (declarationValidation scope)).flatten

end Inspection

/-! ## Requests -/

namespace Editor

/-- The direct uses of prototypes in a file, unless the feature is off. -/
def usageProblems (scope : Scope) (features : Features) (file : FileId) :
    EditorM (List Diagnostic) :=
  if features.prototypeUsageInspection then inspect [] (Inspection.prototypeUses scope file)
  else pure []

/-- The misplaced enrichers and prototypes of a file. -/
def placementProblems (scope : Scope) (file : FileId) : EditorM (List Diagnostic) :=
  inspect [] (Inspection.misplaced scope file)

/-- The misused validation annotations of a file. -/
def validationProblems (scope : Scope) (file : FileId) : EditorM (List Diagnostic) :=
  inspect [] (Inspection.misusedValidation scope file)

/-- All problems of a file. -/
def problems (scope : Scope) (features : Features) (file : FileId) :
    EditorM (List Diagnostic) := do
  let uses ← usageProblems scope features file
  let misplaced ← placementProblems scope file
  let misused ← validationProblems scope file
  return uses ++ misplaced ++ misused

end Editor

end PrototypeLens

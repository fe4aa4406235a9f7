import PrototypeLens.Editor.Basic

/-!
# Suppressed diagnostics

Diagnostics of the host that generated code makes moot. Whatever is not known to be moot is shown.
-/

namespace PrototypeLens

/-- The host's complaint about an annotation type that extends others. -/
def annotationExtendsError : String := "@interface may not have extends list"

/-- Whether an enricher makes a message moot: for one of the members that its filter selects the
message is the one it suppresses. -/
def Enricher.suppressesMessage (e : Enricher) (decl : Declaration) (message : String) : Bool :=
  match e.suppresses, e.filter with
  | some template, some filter =>
    (filter.select decl).any fun param =>
      message == template.render param.name param.type.canonicalText
  | _, _ => false

/-- Whether a message about a declaration is shown. -/
def showsMessage (d : Option Descriptor) (decl : Declaration) (message : String) : Bool :=
  !(d.any fun d => d.enrichers.any (·.suppressesMessage decl message)) &&
    !(decl.isAnnotationType && message == annotationExtendsError)

/-- Whether a message at a span of a file is shown. -/
def Inspection.acceptsAt (scope : Scope) (file : FileId) (message : String) (span : Span) :
    Inspection Bool := do
  match ← query (declarationAt? scope.host file span.start) with
  | none => pure true
  | some id =>
    let decl ← query (scope.host.declaration id)
    return showsMessage (← ask (Request.prototypeDataOf scope id)) decl message

/-- Whether the host should show a diagnostic that it reports in a file. Only in Java sources of a
project that uses the generator is anything hidden. -/
def Editor.acceptsDiagnostic (scope : Scope) (file : FileId) (diagnostic : Diagnostic) :
    EditorM Bool := do
  match scope.host.file file with
  | .error .cancelled => throw {}
  | .error _ => pure true
  | .ok data =>
    if !data.isJavaSource then pure true
    else if !(← isGeneratorUsed scope.host) then pure true
    else match diagnostic.span with
      | none => pure true
      | some span => inspect true (Inspection.acceptsAt scope file diagnostic.message span)

end PrototypeLens

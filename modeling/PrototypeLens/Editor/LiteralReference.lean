import PrototypeLens.Editor.Basic

/-!
# References in text literals

Texts that name a type: the value of a generated marker, and every attribute of the generator's
annotation for defaults.
-/

namespace PrototypeLens

/-- A reference from a text literal to a declaration. -/
structure LiteralReference where
  /-- The range of the text without its quotes. -/
  span : Span
  /-- The text. -/
  name : String
  /-- The declaration that it names. -/
  target : DeclId
deriving DecidableEq, Repr

/-- The generator's annotation for defaults. -/
def defaultAnnotationName : String := "net.binis.codegen.annotation.Default"

/-- The range of a text inside its quotes. -/
def textSpan (quoted : Span) (text : String) : Span :=
  ⟨quoted.start + 1, quoted.start + 1 + text.utf8ByteSize⟩

/-- The texts of an annotation that may name a type, with their ranges. -/
def referringTexts (markers : List String) (mark : AnnotationUse) : List (String × Span) :=
  let isDefault := mark.goesBy defaultAnnotationName
  if !isDefault && !markers.any mark.goesBy then []
  else mark.attrs.filterMap fun attr =>
    if !isDefault && attr.name != "value" then none
    else match attr.value, attr.span with
      | .text text, some span => some (text, textSpan span text)
      | _, _ => none

/-- The reference that a text makes, if it names a declaration. -/
def literalReference? (host : Host) (text : String × Span) :
    Except QueryError (Option LiteralReference) :=
  (host.find text.1).map fun target => target.map fun target => ⟨text.2, text.1, target⟩

/-- The references in the annotations of a declaration, in the order of their sites. -/
def declarationReferences (host : Host) (markers : List String) (id : DeclId) :
    Except QueryError (List LiteralReference) := do
  let decl ← host.declaration id
  let marks := (AnnotationSite.all id decl).filterMap (·.resolve? decl)
  let references ← (marks.flatMap (referringTexts markers)).mapM (literalReference? host)
  return references.filterMap fun reference => reference

/-- The references in the annotations of a file. -/
def fileReferences (host : Host) (markers : List String) (file : FileId) :
    Except QueryError (List LiteralReference) := do
  let ids ← host.declarationsIn file
  return (← ids.mapM (declarationReferences host markers)).flatten

/-- The references in the text literals of a file. -/
def Editor.literalReferences (scope : Scope) (file : FileId) : EditorM (List LiteralReference) :=
  inspect [] (Inspection.query (fileReferences scope.host scope.settings.generatedMarkers file))

end PrototypeLens

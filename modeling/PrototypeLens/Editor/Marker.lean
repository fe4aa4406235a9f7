import PrototypeLens.Editor.Basic

/-!
# Line markers

Gutter actions on prototypes, which rebuild the module of the file.
-/

namespace PrototypeLens

/-- A gutter action. -/
structure LineMarker where
  /-- The prototype. -/
  decl : DeclId
  /-- Where the marker stands. -/
  span : Option Span
  /-- The text of the action. -/
  tooltip : String := "Generate files"
  /-- The build module that the action rebuilds. -/
  buildModule : Option ModuleId
deriving DecidableEq, Repr

namespace Inspection

/-- The marker of a declaration if it is a prototype. -/
def declarationMarker (scope : Scope) (buildModule : Option ModuleId) (id : DeclId) :
    Inspection (List LineMarker) := do
  if ← ask (Request.isPrototypeDecl scope id) then
    let decl ← query (scope.host.declaration id)
    pure [{ decl := id, span := decl.focus, buildModule }]
  else pure []

def fileMarkers (scope : Scope) (file : FileId) : Inspection (List LineMarker) := do
  let data ← query (scope.host.file file)
  let ids ← query (scope.host.declarationsIn file)
  return (← ids.mapM (declarationMarker scope data.buildModule)).flatten

end Inspection

def Editor.lineMarkers (scope : Scope) (file : FileId) : EditorM (List LineMarker) :=
  inspect [] (Inspection.fileMarkers scope file)

end PrototypeLens

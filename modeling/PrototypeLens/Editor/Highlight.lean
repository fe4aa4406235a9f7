import PrototypeLens.Editor.Basic

/-!
# Highlights

Decorations that link prototypes with the types generated from them, and the calls of fluent
chains.
-/

namespace PrototypeLens

/-- The style of a decoration. -/
inductive HighlightKind where
  | className
  | keyword
deriving DecidableEq, Repr

/-- A decoration; its tooltip is a piece of markup with navigation links. -/
structure Highlight where
  /-- The range that is decorated. -/
  span : Span
  /-- The style. -/
  kind : HighlightKind
  /-- What is shown on request. -/
  tooltip : Option String := none
deriving DecidableEq, Repr

/-- The methods that are highlighted inside fluent chains. -/
def fluentKeywords : List String :=
  ["create", "find", "with", "done", "by", "and", "or", "in", "order", "asc", "desc", "where",
   "merge", "as", "sum", "min", "max", "count", "avg", "distinct", "group", "_add", "_if",
   "save", "delete", "join", "joinFetch", "leftJoin", "leftJoinFetch", "ensure", "reference",
   "references", "get", "list", "top", "page", "paginated", "paged", "tuple", "tuples",
   "prepare", "projection", "flush", "lock", "hint", "filter", "exists", "notExists", "remove",
   "run", "transaction", "size", "contains", "notContains", "containsAll", "containsOne",
   "containsNone", "isEmpty", "isNotEmpty"]

/-! ## Tooltips -/

def navigationLink (target text : String) : String :=
  "<a href=\"#navigation/" ++ target ++ "\">" ++ text ++ "</a>"

namespace Inspection

variable (scope : Scope)

/-- The tooltip of a prototype, with a link to what is generated from it. -/
def generatesTooltip (name : String) : Inspection String := do
  let generated ← ask (Request.generatedNameOf scope name)
  -- A type that is not there yet is linked all the same.
  let target ← match ← ask (Request.findDeclaration scope generated) with
    | some id => query (navigationTarget scope.host id)
    | none => pure "unknown"
  return "Generates " ++ navigationLink target generated

/-- The tooltip of a generated type, with a link to its prototype. -/
def generatedByTooltip (prototype : DeclId) : Inspection String := do
  let decl ← query (scope.host.declaration prototype)
  let target ← query (navigationTarget scope.host prototype)
  return "Generated by " ++ navigationLink target (decl.qualifiedName.getD decl.name)

/-- The decoration of a generated name, if its prototype is declared. -/
def generatedHighlight (name : String) (span : Span) (kind : HighlightKind) :
    Inspection (List Highlight) := do
  match ← ask (Request.prototypeClass scope name) with
  | some prototype => return [⟨span, kind, some (← generatedByTooltip scope prototype)⟩]
  | none => pure []

/-! ## Highlights of a file -/

/-- The decoration of a declaration's name. -/
def declarationHighlight (id : DeclId) : Inspection (List Highlight) := do
  let decl ← query (scope.host.declaration id)
  match decl.qualifiedName, decl.nameSpan with
  | some name, some span =>
    if ← ask (Request.isPrototypeDecl scope id) then
      return [⟨span, .className, some (← generatesTooltip scope name)⟩]
    -- A prototype that is generated as well is shown as a prototype.
    else if ← ask (Request.isGenerated scope name) then
      generatedHighlight scope name span .className
    else pure []
  | _, _ => pure []

/-- The decoration of a type reference. -/
def referenceHighlight (reference : TypeReference) : Inspection (List Highlight) := do
  -- Generated comes first here, the other way round than at the declaration.
  if ← ask (Request.isGenerated scope reference.name) then
    generatedHighlight scope reference.name reference.span .keyword
  else if ← ask (Request.isPrototype scope reference.name) then
    return [⟨reference.span, .keyword, some (← generatesTooltip scope reference.name)⟩]
  else pure []

/-- The decoration of a call, if it is a keyword of a fluent chain. -/
def callHighlight (exprs : Arena) (id : ExprId) : List Highlight :=
  match exprs.get? id with
  | some ⟨.call name _ _ nameSpan, _, _⟩ =>
    if fluentKeywords.contains name && (exprs.findRoot? id).isSome then [⟨nameSpan, .keyword, none⟩]
    else []
  | _ => []

/-- The decorations of a file: the names of its declarations, its type references, and the calls
of its fluent chains. -/
def fileHighlights (features : Features) (file : FileId) : Inspection (List Highlight) := do
  let data ← query (scope.host.file file)
  let ids ← query (scope.host.declarationsIn file)
  let declared ← ids.mapM (declarationHighlight scope)
  let referenced ← data.references.mapM (referenceHighlight scope)
  let calls := if features.fluentHighlighting then data.exprs.ids.map (callHighlight data.exprs)
    else []
  return (declared ++ referenced ++ calls).flatten

end Inspection

/-- The decorations of a file. -/
def Editor.annotate (scope : Scope) (features : Features) (file : FileId) :
    EditorM (List Highlight) :=
  inspect [] (Inspection.fileHighlights scope features file)

end PrototypeLens

import PrototypeLens.Archive.TemplateManifest
import PrototypeLens.Descriptor.Attributes
import PrototypeLens.Lookup.Session

/-!
# Templates

Which annotations are templates, and the defaults they contribute. An annotation is a template if
it is a root template, carries the marker, or carries a template itself. The annotations in an
archive are first looked up in the archive's manifest.

Discovery nests: an annotation is discovered through the annotations on its declaration. The nested
discoveries are of different annotations, all but the last of them declared, so that the names of
the host bound their number.
-/

namespace PrototypeLens

namespace Lookup

variable (scope : Scope)

/-! ## Views and verdicts -/

/-- The defaults that are kept for a template. -/
def cachedTemplate? (name : String) : Lookup (Option Descriptor) := ask (·.templates.get? name)

/-- Whether an annotation is known not to be a template. -/
def isNonTemplate (name : String) : Lookup Bool := ask (·.nonTemplates.contains name)

/-- Whether an annotation is being discovered. -/
def isDiscovering (name : String) : Lookup Bool := askGuards (·.discovering.contains name)

/-- Makes it known that an annotation is not a template. -/
def denyTemplate (name : String) (file : Option FileId) : Lookup Unit :=
  record (·.denyTemplate name file)

/-- The enricher that a class declares, if the class is declared. -/
def resolveEnricher (className : String) : Except QueryError (Option Enricher) :=
  (scope.host.findData className).map fun entry =>
    entry.map fun (_, decl) => Enricher.ofDeclaration className decl

/-- The declaration with a qualified name. -/
def declarationOf? (name : String) : Lookup (Option Declaration) :=
  return (← query (scope.host.findData name)).map (·.2)

/-! ## Defaults -/

/-- The first annotation of a template that is itself known as another template. -/
def parentUse? (known : NameSet) (name : String) (decl : Option Declaration) :
    Option AnnotationUse :=
  decl.bind fun decl => decl.annotations.find? fun mark => mark.name != name && mark.name ∈ known

/-- What a template inherits from the template it carries: that one's defaults, changed by the
attributes of the usage. -/
def inheritedDefaults (recur : String → Option Declaration → Lookup Descriptor)
    (parent : AnnotationUse) : Lookup Descriptor := do
  let defaults ← match ← cachedTemplate? parent.name with
    | some defaults => pure defaults
    | none => recur parent.name (← declarationOf? scope parent.name)
  ofExcept (defaults.takeUsage (resolveEnricher scope) parent)

/-- The defaults of a template, given those of other templates: what it inherits, the flag of the
enum root, then its own element defaults. -/
def defaultsStep (recur : String → Option Declaration → Lookup Descriptor) (name : String)
    (decl : Option Declaration) : Lookup Descriptor := do
  let known ← ask (·.knownTemplates)
  let inherited ← match parentUse? known name decl with
    | some parent => inheritedDefaults scope recur parent
    | none => pure {}
  let flagged := if name = enumPrototype
    then inherited.setCustom Descriptor.enumKey (.flag true) else inherited
  match decl with
  | some decl => ofExcept (flagged.takeDefaults (resolveEnricher scope) name decl.methods)
  | none => pure flagged

/-- The defaults of a template through at most `limit` nested templates. A template that is met
again contributes the base defaults. -/
def defaultsWithin : Nat → String → Option Declaration → Lookup Descriptor
  | 0, _, _ => throw .tooDeep
  | limit + 1, name, decl => do
    if (← askGuards (·.defaulting)).contains name then pure {}
    else
      SessionM.within (fun g => { g with defaulting := g.defaulting.add name })
        (fun g => { g with defaulting := g.defaulting.remove name })
        (defaultsStep scope (defaultsWithin limit) name decl)

/-- The defaults of a template with a given declaration. -/
def templateDefaults (name : String) (decl : Option Declaration) : Lookup Descriptor :=
  defaultsWithin scope (scope.host.names.length + 2) name decl

/-! ## Registration -/

/-- Makes an annotation known as a template and keeps its defaults. -/
def registerTemplate (name : String) (decl : Option Declaration) : Lookup Descriptor := do
  record (·.announceTemplate name)
  -- The announcement may have invalidated everything, so the epoch is the one after it.
  let epoch ← ask (·.epoch)
  let defaults ← templateDefaults scope name decl
  record (·.publishTemplate epoch name (decl.map (·.file)) defaults)
  pure defaults

/-- The defaults of a template, which is registered unless they are kept. -/
def ensureTemplate (name : String) (decl : Option Declaration) : Lookup Descriptor := do
  match ← cachedTemplate? name with
  | some defaults => pure defaults
  | none => SessionM.nested (registerTemplate scope name decl)

/-! ## Discovery -/

/-- The template that an annotation is, where `discover` tells of those that are not known yet. An
annotation that is being discovered does not count. -/
def parentTemplate? (discover : String → Lookup (Option Descriptor)) (name : String) :
    Lookup (Option Descriptor) := do
  match ← cachedTemplate? name with
  | some defaults => pure (some defaults)
  | none => if ← isDiscovering name then pure none else discover name

/-- Takes one annotation on the declaration of the annotation `own`. The marker and every template
make `own` a template; what is neither is denied. -/
def inspectUse (discover : String → Lookup (Option Descriptor)) (own : String)
    (decl : Declaration) (result : Option Descriptor) (mark : AnnotationUse) :
    Lookup (Option Descriptor) := do
  if mark.name = templateMarker then
    -- Registered at once, while the other annotations are still to be taken.
    return some (← ensureTemplate scope own (some decl))
  else if ← isNonTemplate mark.name then
    pure result
  else
    match ← parentTemplate? discover mark.name with
    | some _ =>
      record (·.recordDependent mark.name own)
      return some (← ensureTemplate scope own (some decl))
    | none =>
      -- Also what is being discovered at the moment is denied here.
      denyTemplate mark.name none
      pure result

/-- Whether a declaration is a template by the annotations it carries. -/
def inspectDeclaration (discover : String → Lookup (Option Descriptor)) (decl : Declaration) :
    Lookup (Option Descriptor) :=
  match decl.qualifiedName with
  | none => pure none
  | some own => decl.annotations.foldlM (inspectUse scope discover own decl) none

/-- Discovers an annotation on a template of a manifest, unless its status is known. -/
def discoverUse (discover : String → Lookup (Option Descriptor)) (mark : AnnotationUse) :
    Lookup Unit := do
  if mark.name = templateMarker then pure ()
  else if ← isDiscovering mark.name then pure ()
  else if ← isNonTemplate mark.name then pure ()
  else if ← ask (·.knownTemplates.contains mark.name) then pure ()
  else discard (discover mark.name)

/-- Takes a template of a manifest. It is believed only if it is a root or carries the marker. -/
def takeListed (discover : String → Lookup (Option Descriptor)) (name : String) :
    Lookup Unit := do
  let decl ← declarationOf? scope name
  if rootTemplates.contains name then
    discard (ensureTemplate scope name decl)
  else match decl with
    | none => pure ()
    | some decl =>
      if decl.isAnnotatedWith templateMarker then
        -- The templates it carries come first, so that it inherits from them.
        decl.annotations.forM (discoverUse discover)
        discard (ensureTemplate scope name (some decl))
      else denyTemplate name (some decl.file)

/-- Takes the templates of a manifest whose defaults are not kept. -/
def takeManifest (discover : String → Lookup (Option Descriptor))
    (entries : List ManifestEntry) : Lookup Unit :=
  (entries.filter (·.isTemplate)).forM fun entry => do
    match ← cachedTemplate? entry.name with
    | some _ => pure ()
    | none => takeListed scope discover entry.name

/-- The verdict on an annotation that is declared: what is not a template is denied. -/
def settle (name : String) (decl : Declaration) (result : Option Descriptor) :
    Lookup (Option Descriptor) := do
  if result.isNone then denyTemplate name (some decl.file)
  pure result

/-- Discovers a declared annotation in an archive. Without a readable manifest nothing is decided,
and without records it is not a template. -/
def discoverArchived (discover : String → Lookup (Option Descriptor)) (archive : Archive)
    (name : String) (decl : Declaration) : Lookup (Option Descriptor) := do
  match archive.templateManifest scope.settings.manifestPath with
  | .error _ => pure none
  | .ok [] =>
    denyTemplate name none
    pure none
  | .ok entries =>
    takeManifest scope discover entries
    -- A manifest that does not list the annotation leaves the decision to its declaration.
    match ← cachedTemplate? name with
    | some defaults => pure (some defaults)
    | none => settle name decl (← inspectDeclaration scope discover decl)

/-- Discovers an annotation, where `discover` discovers others. -/
def discoverStep (discover : String → Lookup (Option Descriptor)) (name : String) :
    Lookup (Option Descriptor) := do
  let decl ← declarationOf? scope name
  -- A root needs no declaration.
  if rootTemplates.contains name then
    return some (← ensureTemplate scope name decl)
  else match decl with
    | none => pure none
    | some decl =>
      match (← query (scope.host.file decl.file)).location with
      | .archive path => discoverArchived scope discover (scope.host.archiveAt path) name decl
      | .source => settle name decl (← inspectDeclaration scope discover decl)

/-- Discovers an annotation through at most `limit` nested discoveries. -/
def discoverWithin : Nat → String → Lookup (Option Descriptor)
  | 0, _ => throw .tooDeep
  | limit + 1, name =>
    SessionM.within (fun g => { g with discovering := g.discovering.add name })
      (fun g => { g with discovering := g.discovering.remove name })
      (discoverStep scope (discoverWithin limit) name)

/-- Discovers an annotation. -/
def discover (name : String) : Lookup (Option Descriptor) :=
  discoverWithin scope (scope.host.names.length + 1) name

/-- The defaults of an annotation if it is a template. -/
def template? (name : String) : Lookup (Option Descriptor) := do
  match ← cachedTemplate? name with
  | some defaults => pure (some defaults)
  | none =>
    if ← isNonTemplate name then pure none
    else if ← isDiscovering name then pure none
    else discover scope name

end Lookup

end PrototypeLens

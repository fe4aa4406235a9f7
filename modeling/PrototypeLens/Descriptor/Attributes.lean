import PrototypeLens.Descriptor.Basic
import PrototypeLens.Failure

/-!
# Descriptors from attributes

How the attributes of a template usage, and the element defaults of a template, change a
descriptor. Both go by the attribute's name. At a usage, blank texts count as absent and `name`
also derives the names of the class and the interface; element defaults are taken as they are.
-/

namespace PrototypeLens

/-- Where an attribute value comes from. -/
inductive AttrOrigin where
  /-- It is written at a usage of a template. -/
  | usage
  /-- It is the default of an element of a template. -/
  | templateDefault
deriving DecidableEq, Repr

namespace Descriptor

/-- The text that a value contributes. -/
def contributedText? (origin : AttrOrigin) (value : AttrValue) : Option String :=
  match origin with
  | .usage => value.nonBlankText?
  | .templateDefault => value.text?

/-- The names derived from the `name` of a usage: the interface drops every `Entity`. -/
def withName (d : Descriptor) (name : String) : Descriptor :=
  let interface := Text.replace "Entity" "" name
  { d with
    longModifierName := some (interface ++ ".Modify")
    interfaceName := some interface
    className := some name
    name := some name }

/-- Takes an attribute that no host query is needed for. -/
def takePlain (origin : AttrOrigin) (d : Descriptor) (name : String) (value : AttrValue) :
    Descriptor :=
  let text := contributedText? origin value
  match name with
  | "name" => match origin with
    | .usage => (text.map d.withName).getD d
    | .templateDefault => { d with name := text }
  -- Blank texts count here, even at a usage.
  | "interfaceName" => { d with interfaceName := value.text?.or d.interfaceName }
  | "interfacePackage" => { d with interfacePackage := text.or d.interfacePackage }
  | "implementationPackage" => { d with classPackage := text.or d.classPackage }
  | "basePath" => { d with basePath := text.or d.basePath }
  | "interfacePath" => { d with interfacePath := text.or d.interfacePath }
  | "implementationPath" => { d with implementationPath := text.or d.implementationPath }
  -- A value of another type leaves the setting as it is.
  | "generateConstructor" =>
    { d with generateConstructor := value.bool?.getD d.generateConstructor }
  | "generateImplementation" =>
    { d with generateImplementation := value.bool?.getD d.generateImplementation }
  | "generateInterface" => { d with generateInterface := value.bool?.getD d.generateInterface }
  | "classGetters" => { d with classGetters := value.bool?.getD d.classGetters }
  | "classSetters" => { d with classSetters := value.bool?.getD d.classSetters }
  | "interfaceSetters" => { d with interfaceSetters := value.bool?.getD d.interfaceSetters }
  | "base" => { d with base := value.bool?.getD d.base }
  | _ => d.setCustom name (.attr value)

/-- The enrichers that the class literals of a value name, in order; classes that do not resolve
are passed over. -/
def resolveEnrichers (resolve : String → Except QueryError (Option Enricher)) (value : AttrValue) :
    Except QueryError (List Enricher) :=
  (value.classes.mapM resolve).map (List.filterMap id)

/-- Takes an attribute of the annotation `usage`. A strategy has to be one of the constants. -/
def takeAttr (resolve : String → Except QueryError (Option Enricher)) (origin : AttrOrigin)
    (usage : String) (d : Descriptor) (name : String) (value : AttrValue) :
    Except LookupError Descriptor :=
  match name with
  -- The only attribute whose malformed value fails the usage.
  | "strategy" => match value.enumConstant?.bind Strategy.ofConstant? with
    | some strategy => .ok { d with strategy }
    | none => .error (.malformedAttribute usage name)
  | "enrichers" => match resolveEnrichers resolve value with
    | .ok enrichers => .ok { d with enrichers }
    | .error e => .error (.query e)
  | "inheritedEnrichers" => match resolveEnrichers resolve value with
    | .ok inheritedEnrichers => .ok { d with inheritedEnrichers }
    | .error e => .error (.query e)
  | _ => .ok (takePlain origin d name value)

/-- Takes a template usage: the annotation itself, then its attributes in order. -/
def takeUsage (resolve : String → Except QueryError (Option Enricher)) (d : Descriptor)
    (mark : AnnotationUse) : Except LookupError Descriptor :=
  mark.attrs.foldlM (fun d attr => takeAttr resolve .usage mark.name d attr.name attr.value)
    -- The name of the annotation comes first; an attribute called `prototype` replaces it.
    (d.setCustom prototypeKey (.text mark.name))

/-- Takes the element defaults of a template: those of the methods that are written in its source,
in order. -/
def takeDefaults (resolve : String → Except QueryError (Option Enricher)) (d : Descriptor)
    (template : String) (methods : List Method) : Except LookupError Descriptor :=
  methods.foldlM (fun d method => match method.origin, method.defaultValue with
    | .source, some value => takeAttr resolve .templateDefault template d method.name value
    | _, _ => .ok d) d

end Descriptor

end PrototypeLens

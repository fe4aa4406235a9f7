import PrototypeLens.Diagnostic
import PrototypeLens.Enricher.ElementFilter
import PrototypeLens.Enricher.MessageTemplate

/-!
# Enrichers

An enricher is a class that tells, by an annotation, which kind of member the generator adds to the
prototypes that name it.
-/

namespace PrototypeLens

/-! ## What an enricher adds, and to what -/

/-- The kind of member that is added. -/
inductive Augment where
  | field
  | method
  | constructor
  | getter
  | setter
deriving DecidableEq, Repr

/-- The kind of member that an enum constant stands for. -/
def Augment.ofConstant? : String → Option Augment
  | "FIELD" => some field
  | "METHOD" => some method
  | "CONSTRUCTOR" => some constructor
  | "GETTER" => some getter
  | "SETTER" => some setter
  | _ => none

/-- Whether the added members are fields. -/
def Augment.addsFields : Augment → Bool
  | field => true
  | _ => false

/-- What an enricher may be applied to. -/
inductive AugmentTarget where
  | everything
  | classType
  | interfaceType
  | enumType
  | annotationType
  | recordType
  | field
  | method
  | constructor
deriving DecidableEq, Repr

namespace AugmentTarget

/-- The target that an enum constant stands for. -/
def ofConstant? : String → Option AugmentTarget
  | "EVERYTHING" => some everything
  | "CLASS" => some classType
  | "INTERFACE" => some interfaceType
  | "ENUM" => some enumType
  | "ANNOTATION" => some annotationType
  | "RECORD" => some recordType
  | "FIELD" => some field
  | "METHOD" => some method
  | "CONSTRUCTOR" => some constructor
  | _ => none

/-- The word for a target in messages. -/
def describe : AugmentTarget → String
  | everything => "everything"
  | classType => "class"
  | interfaceType => "interface"
  | enumType => "enum"
  | annotationType => "annotation"
  | recordType => "record"
  | field => "field"
  | method => "method"
  | constructor => "constructor"

/-- Whether a target admits a kind of declaration. -/
def accepts : AugmentTarget → DeclKind → Bool
  | everything, _ => true
  | classType, .classType => true
  | interfaceType, .interfaceType => true
  | enumType, .enumType => true
  | annotationType, .annotationType => true
  | recordType, .recordType => true
  | _, _ => false

end AugmentTarget

/-- The severity that an enum constant stands for. -/
def Severity.ofConstant? : String → Option Severity
  | "ERROR" => some error
  | "WARNING" => some warning
  | "INFO" | "WEAK_WARNING" => some info
  | _ => none

/-! ## Enrichers -/

/-- The rule for one category of added members. -/
structure Enricher where
  /-- The qualified name of the enricher class. -/
  className : String
  /-- What it adds, if anything. -/
  adds : Option Augment := none
  /-- What it may be applied to. -/
  targets : List AugmentTarget := [.everything]
  /-- How serious it is to apply it to anything else. -/
  severity : Severity := .error
  /-- The name of the added member. -/
  name : String := ""
  /-- The text of the added member's type. -/
  typeText : String := ""
  /-- What it does, for the reader. -/
  description : Option String := none
  /-- The modifiers of the added member. -/
  modifiers : Modifiers := Modifiers.publicBit
  /-- Parameters that are always added. -/
  parameters : Option (List Parameter) := none
  /-- The members that are added as parameters before those. -/
  filter : Option ElementFilter := none
  /-- The host message that it makes moot for the members of its filter. -/
  suppresses : Option MessageTemplate := none
deriving DecidableEq, Repr

namespace Enricher

/-- The annotation that an enricher class carries. -/
def augmentAnnotationName : String := "net.binis.codegen.annotation.augment.CodeAugment"

/-! ## Reading an enricher class -/

/-- The parameter that a nested annotation describes. -/
def parameterOf (mark : AnnotationUse) : Parameter :=
  let text (key : String) := ((mark.attr? key).bind AttrValue.text?).getD ""
  ⟨text "name", JavaType.parse (text "type")⟩

/-- Takes an attribute of the nested description of the parameters. -/
def takeParameterAttr (e : Enricher) (attr : Attr AttrValue) : Enricher :=
  match attr.name with
  | "filter" => match attr.value.text? with
    -- A filter that does not parse is none, in place of one that was set before.
    | some text => { e with filter := ElementFilter.parse? text }
    | none => e
  | "suppresses" => match attr.value.text? with
    | some text => { e with suppresses := some ⟨text⟩ }
    | none => e
  | "params" => match (attr.value.elements.filterMap AttrValue.nested?).map parameterOf with
    | [] => e
    | params => { e with parameters := some params }
  | _ => e

/-- Takes an attribute of the annotation on the enricher class. -/
def takeAttr (e : Enricher) (attr : Attr AttrValue) : Enricher :=
  let value := attr.value
  match attr.name with
  | "adds" => { e with adds := value.enumConstant?.bind Augment.ofConstant? }
  | "targets" =>
    let constants := value.elements.filterMap AttrValue.enumConstant?
    -- Constants that are not known are left out, so that nothing may remain.
    { e with targets := constants.filterMap AugmentTarget.ofConstant? }
  | "severity" =>
    { e with severity := (value.enumConstant?.bind Severity.ofConstant?).getD .error }
  -- Blank texts do not replace what was there.
  | "name" => { e with name := value.nonBlankText?.getD e.name }
  | "type" => { e with typeText := value.nonBlankText?.getD e.typeText }
  | "description" => { e with description := value.nonBlankText? }
  | "modifier" => { e with modifiers := (value.int?.map Modifiers.ofReflection).getD e.modifiers }
  | "parameters" => match value.nested? with
    | some mark => mark.attrs.foldl takeParameterAttr e
    | none => e
  | _ => e

/-- The enricher that a class declares. A class without the annotation adds nothing. -/
def ofDeclaration (className : String) (decl : Declaration) : Enricher :=
  match decl.annotationUse? augmentAnnotationName with
  | some mark => mark.attrs.foldl takeAttr { className := className }
  | none => { className := className }

/-! ## Applying an enricher -/

/-- Whether an enricher may be applied to a kind of declaration. -/
def appliesTo (e : Enricher) (kind : DeclKind) : Bool := e.targets.any (·.accepts kind)

/-- The targets in words, in order. -/
def targetDescriptions (e : Enricher) : List String := e.targets.map (·.describe)

/-- What messages call an enricher: its simple class name, with the description behind it. -/
def displayName (e : Enricher) : String :=
  match e.description with
  | some description => Text.simpleName e.className ++ " (" ++ description ++ ")"
  | none => Text.simpleName e.className

/-- The type of the added member. -/
def memberType (e : Enricher) : JavaType := JavaType.parse e.typeText

/-- The parameters of an added method or constructor: the members that the filter selects, then
those that are always added. -/
def parametersFor (e : Enricher) (decl : Declaration) : List Parameter :=
  ((e.filter.map fun filter => filter.select decl).getD []) ++ e.parameters.getD []

end Enricher

end PrototypeLens

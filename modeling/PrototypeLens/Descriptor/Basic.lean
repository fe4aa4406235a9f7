import PrototypeLens.Enricher.Basic
import PrototypeLens.Table

/-!
# Prototype descriptors

The resolved configuration of a prototype, or the defaults that a template annotation contributes
to the prototypes that carry it.
-/

namespace PrototypeLens

/-! ## Generation strategies -/

/-- What the generator makes of a prototype. -/
inductive Strategy where
  | prototype
  | implementation
  | plain
  | none
deriving DecidableEq, Repr

/-- The strategy that an enum constant stands for. -/
def Strategy.ofConstant? : String → Option Strategy
  | "PROTOTYPE" => some prototype
  | "IMPLEMENTATION" => some implementation
  | "PLAIN" => some plain
  | "NONE" => some none
  | _ => Option.none

/-! ## Settings without a field of their own -/

/-- A setting under a key. -/
inductive CustomValue where
  | flag (value : Bool)
  | text (value : String)
  /-- An attribute as it was written. -/
  | attr (value : AttrValue)

/-- Settings by key, in the order of their keys. -/
structure CustomSettings where
  /-- The settings; each key occurs once. -/
  entries : List (String × CustomValue) := []

namespace CustomSettings

/-- Puts a setting at its place among settings in order. -/
def insertOrdered (key : String) (value : CustomValue) :
    List (String × CustomValue) → List (String × CustomValue)
  | [] => [(key, value)]
  | entry :: rest =>
    if key = entry.1 then (key, value) :: rest
    else if key < entry.1 then (key, value) :: entry :: rest
    else entry :: insertOrdered key value rest

/-- Sets a key, in place of the setting it has. -/
def insert (settings : CustomSettings) (key : String) (value : CustomValue) : CustomSettings :=
  ⟨insertOrdered key value settings.entries⟩

def get? (settings : CustomSettings) (key : String) : Option CustomValue :=
  settings.entries.lookup key

theorem lookup_insertOrdered (key : String) (value : CustomValue)
    (entries : List (String × CustomValue)) (other : String) :
    (insertOrdered key value entries).lookup other =
      if other = key then some value else entries.lookup other := by
  induction entries with
  | nil =>
    by_cases h : other = key
    · simp [insertOrdered, h]
    · simp [insertOrdered, List.lookup_cons, h, beq_eq_false_iff_ne.2 h]
  | cons entry rest ih =>
    obtain ⟨name, held⟩ := entry
    simp only [insertOrdered]
    by_cases h : other = key
    · subst h
      split
      · simp
      split
      · simp
      · rename_i hne _
        simp [List.lookup_cons, beq_eq_false_iff_ne.2 hne, ih]
    · split
      · rename_i he
        simp [List.lookup_cons, beq_eq_false_iff_ne.2 h, beq_eq_false_iff_ne.2 (he ▸ h)]
      split
      · simp [List.lookup_cons, beq_eq_false_iff_ne.2 h]
      · by_cases ho : other = name
        · simp [ho]
        · simp [List.lookup_cons, beq_eq_false_iff_ne.2 ho, ih, h]

theorem get?_insert (settings : CustomSettings) (key other : String) (value : CustomValue) :
    (settings.insert key value).get? other =
      if other = key then some value else settings.get? other :=
  lookup_insertOrdered key value settings.entries other

end CustomSettings

/-! ## Descriptors -/

/-- The configuration of a prototype. The defaults of the fields are the generator's own, which
hold for a template that inherits from no other. -/
structure Descriptor where
  name : Option String := none
  interfaceName : Option String := none
  interfacePackage : Option String := none
  className : Option String := none
  classPackage : Option String := none
  basePath : Option String := none
  interfacePath : Option String := none
  implementationPath : Option String := none
  longModifierName : Option String := none
  generateInterface : Bool := true
  generateImplementation : Bool := true
  generateConstructor : Bool := true
  classGetters : Bool := true
  classSetters : Bool := true
  interfaceSetters : Bool := true
  base : Bool := false
  strategy : Strategy := .prototype
  /-- The enrichers of the prototype, in order. -/
  enrichers : List Enricher := []
  /-- The enrichers of the types that inherit from it, in order. -/
  inheritedEnrichers : List Enricher := []
  /-- Attributes without a field of their own. -/
  custom : CustomSettings := {}

namespace Descriptor

/-- The key under which the template annotation is kept that a descriptor was read from. -/
def prototypeKey : String := "prototype"

/-- The key that the root template of enums sets. -/
def enumKey : String := "enum"

/-- Sets a key among the custom settings. -/
def setCustom (d : Descriptor) (key : String) (value : CustomValue) : Descriptor :=
  { d with custom := d.custom.insert key value }

/-- The template annotation that a descriptor was read from. -/
def prototypeAnnotationName? (d : Descriptor) : Option String :=
  match d.custom.get? prototypeKey with
  | some (.text name) => some name
  | _ => none

/-- Whether the prototype describes an enum. -/
def isEnum (d : Descriptor) : Bool :=
  match d.custom.get? enumKey with
  | some (.flag true) => true
  | _ => false

end Descriptor

end PrototypeLens

import PrototypeLens.Descriptor.Basic

/-!
# Generated names

The naming conventions of the generator: from the qualified name of a prototype to the qualified
name of the type generated from it.
-/

namespace PrototypeLens

namespace Descriptor

/-- The name and the package that a descriptor sets for the generated type: those of the class for
the implementation strategy, else those of the interface. Blank ones count as absent. -/
def explicitTarget (d : Descriptor) : Option String × Option String :=
  match d.strategy with
  | .implementation => (Text.nonBlank? d.className, Text.nonBlank? d.classPackage)
  | _ => (Text.nonBlank? d.interfaceName, Text.nonBlank? d.interfacePackage)

end Descriptor

/-- A generated name on its way: settled by an explicit name and package, or still subject to the
conventions. -/
inductive NameDraft where
  /-- The name is taken as it is. -/
  | settled (name : String)
  /-- The conventions apply to the name; `suffixed` tells whether it is marked as an
  implementation. -/
  | conventional (name : String) (suffixed : Bool)
deriving DecidableEq, Repr

namespace NameDraft

/-- The name of a type put into the package of another name. -/
def siblingName (name simple : String) : String :=
  match Text.packageName? name with
  | some package => package ++ "." ++ simple
  | none => simple

/-- What a descriptor makes of a prototype's name. An explicit name keeps the package and is not
marked as an implementation; an explicit package keeps the simple name. -/
def ofDescriptor (d : Option Descriptor) (name : String) : NameDraft :=
  match d with
  | none => .conventional name false
  | some d => match d.explicitTarget with
    -- Both are given: none of the conventions applies.
    | (some simple, some package) => .settled (package ++ "." ++ simple)
    | (some simple, none) => .conventional (siblingName name simple) false
    | (none, some package) =>
      .conventional (package ++ "." ++ Text.simpleName name) (d.strategy == .implementation)
    | (none, none) => .conventional name (d.strategy == .implementation)

end NameDraft

/-- A nested type moves up to the package of the type around it. -/
def hoist (name : String) : String :=
  match Text.splitLast? '.' name.toList with
  | none => name
  | some (outer, simple) => match Text.splitLast? '.' outer with
    | none => name
    | some (package, _) => String.ofList (package ++ '.' :: simple)

/-- Drops the ending `Prototype` and then the ending `Entity`. -/
def dropSuffixes (name : String) : String :=
  match Text.dropEnd? "Prototype".toList name.toList with
  | none => name
  -- `Entity` is dropped only where `Prototype` was.
  | some stem => String.ofList ((Text.dropEnd? "Entity".toList stem).getD stem)

/-- Drops `prototype` segments inside a name. -/
def dropSegments (name : String) : String := Text.replace ".prototype." "." name

/-- The qualified name of the type generated from a prototype. -/
def generatedName (d : Option Descriptor) (name : String) (nested : Bool) : String :=
  match NameDraft.ofDescriptor d name with
  | .settled name => name
  | .conventional name suffixed =>
    let name := dropSegments (dropSuffixes (if nested then hoist name else name))
    if suffixed then name ++ "Impl" else name

end PrototypeLens

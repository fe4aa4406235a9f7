import PrototypeLens.Model.JavaType
import PrototypeLens.Text.Case

/-!
# Accessor names

The names of the getter and the setter of a field, and the way back from an accessor to its
property.
-/

namespace PrototypeLens

/-- The name of a field's getter. -/
def getterName (field : String) (type : JavaType) : String :=
  (if type.isPrimitiveBoolean then "is" else "get") ++ Text.capitalize field

/-- The name of a field's setter. -/
def setterName (field : String) : String := "set" ++ Text.capitalize field

/-- The beginnings of accessor names, in the order in which they are tried. -/
def accessorStarts : List String := ["get", "set", "is"]

/-- The property behind an accessor: what follows the first beginning that fits, if that is written
with a capital. -/
def propertyName? (accessor : String) : Option String :=
  match accessorStarts.findSome? fun start => Text.dropStart? start.toList accessor.toList with
  | some (c :: rest) =>
    if Text.isUppercase c then some (Text.decapitalize (String.ofList (c :: rest))) else none
  | _ => none

end PrototypeLens

import PrototypeLens.Text.Name

/-!
# Message templates

Texts with places for the name and the type of an element.
-/

namespace PrototypeLens

/-- A text with placeholders. -/
structure MessageTemplate where
  text : String
deriving DecidableEq, Repr

namespace MessageTemplate

/-- Where the name goes. -/
def namePlace : String := "\x7bname\x7d"

/-- Where the type goes. -/
def typePlace : String := "\x7btype\x7d"

/-- Fills in the name and then the type; a place for the type that came in with the name is filled
too. -/
def render (template : MessageTemplate) (name type : String) : String :=
  -- Two passes: the second one also reads what the first one put in.
  Text.replace typePlace type (Text.replace namePlace name template.text)

end MessageTemplate

end PrototypeLens

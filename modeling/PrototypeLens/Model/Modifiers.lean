/-!
# Modifiers

Java modifiers as a word of flag bits. The bits are those of the reflection interface, so that a
numeric attribute can be read directly; `default` methods have a bit of their own above them.
-/

namespace PrototypeLens

/-- A set of modifiers, one bit each. -/
structure Modifiers where
  /-- The flag bits. -/
  bits : BitVec 32
deriving DecidableEq, Repr

namespace Modifiers

/-! ## The modifiers -/

def publicBit : Modifiers := ⟨0x1⟩
def privateBit : Modifiers := ⟨0x2⟩
def protectedBit : Modifiers := ⟨0x4⟩
def staticBit : Modifiers := ⟨0x8⟩
def finalBit : Modifiers := ⟨0x10⟩
def synchronizedBit : Modifiers := ⟨0x20⟩
def volatileBit : Modifiers := ⟨0x40⟩
def transientBit : Modifiers := ⟨0x80⟩
def nativeBit : Modifiers := ⟨0x100⟩
def abstractBit : Modifiers := ⟨0x400⟩
def strictfpBit : Modifiers := ⟨0x800⟩
/-- The bit of an interface method with a body. -/
def defaultBit : Modifiers := ⟨0x10000⟩

/-- Every modifier with its keyword, in the order in which they are listed. -/
def named : List (Modifiers × String) :=
  [(publicBit, "public"), (privateBit, "private"), (protectedBit, "protected"),
   (staticBit, "static"), (finalBit, "final"), (synchronizedBit, "synchronized"),
   (volatileBit, "volatile"), (transientBit, "transient"), (nativeBit, "native"),
   (abstractBit, "abstract"), (strictfpBit, "strictfp"), (defaultBit, "default")]

/-! ## Operations -/

/-- The modifiers of either set. -/
def union (m n : Modifiers) : Modifiers := ⟨m.bits ||| n.bits⟩

/-- The modifiers of both sets. -/
def inter (m n : Modifiers) : Modifiers := ⟨m.bits &&& n.bits⟩

instance : OrOp Modifiers := ⟨union⟩
instance : AndOp Modifiers := ⟨inter⟩

/-- Every bit that stands for a modifier. -/
def known : Modifiers := named.foldl (fun acc entry => acc ||| entry.1) ⟨0⟩

/-- The modifiers of a reflection constant; bits that stand for none are dropped. -/
def ofReflection (constant : Int) : Modifiers := ⟨BitVec.ofInt 32 constant⟩ &&& known

/-- Whether all modifiers of a set that is not empty are present. -/
def contains (m n : Modifiers) : Bool := m.bits &&& n.bits == n.bits && n.bits != 0

/-- The keywords of the modifiers that are present. -/
def names (m : Modifiers) : List String :=
  (named.filter fun entry => m.contains entry.1).map (·.2)

/-- The text of a set of modifiers in logs: `["public", "static"]`. -/
def describe (m : Modifiers) : String :=
  "[" ++ ", ".intercalate (m.names.map fun name => "\"" ++ name ++ "\"") ++ "]"

end Modifiers

end PrototypeLens

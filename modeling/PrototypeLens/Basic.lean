/-!
# Identifiers and spans

Identifiers of the things a host knows about, and byte spans into a source text.
-/

namespace PrototypeLens

/-! ## Identifiers -/

/-- A source file, or an entry of a dependency archive, known to the host. -/
structure FileId where
  /-- The number the host gave it. -/
  raw : Nat
deriving DecidableEq, Repr

/-- A type declaration: class, interface, enum, annotation type or record. -/
structure DeclId where
  /-- The number the host gave it. -/
  raw : Nat
deriving DecidableEq, Repr

/-- A build module, the unit a host rebuilds. -/
structure ModuleId where
  /-- The number the host gave it. -/
  raw : Nat
deriving DecidableEq, Repr

/-- An expression inside an expression arena. -/
structure ExprId where
  /-- The position in the arena. -/
  raw : Nat
deriving DecidableEq, Repr

/-! ## Spans -/

/-- A range of byte offsets; `stop` is the first offset after it. -/
structure Span where
  /-- The first offset. -/
  start : Nat
  /-- The first offset after the range. -/
  stop : Nat
deriving DecidableEq, Repr

namespace Span

/-- The number of offsets in a span; a reversed span has none. -/
def length (s : Span) : Nat := s.stop - s.start

/-- A span that no offset falls into. -/
def isEmpty (s : Span) : Bool := s.stop ≤ s.start

/-- Whether an offset falls into a span. -/
def contains (s : Span) (offset : Nat) : Bool := s.start ≤ offset && offset < s.stop

/-- The text of a span in logs: `Span(1..3)`. -/
def describe (s : Span) : String :=
  "Span(" ++ toString s.start ++ ".." ++ toString s.stop ++ ")"

end Span

end PrototypeLens

import PrototypeLens.Basic

/-!
# Diagnostics

What an inspection reports to an editor: a severity, a stable code, a message, the span it is
about and the fixes on offer.
-/

namespace PrototypeLens

/-- How serious a diagnostic is. -/
inductive Severity where
  | error
  | warning
  | info
deriving DecidableEq, Repr

/-- A replacement of a span of a file. -/
structure TextEdit where
  /-- The file that is edited. -/
  file : FileId
  /-- The span that is replaced. -/
  span : Span
  /-- What is written in its place. -/
  newText : String
deriving DecidableEq, Repr

/-- A titled group of edits offered together. -/
structure QuickFix where
  /-- What the editor shows. -/
  title : String
  /-- The edits, in order. -/
  edits : List TextEdit
deriving DecidableEq, Repr

/-- A finding of an inspection. -/
structure Diagnostic where
  /-- How serious it is. -/
  severity : Severity
  /-- The inspection's stable code. -/
  code : String
  /-- The text for the reader. -/
  message : String
  /-- Where it was found. -/
  span : Option Span
  /-- The fixes on offer. -/
  fixes : List QuickFix := []
deriving DecidableEq, Repr

end PrototypeLens

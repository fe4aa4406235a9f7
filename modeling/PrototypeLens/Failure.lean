/-!
# Failures

A query against the host fails for one of three causes. Cancellation is the only one that a
request hands on to its caller; the others, and the failures of the lookup engine itself, are
contained and answered with "nothing known".
-/

namespace PrototypeLens

/-- Why the host did not answer a query. -/
inductive QueryError where
  /-- The host is still indexing. -/
  | indexNotReady
  /-- The host abandoned the request. -/
  | cancelled
  /-- The host does not know what was asked for. -/
  | unresolved (what : String)
deriving DecidableEq, Repr

/-- The text of a query failure. -/
def QueryError.message : QueryError → String
  | .indexNotReady => "the program index is not ready"
  | .cancelled => "the query was cancelled"
  | .unresolved what => "unable to resolve " ++ what

/-- The answer of a request that the host cancelled. -/
structure Cancelled where
deriving DecidableEq, Repr

/-- The text of a cancelled request. -/
def Cancelled.message (_ : Cancelled) : String := "request cancelled"

/-- Why a lookup could not be completed. -/
inductive LookupError where
  /-- A host query failed. -/
  | query (cause : QueryError)
  /-- An attribute of a template usage does not have the form it needs. -/
  | malformedAttribute (usage attr : String)
  /-- The lookup nested deeper than the host has names. -/
  | tooDeep
deriving DecidableEq, Repr

/-- Whether a lookup stopped because the host cancelled the request. -/
def LookupError.isCancelled : LookupError → Bool
  | .query .cancelled => true
  | _ => false

end PrototypeLens

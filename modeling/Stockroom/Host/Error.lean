/-!
# Host/Error — how a store can fail

The five ways in which a store may not do what it was asked.  A `uniqueViolation` means that
something with the same key is already there, a `conflict` that somebody else was faster.
-/

namespace Stockroom

/-- Why a store did not do what it was asked. -/
inductive StoreError where
  | connectionFailed (detail : String)
  | operationFailed (detail : String)
  | fetchFailed (detail : String)
  | uniqueViolation (detail : String)
  | conflict (detail : String)
deriving DecidableEq, Repr

def StoreError.message : StoreError → String
  | connectionFailed detail => s!"Connection failed: {detail}"
  | operationFailed detail => s!"Operation failed: {detail}"
  | fetchFailed detail => s!"Fetch failed: {detail}"
  | uniqueViolation detail => s!"Unique violation: {detail}"
  | conflict detail => s!"Conflict: {detail}"

end Stockroom

/-!
# Identifier — numbers that name things

Products, orders, users and operators are each named by a number.  The four kinds share one type
`Id`, indexed by the kind, so that a number of one kind is never taken for another.
-/

namespace Stockroom

/-- What an identifier names. -/
inductive IdKind where
  | product
  | order
  | user
  | operator
deriving DecidableEq, Repr

/-- The number that names one thing of a kind. -/
structure Id (kind : IdKind) where
  value : Int
deriving DecidableEq, Repr

abbrev ProductId := Id .product
abbrev OrderId := Id .order
abbrev UserId := Id .user
abbrev OperatorId := Id .operator

namespace Id

variable {kind : IdKind}

instance : ToString (Id kind) := ⟨fun id => toString id.value⟩

instance : Ord (Id kind) := ⟨compareOn value⟩

instance : Std.TransOrd (Id kind) :=
  inferInstanceAs (Std.TransCmp (compareOn (@value kind)))

instance : Std.LawfulEqOrd (Id kind) where
  eq_of_compare {a b} h := by
    cases a; cases b
    exact congrArg Id.mk (Std.LawfulEqOrd.eq_of_compare h)

end Id

end Stockroom

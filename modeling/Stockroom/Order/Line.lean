import Stockroom.Refusal

/-!
# Order/Line — what an order asks for

A request lists products and quantities.  `OrderLine.merge` puts lines of one product together: the
products keep the order of their first appearance, and their quantities are added up.
-/

namespace Stockroom

/-- A quantity of one product. -/
structure OrderLine where
  product : ProductId
  quantity : Int
deriving DecidableEq, Repr

namespace OrderLine

/-- Adds a line to lines of different products. -/
def insert (line : OrderLine) : List OrderLine → Except Refusal (List OrderLine)
  | [] => .ok [line]
  | first :: rest =>
    if first.product = line.product then
      if Width.int32.Fits (first.quantity + line.quantity) then
        .ok (⟨first.product, first.quantity + line.quantity⟩ :: rest)
      else .error (.invalidValue (.lineOverflow line.product))
    else (first :: ·) <$> insert line rest

/-- **One line for each product**; no lines at all are refused. -/
def merge (lines : List OrderLine) : Except Refusal (List OrderLine) := do
  if lines.isEmpty then throw (.invalidValue .noLines)
  lines.foldlM (fun merged line => do ensurePositive line.quantity; insert line merged) []

end OrderLine

end Stockroom

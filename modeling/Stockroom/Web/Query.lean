import Stockroom.Numeric.Numeral
import Stockroom.Page
import Stockroom.Web.Percent

/-!
# Web/Query — the part of an address after the question mark

A query is a list of `key=value` pairs, in which `+` stands for a blank.  Unknown keys do not matter,
but a known key may come only once, and its value has to be a number of its width.
-/

namespace Stockroom.Web

/-- A pair of a query.  A key or a value that is no text is `none`. -/
structure QueryPair where
  key : Option String
  value : Option String
deriving DecidableEq, Repr

namespace Query

/-- A part of a pair as it was meant. -/
def part (cs : List Char) : Option String :=
  Percent.decode? (String.ofList (cs.map fun c => if c = '+' then ' ' else c))

/-- The pair that is written as these characters. -/
def pair (cs : List Char) : QueryPair :=
  ⟨part (cs.takeWhile (· ≠ '=')), part ((cs.dropWhile (· ≠ '=')).drop 1)⟩

/-- The pairs of a query; empty ones do not count. -/
def pairs (query : String) : List QueryPair :=
  ((query.toList.splitOn '&').filter (· ≠ [])).map pair

/-- A value that cannot be used. -/
inductive Fault where
  | repeated
  | unreadable
  | missing
deriving DecidableEq, Repr

/-- The number under a key, if the key is there. -/
def number? (w : Width) (key : String) (query : List QueryPair) : Except Fault (Option Int) :=
  match query.filter (·.key = some key) with
  | [] => .ok none
  | [p] =>
    match p.value.bind (Numeral.read? w) with
    | some n => .ok (some n)
    | none => .error .unreadable
  | _ => .error .repeated

/-- The page that a query asks for. -/
def page (query : String) : Except Fault PageRequest := do
  let page ← number? .nat32 "page" (pairs query)
  let size ← number? .nat32 "page_size" (pairs query)
  return .of (page.map Int.toNat) (size.map Int.toNat)

/-- The quantity that a query asks for. -/
def quantity (query : String) : Except Fault Int := do
  match ← number? .int32 "quantity" (pairs query) with
  | some n => return n
  | none => throw .missing

end Query

end Stockroom.Web

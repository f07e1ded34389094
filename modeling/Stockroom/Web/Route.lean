/-!
# Web/Route — which address leads where

The addresses of the service form a table of routes.  A route is a list of segments, some fixed and
some open.  Where two routes lead to the same address, a fixed segment wins over an open one, from
the left; `routes` lists the winner first, so `find?` is all it takes.
-/

namespace Stockroom.Web

/-- The methods of requests. -/
inductive Method where
  | get
  | head
  | post
  | put
  | delete
  | other
deriving DecidableEq, Repr

def Method.ofText : String → Method
  | "GET" => get
  | "HEAD" => head
  | "POST" => post
  | "PUT" => put
  | "DELETE" => delete
  | _ => other

/-- A part of an address between two slashes. -/
inductive Segment where
  | fixed (text : String)
  | open
deriving DecidableEq, Repr

/-- What can be asked for. -/
inductive Endpoint where
  | health
  | createStock
  | listStock
  | listLowStock
  | checkMany
  | cleanup
  | stock
  | removeStock
  | setThreshold
  | entries
  | availability
  | reserve
  | release
  | deduct
  | restock
  | adjust
  | createOrder
  | listOrders
  | orderByNumber
  | order
  | pay
  | ship
  | complete
  | cancel
  | reservations
deriving DecidableEq, Repr

/-- An address, and what its methods ask for. -/
structure Route where
  segments : List Segment
  endpoints : List (Method × Endpoint)
deriving DecidableEq, Repr

/-- The addresses of the service. -/
def routes : List Route :=
  let inventory (rest : List Segment) : List Segment := .fixed "inventories" :: rest
  let ofProduct (name : String) : List Segment := inventory [.open, .fixed name]
  let ofOrder (name : String) : List Segment := [.fixed "orders", .open, .fixed name]
  [ ⟨[.fixed "health"], [(.get, .health)]⟩,
    ⟨inventory [], [(.post, .createStock), (.get, .listStock)]⟩,
    ⟨inventory [.fixed "low-stock"], [(.get, .listLowStock)]⟩,
    ⟨inventory [.fixed "availability"], [(.post, .checkMany)]⟩,
    ⟨inventory [.fixed "reservations", .fixed "cleanup"], [(.post, .cleanup)]⟩,
    ⟨inventory [.open], [(.get, .stock), (.delete, .removeStock)]⟩,
    ⟨ofProduct "threshold", [(.put, .setThreshold)]⟩,
    ⟨ofProduct "logs", [(.get, .entries)]⟩,
    ⟨ofProduct "availability", [(.get, .availability)]⟩,
    ⟨ofProduct "reserve", [(.post, .reserve)]⟩,
    ⟨ofProduct "release", [(.post, .release)]⟩,
    ⟨ofProduct "deduct", [(.post, .deduct)]⟩,
    ⟨ofProduct "restock", [(.post, .restock)]⟩,
    ⟨ofProduct "adjust", [(.post, .adjust)]⟩,
    ⟨[.fixed "orders"], [(.post, .createOrder), (.get, .listOrders)]⟩,
    ⟨[.fixed "orders", .fixed "order-no", .open], [(.get, .orderByNumber)]⟩,
    ⟨[.fixed "orders", .open], [(.get, .order)]⟩,
    ⟨ofOrder "pay", [(.post, .pay)]⟩,
    ⟨ofOrder "ship", [(.post, .ship)]⟩,
    ⟨ofOrder "complete", [(.post, .complete)]⟩,
    ⟨ofOrder "cancel", [(.post, .cancel)]⟩,
    ⟨ofOrder "reservations", [(.get, .reservations)]⟩ ]

/-- What stands in the open segments, if the parts of an address fit the segments.  The last part
must not be empty. -/
def Segment.fit : List Segment → List String → Option (List String)
  | [], [] => some []
  | .fixed text :: segments, part :: parts => if text = part then fit segments parts else none
  | .open :: segments, part :: parts =>
    if part = "" ∧ parts = [] then none else (part :: ·) <$> fit segments parts
  | _, _ => none

/-- The parts of an address; an address begins with a slash. -/
def pathParts (path : String) : Option (List String) :=
  match path.toList with
  | '/' :: rest => some ((rest.splitOn '/').map String.ofList)
  | _ => none

/-- The route to an address, and what stands in its open segments. -/
def Route.find? (path : String) : Option (Route × List String) := do
  let parts ← pathParts path
  routes.findSome? fun route => (Segment.fit route.segments parts).map fun opened => (route, opened)

/-- What a method asks for at the end of a route.  Whoever may read may also ask for the head. -/
def Route.endpoint? (route : Route) (method : Method) : Option Endpoint :=
  route.endpoints.lookup (if method = .head then .get else method)

end Stockroom.Web

/-!
# Web/MediaType — which kind of content a body has

A media type has a type, a subtype, possibly a suffix after a `+`, and parameters.  `isJson` says
whether it announces JSON.  What follows the first semicolon has to be well formed, but says nothing.
-/

namespace Stockroom.Web.MediaType

/-- The characters of names. -/
def isTokenChar (c : Char) : Bool := c.isAlphanum || c ∈ "!#$%&'*+-.^_|~".toList || c.toNat = 0x60

/-- How far the reading of parameters has got. -/
inductive Spot where
  | nameStart
  | name
  | valueStart
  | value
  | quoteStart
  | quote
  | afterQuote
deriving DecidableEq, Repr

namespace Spot

/-- The spot after one more character, if that may stand there. -/
def next? : Spot → Char → Option Spot
  | nameStart, c => if c = ' ' then some nameStart else if isTokenChar c then some name else none
  | name, c => if c = '=' then some valueStart else if isTokenChar c then some name else none
  | valueStart, c => if c = '"' then some quoteStart else if isTokenChar c then some value else none
  | value, c => if c = ';' then some nameStart else if isTokenChar c then some value else none
  | quoteStart, c => if c.toNat < 0x20 then none else some quote
  | quote, c => if c = '"' then some afterQuote else if c.toNat < 0x20 then none else some quote
  | afterQuote, c =>
    if c = ';' then some nameStart else if c = ' ' then some afterQuote else none

/-- Whether the parameters may end at a spot. -/
def isEnd : Spot → Bool
  | nameStart | valueStart | value | afterQuote => true
  | name | quoteStart | quote => false

end Spot

/-- Whether characters after the first semicolon are well-formed parameters. -/
def areParameters (cs : List Char) : Bool := (cs.foldlM Spot.next? .nameStart).any Spot.isEnd

/-- The subtype and the suffix of it.  The last `+` begins the suffix, unless it comes first. -/
def splitSuffix (subtype : List Char) : List Char × Option (List Char) :=
  let suffix := (subtype.reverse.takeWhile (· ≠ '+')).reverse
  let front := subtype.take (subtype.length - suffix.length - 1)
  if suffix.length < subtype.length ∧ front ≠ [] then (front, some suffix) else (subtype, none)

/-- **Whether a media type announces JSON**: `application/json`, or any type of applications with the
suffix `+json`. -/
def isJson (text : String) : Bool :=
  let cs := text.toList.map Char.toLower
  let type := cs.takeWhile (· ≠ '/')
  let rest := (cs.dropWhile (· ≠ '/')).drop 1
  let subtype := rest.takeWhile (· ≠ ';')
  let (name, suffix) := splitSuffix subtype
  let json := "json".toList
  decide (type = "application".toList) && subtype.all isTokenChar &&
    (decide (name = json) || decide (suffix = some json)) &&
    areParameters ((rest.dropWhile (· ≠ ';')).drop 1)

end Stockroom.Web.MediaType

import Stockroom.Json.Scan

/-!
# Json/Decode — JSON of a wanted shape

Readers for values of known types: whole numbers of a width, texts, optional values, lists, and
records.  A record is described by its `Fields` and may be written as an object or as a list:

* an object may hold its keys in any order and others besides, but no known key twice; a missing key
  is filled in if the field allows it;
* a list holds the values in the order of the fields, and may break off before fields that may be
  left out.
-/

namespace Stockroom.Json

namespace Reader

variable {α β : Type}

/-- A value of another kind than wanted.  What comes before its first bracket has to be JSON
nevertheless. -/
def mismatch : Reader α := do
  match ← peekToken with
  | some '"' => let _ ← text
  | some '[' | some '\x7b' => pure ()
  | some 'n' => word "null".toList
  | some 't' => word "true".toList
  | some 'f' => word "false".toList
  | _ => if (← number).isTooLarge then throw .malformed
  throw .mismatched

/-- A whole number of a width. -/
def int (w : Width) : Reader Int := do
  match ← peekToken with
  | some c =>
    if c = '-' ∨ isDigit c then
      let n ← number
      match n.integer? with
      | some value => if w.Fits value then return value else throw .mismatched
      | none => throw (if n.isTooLarge then .malformed else .mismatched)
    else mismatch
  | none => throw .malformed

/-- A text. -/
def string : Reader String := do
  match ← peekToken with
  | some '"' => text
  | _ => mismatch

/-- A value, or `null` for none. -/
def optional (read : Reader α) : Reader (Option α) := do
  match ← peekToken with
  | some 'n' =>
    word "null".toList
    return none
  | _ => return some (← read)

/-- The items after the first one, up to the closing bracket. -/
def moreItems (read : Reader α) : (fuel : Nat) → Reader (List α)
  | 0 => throw .malformed
  | fuel + 1 => do
    match ← next with
    | ',' =>
      let item ← read
      let _ ← peekToken
      return item :: (← moreItems read fuel)
    | ']' => return []
    | _ => throw .malformed

/-- A list of values. -/
def list (read : Reader α) : Reader (List α) := do
  match ← peekToken with
  | some '[' =>
    drop
    if (← peekToken) = some ']' then
      drop
      return []
    else
      let item ← read
      let _ ← peekToken
      return item :: (← moreItems read (← get).length)
  | _ => mismatch

end Reader

/-- One field of a record. -/
structure Field (α : Type) where
  name : String
  read : Reader α
  /-- The value if an object has no such key. -/
  absent : Option α
  /-- The value if a list breaks off before it. -/
  cutOff : Option α

namespace Field

variable {α : Type}

/-- A field that has to be there. -/
def required (name : String) (read : Reader α) : Field α := ⟨name, read, none, none⟩

/-- A field that may be missing or null. -/
def optional (name : String) (read : Reader α) : Field (Option α) :=
  ⟨name, read.optional, some none, none⟩

/-- A field with a standard value. -/
def withDefault (name : String) (read : Reader α) (standard : α) : Field α :=
  ⟨name, read, some standard, some standard⟩

end Field

/-- The fields of a record, with the types of their values. -/
inductive Fields : List Type → Type 1 where
  | nil : Fields []
  | cons {α : Type} {rest : List Type} (field : Field α) (fields : Fields rest) :
      Fields (α :: rest)

/-- One value for each field. -/
def Row : List Type → Type
  | [] => Unit
  | α :: rest => α × Row rest

/-- The values of the fields that were read so far. -/
def Slots : List Type → Type
  | [] => Unit
  | α :: rest => Option α × Slots rest

namespace Fields

/-- No values yet. -/
def blank : {αs : List Type} → Fields αs → Slots αs
  | _, nil => ()
  | _, cons _ fields => (none, fields.blank)

/-- Whether the fields have a key. -/
def hasKey (key : String) : {αs : List Type} → Fields αs → Bool
  | _, nil => false
  | _, cons field fields => field.name = key || fields.hasKey key

/-- Reads the value of a key into its slot.  A key that was there before is refused before its second
value is read. -/
def fill (key : String) : {αs : List Type} → Fields αs → Slots αs → Reader (Slots αs)
  | _, nil, slots => return slots
  | _, cons field fields, (slot, slots) => do
    if field.name = key then
      if slot.isSome then throw .mismatched
      Reader.colon
      return (some (← field.read), slots)
    else return (slot, ← fields.fill key slots)

/-- The record, with missing values filled in. -/
def finish : {αs : List Type} → Fields αs → Slots αs → Except Fault (Row αs)
  | _, nil, _ => .ok ()
  | _, cons field fields, (slot, slots) => do
    match slot.or field.absent with
    | some value => return (value, ← fields.finish slots)
    | none => throw .mismatched

/-- Reads the value after a key, or reads past it. -/
def value {αs : List Type} (fields : Fields αs) (slots : Slots αs) (key : String) :
    Reader (Slots αs) := do
  if fields.hasKey key then fields.fill key slots
  else
    Reader.colon
    Reader.skipValue (← get).length
    return slots

/-- The members of an object, up to the closing bracket. -/
def members {αs : List Type} (fields : Fields αs) : (fuel : Nat) → Slots αs → Reader (Slots αs)
  | 0, _ => throw .malformed
  | fuel + 1, slots => do
    let _ ← Reader.peekToken
    let slots ← fields.value slots (← Reader.text)
    let _ ← Reader.peekToken
    match ← Reader.next with
    | ',' => fields.members fuel slots
    | '\x7d' => return slots
    | _ => throw .malformed

/-- A record that is written as an object. -/
def ofObject {αs : List Type} (fields : Fields αs) : Reader (Row αs) := do
  Reader.drop
  let slots ← if (← Reader.peekToken) = some '\x7d' then do
      Reader.drop
      pure fields.blank
    else fields.members (← get).length fields.blank
  fields.finish slots

/-- The items of a list, one for each field.  `isFirst` says whether none was read so far. -/
def items : (isFirst : Bool) → {αs : List Type} → Fields αs → Reader (Row αs)
  | _, _, nil => return ()
  | isFirst, _, cons field fields => do
    match ← Reader.peekToken with
    | some ']' =>
      match field.cutOff with
      | some value => return (value, ← items isFirst fields)
      | none => throw .mismatched
    | none => throw .malformed
    | some c =>
      unless isFirst do
        if c ≠ ',' then throw .malformed
        Reader.drop
      let value ← field.read
      return (value, ← items false fields)

/-- A record that is written as a list. -/
def ofList {αs : List Type} (fields : Fields αs) : Reader (Row αs) := do
  Reader.drop
  let row ← items true fields
  let _ ← Reader.peekToken
  Reader.expect ']'
  return row

/-- **A record of the wanted fields.** -/
def read {αs : List Type} (fields : Fields αs) : Reader (Row αs) := do
  match ← Reader.peekToken with
  | some '\x7b' => fields.ofObject
  | some '[' => fields.ofList
  | _ => Reader.mismatch

end Fields

/-- Reads a value from the front of a text; what follows it does not matter. -/
def decodeFront {α : Type} (read : Reader α) (text : String) : Except Fault α :=
  (·.1) <$> read.run text.toList

/-- **Reads a value that is the whole text**, apart from blanks around it. -/
def decode {α : Type} (read : Reader α) (text : String) : Except Fault α :=
  decodeFront (do
    let value ← read
    if (← Reader.peekToken).isSome then throw .malformed
    return value) text

end Stockroom.Json

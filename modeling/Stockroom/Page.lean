/-!
# Page — listings cut into pages

A `PageRequest` says which page of which size is wanted; `PageRequest.of` puts the default for what
is missing or zero, and caps the size.  `Page.cut` takes a page out of a whole listing.
-/

namespace Stockroom

/-- Which page of a listing is wanted. -/
structure PageRequest where
  page : Nat
  size : Nat
deriving DecidableEq, Repr

namespace PageRequest

def defaultPage : Nat := 1
def defaultSize : Nat := 20
def maxSize : Nat := 100

/-- The wanted page, or the default where nothing or zero is given. -/
def of (page size : Option Nat) : PageRequest where
  page := match page with
    | some (p + 1) => p + 1
    | _ => defaultPage
  size := match size with
    | some (s + 1) => min (s + 1) maxSize
    | _ => defaultSize

instance : Inhabited PageRequest := ⟨of none none⟩

/-- How many elements the page holds at most. -/
def limit (r : PageRequest) : Nat := r.size

/-- How many elements come before the page. -/
def offset (r : PageRequest) : Nat := (r.page - 1) * r.size

theorem size_pos (page size : Option Nat) : 0 < (of page size).size := by
  unfold of
  dsimp only
  split
  · exact Nat.lt_min.mpr ⟨Nat.succ_pos _, by decide⟩
  · decide

end PageRequest

/-- One page of a listing, and how many elements the whole listing has. -/
structure Page (α : Type) where
  items : List α
  total : Nat
  page : Nat
  size : Nat
deriving DecidableEq, Repr

namespace Page

variable {α β : Type}

/-- A page of which the elements are already known. -/
def of (items : List α) (total : Nat) (r : PageRequest) : Page α :=
  ⟨items, total, r.page, r.size⟩

/-- **The wanted page of a listing.** -/
def cut (listing : List α) (r : PageRequest) : Page α :=
  of ((listing.drop r.offset).take r.limit) listing.length r

/-- How many pages the listing has. -/
def pages (p : Page α) : Nat := (p.total + (p.size - 1)) / p.size

def map (f : α → β) (p : Page α) : Page β := ⟨p.items.map f, p.total, p.page, p.size⟩

end Page

end Stockroom

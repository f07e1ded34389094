import Stockroom.Page

/-!
# Proofs/Store/Pages — the pages of a listing cut it up

A page is a window of the listing: so many elements are left out before it, and so many are taken.
Put one after the other, the windows give back the front of the listing (`Page.flatMap_windows`), and
`Page.needed` windows are just enough for all of it (`Page.needed_spec`).  From both, **the pages of a
listing cut it up** (`Page.cutsUp_cut`): nothing is left out, nothing comes twice, only the last page may
be short, and behind it there is nothing.
-/

namespace Stockroom

namespace PageRequest

/-- The size that a page has for a wanted one. -/
def clamped (size : Option Nat) : Nat :=
  if size.getD 0 = 0 then defaultSize else min (size.getD 0) maxSize

theorem size_of (page size : Option Nat) : (of page size).size = clamped size := by
  rcases size with _ | _ | size <;> rfl

theorem clamped_pos (size : Option Nat) : 0 < clamped size := size_of none size ▸ size_pos none size

theorem page_of {number : Nat} (h : 0 < number) (size : Option Nat) :
    (of (some number) size).page = number := by
  cases number with
  | zero => cases h
  | succ number => rfl

end PageRequest

namespace Page

variable {α : Type} {width number : Nat}

/-- **Numbered pages that cut a listing up** into so many pieces of a width. -/
structure CutsUp (pageAt : Nat → Page α) (width count : Nat) (listing : List α) : Prop where
  joined : (List.range count).flatMap (fun k => (pageAt (k + 1)).items) = listing
  total : ∀ number, 0 < number → (pageAt number).total = listing.length
  number : ∀ number, 0 < number → (pageAt number).page = number
  size : ∀ number, 0 < number → (pageAt number).size = width
  pages : ∀ number, 0 < number → (pageAt number).pages = count
  full : ∀ number, 0 < number → number < count → (pageAt number).items.length = width
  last : 0 < count → 0 < (pageAt count).items.length ∧ (pageAt count).items.length ≤ width
  beyond : ∀ number, count < number → (pageAt number).items = []

/-! ## Windows -/

/-- Windows next to each other hold the front of the listing. -/
theorem flatMap_windows (listing : List α) (width count : Nat) :
    (List.range count).flatMap (fun k => (listing.drop (k * width)).take width) =
      listing.take (count * width) := by
  induction count with
  | zero => simp
  | succ count ih =>
    rw [List.range_succ, List.flatMap_append, ih, List.flatMap_singleton, Nat.succ_mul, List.take_add]

/-- How many windows of a width it takes for so many elements. -/
def needed (total width : Nat) : Nat := (total + (width - 1)) / width

/-- **They are just enough**: they hold all elements, and without the last one they would not. -/
theorem needed_spec (total : Nat) (h : 0 < width) :
    total ≤ needed total width * width ∧
      (0 < needed total width → (needed total width - 1) * width < total) := by
  have hsplit := Nat.div_add_mod (total + (width - 1)) width
  have hrest := Nat.mod_lt (total + (width - 1)) h
  rw [← needed, Nat.mul_comm] at hsplit
  refine ⟨by omega, fun hpos => ?_⟩
  have hlast : (needed total width - 1) * width + width = needed total width * width := by
    rw [← Nat.succ_mul, Nat.succ_eq_add_one, Nat.sub_add_cancel hpos]
  omega

/-! ## Pages -/

variable (listing : List α) (size : Option Nat)

theorem pages_cut (page : Option Nat) :
    (cut listing (.of page size)).pages = needed listing.length (PageRequest.clamped size) := by
  rw [← PageRequest.size_of page size]
  rfl

theorem items_cut (h : 0 < number) : (cut listing (.of (some number) size)).items =
    (listing.drop ((number - 1) * PageRequest.clamped size)).take (PageRequest.clamped size) := by
  simp only [cut, of, PageRequest.limit, PageRequest.offset, PageRequest.size_of,
    PageRequest.page_of h]

theorem length_items_cut (h : 0 < number) : (cut listing (.of (some number) size)).items.length =
    min (PageRequest.clamped size) (listing.length - (number - 1) * PageRequest.clamped size) := by
  rw [items_cut listing size h, List.length_take, List.length_drop]

/-- **The pages of a listing cut it up**, whatever size is wanted. -/
theorem cutsUp_cut : CutsUp (fun number => cut listing (.of (some number) size))
    (PageRequest.clamped size) (needed listing.length (PageRequest.clamped size)) listing := by
  have hwidth := PageRequest.clamped_pos size
  obtain ⟨henough, hneeded⟩ := needed_spec listing.length hwidth
  refine ⟨?_, fun _ _ => rfl, fun _ h => PageRequest.page_of h size,
    fun number _ => PageRequest.size_of (some number) size,
    fun number _ => pages_cut listing size (some number),
    fun number hpos hlt => ?_, fun hpos => ?_, fun number hlt => ?_⟩
  · simp only [items_cut listing size (Nat.succ_pos _), Nat.succ_eq_add_one, Nat.add_sub_cancel]
    rw [flatMap_windows, List.take_of_length_le henough]
  · -- The window ends where the next one begins, and the last one begins inside of the listing.
    have hnext : (number - 1) * PageRequest.clamped size + PageRequest.clamped size =
        number * PageRequest.clamped size := by
      rw [← Nat.succ_mul, Nat.succ_eq_add_one, Nat.sub_add_cancel hpos]
    have hbefore := Nat.mul_le_mul_right (PageRequest.clamped size) (Nat.le_sub_one_of_lt hlt)
    have hinside := hneeded (by omega)
    rw [length_items_cut listing size hpos]
    omega
  · have hinside := hneeded hpos
    rw [length_items_cut listing size hpos]
    omega
  · have hpast := Nat.mul_le_mul_right (PageRequest.clamped size) (Nat.le_sub_one_of_lt hlt)
    rw [items_cut listing size (Nat.zero_lt_of_lt hlt),
      List.drop_eq_nil_of_le (Nat.le_trans henough hpast), List.take_nil]

end Page

end Stockroom

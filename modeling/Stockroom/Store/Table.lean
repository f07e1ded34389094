/-!
# Store/Table — rows in the order of their keys

A `Table` holds at most one row for each key and lists its rows in the order of the keys, whatever
the order of the writes was.  So two tables with the same rows are equal (`Table.ext_get?`), and
reading after a write is settled by two equations (`get?_insert`, `get?_erase`).
-/

namespace Stockroom

/-- Rows under different keys, in ascending order of the keys. -/
structure Table (κ α : Type) [Ord κ] where
  rows : List (κ × α)
  ascending : rows.Pairwise fun a b => compare a.1 b.1 = .lt

namespace Table

variable {κ α : Type} [Ord κ]

/-! ## Rows as lists -/

def lookup (key : κ) : List (κ × α) → Option α
  | [] => none
  | row :: rest => if compare key row.1 = .eq then some row.2 else lookup key rest

/-- Puts a row in its place; a row with the same key gives way. -/
def insertRow (key : κ) (value : α) : List (κ × α) → List (κ × α)
  | [] => [(key, value)]
  | row :: rest =>
    match compare key row.1 with
    | .lt => (key, value) :: row :: rest
    | .eq => (key, value) :: rest
    | .gt => row :: insertRow key value rest

def eraseRow (key : κ) (rows : List (κ × α)) : List (κ × α) :=
  rows.filter fun row => compare key row.1 != .eq

theorem mem_insertRow {key : κ} {value : α} {row : κ × α} :
    ∀ {rows : List (κ × α)}, row ∈ insertRow key value rows → row = (key, value) ∨ row ∈ rows
  | [], h => Or.inl (List.mem_singleton.mp h)
  | first :: rest, h => by
    simp only [insertRow] at h
    split at h
    · exact (List.mem_cons.mp h).imp_right id
    · exact (List.mem_cons.mp h).imp_right (List.mem_cons_of_mem _)
    · rcases List.mem_cons.mp h with rfl | h
      · exact Or.inr List.mem_cons_self
      · exact (mem_insertRow h).imp_right (List.mem_cons_of_mem _)

theorem lookup_eq_none_of_lt {key : κ} : ∀ {rows : List (κ × α)},
    (∀ row ∈ rows, compare key row.1 = .lt) → lookup key rows = none
  | [], _ => rfl
  | first :: rest, h => by
    have hfirst := h first List.mem_cons_self
    rw [lookup, if_neg (by rw [hfirst]; decide)]
    exact lookup_eq_none_of_lt fun row hrow => h row (List.mem_cons_of_mem _ hrow)

section Lawful

variable [Std.LawfulEqOrd κ]

theorem pairwise_insertRow [Std.TransOrd κ] (key : κ) (value : α) : ∀ {rows : List (κ × α)},
    rows.Pairwise (fun a b => compare a.1 b.1 = .lt) →
      (insertRow key value rows).Pairwise fun a b => compare a.1 b.1 = .lt
  | [], _ => List.pairwise_singleton _ _
  | first :: rest, h => by
    obtain ⟨hfirst, hrest⟩ := List.pairwise_cons.mp h
    simp only [insertRow]
    split
    · next hlt =>
      refine List.pairwise_cons.mpr ⟨fun row hrow => ?_, h⟩
      rcases List.mem_cons.mp hrow with rfl | hrow
      · exact hlt
      · exact Std.TransCmp.lt_trans hlt (hfirst row hrow)
    · next heq =>
      refine List.pairwise_cons.mpr ⟨fun row hrow => ?_, hrest⟩
      rw [Std.LawfulEqCmp.eq_of_compare heq]
      exact hfirst row hrow
    · next hgt =>
      refine List.pairwise_cons.mpr ⟨fun row hrow => ?_, pairwise_insertRow key value hrest⟩
      rcases mem_insertRow hrow with rfl | hrow
      · exact Std.OrientedCmp.gt_iff_lt.mp hgt
      · exact hfirst row hrow

theorem lookup_insertRow [DecidableEq κ] (key other : κ) (value : α) : ∀ rows : List (κ × α),
    lookup other (insertRow key value rows) =
      if other = key then some value else lookup other rows
  | [] => by
    by_cases h : other = key <;> simp [insertRow, lookup, h]
  | first :: rest => by
    have ih := lookup_insertRow key other value rest
    simp only [insertRow]
    split
    · by_cases h : other = key <;> simp [lookup, h]
    · next heq =>
      obtain rfl := Std.LawfulEqCmp.eq_of_compare heq
      by_cases h : other = first.1 <;> simp [lookup, h]
    · next hgt =>
      by_cases hother : other = first.1
      · have hne : other ≠ key := by
          rintro rfl
          simp [hother] at hgt
        rw [if_neg hne]
        simp [lookup, hother]
      · simp [lookup, hother, ih]

theorem lookup_eraseRow [DecidableEq κ] (key other : κ) : ∀ rows : List (κ × α),
    lookup other (eraseRow key rows) = if other = key then none else lookup other rows
  | [] => by simp [eraseRow, lookup]
  | first :: rest => by
    have ih := lookup_eraseRow key other rest
    unfold eraseRow at ih
    by_cases hfirst : key = first.1 <;> by_cases hother : other = key <;>
      simp_all [eraseRow, lookup]

theorem lookup_eq_some_of_mem {row : κ × α} : ∀ {rows : List (κ × α)},
    rows.Pairwise (fun a b => compare a.1 b.1 = .lt) → row ∈ rows → lookup row.1 rows = some row.2
  | first :: rest, h, hrow => by
    obtain ⟨hfirst, hrest⟩ := List.pairwise_cons.mp h
    rcases List.mem_cons.mp hrow with rfl | hrow
    · simp [lookup]
    · have hlt := hfirst row hrow
      have hne : ¬compare row.1 first.1 = .eq := fun heq => by
        simp [Std.LawfulEqCmp.eq_of_compare heq] at hlt
      rw [lookup, if_neg hne]
      exact lookup_eq_some_of_mem hrest hrow

theorem mem_of_lookup_eq_some {key : κ} {value : α} : ∀ {rows : List (κ × α)},
    lookup key rows = some value → (key, value) ∈ rows
  | first :: rest, h => by
    rw [lookup] at h
    split at h
    · next heq =>
      obtain rfl := Std.LawfulEqCmp.eq_of_compare heq
      cases h
      exact List.mem_cons_self
    · exact List.mem_cons_of_mem _ (mem_of_lookup_eq_some h)

/-- Ascending rows are determined by what is found in them. -/
theorem rows_eq_of_lookup_eq [Std.TransOrd κ] : ∀ {rows rows' : List (κ × α)},
    rows.Pairwise (fun a b => compare a.1 b.1 = .lt) →
      rows'.Pairwise (fun a b => compare a.1 b.1 = .lt) →
      (∀ key, lookup key rows = lookup key rows') → rows = rows'
  | [], [], _, _, _ => rfl
  | [], (key, value) :: rest, _, h', hl => by
    have := hl key
    simp [lookup] at this
  | (key, value) :: rest, [], _, _, hl => by
    have := hl key
    simp [lookup] at this
  | (key, value) :: rest, (key', value') :: rest', h, h', hl => by
    obtain ⟨hfirst, hrest⟩ := List.pairwise_cons.mp h
    obtain ⟨hfirst', hrest'⟩ := List.pairwise_cons.mp h'
    have hkey : key = key' := by
      have hmem : (key, value) ∈ (key', value') :: rest' :=
        mem_of_lookup_eq_some ((hl key).symm.trans (by simp [lookup]))
      have hmem' : (key', value') ∈ (key, value) :: rest :=
        mem_of_lookup_eq_some ((hl key').trans (by simp [lookup]))
      rcases List.mem_cons.mp hmem with heq | hin'
      · exact congrArg Prod.fst heq
      rcases List.mem_cons.mp hmem' with heq | hin
      · exact (congrArg Prod.fst heq).symm
      have hlt := hfirst _ hin
      have hlt' := hfirst' _ hin'
      simpa using Std.TransCmp.lt_trans hlt hlt'
    subst hkey
    have hvalue : value = value' := by
      have := hl key
      simpa [lookup] using this
    subst hvalue
    have hrests : rest = rest' := rows_eq_of_lookup_eq hrest hrest' fun other => by
      by_cases hother : other = key
      · subst hother
        rw [lookup_eq_none_of_lt hfirst, lookup_eq_none_of_lt hfirst']
      · have := hl other
        simpa [lookup, hother] using this
    rw [hrests]

end Lawful

/-! ## Tables -/

/-- The table without rows. -/
def empty : Table κ α := ⟨[], List.Pairwise.nil⟩

instance : Inhabited (Table κ α) := ⟨empty⟩

instance [DecidableEq κ] [DecidableEq α] : DecidableEq (Table κ α)
  | ⟨rows, _⟩, ⟨rows', _⟩ => decidable_of_iff (rows = rows') (by simp)

/-- The row under a key. -/
def get? (t : Table κ α) (key : κ) : Option α := lookup key t.rows

def contains (t : Table κ α) (key : κ) : Bool := (t.get? key).isSome

/-- All rows, in the order of their keys. -/
def values (t : Table κ α) : List α := t.rows.map Prod.snd

/-- The table without the row under a key. -/
def erase (t : Table κ α) (key : κ) : Table κ α := ⟨eraseRow key t.rows, t.ascending.filter _⟩

@[simp] theorem get?_empty (key : κ) : (empty : Table κ α).get? key = none := rfl

variable [Std.LawfulEqOrd κ]

theorem get?_erase [DecidableEq κ] (t : Table κ α) (key other : κ) :
    (t.erase key).get? other = if other = key then none else t.get? other :=
  lookup_eraseRow key other t.rows

theorem mem_values {t : Table κ α} {value : α} :
    value ∈ t.values ↔ ∃ key, t.get? key = some value := by
  constructor
  · intro h
    obtain ⟨⟨key, _⟩, hrow, rfl⟩ := List.mem_map.mp h
    exact ⟨key, lookup_eq_some_of_mem t.ascending hrow⟩
  · rintro ⟨key, h⟩
    exact List.mem_map.mpr ⟨(key, value), mem_of_lookup_eq_some h, rfl⟩

variable [Std.TransOrd κ]

/-- The table with this row under a key. -/
def insert (t : Table κ α) (key : κ) (value : α) : Table κ α :=
  ⟨insertRow key value t.rows, pairwise_insertRow key value t.ascending⟩

/-- The table with this row under a key, or with none. -/
def set (t : Table κ α) (key : κ) : Option α → Table κ α
  | some value => t.insert key value
  | none => t.erase key

theorem get?_insert [DecidableEq κ] (t : Table κ α) (key other : κ) (value : α) :
    (t.insert key value).get? other = if other = key then some value else t.get? other :=
  lookup_insertRow key other value t.rows

theorem get?_set [DecidableEq κ] (t : Table κ α) (key other : κ) (value : Option α) :
    (t.set key value).get? other = if other = key then value else t.get? other := by
  cases value with
  | none => exact get?_erase t key other
  | some value => exact get?_insert t key other value

/-- **Tables with the same rows are equal.** -/
theorem ext_get? {t t' : Table κ α} (h : ∀ key, t.get? key = t'.get? key) : t = t' := by
  cases t with
  | mk rows ascending =>
    cases t' with
    | mk rows' ascending' =>
      obtain rfl := rows_eq_of_lookup_eq ascending ascending' h
      rfl

end Table

end Stockroom

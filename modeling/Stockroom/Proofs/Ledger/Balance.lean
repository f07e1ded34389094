import Mathlib.Algebra.Ring.Int.Defs
import Stockroom.Proofs.Ledger.Edit

/-!
# Proofs/Ledger/Balance — a record is what its entries add up to

A movement overwrites the record of its product as a whole and appends one entry to the ledger.
**`Entry.Balance` says that no movement is lost, doubled or applied to the wrong counts**: the counts
of a record are the ones it was registered with plus what its entries say, and its version is their
number.  An edit keeps this for every product that has a row (`Tables.Balanced.edit`); a product that
has none has no entries either (`Tables.Unposted`).
-/

namespace Stockroom

open Store

/-! ## Sums over the ledger -/

namespace Entry

variable {product : ProductId} {kind : ChangeKind} {e : Entry}

/-- What the entries of a product of one kind add up to. -/
def total (product : ProductId) (kind : ChangeKind) (es : List Entry) : Int :=
  ((es.filter fun e => e.product = product ∧ e.kind = kind).map change).sum

/-- How many entries a product has. -/
def count (product : ProductId) (es : List Entry) : Nat :=
  es.countP fun e => e.product = product

theorem total_append_of_ne (es : List Entry) (h : e.product ≠ product) :
    total product kind (es ++ [e]) = total product kind es := by
  simp [total, List.filter_append, h]

theorem total_append (es : List Entry) (h : e.product = product) :
    total product kind (es ++ [e]) =
      total product kind es + if e.kind = kind then e.change else 0 := by
  by_cases hk : e.kind = kind <;> simp [total, List.filter_append, h, hk]

theorem count_append_of_ne (es : List Entry) (h : e.product ≠ product) :
    count product (es ++ [e]) = count product es := by
  simp [count, List.countP_append, h]

theorem count_append (es : List Entry) (h : e.product = product) :
    count product (es ++ [e]) = count product es + 1 := by
  simp [count, List.countP_append, h]

/-- **A record that was registered with so many free pieces is what its entries add up to.** -/
structure Balance (product : ProductId) (stock : Int) (record : StockRecord) (es : List Entry) :
    Prop where
  available : record.available = stock + (total product .restock es + total product .adjust es) -
    total product .reserve es - total product .release es
  reserved : record.reserved =
    total product .reserve es + total product .release es + total product .deduct es
  version : record.version = count product es
  shown : ∀ e ∈ es, e.product = product →
    (e.after.available - e.before.available, e.after.reserved - e.before.reserved) =
      e.kind.effect e.change

variable {stock : Int} {record record' : StockRecord} {es : List Entry}

/-- Entries of other products do not matter. -/
theorem Balance.append_of_ne (h : Balance product stock record es) (he : e.product ≠ product) :
    Balance product stock record (es ++ [e]) where
  available := by simpa only [total_append_of_ne es he] using h.available
  reserved := by simpa only [total_append_of_ne es he] using h.reserved
  version := by simpa only [count_append_of_ne es he] using h.version
  shown e' he' hp := by
    rcases List.mem_append.mp he' with he' | he'
    · exact h.shown e' he' hp
    · rw [List.mem_singleton.mp he'] at hp
      exact absurd hp he

/-- **An entry and a record that moves by its effect** stay in balance. -/
theorem Balance.append (h : Balance product stock record es) (he : e.product = product)
    (havailable : record'.available = record.available + (e.kind.effect e.change).1)
    (hreserved : record'.reserved = record.reserved + (e.kind.effect e.change).2)
    (hversion : record'.version = record.version + 1)
    (hshown : (e.after.available - e.before.available, e.after.reserved - e.before.reserved) =
      e.kind.effect e.change) : Balance product stock record' (es ++ [e]) := by
  obtain ⟨hav, hres, hver, hall⟩ := h
  refine ⟨?_, ?_, ?_, fun e' he' hp => ?_⟩
  · simp only [total_append es he, havailable, hav]
    cases e.kind <;> simp [ChangeKind.effect] <;> omega
  · simp only [total_append es he, hreserved, hres]
    cases e.kind <;> simp [ChangeKind.effect] <;> omega
  · rw [count_append es he, hversion, hver]
    rfl
  · rcases List.mem_append.mp he' with he' | he'
    · exact hall e' he' hp
    · rw [List.mem_singleton.mp he']
      exact hshown

/-- Only the counts and the version of the record matter. -/
theorem Balance.recount (h : Balance product stock record es)
    (havailable : record'.available = record.available)
    (hreserved : record'.reserved = record.reserved)
    (hversion : record'.version = record.version) : Balance product stock record' es :=
  ⟨havailable ▸ h.available, hreserved ▸ h.reserved, hversion ▸ h.version, h.shown⟩

/-- A product without entries is as it was registered. -/
theorem balance_of_unposted (h : ∀ e ∈ es, e.product ≠ product)
    (havailable : record.available = stock) (hreserved : record.reserved = 0)
    (hversion : record.version = 0) : Balance product stock record es := by
  have htotal : ∀ kind, total product kind es = 0 := fun kind => by
    rw [total, List.filter_eq_nil_iff.mpr fun e he => by simp [h e he]]
    rfl
  refine ⟨?_, ?_, ?_, fun e he hp => absurd hp (h e he)⟩
  · simp only [htotal, havailable]
    omega
  · simp only [htotal, hreserved]
    omega
  · rw [hversion, count, List.countP_eq_zero.mpr fun e he => by simpa using h e he]
    rfl

end Entry

/-! ## Tables in balance -/

namespace Store.Tables

variable {tunable : Prop} {t t' : Tables} {product : ProductId} {stock : Int}

/-- Products without a row have no entries. -/
def Unposted (t : Tables) : Prop := ∀ e ∈ t.entries, t.stock.get? e.product ≠ none

/-- **A product has a row that is in balance.** -/
def Balanced (product : ProductId) (stock : Int) (t : Tables) : Prop :=
  ∃ row, t.stock.get? product = some row ∧ Entry.Balance product stock row.record t.entries

theorem Unposted.insert (h : t.Unposted) (row : StockRow) :
    ({ t with stock := t.stock.insert product row } : Tables).Unposted := fun e he => by
  rw [Table.get?_insert]
  split
  · exact nofun
  · exact h e he

/-- Every edit keeps products without a row without entries. -/
theorem Unposted.edit (h : t.Unposted) (he : Edit tunable t t') : t'.Unposted := by
  cases he with
  | @movement _ m hposts =>
    cases hposts
    intro e he
    rw [Table.get?_insert]
    split
    · exact nofun
    · next hne =>
      rcases List.mem_append.mp he with he | he
      · exact h e he
      · rw [List.mem_singleton.mp he] at hne
        exact absurd rfl hne
  | register hfresh hrecord hfits => exact h.insert _
  | tune ht hlive htuned => exact h.insert _
  | remove hlive => exact h.insert _
  | place hfresh hitems => exact h
  | advance horder hmoved => exact h

/-- A row is written that counts what the row before it counted. -/
theorem Balanced.recount {other : ProductId} {old new : StockRow} (h : t.Balanced product stock)
    (hrow : t.stock.get? other = some old) (havailable : new.record.available = old.record.available)
    (hreserved : new.record.reserved = old.record.reserved)
    (hversion : new.record.version = old.record.version) :
    ({ t with stock := t.stock.insert other new } : Tables).Balanced product stock := by
  obtain ⟨row, hr, hb⟩ := h
  by_cases hp : product = other
  · subst hp
    rw [hrow] at hr
    cases hr
    exact ⟨new, by simp [Table.get?_insert], hb.recount havailable hreserved hversion⟩
  · exact ⟨row, by rw [Table.get?_insert, if_neg hp]; exact hr, hb⟩

/-- A new record is in balance. -/
theorem balanced_register {record : StockRecord} {threshold : Int} {now : Instant}
    (h : t.Unposted) (hfresh : t.stock.get? record.product = none)
    (hrecord : StockRecord.register record.product stock threshold now = .ok record) :
    (t.putLive record.product record).Balanced record.product stock := by
  obtain ⟨-, -, heq⟩ := StockRecord.register_eq_ok_iff.mp hrecord
  refine ⟨⟨record, none⟩, by simp [putLive, Table.get?_insert],
    Entry.balance_of_unposted (fun e he hp => h e he (hp ▸ hfresh)) ?_ ?_ ?_⟩ <;> rw [heq]

/-- **Every edit keeps a product in balance.** -/
theorem Balanced.edit (h : t.Balanced product stock) (he : Edit tunable t t') :
    t'.Balanced product stock := by
  cases he with
  | @movement _ m hposts =>
    obtain @⟨live, seen, next, reservations, before, after, hlive, hseen, hnext, hversion, -, hshown,
      -⟩ := hposts
    obtain ⟨row, hr, hb⟩ := h
    by_cases hp : product = m.product
    · subst hp
      rw [liveStock?_eq_some_iff.mp hlive] at hr
      cases hr
      have heq := Movement.next_eq hnext
      refine ⟨⟨next, none⟩, by simp [Table.get?_insert], hb.append rfl ?_ ?_ hversion hshown⟩
      · rw [heq]
        exact congrArg (· + (m.kind.effect m.change).1) hseen.available
      · rw [heq]
        exact congrArg (· + (m.kind.effect m.change).2) hseen.reserved
    · exact ⟨row, by rw [Table.get?_insert, if_neg hp]; exact hr, hb.append_of_ne (Ne.symm hp)⟩
  | @register record _ _ _ hfresh hrecord hfits =>
    obtain ⟨row, hr, hb⟩ := h
    have hp : product ≠ record.product := fun hp => by
      rw [hp, hfresh] at hr
      cases hr
    exact ⟨row, by rw [putLive, Table.get?_insert, if_neg hp]; exact hr, hb⟩
  | tune ht hlive htuned =>
    obtain ⟨-, rfl⟩ := StockRecord.withThreshold_eq_ok_iff.mp htuned
    exact h.recount (liveStock?_eq_some_iff.mp hlive) rfl rfl rfl
  | remove hlive => exact h.recount (liveStock?_eq_some_iff.mp hlive) rfl rfl rfl
  | place hfresh hitems => exact h
  | advance horder hmoved => exact h

end Store.Tables

end Stockroom

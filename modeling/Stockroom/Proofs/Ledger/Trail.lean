import Stockroom.Proofs.Ledger.Balance

/-!
# Proofs/Ledger/Trail — entries that follow on one another

**The entries of a product form a trail** (`Entry.Chain`) if each of them starts from the counts that
the one before it has left.  A movement shows the counts of the record that it met, so it continues
the trail (`Tables.Continuous.post`) — except for a restock, which shows the counts that it met when
it was written and not when it was committed.  So a restock has to be looked at by itself.

Entries are numbered in the order in which they were committed (`Tables.Numbered`).
-/

namespace Stockroom

open Store

namespace Entry

variable {start finish : Snapshot} {e : Entry} {es : List Entry}

/-- **A trail of entries**: the first starts from `start`, each of the others from where the one before
it ended, and the last ends at `finish`. -/
def Chain (start : Snapshot) : List Entry → Snapshot → Prop
  | [], finish => start = finish
  | e :: es, finish => e.before = start ∧ Chain e.after es finish

instance : ∀ start es finish, Decidable (Chain start es finish)
  | start, [], finish => inferInstanceAs (Decidable (start = finish))
  | start, e :: es, finish =>
    have := instDecidableChain e.after es finish
    inferInstanceAs (Decidable (e.before = start ∧ Chain e.after es finish))

theorem chain_append :
    Chain start (es ++ [e]) finish ↔ Chain start es e.before ∧ e.after = finish := by
  induction es generalizing start with
  | nil => exact ⟨fun h => ⟨h.1.symm, h.2⟩, fun h => ⟨h.1.symm, h.2⟩⟩
  | cons first rest ih =>
    rw [List.cons_append, Chain, Chain, ih, and_assoc]

end Entry

namespace Store.Tables

variable {t t' : Tables} {product : ProductId} {stock : Int}

/-- The entries of a product, from the oldest to the newest. -/
def trailOf (t : Tables) (product : ProductId) : List Entry :=
  t.entries.filter fun e => e.product = product

/-- **A product whose entries lead from the counts it was registered with to its present ones.** -/
def Continuous (product : ProductId) (stock : Int) (t : Tables) : Prop :=
  ∃ row, t.stock.get? product = some row ∧
    Entry.Chain ⟨stock, 0⟩ (t.trailOf product) row.record.snapshot

/-- Entries carry the numbers from 1 on. -/
structure Numbered (t : Tables) : Prop where
  last : t.lastEntryId = t.entries.length
  id : ∀ (i : Nat) (e : Entry), t.entries[i]? = some e → e.id = some (i + 1)

theorem Numbered.append (h : t.Numbered) (e : Entry) (stock : Table ProductId StockRow)
    (reservations : Table ReservationKey Reservation) :
    ({ t with
      stock := stock
      reservations := reservations
      entries := t.entries ++ [e.numbered (t.lastEntryId + 1)]
      lastEntryId := t.lastEntryId + 1 } : Tables).Numbered where
  last := by simp [h.last]
  id i e' he' := by
    rcases Nat.lt_or_ge i t.entries.length with hi | hi
    · exact h.id i e' ((List.getElem?_append_left hi).symm.trans he')
    · have hlast : i = t.entries.length := by
        have hlt := (List.getElem?_eq_some_iff.mp he').1
        rw [List.length_append, List.length_singleton] at hlt
        omega
      subst hlast
      rw [List.getElem?_append_right (Nat.le_refl _), Nat.sub_self] at he'
      cases he'
      rw [h.last]
      rfl

/-- **Every edit numbers its entries on.** -/
theorem Numbered.edit {tunable : Prop} (h : t.Numbered) (he : Edit tunable t t') : t'.Numbered := by
  cases he with
  | movement hposts =>
    cases hposts
    exact h.append _ _ _
  | register hfresh hrecord hfits => exact ⟨h.last, h.id⟩
  | tune ht hlive htuned => exact ⟨h.last, h.id⟩
  | remove hlive => exact ⟨h.last, h.id⟩
  | place hfresh hitems => exact ⟨h.last, h.id⟩
  | advance horder hmoved => exact ⟨h.last, h.id⟩

/-- A row is written that counts what the row before it counted. -/
theorem Continuous.recount {other : ProductId} {old new : StockRow}
    (h : t.Continuous product stock) (hrow : t.stock.get? other = some old)
    (hsame : new.record.snapshot = old.record.snapshot) :
    ({ t with stock := t.stock.insert other new } : Tables).Continuous product stock := by
  obtain ⟨row, hr, hchain⟩ := h
  by_cases hp : product = other
  · subst hp
    cases hrow.symm.trans hr
    exact ⟨new, (Table.get?_insert ..).trans (if_pos rfl), hsame ▸ hchain⟩
  · exact ⟨row, ((Table.get?_insert ..).trans (if_neg hp)).trans hr, hchain⟩

/-- Only rows and entries matter. -/
theorem Continuous.of_eq (h : t.Continuous product stock) (hstock : t'.stock = t.stock)
    (hentries : t'.entries = t.entries) : t'.Continuous product stock := by
  obtain ⟨row, hr, hchain⟩ := h
  exact ⟨row, hstock ▸ hr, by rwa [trailOf, hentries]⟩

/-- A product that has just been registered has no entries yet. -/
theorem continuous_register {record : StockRecord} {threshold : Int} {now : Instant}
    (h : t.Unposted) (hfresh : t.stock.get? record.product = none)
    (hrecord : StockRecord.register record.product stock threshold now = .ok record) :
    (t.putLive record.product record).Continuous record.product stock := by
  obtain ⟨-, -, heq⟩ := StockRecord.register_eq_ok_iff.mp hrecord
  have hnone : (t.putLive record.product record).trailOf record.product = [] :=
    List.filter_eq_nil_iff.mpr fun e he => by
      rw [decide_eq_true_eq]
      exact fun hp => h e he (hp ▸ hfresh)
  refine ⟨⟨record, none⟩, (Table.get?_insert ..).trans (if_pos rfl), ?_⟩
  rw [hnone, heq]
  rfl

/-- **A movement that shows the counts which it met continues the trail.** -/
theorem Continuous.post {m : Movement} (h : t.Continuous product stock) (hm : m.Posts t t')
    (hshown : m.kind = .restock → m.product = product → ∀ e live,
      t'.entries = t.entries ++ [e] → t.liveStock? product = some live →
        e.before = live.snapshot) : t'.Continuous product stock := by
  obtain @⟨live, seen, next, reservations, before, after, hlive, hseen, hnext, hversion, -, hmoved,
    hbefore⟩ := hm
  obtain ⟨row, hr, hchain⟩ := h
  by_cases hp : m.product = product
  · subst hp
    have hrow := liveStock?_eq_some_iff.mp hlive
    cases hrow.symm.trans hr
    have heq := Movement.next_eq hnext
    have hmet : before = live.snapshot := by
      by_cases hkind : m.kind = .restock
      · exact hshown hkind rfl _ live rfl hlive
      · rw [hbefore hkind]
        exact congrArg₂ Snapshot.mk hseen.available hseen.reserved
    have hafter : after = next.snapshot := by
      rw [hmet] at hmoved
      have havailable : after.available - live.available = (m.kind.effect m.change).1 :=
        congrArg Prod.fst hmoved
      have hreserved : after.reserved - live.reserved = (m.kind.effect m.change).2 :=
        congrArg Prod.snd hmoved
      have hseena := hseen.available
      have hseenr := hseen.reserved
      subst heq
      exact congrArg₂ Snapshot.mk (by simp only [StockRecord.next]; omega)
        (by simp only [StockRecord.next]; omega)
    refine ⟨⟨next, none⟩, (Table.get?_insert ..).trans (if_pos rfl), ?_⟩
    rw [trailOf, List.filter_append, List.filter_cons_of_pos (by simp [Entry.numbered, Movement.entry]),
      List.filter_nil, Entry.chain_append]
    exact ⟨hmet ▸ hchain, hafter⟩
  · refine ⟨row, ((Table.get?_insert ..).trans (if_neg (Ne.symm hp))).trans hr, ?_⟩
    rw [trailOf, List.filter_append,
      List.filter_cons_of_neg (by simp [Entry.numbered, Movement.entry, hp]), List.filter_nil,
      List.append_nil]
    exact hchain

end Store.Tables

end Stockroom

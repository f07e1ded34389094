import Stockroom.Proofs.Ledger.Edit

/-!
# Proofs/Ledger/Settlement — a reservation is settled at most once

**`Reservation.story` is what the ledger says about a reservation**, entry by entry: that it was
opened and, unless it is active, how it was settled.  A movement that marks a reservation adds to its
story just what it adds to the ledger (`Movement.Marks.story`), so every edit keeps the two equal
(`Tables.Storied.edit`).  A second settlement would make the ledger longer than any story.
-/

namespace Stockroom

open Store

/-! ## Stories -/

/-- Whether an entry is about a reservation. -/
def Entry.IsAbout (e : Entry) (key : ReservationKey) : Prop :=
  e.product = key.product ∧ e.order = some key.order

instance (e : Entry) (key : ReservationKey) : Decidable (e.IsAbout key) :=
  inferInstanceAs (Decidable (_ ∧ _))

/-- The kind of an entry, its change and its reason. -/
def Entry.gist (e : Entry) : ChangeKind × Int × Option String := (e.kind, e.change, e.reason)

/-- How the ledger says that a reservation of so many pieces was settled. -/
def ReservationStatus.settlement (quantity : Int) :
    ReservationStatus → List (ChangeKind × Int × Option String)
  | active => []
  | confirmed => [(.deduct, -quantity, some "Stock deducted for confirmed order")]
  | cancelled => [(.release, -quantity, some ReleaseTarget.cancelled.reason)]
  | expired => [(.release, -quantity, some ReleaseTarget.expired.reason)]

/-- **What the ledger says about a reservation.** -/
def Reservation.story (r : Reservation) : List (ChangeKind × Int × Option String) :=
  (.reserve, r.quantity, some "Stock reserved for order") :: r.status.settlement r.quantity

/-- What the ledger says about a key; nothing if there is no reservation. -/
def storyAt (rs : Table ReservationKey Reservation) (key : ReservationKey) :
    List (ChangeKind × Int × Option String) :=
  ((rs.get? key).map Reservation.story).getD []

/-- What the entries about a reservation say. -/
def Entry.gists (key : ReservationKey) (es : List Entry) : List (ChangeKind × Int × Option String) :=
  (es.filter fun e => e.IsAbout key).map gist

theorem Entry.gists_append (key : ReservationKey) (es : List Entry) (e : Entry) :
    gists key (es ++ [e]) = gists key es ++ if e.IsAbout key then [e.gist] else [] := by
  unfold gists
  split
  · next h => simp [List.filter_append, h]
  · next h => simp [List.filter_append, h]

theorem storyAt_insert (rs : Table ReservationKey Reservation) (key other : ReservationKey)
    (r : Reservation) :
    storyAt (rs.insert key r) other = if other = key then r.story else storyAt rs other := by
  unfold storyAt
  rw [Table.get?_insert]
  split <;> rfl

theorem storyAt_of_get? {rs : Table ReservationKey Reservation} {key : ReservationKey}
    {r : Reservation} (h : rs.get? key = some r) : storyAt rs key = r.story := by
  rw [storyAt, h]
  rfl

theorem Reservation.story_of_active (r : Reservation) (h : r.status = .active) :
    r.story = [(.reserve, r.quantity, some "Stock reserved for order")] := by
  rw [story, h]
  rfl

theorem ReleaseTarget.settlement_status (target : ReleaseTarget) (quantity : Int) :
    target.status.settlement quantity = [(.release, -quantity, some target.reason)] := by
  cases target <;> rfl

namespace Movement

variable {m : Movement} {rs rs' : Table ReservationKey Reservation}

theorem gist_entry (before after : Snapshot) (id : Int) :
    ((m.entry before after).numbered id).gist = (m.kind, m.change, some m.reason) := rfl

/-- **A movement adds itself to the story of the reservation that it marks**, and to no other. -/
theorem Marks.story (h : m.Marks rs rs') (key : ReservationKey) :
    storyAt rs' key = storyAt rs key ++
      if m.product = key.product ∧ m.order? = some key.order then
        [(m.kind, m.change, some m.reason)] else [] := by
  have hother : ∀ {p : ProductId} {o : OrderId}, key ≠ ⟨p, o⟩ →
      ¬(p = key.product ∧ some o = some key.order) := by
    rintro p o hne ⟨rfl, ho⟩
    cases ho
    exact hne rfl
  have hmark : ∀ {p o} {r : Reservation} {old tail}, rs' = rs.insert ⟨p, o⟩ r →
      storyAt rs ⟨p, o⟩ = old → r.story = old ++ tail →
      storyAt rs' key = storyAt rs key ++
        if p = key.product ∧ some o = some key.order then tail else [] := by
    rintro p o r old tail rfl rfl hr
    rw [storyAt_insert]
    split
    · next heq =>
      subst heq
      rw [hr, if_pos ⟨rfl, rfl⟩]
    · next hne => rw [if_neg (hother hne), List.append_nil]
  cases m with
  | reserve p quantity o expiresAt now =>
    obtain ⟨hnone, h⟩ := h
    have hold : storyAt rs ⟨p, o⟩ = [] := by
      rw [storyAt, show rs.get? _ = none from hnone]
      rfl
    exact hmark h hold rfl
  | release p quantity o target now =>
    obtain ⟨r, hr, hactive, rfl, h⟩ := h
    refine hmark h ((storyAt_of_get? hr).trans (r.story_of_active hactive)) ?_
    exact congrArg (_ :: ·) (target.settlement_status r.quantity)
  | deduct p quantity o now =>
    obtain ⟨r, hr, hactive, rfl, h⟩ := h
    exact hmark h ((storyAt_of_get? hr).trans (r.story_of_active hactive)) rfl
  | restock p quantity reason operator now =>
    rw [show rs' = rs from h, if_neg fun h => nomatch h.2]
    exact (List.append_nil _).symm
  | adjust p delta reason operator now =>
    rw [show rs' = rs from h, if_neg fun h => nomatch h.2]
    exact (List.append_nil _).symm

end Movement

/-! ## Tables that tell the stories -/

namespace Store.Tables

variable {tunable : Prop} {t t' : Tables}

/-- **The ledger tells the story of every reservation**, and nothing about reservations that there are
not. -/
def Storied (t : Tables) : Prop :=
  ∀ key, Entry.gists key t.entries = storyAt t.reservations key

/-- **Every edit keeps the stories.** -/
theorem Storied.edit (h : t.Storied) (he : Edit tunable t t') : t'.Storied := by
  cases he with
  | @movement _ m hposts =>
    obtain @⟨live, seen, next, reservations, before, after, -, -, -, -, hmarks, -, -⟩ := hposts
    intro key
    rw [Entry.gists_append, h key, hmarks.story key, Movement.gist_entry]
    rfl
  | register hfresh hrecord hfits => exact h
  | tune ht hlive htuned => exact h
  | remove hlive => exact h
  | place hfresh hitems => exact h
  | advance horder hmoved => exact h

/-! ## Entries of one kind -/

/-- The changes and reasons of the entries of one kind about a reservation. -/
def told (t : Tables) (key : ReservationKey) (kind : ChangeKind) : List (Int × Option String) :=
  (t.entries.filter fun e => e.IsAbout key ∧ e.kind = kind).map fun e => (e.change, e.reason)

/-- **The ledger has settled a reservation as often as its status says**: it was opened once, and
released or deducted at most once, as a whole. -/
def Tallies (t : Tables) (key : ReservationKey) : Prop :=
  match t.reservations.get? key with
  | none => ∀ kind, t.told key kind = []
  | some r =>
    t.told key .reserve = [(r.quantity, some "Stock reserved for order")] ∧
      match r.status with
      | .active => t.told key .release = [] ∧ t.told key .deduct = []
      | .confirmed =>
        t.told key .release = [] ∧
          t.told key .deduct = [(-r.quantity, some "Stock deducted for confirmed order")]
      | .cancelled =>
        t.told key .release = [(-r.quantity, some ReleaseTarget.cancelled.reason)] ∧
          t.told key .deduct = []
      | .expired =>
        t.told key .release = [(-r.quantity, some ReleaseTarget.expired.reason)] ∧
          t.told key .deduct = []

theorem told_eq (t : Tables) (key : ReservationKey) (kind : ChangeKind) :
    t.told key kind = ((Entry.gists key t.entries).filter fun g => g.1 = kind).map Prod.snd := by
  simp only [told, Entry.gists, List.filter_map, List.map_map, List.filter_filter]
  congr 1
  refine List.filter_congr fun e _ => ?_
  by_cases ha : e.IsAbout key <;> by_cases hk : e.kind = kind <;> simp [Entry.gist, ha, hk]

/-- Where the ledger tells the stories, every reservation tallies. -/
theorem Storied.tallies (h : t.Storied) (key : ReservationKey) : t.Tallies key := by
  have htold : ∀ kind,
      t.told key kind = ((storyAt t.reservations key).filter fun g => g.1 = kind).map Prod.snd :=
    fun kind => by rw [told_eq, h key]
  unfold Tallies
  split
  · next hnone =>
    intro kind
    rw [htold, storyAt, hnone]
    rfl
  · next r hr =>
    simp only [htold, storyAt_of_get? hr, Reservation.story]
    cases r.status <;> exact ⟨rfl, rfl, rfl⟩

end Store.Tables

end Stockroom

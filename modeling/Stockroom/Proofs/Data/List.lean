import Mathlib.Data.List.Induction
import Mathlib.Data.List.Nodup

/-!
# Proofs/Data/List — lists that are sorted, and lists without their repetitions

Sorting keeps the order of equals.  **So what is left of a sorted list is what is left, sorted**
(`filter_mergeSort`), and what stood in some order before still stands in it where the sorting does not tell
(`pairwise_mergeSort_of_pairwise`).
-/

namespace Stockroom

/-! ## Images -/

/-- What is found in an image is the image of something. -/
theorem exists_of_mem_of_mapM_eq_some {α β : Type} {f : α → Option β} {as : List α} {bs : List β} {b : β}
    (h : as.mapM f = some bs) (hb : b ∈ bs) : ∃ a ∈ as, f a = some b := by
  induction as generalizing bs with
  | nil =>
    cases h
    exact absurd hb List.not_mem_nil
  | cons a as ih =>
    simp only [List.mapM_cons, Option.bind_eq_bind, Option.bind_eq_some_iff] at h
    obtain ⟨c, hc, cs, hcs, h⟩ := h
    obtain rfl := Option.some.inj h
    rcases List.mem_cons.mp hb with rfl | hb
    · exact ⟨a, List.mem_cons_self, hc⟩
    · obtain ⟨a', ha', hf⟩ := ih hcs hb
      exact ⟨a', List.mem_cons_of_mem _ ha', hf⟩

/-! ## Sorting -/

section Sorting

variable {α : Type} {le : α → α → Bool}

/-- Two ways to split a sorted list around a place. -/
theorem append_inj_of_split {a : α} {xs xs' ys ys' : List α} (h : xs ++ ys = xs' ++ ys')
    (hxs : ∀ b ∈ xs, le a b = false) (hxs' : ∀ b ∈ xs', le a b = false)
    (hys : ∀ b ∈ ys, le a b = true) (hys' : ∀ b ∈ ys', le a b = true) : xs = xs' ∧ ys = ys' := by
  have hsplit : ∀ {xs ys : List α}, (∀ b ∈ xs, le a b = false) → (∀ b ∈ ys, le a b = true) →
      (xs ++ ys).filter (fun b => !le a b) = xs ∧ (xs ++ ys).filter (le a ·) = ys := by
    intro xs ys hxs hys
    rw [List.filter_append, List.filter_append]
    refine ⟨?_, ?_⟩
    · rw [List.filter_eq_self.mpr fun b hb => by simp [hxs b hb],
        List.filter_eq_nil_iff.mpr fun b hb => by simp [hys b hb], List.append_nil]
    · rw [List.filter_eq_nil_iff.mpr fun b hb => by simp [hxs b hb],
        List.filter_eq_self.mpr fun b hb => hys b hb, List.nil_append]
  obtain ⟨h₁, h₂⟩ := hsplit hxs hys
  obtain ⟨h₁', h₂'⟩ := hsplit hxs' hys'
  exact ⟨h₁.symm.trans (h ▸ h₁'), h₂.symm.trans (h ▸ h₂')⟩

/-- **What is left of a sorted list is what is left, sorted**: sorting keeps the order of equals. -/
theorem filter_mergeSort (htrans : ∀ a b c, le a b = true → le b c = true → le a c = true)
    (htotal : ∀ a b, (le a b || le b a) = true) (keep : α → Bool) (xs : List α) :
    (xs.filter keep).mergeSort le = (xs.mergeSort le).filter keep := by
  induction xs with
  | nil => simp
  | cons a xs ih =>
    obtain ⟨front, back, hsorted, hrest, hfront⟩ := List.mergeSort_cons htrans htotal a xs
    by_cases ha : keep a = true
    · obtain ⟨front', back', hsorted', hrest', hfront'⟩ :=
        List.mergeSort_cons htrans htotal a (xs.filter keep)
      -- In both lists `a` stands behind those that it does not precede, and before all others.
      have hback : ∀ b ∈ back, le a b = true := by
        have := hsorted ▸ List.pairwise_mergeSort htrans htotal (a :: xs)
        exact (List.pairwise_cons.mp (List.pairwise_append.mp this).2.1).1
      have hback' : ∀ b ∈ back', le a b = true := by
        have := hsorted' ▸ List.pairwise_mergeSort htrans htotal (a :: xs.filter keep)
        exact (List.pairwise_cons.mp (List.pairwise_append.mp this).2.1).1
      have heq : front' ++ back' = front.filter keep ++ back.filter keep := by
        rw [← hrest', ih, hrest, List.filter_append]
      obtain ⟨rfl, rfl⟩ := append_inj_of_split heq (fun b hb => by simpa using hfront' b hb)
        (fun b hb => by simpa using hfront b (List.mem_filter.mp hb).1) hback'
        fun b hb => hback b (List.mem_filter.mp hb).1
      rw [List.filter_cons_of_pos ha, hsorted', hsorted, List.filter_append,
        List.filter_cons_of_pos ha]
    · rw [List.filter_cons_of_neg ha, ih, hsorted, hrest, List.filter_append, List.filter_append,
        List.filter_cons_of_neg ha]

/-- **Sorting keeps the order of equals**: what stood in some order still stands in it where the sorting does
not tell. -/
theorem pairwise_mergeSort_of_pairwise {before : α → α → Prop}
    (htrans : ∀ a b c, le a b = true → le b c = true → le a c = true)
    (htotal : ∀ a b, (le a b || le b a) = true) {xs : List α} (h : xs.Pairwise before) :
    (xs.mergeSort le).Pairwise fun a b => le a b = true ∧ (le b a = true → before a b) := by
  refine (List.pairwise_mergeSort htrans htotal xs).and ?_
  induction xs with
  | nil => simp
  | cons a xs ih =>
    obtain ⟨ha, hxs⟩ := List.pairwise_cons.mp h
    obtain ⟨front, back, hsorted, hrest, hfront⟩ := List.mergeSort_cons htrans htotal a xs
    have hback : ∀ b ∈ back, b ∈ xs := fun b hb =>
      List.mem_mergeSort.mp (hrest ▸ List.mem_append_right front hb)
    rw [hsorted, List.pairwise_append, List.pairwise_cons]
    obtain ⟨hpre, hpost, hcross⟩ := List.pairwise_append.mp (hrest ▸ ih hxs)
    refine ⟨hpre, ⟨fun b hb _ => ha b (hback b hb), hpost⟩, fun b hb c hc hle => ?_⟩
    rcases List.mem_cons.mp hc with rfl | hc
    · exact absurd hle (by simpa using hfront b hb)
    · exact hcross b hb c hc hle

end Sorting

/-! ## First appearances -/

section EraseDups

variable {α : Type} [BEq α] [LawfulBEq α]

theorem eraseDups_concat (xs : List α) (x : α) :
    (xs ++ [x]).eraseDups = xs.eraseDups ++ if x ∈ xs then [] else [x] := by
  rw [List.eraseDups_append]
  by_cases h : x ∈ xs <;> simp [List.removeAll, List.eraseDups_cons, h]

theorem nodup_eraseDups (xs : List α) : xs.eraseDups.Nodup := by
  induction xs using List.reverseRecOn with
  | nil => simp
  | append_singleton xs x ih =>
    rw [eraseDups_concat]
    split
    · simpa using ih
    · next h =>
      refine List.nodup_append.mpr ⟨ih, List.nodup_singleton x, fun a ha b hb => ?_⟩
      rintro rfl
      exact h (List.mem_singleton.mp hb ▸ List.mem_eraseDups.mp ha)

end EraseDups

end Stockroom

import Mathlib

set_option autoImplicit false

namespace Sorting

section Relation

variable {α : Type*} (r : α → α → Prop) [DecidableRel r]

theorem orderedInsert_concat {x y : α} (h : r x y) (l : List α) :
    List.orderedInsert r x (l ++ [y]) = List.orderedInsert r x l ++ [y] := by
  induction l with
  | nil => simp [h]
  | cons z l ih =>
    simp only [List.cons_append,List.orderedInsert_cons]
    split
    · rfl
    · rw [ih]
      rfl

/-- What comes last and is above everything stays last: the sort is stable. -/
theorem insertionSort_concat {y : α} {xs : List α} (h : ∀ x ∈ xs, r x y) :
    (xs ++ [y]).insertionSort r = xs.insertionSort r ++ [y] := by
  induction xs with
  | nil => rfl
  | cons x xs ih =>
    rw [List.cons_append,List.insertionSort_cons,List.insertionSort_cons,
      ih fun z hz => h z (List.mem_cons_of_mem _ hz),
      orderedInsert_concat r (h x List.mem_cons_self)]

end Relation

section Key

variable {α β : Type*} [LinearOrder β] {k : α → β} [DecidableRel fun x y : α => k x ≤ k y]

theorem pairwise_sorted (l : List α) :
    (l.insertionSort (fun x y => k x ≤ k y)).Pairwise (fun x y => k x ≤ k y) := by
  have : Std.Total (fun x y : α => k x ≤ k y) := ⟨fun x y => le_total (k x) (k y)⟩
  have : IsTrans α (fun x y => k x ≤ k y) := ⟨fun _ _ _ => le_trans⟩
  exact List.pairwise_insertionSort _ l

theorem le_last {l : List α} {x y : α} (hx : x ∈ l.insertionSort (fun x y => k x ≤ k y))
    (hy : (l.insertionSort (fun x y => k x ≤ k y)).getLast? = some y) : k x ≤ k y := by
  have hsorted := pairwise_sorted (k := k) l
  rcases List.eq_nil_or_concat (l.insertionSort (fun x y => k x ≤ k y)) with
    hnil | ⟨init,z,hconcat⟩
  · simp [hnil] at hx
  · rw [hconcat,List.concat_eq_append] at hx hy hsorted
    have hz : z = y := by simpa using hy
    subst hz
    rcases List.mem_append.mp hx with hinit | hlast
    · exact (List.pairwise_append.mp hsorted).2.2 x hinit z (by simp)
    · rw [List.mem_singleton.mp hlast]

/-- A list with increasing keys is what every listing of its elements is sorted to. -/
theorem sort_eq_of_increasing {l s : List α} (hs : s.Pairwise (fun x y => k x < k y))
    (hperm : l.Perm s) : l.insertionSort (fun x y => k x ≤ k y) = s := by
  have hle : s.Pairwise (fun x y => k x ≤ k y) := hs.imp fun h => le_of_lt h
  have hinjective : ∀ x ∈ s, ∀ y ∈ s, k x = k y → x = y := by
    have hne : (s.map k).Nodup := List.pairwise_map.mpr (hs.imp fun h => ne_of_lt h)
    exact fun x hx y hy => List.inj_on_of_nodup_map hne hx hy
  refine List.Perm.eq_of_pairwise ?_ (pairwise_sorted l) hle
    ((List.perm_insertionSort _ l).trans hperm)
  intro x y hx hy hxy hyx
  have hx' : x ∈ s := hperm.mem_iff.mp (List.mem_insertionSort _ |>.mp hx)
  exact hinjective x hx' y hy (le_antisymm hxy hyx)

theorem nodup_not_both {s : List α} (hs : s.Nodup) {x y : α} (hxy : [x,y].Sublist s)
    (hyx : [y,x].Sublist s) : False := by
  classical
  have horder : s.Pairwise (fun a b => s.idxOf a < s.idxOf b) := by
    rw [List.pairwise_iff_getElem]
    intro i j hi hj hij
    rwa [hs.idxOf_getElem i hi,hs.idxOf_getElem j hj]
  rw [List.pairwise_iff_forall_sublist] at horder
  exact Nat.lt_asymm (horder hxy) (horder hyx)

theorem increasing_of_sort_reverse {s : List α} (hnodup : s.Nodup)
    (hreverse : s.reverse.insertionSort (fun x y => k x ≤ k y) = s) :
    s.Pairwise (fun x y => k x < k y) := by
  rw [List.pairwise_iff_forall_sublist]
  intro x y hxy
  by_contra hlt
  -- a tie or an inversion: stability puts the pair the other way round
  have hyx : [y,x].Sublist (s.reverse.insertionSort (fun x y => k x ≤ k y)) :=
    List.pair_sublist_insertionSort (not_lt.mp hlt) (by simpa using hxy.reverse)
  rw [hreverse] at hyx
  exact nodup_not_both hnodup hxy hyx

end Key

end Sorting

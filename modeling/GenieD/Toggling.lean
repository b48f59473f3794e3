import Mathlib.Data.List.Dedup
import Mathlib.Algebra.Ring.Parity

set_option autoImplicit false

namespace Toggling

variable {α : Type*} [DecidableEq α]

def toggle (l : List α) (x : α) : List α :=
  if x ∈ l then l.filter (· ≠ x) else l ++ [x]

theorem dedup_concat (l : List α) (x : α) : (l ++ [x]).dedup = l.dedup.filter (· ≠ x) ++ [x] := by
  induction l with
  | nil => simp
  | cons a l ih =>
    rw [List.cons_append]
    by_cases hmem : a ∈ l
    · rw [List.dedup_cons_of_mem (List.mem_append_left _ hmem),List.dedup_cons_of_mem hmem,ih]
    · rw [List.dedup_cons_of_notMem hmem]
      by_cases hx : a = x
      · rw [List.dedup_cons_of_mem (by simp [hx]),ih,List.filter_cons_of_neg (by simp [hx])]
      · rw [List.dedup_cons_of_notMem (by simp [hmem,hx]),ih,List.filter_cons_of_pos (by simp [hx]),
          List.cons_append]

/-- What is selected after so many taps: the items tapped an odd number of times,
in the order of their last taps. -/
def selection (taps : List α) : List α := taps.dedup.filter fun x => Odd (taps.count x)

theorem mem_selection (taps : List α) (x : α) : x ∈ selection taps ↔ Odd (taps.count x) := by
  unfold selection
  rw [List.mem_filter,List.mem_dedup,decide_eq_true_eq]
  refine ⟨And.right,fun hodd => ⟨?_,hodd⟩⟩
  obtain ⟨n,hn⟩ := hodd
  exact List.count_pos_iff.mp (by omega)

theorem selection_concat (taps : List α) (x : α) :
    selection (taps ++ [x]) = toggle (selection taps) x := by
  have hothers : (taps.dedup.filter (· ≠ x)).filter (fun y => Odd ((taps ++ [x]).count y)) =
      (selection taps).filter (· ≠ x) := by
    unfold selection
    rw [List.filter_filter,List.filter_filter]
    refine List.filter_congr fun y _ => ?_
    by_cases hy : y = x
    · simp [hy]
    · simp [hy,Ne.symm hy,List.count_append]
  have hlast : [x].filter (fun y => Odd ((taps ++ [x]).count y)) =
      if x ∈ selection taps then [] else [x] := by
    have hmem := mem_selection taps x
    by_cases hodd : Odd (taps.count x)
    · have heven : ¬ Odd (taps.count x + 1) := by
        rw [Nat.not_odd_iff_even]
        exact hodd.add_one
      simp [List.count_append,hmem,hodd,heven]
    · have hodd' : Odd (taps.count x + 1) := (Nat.not_odd_iff_even.mp hodd).add_one
      simp [List.count_append,hmem,hodd,hodd']
  rw [selection,dedup_concat,List.filter_append,hothers,hlast,toggle]
  by_cases hmem : x ∈ selection taps
  · rw [if_pos hmem,if_pos hmem,List.append_nil]
  · rw [if_neg hmem,if_neg hmem,List.filter_eq_self.mpr]
    intro y hy
    have hne : y ≠ x := fun h => hmem (h ▸ hy)
    simpa using hne

end Toggling

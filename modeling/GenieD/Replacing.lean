import Mathlib.Data.List.Infix

set_option autoImplicit false

/-!
Replacing every occurrence of one list in another, from left to right and
without overlaps.
-/

namespace Replacing

variable {α : Type} [DecidableEq α]

/-- `skip` elements of an occurrence are still to be dropped. -/
def replaceFrom (target replacement : List α) : Nat → List α → List α
  | _, [] => []
  | skip + 1, _ :: xs => replaceFrom target replacement skip xs
  | 0, x :: xs =>
    if target ≠ [] ∧ target <+: x :: xs then
      replacement ++ replaceFrom target replacement (target.length - 1) xs
    else x :: replaceFrom target replacement 0 xs

def replaceAll (target replacement xs : List α) : List α := replaceFrom target replacement 0 xs

variable {target replacement xs : List α}

theorem replaceFrom_drop (skip : Nat) (xs : List α) :
    replaceFrom target replacement skip xs = replaceAll target replacement (xs.drop skip) := by
  induction skip generalizing xs with
  | zero => rfl
  | succ skip ih =>
    cases xs with
    | nil => simp [replaceAll,replaceFrom]
    | cons x xs => simpa [replaceFrom] using ih xs

theorem replaceAll_hit (htarget : target ≠ []) (xs : List α) :
    replaceAll target replacement (target ++ xs) =
      replacement ++ replaceAll target replacement xs := by
  cases target with
  | nil => exact absurd rfl htarget
  | cons t ts =>
    have hhit : t :: ts <+: t :: (ts ++ xs) := List.prefix_append (t :: ts) xs
    rw [replaceAll,List.cons_append,replaceFrom,if_pos ⟨htarget,hhit⟩,replaceFrom_drop]
    simp

theorem replaceAll_miss {x : α} (h : ¬ target <+: x :: xs) :
    replaceAll target replacement (x :: xs) = x :: replaceAll target replacement xs := by
  simp [replaceAll,replaceFrom,h]

theorem replaceAll_absent (h : ¬ target <:+: xs) : replaceAll target replacement xs = xs := by
  induction xs with
  | nil => rfl
  | cons x xs ih =>
    rw [List.infix_cons_iff,not_or] at h
    rw [replaceAll_miss h.1,ih h.2]

theorem replaceFrom_nil_length_le (skip : Nat) (xs : List α) :
    (replaceFrom target [] skip xs).length ≤ xs.length := by
  induction xs generalizing skip with
  | nil => simp [replaceFrom]
  | cons x xs ih =>
    cases skip with
    | zero =>
      rw [replaceFrom]
      split
      · exact Nat.le_succ_of_le (ih (target.length - 1))
      · exact Nat.succ_le_succ (ih 0)
    | succ skip => exact Nat.le_succ_of_le (ih skip)

theorem replaceAll_nil_length_lt (htarget : target ≠ []) (h : target <:+: xs) :
    (replaceAll target [] xs).length < xs.length := by
  induction xs with
  | nil => exact absurd (List.infix_nil.1 h) htarget
  | cons x xs ih =>
    by_cases hhit : target <+: x :: xs
    · rw [replaceAll,replaceFrom,if_pos ⟨htarget,hhit⟩]
      exact Nat.lt_succ_of_le (replaceFrom_nil_length_le (target.length - 1) xs)
    · rw [replaceAll_miss hhit]
      exact Nat.succ_lt_succ (ih ((List.infix_cons_iff.1 h).resolve_left hhit))

theorem delete_head_iff (htarget : target ≠ []) (rest : List α) :
    replaceAll target [] (target ++ rest) = rest ↔ ¬ target <:+: rest := by
  rw [replaceAll_hit htarget,List.nil_append]
  constructor
  · intro heq hmore
    have hshorter := replaceAll_nil_length_lt htarget hmore
    rw [heq] at hshorter
    exact Nat.lt_irrefl rest.length hshorter
  · exact replaceAll_absent

end Replacing

import Mathlib

set_option autoImplicit false

namespace Sieve

variable {σ α ω M : Type*}

/-- Offers each element to a handler with a state of its own: `none` passes the
element on, otherwise the handler has taken it and may have put something out.
The result is the last state, what was put out and what was passed on. -/
def sift (handle : σ → α → Option (σ × List ω)) : σ → List α → σ × List ω × List α
  | s, [] => (s,[],[])
  | s, x :: xs =>
    match handle s x with
    | some (s',out) =>
      let r := sift handle s' xs
      (r.1,out ++ r.2.1,r.2.2)
    | none =>
      let r := sift handle s xs
      (r.1,r.2.1,x :: r.2.2)

variable {handle : σ → α → Option (σ × List ω)}

theorem sift_taken {s s' : σ} {x : α} {out : List ω} (h : handle s x = some (s',out))
    (xs : List α) :
    sift handle s (x :: xs) =
      ((sift handle s' xs).1,out ++ (sift handle s' xs).2.1,(sift handle s' xs).2.2) := by
  simp [sift,h]

theorem sift_passed {s : σ} {x : α} (h : handle s x = none) (xs : List α) :
    sift handle s (x :: xs) =
      ((sift handle s xs).1,(sift handle s xs).2.1,x :: (sift handle s xs).2.2) := by
  simp [sift,h]

theorem sift_invariant {I : σ → Prop}
    (keep : ∀ s x s' out, I s → handle s x = some (s',out) → I s') {s : σ} (hs : I s)
    (xs : List α) : I (sift handle s xs).1 := by
  induction xs generalizing s with
  | nil => exact hs
  | cons x xs ih =>
    cases h : handle s x with
    | none =>
      rw [sift_passed h]
      exact ih hs
    | some taken =>
      obtain ⟨s',out⟩ := taken
      rw [sift_taken h]
      exact ih (keep s x s' out hs h)

theorem sift_balance [AddCommMonoid M] {I : σ → Prop} {hold : σ → M} {emit : ω → M}
    {carry : α → M} (keep : ∀ s x s' out, I s → handle s x = some (s',out) → I s')
    (balance : ∀ s x s' out, I s → handle s x = some (s',out) →
      hold s' + (out.map emit).sum = hold s + carry x) {s : σ} (hs : I s) (xs : List α) :
    hold (sift handle s xs).1 + ((sift handle s xs).2.1.map emit).sum +
      ((sift handle s xs).2.2.map carry).sum = hold s + (xs.map carry).sum := by
  induction xs generalizing s with
  | nil => simp [sift]
  | cons x xs ih =>
    cases h : handle s x with
    | none =>
      rw [sift_passed h,List.map_cons,List.sum_cons,List.map_cons,List.sum_cons,
        add_left_comm,ih hs,add_left_comm]
    | some taken =>
      obtain ⟨s',out⟩ := taken
      have hrest := ih (keep s x s' out hs h)
      have hx := balance s x s' out hs h
      rw [sift_taken h,List.map_append,List.sum_append,List.map_cons,List.sum_cons]
      calc
        _ = (out.map emit).sum + (hold (sift handle s' xs).1 +
              ((sift handle s' xs).2.1.map emit).sum +
              ((sift handle s' xs).2.2.map carry).sum) := by abel
        _ = hold s' + (out.map emit).sum + (xs.map carry).sum := by rw [hrest]; abel
        _ = hold s + (carry x + (xs.map carry).sum) := by rw [hx,add_assoc]

theorem sift_passed_on {P : α → Bool} (hP : ∀ s x, handle s x = none ↔ P x = true) (s : σ)
    (xs : List α) : (sift handle s xs).2.2 = xs.filter P := by
  induction xs generalizing s with
  | nil => rfl
  | cons x xs ih =>
    cases h : handle s x with
    | none =>
      rw [sift_passed h,List.filter_cons_of_pos ((hP s x).mp h),ih]
    | some taken =>
      obtain ⟨s',out⟩ := taken
      have hx : ¬ P x = true := by
        rw [← hP s x,h]
        simp
      rw [sift_taken h,List.filter_cons_of_neg hx,ih]

theorem foldl_carries [AddCommMonoid M] {f : σ → α → σ} {hold : σ → M} {carry : α → M}
    (h : ∀ s x, hold (f s x) = hold s + carry x) (s : σ) (xs : List α) :
    hold (xs.foldl f s) = hold s + (xs.map carry).sum := by
  induction xs generalizing s with
  | nil => simp
  | cons x xs ih => rw [List.foldl_cons,ih,h,List.map_cons,List.sum_cons,add_assoc]

theorem foldl_invariant {f : σ → α → σ} {I : σ → Prop} (keep : ∀ s x, I s → I (f s x)) {s : σ}
    (hs : I s) (xs : List α) : I (xs.foldl f s) := by
  induction xs generalizing s with
  | nil => exact hs
  | cons x xs ih => exact ih (keep s x hs)

theorem foldlM_invariant {f : σ → α → Option σ} {I : σ → Prop}
    (keep : ∀ s x s', f s x = some s' → I s → I s') {s s' : σ} (hs : I s) {xs : List α}
    (h : xs.foldlM f s = some s') : I s' := by
  induction xs generalizing s with
  | nil =>
    cases h
    exact hs
  | cons x xs ih =>
    rw [List.foldlM_cons] at h
    obtain ⟨next,hnext,hrest⟩ := Option.bind_eq_some_iff.mp h
    exact ih (keep s x next hnext hs) hrest

theorem foldl_keeps {β : Type*} {f : σ → α → σ} {g : σ → β} (h : ∀ s x, g (f s x) = g s) (s : σ)
    (xs : List α) : g (xs.foldl f s) = g s := by
  induction xs generalizing s with
  | nil => rfl
  | cons x xs ih => rw [List.foldl_cons,ih,h]

end Sieve

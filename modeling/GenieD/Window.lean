import Mathlib

set_option autoImplicit false

namespace Window

variable {α : Type*}

def total (cost : α → Int) (xs : List α) : Int := (xs.map cost).sum

@[simp] theorem total_nil (cost : α → Int) : total cost [] = 0 := rfl

@[simp] theorem total_cons (cost : α → Int) (x : α) (xs : List α) :
    total cost (x :: xs) = cost x + total cost xs := by simp [total]

@[simp] theorem total_append (cost : α → Int) (xs ys : List α) :
    total cost (xs ++ ys) = total cost xs + total cost ys := by simp [total]

@[simp] theorem total_reverse (cost : α → Int) (xs : List α) :
    total cost xs.reverse = total cost xs := by
  induction xs with
  | nil => rfl
  | cons x xs ih => simp [ih]; omega

theorem total_nonneg {cost : α → Int} {xs : List α} (h : ∀ x ∈ xs, 0 ≤ cost x) :
    0 ≤ total cost xs := by
  induction xs with
  | nil => simp
  | cons x xs ih =>
    have hx := h x (by simp)
    have hxs := ih (fun y hy => h y (by simp [hy]))
    simp only [total_cons]; omega

theorem total_le_of_suffix {cost : α → Int} {v w : List α} (h : v <:+ w)
    (hw : ∀ x ∈ w, 0 ≤ cost x) : total cost v ≤ total cost w := by
  obtain ⟨u,rfl⟩ := h
  have hu : 0 ≤ total cost u := total_nonneg (fun x hx => hw x (by simp [hx]))
  simp only [total_append]; omega

def upTo (cost : α → Int) (budget : Int) : Int → List α → List α
  | _, [] => []
  | spent, x :: xs =>
    if budget < spent + cost x then [] else x :: upTo cost budget (spent + cost x) xs

/-- The same from the back: the newest elements, in their own order. -/
def recent (cost : α → Int) (budget : Int) (xs : List α) : List α :=
  (upTo cost budget 0 xs.reverse).reverse

theorem recent_concat (cost : α → Int) (budget : Int) (xs : List α) (x : α) :
    recent cost budget (xs ++ [x]) =
      if budget < cost x then [] else (upTo cost budget (cost x) xs.reverse).reverse ++ [x] := by
  by_cases h : budget < cost x
  · simp [recent,upTo,h]
  · simp [recent,upTo,h]

theorem upTo_isPrefix (cost : α → Int) (budget spent : Int) (xs : List α) :
    upTo cost budget spent xs <+: xs := by
  induction xs generalizing spent with
  | nil => simp [upTo]
  | cons x xs ih =>
    unfold upTo
    split
    · exact List.nil_prefix
    · exact (List.prefix_cons_inj x).mpr (ih _)

theorem upTo_fits (cost : α → Int) (budget spent : Int) (xs v : List α)
    (hv : v <+: upTo cost budget spent xs) (hne : v ≠ []) : spent + total cost v ≤ budget := by
  induction xs generalizing spent v with
  | nil => simp_all [upTo]
  | cons x xs ih =>
    cases v with
    | nil => exact absurd rfl hne
    | cons y v =>
      unfold upTo at hv
      split at hv
      · simp at hv
      · rename_i hle
        obtain ⟨rfl,hv⟩ := List.cons_prefix_cons.mp hv
        by_cases hn : v = []
        · subst hn
          simp only [total_cons,total_nil]; omega
        · have h := ih _ v hv hn
          simp only [total_cons]; omega

theorem upTo_stops (cost : α → Int) (budget spent : Int) (xs : List α) :
    upTo cost budget spent xs = xs ∨
      ∃ x, upTo cost budget spent xs ++ [x] <+: xs ∧
        budget < spent + total cost (upTo cost budget spent xs ++ [x]) := by
  induction xs generalizing spent with
  | nil => exact .inl rfl
  | cons x xs ih =>
    unfold upTo
    split
    · rename_i hlt
      exact .inr ⟨x,by simp,by simpa using hlt⟩
    · rcases ih (spent + cost x) with h | ⟨y,hy,hlt⟩
      · exact .inl (by rw [h])
      · refine .inr ⟨y,?_,?_⟩
        · simpa using hy
        · simp only [List.cons_append,total_cons,Int.add_assoc] at hlt ⊢
          exact hlt

/-- `w` is where a reading of `xs` from its end has to stop: everything read so
far fits, and one element more does not. -/
structure Cut (cost : α → Int) (budget : Int) (xs w : List α) : Prop where
  suffix : w <:+ xs
  fits : ∀ v, v <:+ w → v ≠ [] → total cost v ≤ budget
  stops : w = xs ∨ ∃ x, x :: w <:+ xs ∧ budget < total cost (x :: w)

theorem recent_cut (cost : α → Int) (budget : Int) (xs : List α) :
    Cut cost budget xs (recent cost budget xs) where
  suffix := by
    have h := upTo_isPrefix cost budget 0 xs.reverse
    simpa [recent] using List.reverse_suffix.mpr h
  fits v hv hne := by
    have hp : v.reverse <+: upTo cost budget 0 xs.reverse := by
      simpa [recent] using List.reverse_prefix.mpr hv
    simpa using upTo_fits cost budget 0 xs.reverse v.reverse hp (by simpa using hne)
  stops := by
    rcases upTo_stops cost budget 0 xs.reverse with h | ⟨x,hx,hlt⟩
    · exact .inl (by simp [recent,h])
    · refine .inr ⟨x,?_,?_⟩
      · simpa [recent] using List.reverse_suffix.mpr hx
      · simp only [total_append,total_cons,total_nil,recent,total_reverse] at hlt ⊢
        omega

theorem Cut.length_le {cost : α → Int} {budget : Int} {xs v w : List α}
    (hv : Cut cost budget xs v) (hw : Cut cost budget xs w) : w.length ≤ v.length := by
  by_contra hlt
  rcases hv.stops with rfl | ⟨x,hx,hover⟩
  · exact hlt hw.suffix.length_le
  · have hxw : x :: v <:+ w :=
      List.suffix_of_suffix_length_le hx hw.suffix (by simp only [List.length_cons]; omega)
    have hle := hw.fits _ hxw (by simp)
    omega

theorem Cut.unique {cost : α → Int} {budget : Int} {xs v w : List α}
    (hv : Cut cost budget xs v) (hw : Cut cost budget xs w) : v = w := by
  have hlen := Nat.le_antisymm (hw.length_le hv) (hv.length_le hw)
  exact (List.suffix_of_suffix_length_le hv.suffix hw.suffix hlen.le).eq_of_length hlen

/-- The longest end of `xs` within the budget; the empty one if none is. -/
structure Longest (cost : α → Int) (budget : Int) (xs w : List α) : Prop where
  suffix : w <:+ xs
  fits : w = [] ∨ total cost w ≤ budget
  longest : ∀ v, v <:+ xs → total cost v ≤ budget → v.length ≤ w.length

theorem Longest.unique {cost : α → Int} {budget : Int} {xs v w : List α}
    (hv : Longest cost budget xs v) (hw : Longest cost budget xs w) : v = w := by
  have hvw : v.length ≤ w.length := by
    rcases hv.fits with rfl | h
    · simp
    · exact hw.longest v hv.suffix h
  have hwv : w.length ≤ v.length := by
    rcases hw.fits with rfl | h
    · simp
    · exact hv.longest w hw.suffix h
  have hlen := Nat.le_antisymm hvw hwv
  exact (List.suffix_of_suffix_length_le hv.suffix hw.suffix hvw).eq_of_length hlen

instance decidableLongest [DecidableEq α] (cost : α → Int) (budget : Int) (xs w : List α) :
    Decidable (Longest cost budget xs w) :=
  decidable_of_iff (w <:+ xs ∧ (w = [] ∨ total cost w ≤ budget) ∧
      ∀ v ∈ xs.tails, total cost v ≤ budget → v.length ≤ w.length)
    ⟨fun h => ⟨h.1,h.2.1,fun v hv => h.2.2 v ((List.mem_tails v xs).mpr hv)⟩,
      fun h => ⟨h.suffix,h.fits,fun v hv => h.longest v ((List.mem_tails v xs).mp hv)⟩⟩

theorem Longest.total_le {cost : α → Int} {budget : Int} {xs w : List α}
    (h : Longest cost budget xs w) (hbudget : 0 ≤ budget) : total cost w ≤ budget := by
  rcases h.fits with rfl | hfits
  · exact hbudget
  · exact hfits

theorem Longest.agree {cost cost' : α → Int} {budget : Int} {xs w : List α}
    (h : Longest cost budget xs w)
    (hagree : ∀ v, v <:+ xs → (total cost v ≤ budget ↔ total cost' v ≤ budget)) :
    Longest cost' budget xs w where
  suffix := h.suffix
  fits := h.fits.imp_right (hagree w h.suffix).mp
  longest v hv hle := h.longest v hv ((hagree v hv).mpr hle)

theorem Longest.fits_iff {cost : α → Int} {budget : Int} {xs v w : List α}
    (h : Longest cost budget xs w) (hpos : ∀ x ∈ xs, 0 ≤ cost x) (hw : total cost w ≤ budget)
    (hv : v <:+ xs) : total cost v ≤ budget ↔ v.length ≤ w.length := by
  refine ⟨h.longest v hv,fun hlen => ?_⟩
  have hvw := List.suffix_of_suffix_length_le hv h.suffix hlen
  exact (total_le_of_suffix hvw fun x hx => hpos x (h.suffix.mem hx)).trans hw

theorem Cut.longest {cost : α → Int} {budget : Int} {xs w : List α}
    (h : Cut cost budget xs w) (hpos : ∀ x ∈ xs, 0 ≤ cost x) : Longest cost budget xs w where
  suffix := h.suffix
  fits := by
    by_cases hw : w = []
    · exact .inl hw
    · exact .inr (h.fits w List.suffix_rfl hw)
  longest v hv hle := by
    by_contra hlt
    rcases h.stops with rfl | ⟨x,hx,hover⟩
    · exact hlt hv.length_le
    · have hxv : x :: w <:+ v :=
        List.suffix_of_suffix_length_le hx hv (by simp only [List.length_cons]; omega)
      have hmono := total_le_of_suffix hxv (fun y hy => hpos y (hv.mem hy))
      omega

theorem recent_longest {cost : α → Int} {xs : List α} (budget : Int)
    (hpos : ∀ x ∈ xs, 0 ≤ cost x) : Longest cost budget xs (recent cost budget xs) :=
  (recent_cut cost budget xs).longest hpos

end Window

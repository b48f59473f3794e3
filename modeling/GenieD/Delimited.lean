import Mathlib

set_option autoImplicit false

namespace Delimited

section

variable {α : Type*}

theorem not_infix_of_not_mem {c : α} {t x : List α} (h : c ∉ x) : ¬ c :: t <:+: x :=
  fun hx => h (hx.subset List.mem_cons_self)

theorem infix_append_of_not_mem {c : α} {t x l : List α} (h : c ∉ x) :
    c :: t <:+: x ++ l ↔ c :: t <:+: l := by
  induction x with
  | nil => rfl
  | cons a x ih =>
    obtain ⟨hne,hx⟩ : c ≠ a ∧ c ∉ x := by simpa using h
    rw [List.cons_append,List.infix_cons_iff,ih hx,List.cons_prefix_cons]
    simp [hne]

/-- A separator whose first character does not come back in it cannot begin in a
text and end in the separator after it. -/
theorem not_straddling {c x : α} {t xs l : List α} (hc : c ∉ t) (hx : ¬ c :: t <:+: x :: xs) :
    ¬ c :: t <+: x :: xs ++ (c :: t ++ l) := by
  intro h
  rcases List.prefix_or_prefix_of_prefix h (List.prefix_append (x :: xs) _) with hle | hge
  · exact hx hle.isInfix
  · obtain ⟨u,hu⟩ := hge
    obtain ⟨rfl,ht⟩ : x = c ∧ xs ++ u = t := List.cons.inj hu
    rw [← ht] at h
    cases u with
    | nil => exact hx (by simp [← ht])
    | cons y u =>
      obtain ⟨rfl,-⟩ : y = x ∧ _ := by simpa using h
      exact hc (by simp [← ht])

theorem length_le_flatMap {β : Type*} {f : α → List β} {l : List α} (h : ∀ x ∈ l, f x ≠ []) :
    l.length ≤ (l.flatMap f).length := by
  induction l with
  | nil => simp
  | cons x l ih =>
    have hx := List.length_pos_of_ne_nil (h x List.mem_cons_self)
    have hrest := ih fun y hy => h y (.tail _ hy)
    simp only [List.flatMap_cons,List.length_append,List.length_cons]
    omega

end

variable {α : Type*} [DecidableEq α]

def breakOn (sep : List α) : List α → Option (List α × List α)
  | [] => if sep = [] then some ([],[]) else none
  | x :: l =>
    if sep <+: x :: l then some ([],(x :: l).drop sep.length)
    else (breakOn sep l).map (fun r => (x :: r.1,r.2))

theorem breakOn_append {c : α} {t : List α} (hc : c ∉ t) {x : List α} (hx : ¬ c :: t <:+: x)
    (l : List α) : breakOn (c :: t) (x ++ (c :: t ++ l)) = some (x,l) := by
  induction x with
  | nil => simp [breakOn]
  | cons a x ih =>
    have hx' : ¬ c :: t <:+: x := fun h => hx (List.infix_cons h)
    have hnot : ¬ c :: t <+: a :: (x ++ (c :: t ++ l)) := not_straddling hc hx
    rw [List.cons_append,breakOn,if_neg hnot,ih hx']
    rfl

theorem breakOn_of_not_mem {c : α} {separator t x : List α} (hsep : separator = c :: t)
    (hc : c ∉ t) (hx : c ∉ x) (l : List α) :
    breakOn separator (x ++ (separator ++ l)) = some (x,l) := by
  subst hsep
  exact breakOn_append hc (not_infix_of_not_mem hx) l

def strip (start l : List α) : Option (List α) :=
  if start <+: l then some (l.drop start.length) else none

@[simp] theorem strip_append (start l : List α) : strip start (start ++ l) = some l := by
  simp [strip]

def componentsFrom (sep : List α) : Nat → List α → List (List α)
  | _, [] => [[]]
  | skip + 1, _ :: l => componentsFrom sep skip l
  | 0, x :: l =>
    if sep ≠ [] ∧ sep <+: x :: l then [] :: componentsFrom sep (sep.length - 1) l
    else (componentsFrom sep 0 l).modifyHead (x :: ·)

def components (sep l : List α) : List (List α) := componentsFrom sep 0 l

theorem componentsFrom_drop (sep : List α) (skip : Nat) (l : List α) :
    componentsFrom sep skip l = components sep (l.drop skip) := by
  induction skip generalizing l with
  | zero => rfl
  | succ skip ih =>
    cases l with
    | nil => rfl
    | cons x l => exact ih l

theorem components_absent {sep l : List α} (h : ¬ sep <:+: l) : components sep l = [l] := by
  induction l with
  | nil => rfl
  | cons x l ih =>
    rw [List.infix_cons_iff,not_or] at h
    rw [components,componentsFrom,if_neg fun hhit => h.1 hhit.2]
    exact congrArg (List.modifyHead (x :: ·)) (ih h.2)

theorem components_append {c : α} {t : List α} (hc : c ∉ t) {x : List α} (hx : ¬ c :: t <:+: x)
    (l : List α) :
    components (c :: t) (x ++ (c :: t ++ l)) = x :: components (c :: t) l := by
  induction x with
  | nil =>
    have hhit : c :: t <+: c :: (t ++ l) := List.prefix_append (c :: t) l
    rw [List.nil_append,List.cons_append,components,componentsFrom,
      if_pos ⟨List.cons_ne_nil c t,hhit⟩,componentsFrom_drop]
    simp
  | cons a x ih =>
    have hx' : ¬ c :: t <:+: x := fun h => hx (List.infix_cons h)
    have hnot : ¬ c :: t <+: a :: (x ++ (c :: t ++ l)) := not_straddling hc hx
    rw [List.cons_append,components,componentsFrom,if_neg fun hhit => hnot hhit.2]
    exact congrArg (List.modifyHead (a :: ·)) (ih hx')

/-- What was joined by a separator that is in none of the parts comes apart into them. -/
theorem components_intercalate {c : α} {t : List α} (hc : c ∉ t) {parts : List (List α)}
    (hne : parts ≠ []) (h : ∀ part ∈ parts, ¬ c :: t <:+: part) :
    components (c :: t) ((c :: t).intercalate parts) = parts := by
  induction parts with
  | nil => exact absurd rfl hne
  | cons part parts ih =>
    have hpart := h part List.mem_cons_self
    cases parts with
    | nil =>
      rw [List.intercalate_singleton]
      exact components_absent hpart
    | cons next parts =>
      rw [List.intercalate_cons_cons,List.append_assoc,components_append hc hpart,
        ih (List.cons_ne_nil next parts) fun part hmem => h part (List.mem_cons_of_mem _ hmem)]

end Delimited

import Mathlib.Data.List.Perm.Basic
import Mathlib.Data.List.Flatten

set_option autoImplicit false

/-- Items are drawn without putting them back until none is left; then all of
them are there again. The draws so far are whole rounds and one begun. -/
def Rounds {α : Type} (items drawn left : List α) : Prop :=
  ∃ rounds : List (List α), ∃ current, drawn = rounds.flatten ++ current ∧
    (∀ round ∈ rounds, round.Perm items) ∧ (current ++ left).Perm items

namespace Rounds

variable {α : Type} {items drawn left : List α}

theorem start (items : List α) : Rounds items [] items :=
  ⟨[],[],rfl,by simp,.refl _⟩

theorem draw (h : Rounds items drawn left) {index : Nat} {item : α}
    (hitem : left[index]? = some item) :
    Rounds items (drawn ++ [item]) (left.eraseIdx index) := by
  obtain ⟨rounds,current,rfl,hwhole,hbegun⟩ := h
  obtain ⟨hlt,rfl⟩ := List.getElem?_eq_some_iff.mp hitem
  refine ⟨rounds,current ++ [left[index]],List.append_assoc _ _ _,hwhole,?_⟩
  rw [List.append_assoc,List.singleton_append]
  exact ((List.getElem_cons_eraseIdx_perm hlt).append_left current).trans hbegun

theorem refill (h : Rounds items drawn []) : Rounds items drawn items := by
  obtain ⟨rounds,current,rfl,hwhole,hbegun⟩ := h
  refine ⟨rounds ++ [current],[],by simp,?_,.refl _⟩
  intro round hround
  rcases List.mem_append.mp hround with hold | hnew
  · exact hwhole round hold
  · rw [List.mem_singleton.mp hnew]
    simpa using hbegun

theorem flatten_drop {n : Nat} {rounds : List (List α)} (h : ∀ round ∈ rounds, round.length = n)
    (tail : List α) {k : Nat} (hk : k ≤ rounds.length) :
    (rounds.flatten ++ tail).drop (k * n) = (rounds.drop k).flatten ++ tail := by
  induction rounds generalizing k with
  | nil =>
    cases Nat.le_zero.mp hk
    simp
  | cons round rounds ih =>
    have hround : round.length = n := h round List.mem_cons_self
    cases k with
    | zero => simp
    | succ k =>
      have hrest := ih (fun r hr => h r (List.mem_cons_of_mem _ hr)) (Nat.le_of_succ_le_succ hk)
      rw [List.flatten_cons,List.append_assoc,Nat.succ_mul,Nat.add_comm,← List.drop_drop,
        List.drop_left' hround,hrest,List.drop_succ_cons]

theorem block_perm (h : Rounds items drawn left) (hitems : items ≠ []) {k : Nat}
    (hk : (k + 1) * items.length ≤ drawn.length) :
    ((drawn.drop (k * items.length)).take items.length).Perm items := by
  obtain ⟨rounds,current,rfl,hwhole,hbegun⟩ := h
  have hlength : ∀ round ∈ rounds, round.length = items.length :=
    fun round hround => (hwhole round hround).length_eq
  have hpos : 0 < items.length := List.length_pos_iff.mpr hitems
  have hrounds : rounds.flatten.length = rounds.length * items.length := by
    rw [List.length_flatten,List.map_congr_left hlength]
    simp
  have hcurrent := hbegun.length_eq
  rw [List.length_append] at hk hcurrent
  rw [hrounds,Nat.succ_mul] at hk
  have hle : k ≤ rounds.length := by
    by_contra hlt
    have hmul : (rounds.length + 1) * items.length ≤ k * items.length :=
      Nat.mul_le_mul_right _ (Nat.lt_of_not_le hlt)
    rw [Nat.succ_mul] at hmul
    omega
  rw [flatten_drop hlength current hle]
  by_cases hround : k < rounds.length
  · rw [List.drop_eq_getElem_cons hround,List.flatten_cons,List.append_assoc,
      List.take_left' (hlength _ (List.getElem_mem hround))]
    exact hwhole _ (List.getElem_mem hround)
  · have hlast : k = rounds.length := Nat.le_antisymm hle (Nat.le_of_not_lt hround)
    rw [hlast] at hk ⊢
    have hfull : current.length = items.length := by omega
    have hleft : left = [] := List.length_eq_zero_iff.mp (by omega)
    rw [hleft,List.append_nil] at hbegun
    simpa [← hfull] using hbegun

end Rounds

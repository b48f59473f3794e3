import Mathlib

set_option autoImplicit false

namespace Runs

variable {σ ε τ : Type*}

/-- The states a gated event system passes through: `ok s e` says that event
`e` can happen in state `s`, and `step s e` is the state after it. -/
inductive Run (step : σ → ε → σ) (ok : σ → ε → Prop) : σ → List ε → σ → Prop where
  | nil (s : σ) : Run step ok s [] s
  | cons {s t : σ} {e : ε} {es : List ε} (allowed : ok s e) (rest : Run step ok (step s e) es t) :
      Run step ok s (e :: es) t

variable {step : σ → ε → σ} {ok : σ → ε → Prop}

theorem Run.invariant {I : σ → Prop} (keep : ∀ s e, ok s e → I s → I (step s e))
    {s t : σ} {es : List ε} (h : Run step ok s es t) (hs : I s) : I t := by
  induction h with
  | nil s => exact hs
  | cons allowed _ ih => exact ih (keep _ _ allowed hs)

theorem Run.concat {s t : σ} {es : List ε} {e : ε} (h : Run step ok s es t) (allowed : ok t e) :
    Run step ok s (es ++ [e]) (step t e) := by
  induction h with
  | nil s => exact .cons allowed (.nil _)
  | cons first _ ih => exact .cons first (ih allowed)

/-- A run of the system is matched by a run of an abstract relation `R`
whenever each of its steps is. -/
theorem Run.simulate {rep : σ → τ → Prop} {R : τ → τ → Prop}
    (sim : ∀ s e x, ok s e → rep s x → ∃ y, Relation.ReflTransGen R x y ∧ rep (step s e) y)
    {s t : σ} {es : List ε} (h : Run step ok s es t) {x : τ} (hx : rep s x) :
    ∃ y, Relation.ReflTransGen R x y ∧ rep t y := by
  induction h generalizing x with
  | nil s => exact ⟨x,.refl,hx⟩
  | cons allowed _ ih =>
    obtain ⟨y,hxy,hy⟩ := sim _ _ _ allowed hx
    obtain ⟨z,hyz,hz⟩ := ih hy
    exact ⟨z,hxy.trans hyz,hz⟩

/-- Every state of a run, the first and the last included, has property `P`. -/
def Always (step : σ → ε → σ) (P : σ → Prop) : σ → List ε → Prop
  | s, [] => P s
  | s, e :: es => P s ∧ Always step P (step s e) es

/-- Every step of a run, taken in the state before it, has property `C`. -/
def Each (step : σ → ε → σ) (C : σ → ε → Prop) : σ → List ε → Prop
  | _, [] => True
  | s, e :: es => C s e ∧ Each step C (step s e) es

instance decidableEach (step : σ → ε → σ) (C : σ → ε → Prop) [∀ s e, Decidable (C s e)] :
    (s : σ) → (es : List ε) → Decidable (Each step C s es)
  | _, [] => isTrue trivial
  | s, e :: es =>
    have := decidableEach step C (step s e) es
    inferInstanceAs (Decidable (_ ∧ _))

theorem Each.run {s : σ} {es : List ε} (h : Each step ok s es) :
    Run step ok s es (es.foldl step s) := by
  induction es generalizing s with
  | nil => exact .nil s
  | cons e es ih => exact .cons h.1 (ih h.2)

theorem each_of_forall {C : ε → Prop} {s : σ} {es : List ε} (h : ∀ e ∈ es, C e) :
    Each step (fun _ e => C e) s es := by
  induction es generalizing s with
  | nil => trivial
  | cons e es ih =>
    exact ⟨h e List.mem_cons_self,ih fun e' he' => h e' (List.mem_cons_of_mem e he')⟩

theorem Each.last {C : σ → ε → Prop} {s : σ} {es : List ε} {e : ε}
    (h : Each step C s (es ++ [e])) : C (es.foldl step s) e := by
  induction es generalizing s with
  | nil => exact h.1
  | cons x es ih => exact ih h.2

theorem Always.head {P : σ → Prop} {s : σ} {es : List ε} (h : Always step P s es) : P s := by
  cases es with
  | nil => exact h
  | cons e es => exact h.1

theorem Always.last {P : σ → Prop} {s : σ} {es : List ε} (h : Always step P s es) :
    P (es.foldl step s) := by
  induction es generalizing s with
  | nil => exact h
  | cons e es ih => exact ih h.2

/-- If along a run whose good states keep an invariant `J`, from a good state,
exactly the steps with `C` lead to a good state, then the run stays good if and
only if it is made of such steps. -/
theorem Run.always_iff_each {J P : σ → Prop} {C : σ → ε → Prop}
    (keep : ∀ s e, ok s e → J s → P s → J (step s e))
    (local_iff : ∀ s e, ok s e → J s → P s → (P (step s e) ↔ C s e))
    {s t : σ} {es : List ε} (h : Run step ok s es t) (hJ : J s) (hP : P s) :
    Always step P s es ↔ Each step C s es := by
  induction h with
  | nil s => simp [Always,Each,hP]
  | cons allowed _ ih =>
    have hiff := local_iff _ _ allowed hJ hP
    simp only [Always,Each,hP,true_and]
    constructor
    · intro h
      exact ⟨hiff.mp h.head,(ih (keep _ _ allowed hJ hP) h.head).mp h⟩
    · rintro ⟨hc,h⟩
      exact (ih (keep _ _ allowed hJ hP) (hiff.mpr hc)).mpr h

theorem Run.each_iff_each {J : σ → Prop} {C D : σ → ε → Prop}
    (keep : ∀ s e, ok s e → J s → C s e → J (step s e))
    (local_iff : ∀ s e, ok s e → J s → (C s e ↔ D s e))
    {s t : σ} {es : List ε} (h : Run step ok s es t) (hJ : J s) :
    Each step C s es ↔ Each step D s es := by
  induction h with
  | nil s => exact Iff.rfl
  | cons allowed _ ih =>
    have hiff := local_iff _ _ allowed hJ
    constructor
    · rintro ⟨hc,h⟩
      exact ⟨hiff.mp hc,(ih (keep _ _ allowed hJ hc)).mp h⟩
    · rintro ⟨hd,h⟩
      have hc := hiff.mpr hd
      exact ⟨hc,(ih (keep _ _ allowed hJ hc)).mpr h⟩

theorem foldl_filter {R : σ → σ → Prop} {kept : ε → Bool}
    (both : ∀ s t e, kept e = true → R s t → R (step s e) (step t e))
    (skip : ∀ s t e, kept e = false → R s t → R (step s e) t)
    {s t : σ} (h : R s t) (es : List ε) : R (es.foldl step s) ((es.filter kept).foldl step t) := by
  induction es generalizing s t with
  | nil => exact h
  | cons e es ih =>
    cases he : kept e with
    | true => simpa [he] using ih (both s t e he h)
    | false => simpa [he] using ih (skip s t e he h)

theorem Each.imp {J : σ → Prop} {C D : σ → ε → Prop}
    (keep : ∀ s e, J s → C s e → J (step s e)) (imp : ∀ s e, J s → C s e → D s e)
    {s : σ} {es : List ε} (hJ : J s) (h : Each step C s es) : Each step D s es := by
  induction es generalizing s with
  | nil => trivial
  | cons e es ih => exact ⟨imp s e hJ h.1,ih (keep s e hJ h.1) h.2⟩

theorem each_true (step : σ → ε → σ) (s : σ) (es : List ε) : Each step (fun _ _ => True) s es := by
  induction es generalizing s with
  | nil => trivial
  | cons e es ih => exact ⟨trivial,ih (step s e)⟩

theorem always_iff_each {P : σ → Prop} {C : σ → ε → Prop}
    (local_iff : ∀ s e, P s → (P (step s e) ↔ C s e)) {s : σ} (hs : P s) (es : List ε) :
    Always step P s es ↔ Each step C s es :=
  (each_true step s es).run.always_iff_each (J := fun _ => True) (fun _ _ _ _ _ => trivial)
    (fun s e _ _ => local_iff s e) trivial hs

theorem each_iff_each {J : σ → Prop} {C D : σ → ε → Prop}
    (keep : ∀ s e, J s → C s e → J (step s e)) (local_iff : ∀ s e, J s → (C s e ↔ D s e))
    {s : σ} (hJ : J s) (es : List ε) : Each step C s es ↔ Each step D s es :=
  (each_true step s es).run.each_iff_each (fun s e _ => keep s e) (fun s e _ => local_iff s e) hJ

end Runs

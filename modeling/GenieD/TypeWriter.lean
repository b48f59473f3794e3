import GenieD.Replacing

set_option autoImplicit false

namespace GenieD

/-- The text on the screen, the position of the block that `asyncAfter` holds,
the strings handed to onTextRemain and the calls of didFinishTyping. -/
structure TypeWriterView (Character : Type) where
  text : List Character := []
  scheduled : Option Nat := none
  onTextRemain : List (List Character) := []
  didFinishTyping : Nat := 0
  deriving DecidableEq, Repr

namespace TypeWriterView

variable {Character : Type} [DecidableEq Character]

def typeWriter (finalText : List Character) (position : Nat) (view : TypeWriterView Character) :
    TypeWriterView Character :=
  let view := if position = 0 then { view with text := [] } else view
  if position < finalText.length then { view with scheduled := some position }
  else { view with didFinishTyping := view.didFinishTyping + 1 }

def fire (cursor : Character) (finalText : List Character) (view : TypeWriterView Character) :
    Option (TypeWriterView Character) :=
  match view.scheduled with
  | none => some view
  | some position =>
    match finalText[position]? with
    | none => none
    | some character =>
      let text := if view.text.isEmpty then view.text else view.text.dropLast
      let text := text ++ [character]
      let remain := Replacing.replaceAll text [] finalText
      let shown := if position + 1 < finalText.length then text ++ [cursor] else text
      some (typeWriter finalText (position + 1)
        { view with
          text := shown
          scheduled := none
          onTextRemain := view.onTextRemain ++ [remain] })

def onAppear (finalText : List Character) (view : TypeWriterView Character) :
    TypeWriterView Character :=
  typeWriter finalText 0 view

def run (cursor : Character) (finalText : List Character) : Nat →
    Option (TypeWriterView Character)
  | 0 => some (onAppear finalText {})
  | steps + 1 => (run cursor finalText steps).bind (fire cursor finalText)

variable (cursor : Character) (finalText : List Character)

def shown (steps : Nat) : List Character :=
  finalText.take steps ++ if 0 < steps ∧ steps < finalText.length then [cursor] else []

def remain (position : Nat) : List Character :=
  Replacing.replaceAll (finalText.take (position + 1)) [] finalText

def typed (steps : Nat) : TypeWriterView Character where
  text := shown cursor finalText steps
  scheduled := if steps < finalText.length then some steps else none
  onTextRemain := (List.range steps).map (remain finalText)
  didFinishTyping := if steps < finalText.length then 0 else 1

theorem onAppear_typed : onAppear finalText {} = typed cursor finalText 0 := by
  unfold onAppear typeWriter typed shown
  by_cases h : 0 < finalText.length
  · simp [h]
  · simp [h]

omit [DecidableEq Character] in
theorem removeLast_shown {position : Nat} (h : position < finalText.length) :
    (if (shown cursor finalText position).isEmpty then shown cursor finalText position
      else (shown cursor finalText position).dropLast) = finalText.take position := by
  cases position with
  | zero => simp [shown]
  | succ position => simp [shown,h]

theorem fire_typed {position : Nat} (h : position < finalText.length) :
    fire cursor finalText (typed cursor finalText position) =
      some (typed cursor finalText (position + 1)) := by
  have hscheduled : (typed cursor finalText position).scheduled = some position := if_pos h
  have htext : finalText.take position ++ [finalText[position]] = finalText.take (position + 1) :=
    (List.take_succ_eq_append_getElem h).symm
  rw [fire,hscheduled]
  simp only [List.getElem?_eq_getElem h]
  rw [show (typed cursor finalText position).text = shown cursor finalText position from rfl,
    removeLast_shown cursor finalText h,htext]
  unfold typeWriter typed shown remain
  by_cases hmore : position + 1 < finalText.length
  · simp [h,hmore,List.range_succ]
  · simp [h,hmore,List.range_succ]

theorem run_typed {steps : Nat} (h : steps ≤ finalText.length) :
    run cursor finalText steps = some (typed cursor finalText steps) := by
  induction steps with
  | zero => rw [run,onAppear_typed cursor]
  | succ steps ih =>
    rw [run,ih (Nat.le_of_succ_le h),Option.bind_some,fire_typed cursor finalText h]

/-- After each block the Characters up to its position are shown and the others
reported, and the last block is followed by one didFinishTyping. -/
structure Faithful : Prop where
  step : ∀ position < finalText.length, ∃ view, run cursor finalText (position + 1) = some view ∧
    view.text = finalText.take (position + 1) ++
      (if position + 1 < finalText.length then [cursor] else []) ∧
    view.onTextRemain.length = position + 1 ∧
    view.onTextRemain.getLast? = some (finalText.drop (position + 1))
  waits : ∀ position < finalText.length, ∃ view, run cursor finalText position = some view ∧
    view.scheduled = some position ∧ view.didFinishTyping = 0
  ends : ∃ view, run cursor finalText finalText.length = some view ∧ view.scheduled = none ∧
    view.text = finalText ∧ view.didFinishTyping = 1

/-- The Character that the text begins with is nowhere else in it. -/
def FirstOnce : Prop := ∀ first rest, finalText = first :: rest → first ∉ rest

theorem remain_eq_iff {position : Nat} (h : position < finalText.length) :
    remain finalText position = finalText.drop (position + 1) ↔
      ¬ finalText.take (position + 1) <:+: finalText.drop (position + 1) := by
  have htyped : finalText.take (position + 1) ≠ [] := by
    intro hnil
    have hlength := congrArg List.length hnil
    rw [List.length_take,List.length_nil] at hlength
    omega
  have hsplit := Replacing.delete_head_iff htyped (finalText.drop (position + 1))
  rwa [List.take_append_drop] at hsplit

omit [DecidableEq Character] in
theorem typed_not_later {position : Nat} (hfirst : FirstOnce finalText)
    (h : position < finalText.length) :
    ¬ finalText.take (position + 1) <:+: finalText.drop (position + 1) := by
  intro hlater
  cases finalText with
  | nil => simp at h
  | cons first rest =>
    have hmem : first ∈ (first :: rest).take (position + 1) := by simp
    have hdrop : first ∈ rest.drop position := by simpa using hlater.mem hmem
    exact hfirst first rest rfl (List.mem_of_mem_drop hdrop)

theorem typing_faithful_iff : Faithful cursor finalText ↔ FirstOnce finalText := by
  constructor
  · intro h first rest heq hmem
    have hpos : 0 < finalText.length := by simp [heq]
    obtain ⟨view,hrun,-,-,hremain⟩ := h.step 0 hpos
    rw [run_typed cursor finalText hpos,Option.some.injEq] at hrun
    have hsame : remain finalText 0 = finalText.drop 1 := by
      simpa [← hrun,typed] using hremain
    rw [remain_eq_iff finalText hpos,heq] at hsame
    exact hsame (by simpa [List.singleton_infix_iff] using hmem)
  · intro h
    refine ⟨fun position hposition => ?_,fun position hposition => ?_,?_⟩
    · refine ⟨_,run_typed cursor finalText hposition,by simp [typed,shown],by simp [typed],?_⟩
      have hsame := (remain_eq_iff finalText hposition).2 (typed_not_later finalText h hposition)
      simp [typed,List.range_succ,hsame]
    · refine ⟨_,run_typed cursor finalText (Nat.le_of_lt hposition),?_,?_⟩
      · simp [typed,hposition]
      · simp [typed,hposition]
    · exact ⟨_,run_typed cursor finalText (Nat.le_refl _),by simp [typed],by simp [typed,shown],
        by simp [typed]⟩

/-- The second letter is deleted with the first, so nothing remains to be spoken. -/
theorem repeated_letter_not_reported :
    ¬ Faithful '_' ['a','a'] ∧ (run '_' ['a','a'] 1).map (fun view => view.onTextRemain) =
      some [[]] := by
  refine ⟨fun h => ?_,by decide⟩
  obtain ⟨view,hrun,-,-,hremain⟩ := h.step 0 (by decide)
  have hfirst : run '_' ['a','a'] 1 = some
      { text := ['a','_'], scheduled := some 1, onTextRemain := [[]] } := by decide
  rw [hfirst,Option.some.injEq] at hrun
  subst hrun
  exact absurd hremain (by decide)

end TypeWriterView

end GenieD

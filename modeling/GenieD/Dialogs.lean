import Mathlib

set_option autoImplicit false

namespace Dialogs

variable {M : Type*}

def Alternating : Bool → List Bool → Prop
  | _, [] => True
  | b, t :: ts => t = b ∧ Alternating (!b) ts

instance decidableAlternating : (b : Bool) → (ts : List Bool) → Decidable (Alternating b ts)
  | _, [] => isTrue trivial
  | b, _ :: ts =>
    have := decidableAlternating (!b) ts
    inferInstanceAs (Decidable (_ ∧ _))

inductive Phase where
  | waiting | failed
  deriving DecidableEq, Repr

structure Exchange (mine : M → Bool) where
  question : M
  answer : M
  asks : mine question = true
  answers : mine answer = false

abbrev Question (mine : M → Bool) := {m : M // mine m = true}

/-- Finished exchanges, then at most one open question. No other shape of a
conversation can be built. -/
structure Dialog (mine : M → Bool) where
  exchanges : List (Exchange mine)
  asked : Option (Question mine × Phase)

variable {mine : M → Bool}

def Exchange.messages (e : Exchange mine) : List M := [e.question,e.answer]

def transcript (es : List (Exchange mine)) : List M := es.flatMap Exchange.messages

@[simp] theorem transcript_nil : transcript ([] : List (Exchange mine)) = [] := rfl

@[simp] theorem transcript_append (es fs : List (Exchange mine)) :
    transcript (es ++ fs) = transcript es ++ transcript fs := List.flatMap_append

@[simp] theorem transcript_cons (e : Exchange mine) (es : List (Exchange mine)) :
    transcript (e :: es) = e.question :: e.answer :: transcript es := rfl

theorem transcript_mono {es fs : List (Exchange mine)} (h : es <+: fs) :
    transcript es <+: transcript fs := by
  obtain ⟨gs,rfl⟩ := h
  exact ⟨transcript gs,(transcript_append es gs).symm⟩

def Dialog.messages (d : Dialog mine) : List M :=
  transcript d.exchanges ++ (d.asked.map (fun q => q.1.val)).toList

@[simp] theorem messages_closed (es : List (Exchange mine)) :
    (Dialog.mk es none).messages = transcript es := by simp [Dialog.messages]

@[simp] theorem messages_asked (es : List (Exchange mine)) (q : Question mine) (f : Phase) :
    (Dialog.mk es (some (q,f))).messages = transcript es ++ [q.val] := by simp [Dialog.messages]

theorem alternating_transcript (es : List (Exchange mine)) (ts : List Bool) :
    Alternating true ((transcript es).map mine ++ ts) ↔ Alternating true ts := by
  induction es with
  | nil => simp
  | cons e es ih => simpa [Alternating,e.asks,e.answers] using ih

theorem Dialog.alternating (d : Dialog mine) : Alternating true (d.messages.map mine) := by
  obtain ⟨es,asked⟩ := d
  cases asked with
  | none => simpa [Alternating] using (alternating_transcript es []).mpr
  | some a =>
    obtain ⟨q,f⟩ := a
    have h := (alternating_transcript es [true]).mpr (by simp [Alternating])
    simpa [q.property] using h

theorem transcript_getLast? (es : List (Exchange mine)) :
    (transcript es).getLast?.any mine = false := by
  rcases List.eq_nil_or_concat es with rfl | ⟨es,e,rfl⟩
  · rfl
  · simp [e.answers]

theorem Dialog.ends_asking (d : Dialog mine) :
    d.messages.getLast?.any mine = d.asked.isSome := by
  obtain ⟨es,asked⟩ := d
  cases asked with
  | none => simpa using transcript_getLast? es
  | some a =>
    obtain ⟨q,f⟩ := a
    simp [q.property]

/-- Conversely, an alternating list that does not end with a question is the
transcript of a closed dialog. -/
theorem exists_transcript {ms : List M} (halt : Alternating true (ms.map mine))
    (hlast : ms.getLast?.any mine = false) : ∃ es : List (Exchange mine), ms = transcript es := by
  induction ms using List.twoStepInduction with
  | nil => exact ⟨[],rfl⟩
  | singleton q => simp_all [Alternating]
  | cons_cons q m ms ih _ =>
    simp only [List.map_cons,Alternating,Bool.not_true,Bool.not_false] at halt
    obtain ⟨hq,hm,hrest⟩ := halt
    have hend : ms.getLast?.any mine = false := by
      cases ms with
      | nil => rfl
      | cons x xs => simpa using hlast
    obtain ⟨es,rfl⟩ := ih hrest hend
    exact ⟨⟨q,m,hq,hm⟩ :: es,rfl⟩

/-- What can happen to a dialog. `amends q r` says that `r` is the question
`q` with notes added while it was answered. -/
inductive Step (amends : M → M → Prop) : Dialog mine → Dialog mine → Prop where
  | exchange (es : List (Exchange mine)) (e : Exchange mine) :
      Step amends ⟨es,none⟩ ⟨es ++ [e],none⟩
  | ask (es : List (Exchange mine)) (q : Question mine) :
      Step amends ⟨es,none⟩ ⟨es,some (q,.waiting)⟩
  | fail (es : List (Exchange mine)) (q : Question mine) :
      Step amends ⟨es,some (q,.waiting)⟩ ⟨es,some (q,.failed)⟩
  | answer (es : List (Exchange mine)) (q : Question mine) (e : Exchange mine)
      (h : amends q.val e.question) : Step amends ⟨es,some (q,.waiting)⟩ ⟨es ++ [e],none⟩
  | retry (es : List (Exchange mine)) (q r : Question mine) :
      Step amends ⟨es,some (q,.failed)⟩ ⟨es,some (r,.waiting)⟩

variable {amends : M → M → Prop}

theorem Step.exchanges_grow {d d' : Dialog mine} (h : Step amends d d') :
    d.exchanges <+: d'.exchanges := by
  cases h with
  | exchange es e => exact List.prefix_append es [e]
  | answer es q e _ => exact List.prefix_append es [e]
  | ask | fail | retry => exact List.prefix_rfl

theorem exchanges_grow {d d' : Dialog mine}
    (h : Relation.ReflTransGen (Step amends) d d') : d.exchanges <+: d'.exchanges := by
  induction h with
  | refl => exact List.prefix_rfl
  | tail _ hs ih => exact ih.trans hs.exchanges_grow

end Dialogs

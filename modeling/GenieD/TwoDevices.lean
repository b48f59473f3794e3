import GenieD.Counter

set_option autoImplicit false

namespace GenieD

open Runs

inductive Side where
  | phone | tablet
  deriving DecidableEq, Repr

inductive PairEvent where
  | launch (side : Side) (now : Date)
  | getAccessQuestionsCount (side : Side) (tsNow : Option Date)
  | questionsCountIncrement (side : Side)

/-- Two devices of one user with one synchronizable keychain. An observer keeps
the number of increments on both since the last reset in `total`. -/
structure Pair where
  keychain : KeychainStorage := {}
  own : Side → Device := fun _ => {}
  total : Nat := 0

namespace Pair

/-- One side as its code finds it. -/
def device (s : Pair) (side : Side) : Device := { s.own side with keychain := s.keychain }

def put (s : Pair) (side : Side) (d : Device) (total : Nat) : Pair :=
  ⟨d.keychain,Function.update s.own side d,total⟩

def step (p : Platform) (s : Pair) : PairEvent → Pair
  | .launch side now => s.put side ((s.device side).launch now) s.total
  | .getAccessQuestionsCount side tsNow =>
    let d := ((s.device side).checkAt p tsNow).2
    s.put side d (if d.journal = (s.device side).journal then s.total else 0)
  | .questionsCountIncrement side =>
    s.put side (s.device side).questionsCountIncrement (s.total + 1)

def keychainCount (s : Pair) : Nat := s.keychain.accessQuestionsCount.getD 0

/-- A check returns the number of increments on both sides since the last
reset, and an increment leaves none of them out of the shared count. -/
def CountsAll (p : Platform) (s : Pair) : PairEvent → Prop
  | .launch _ _ => True
  | .getAccessQuestionsCount side tsNow =>
    ((s.device side).checkAt p tsNow).1 = (s.step p (.getAccessQuestionsCount side tsNow)).total
  | .questionsCountIncrement side =>
    (s.step p (.questionsCountIncrement side)).keychainCount =
      (s.step p (.questionsCountIncrement side)).total

/-- The count in memory is the one in the keychain, unless the call resets both. -/
def UpToDate (p : Platform) (s : Pair) : PairEvent → Prop
  | .launch _ _ => True
  | .getAccessQuestionsCount side tsNow =>
    (s.device side).ResetDue p tsNow ∨ (s.own side).accessQuestionsCount = s.keychainCount
  | .questionsCountIncrement side => (s.own side).accessQuestionsCount = s.keychainCount

instance (p : Platform) (s : Pair) (e : PairEvent) : Decidable (s.CountsAll p e) :=
  match e with
  | .launch _ _ => isTrue trivial
  | .getAccessQuestionsCount _ _ => inferInstanceAs (Decidable (_ = _))
  | .questionsCountIncrement _ => inferInstanceAs (Decidable (_ = _))

variable {p : Platform} {s : Pair}

/-- A check either resets, and then the shared count and the total are both
zero, or leaves both as they were. -/
theorem step_check (p : Platform) (s : Pair) (side : Side) (tsNow : Option Date) :
    ((s.device side).ResetDue p tsNow ∧ ((s.device side).checkAt p tsNow).1 = 0 ∧
        (s.step p (.getAccessQuestionsCount side tsNow)).keychainCount = 0 ∧
        (s.step p (.getAccessQuestionsCount side tsNow)).total = 0) ∨
      (¬ (s.device side).ResetDue p tsNow ∧
        ((s.device side).checkAt p tsNow).1 = (s.own side).accessQuestionsCount ∧
        (s.step p (.getAccessQuestionsCount side tsNow)).keychainCount = s.keychainCount ∧
        (s.step p (.getAccessQuestionsCount side tsNow)).total = s.total) := by
  have h := (s.device side).checked_checkAt p tsNow
  have hdue := h.journal_ne_iff
  simp only [step,put,keychainCount]
  generalize (s.device side).checkAt p tsNow = r at h hdue ⊢
  cases h with
  | reset ts reads hnow hreset => exact .inl ⟨hreset,rfl,rfl,if_neg (hdue.mpr hreset)⟩
  | kept reads hkept => exact .inr ⟨hkept,rfl,rfl,if_pos rfl⟩

theorem keychainCount_step {e : PairEvent} (h : s.keychainCount = s.total)
    (hall : s.CountsAll p e) : (s.step p e).keychainCount = (s.step p e).total := by
  cases e with
  | launch side now => exact h
  | getAccessQuestionsCount side tsNow =>
    obtain ⟨-,-,hcount,htotal⟩ | ⟨-,-,hcount,htotal⟩ := s.step_check p side tsNow
    · rw [hcount,htotal]
    · rw [hcount,htotal,h]
  | questionsCountIncrement side => exact hall

theorem countsAll_iff {e : PairEvent} (h : s.keychainCount = s.total) :
    s.CountsAll p e ↔ s.UpToDate p e := by
  cases e with
  | launch side now => exact Iff.rfl
  | getAccessQuestionsCount side tsNow =>
    simp only [CountsAll,UpToDate]
    obtain ⟨hdue,hreturned,-,htotal⟩ | ⟨hdue,hreturned,-,htotal⟩ := s.step_check p side tsNow
    · simp only [hreturned,htotal,hdue,true_or]
    · simp only [hreturned,htotal,hdue,false_or,h]
  | questionsCountIncrement side =>
    have hcount : (s.step p (.questionsCountIncrement side)).keychainCount =
        (s.own side).accessQuestionsCount + 1 := rfl
    have htotal : (s.step p (.questionsCountIncrement side)).total = s.total + 1 := rfl
    simp only [CountsAll,UpToDate,hcount,htotal,h,Nat.add_right_cancel_iff]

/-- Nothing is lost between the two devices exactly as long as neither works
with a count that the other has changed. -/
theorem counts_all_iff_up_to_date (p : Platform) (es : List PairEvent) :
    Each (step p) (CountsAll p) {} es ↔ Each (step p) (UpToDate p) {} es :=
  each_iff_each (J := fun s => s.keychainCount = s.total)
    (fun _ _ => keychainCount_step) (fun _ _ => countsAll_iff) rfl es

def twoQuestions : List PairEvent :=
  [.getAccessQuestionsCount .phone (some 0),.getAccessQuestionsCount .tablet (some 0),
    .questionsCountIncrement .phone,.questionsCountIncrement .tablet,
    .getAccessQuestionsCount .phone (some 86400)]

/-- The tablet does not see the question on the phone and overwrites it; the
next day it returns the count of the day before. -/
theorem tablet_loses_increment :
    let p := Platform.plain Int.ofNat
    let asked := (twoQuestions.take 3).foldl (step p) {}
    let both := (twoQuestions.take 4).foldl (step p) {}
    let next := twoQuestions.foldl (step p) {}
    asked.total = 1 ∧ ((asked.device .tablet).checkAt p (some 0)).1 = 0 ∧
      both.total = 2 ∧ both.keychainCount = 1 ∧
      next.total = 0 ∧ ((next.device .tablet).checkAt p (some 86400)).1 = 1 ∧
      ¬ Each (step p) (CountsAll p) {} (twoQuestions.take 3 ++
        [.getAccessQuestionsCount .tablet (some 0)]) ∧
      ¬ Each (step p) (CountsAll p) {} twoQuestions := by
  decide +kernel

end Pair

end GenieD

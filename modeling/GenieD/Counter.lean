import GenieD.BuyPro

set_option autoImplicit false

namespace GenieD

open Runs

namespace Device

def correctedTime (p : Platform) (d : Device) : Option Date :=
  d.timeDifference.map (fun timeDifference => p.clock d.reads - timeDifference)

/-- `getAccessQuestionsCount` at a given corrected time; none as long as the
server time is not known. -/
def checkAt (p : Platform) (d : Device) (tsNow : Option Date) : Nat × Device :=
  getAccessQuestionsCount p { d with timeDifference := tsNow.map (fun ts => p.clock d.reads - ts) }

theorem checkAt_correctedTime (p : Platform) (d : Device) :
    d.checkAt p (d.correctedTime p) = d.getAccessQuestionsCount p := by
  have hsame : (d.correctedTime p).map (fun ts => p.clock d.reads - ts) = d.timeDifference := by
    cases h : d.timeDifference <;> simp [correctedTime,h]
  simp only [checkAt,hsame]

def Counted (d : Device) : Prop := d.access = none ∨ d.access = some .lite

instance (d : Device) : Decidable d.Counted := inferInstanceAs (Decidable (_ ∨ _))

def ResetDue (p : Platform) (d : Device) (tsNow : Option Date) : Prop :=
  d.Counted ∧ ∃ ts ∈ tsNow, d.resetQuestionCounterTimestamp = none ∨
    d.resetQuestionCounterTimestamp.map p.day ≠ some (p.day ts)

instance (p : Platform) (d : Device) (tsNow : Option Date) : Decidable (d.ResetDue p tsNow) :=
  inferInstanceAs (Decidable (_ ∧ ∃ ts ∈ tsNow, _))

theorem resetDue_some {p : Platform} {d : Device} {ts : Date} :
    d.ResetDue p (some ts) ↔
      d.Counted ∧ d.resetQuestionCounterTimestamp.map p.day ≠ some (p.day ts) := by
  refine and_congr_right fun _ => ?_
  cases d.resetQuestionCounterTimestamp <;> simp

/-- What a check at a corrected time does to the device. -/
inductive Checked (p : Platform) (d : Device) (tsNow : Option Date) : Nat × Device → Prop where
  | reset (ts : Date) (reads : Nat) (hnow : tsNow = some ts) (hdue : d.ResetDue p tsNow) :
      Checked p d tsNow
        (0,({ d with reads }.setResetQuestionCounterTimestamp (some ts)).resetAccessQuestionCount)
  | kept (reads : Nat) (hdue : ¬ d.ResetDue p tsNow) :
      Checked p d tsNow (d.accessQuestionsCount,{ d with reads })

theorem checked_getAccessQuestionsCount (p : Platform) (d : Device) :
    Checked p d (d.correctedTime p) (d.getAccessQuestionsCount p) := by
  unfold getAccessQuestionsCount
  split
  · rename_i hdifference
    exact .kept d.reads (by simp [ResetDue,correctedTime,hdifference])
  · rename_i timeDifference hdifference
    have hnow : d.correctedTime p = some (p.clock d.reads - timeDifference) := by
      simp [correctedTime,hdifference]
    dsimp only
    rw [hnow]
    split
    · rename_i haccess
      split
      · rename_i hday
        exact .reset _ _ rfl ⟨haccess,_,rfl,hday⟩
      · rename_i hday
        refine .kept _ ?_
        rintro ⟨-,ts,hts,hdue⟩
        cases hts
        exact hday hdue
    · rename_i haccess
      exact .kept d.reads fun hdue => haccess hdue.1

theorem checked_checkAt (p : Platform) (d : Device) (tsNow : Option Date) :
    Checked p { d with timeDifference := tsNow.map (fun ts => p.clock d.reads - ts) } tsNow
      (d.checkAt p tsNow) := by
  have h := checked_getAccessQuestionsCount p
    { d with timeDifference := tsNow.map (fun ts => p.clock d.reads - ts) }
  have hnow : correctedTime p
      { d with timeDifference := tsNow.map (fun ts => p.clock d.reads - ts) } = tsNow := by
    cases tsNow <;> simp [correctedTime]
  rwa [hnow] at h

theorem Checked.journal_ne_iff {p : Platform} {d : Device} {tsNow : Option Date}
    {r : Nat × Device} (h : Checked p d tsNow r) :
    r.2.journal ≠ d.journal ↔ d.ResetDue p tsNow := by
  cases h with
  | reset ts reads hnow hdue =>
    refine iff_of_true ?_ hdue
    simp [setResetQuestionCounterTimestamp,resetAccessQuestionCount,setAccessQuestionsCount,note]
  | kept reads hdue => exact iff_of_false (fun hne => hne rfl) hdue

end Device

inductive CounterEvent where
  | questionsCountIncrement
  | getAccessQuestionsCount (tsNow : Option Date)
  | relaunch (now : Date)
  | reinstall (now : Date)

def CounterEvent.isOperation : CounterEvent → Bool
  | .questionsCountIncrement | .getAccessQuestionsCount _ => true
  | .relaunch _ | .reinstall _ => false

/-- A reinstall loses `UserDefaults` and keeps the keychain. -/
def Device.counterStep (p : Platform) (d : Device) : CounterEvent → Device
  | .questionsCountIncrement => d.questionsCountIncrement
  | .getAccessQuestionsCount tsNow => (d.checkAt p tsNow).2
  | .relaunch now => d.launch now
  | .reinstall now => Device.launch { d with defaults := {} } now

/-- The five cells of the counter on a device without a subscription: memory
agrees with the keychain, and `UserDefaults` is never ahead of it. -/
structure Cells (d : Device) : Prop where
  active : d.activeSubscription = none
  persisted : d.persistedSubscription = none
  count : d.keychain.accessQuestionsCount.getD 0 = d.accessQuestionsCount
  behind : d.defaults.accessQuestionsCount ≤ d.accessQuestionsCount
  timestamp : d.defaults.resetQuestionCounterTimestamp = none ∨
    d.defaults.resetQuestionCounterTimestamp = d.keychain.resetQuestionCounterTimestamp

variable {p : Platform} {d d' : Device}

theorem Cells.access (h : Cells d) : d.access = none := by simp [Device.access,h.active]

theorem Cells.stored (h : Cells d) :
    d.resetQuestionCounterTimestamp = d.keychain.resetQuestionCounterTimestamp := by
  unfold Device.resetQuestionCounterTimestamp
  rcases h.timestamp with hnone | hsame
  · simp [hnone]
  · rw [hsame,Option.or_self]

theorem Cells.written (h : Cells d) (value : Nat) : Cells (d.setAccessQuestionsCount value) :=
  ⟨h.active,h.persisted,rfl,Nat.le_refl _,h.timestamp⟩

theorem Cells.checked (h : Cells d) {tsNow : Option Date} {r : Nat × Device}
    (hr : d.Checked p tsNow r) : Cells r.2 := by
  cases hr with
  | reset ts reads => exact ⟨h.active,h.persisted,rfl,Nat.le_refl _,.inr rfl⟩
  | kept reads => exact ⟨h.active,h.persisted,h.count,h.behind,h.timestamp⟩

theorem Cells.launched (h : Cells d) (now : Date) :
    (d.launch now).accessQuestionsCount = d.accessQuestionsCount ∧ Cells (d.launch now) := by
  have hcount : (d.launch now).accessQuestionsCount = d.accessQuestionsCount := by
    have hkeychain := h.count
    have hbehind := h.behind
    simp only [Device.launch,Device.storedAccessQuestionsCount]
    cases hk : d.keychain.accessQuestionsCount with
    | none =>
      simp only [hk,Option.getD_none] at hkeychain ⊢
      omega
    | some keychainData =>
      simp only [hk,Option.getD_some] at hkeychain ⊢
      omega
  refine ⟨hcount,?_,h.persisted,?_,?_,h.timestamp⟩
  · simp [Device.launch,Device.storedSubscription,h.persisted]
  · rw [hcount]
    exact h.count
  · rw [hcount]
    exact h.behind

theorem Cells.wiped (h : Cells d) : Cells { d with defaults := {} } :=
  ⟨h.active,rfl,h.count,Nat.zero_le _,.inl rfl⟩

/-- Two devices whose counters cannot be told apart. -/
structure SameCounter (d d' : Device) : Prop where
  left : Cells d
  right : Cells d'
  count : d.accessQuestionsCount = d'.accessQuestionsCount
  timestamp : d.resetQuestionCounterTimestamp = d'.resetQuestionCounterTimestamp

theorem SameCounter.resetDue (h : SameCounter d d') (tsNow : Option Date) :
    d.ResetDue p tsNow ↔ d'.ResetDue p tsNow := by
  unfold Device.ResetDue Device.Counted
  rw [h.left.access,h.right.access,h.timestamp]

theorem SameCounter.checked (h : SameCounter d d') {tsNow : Option Date} {r r' : Nat × Device}
    (hr : d.Checked p tsNow r) (hr' : d'.Checked p tsNow r') : SameCounter r.2 r'.2 := by
  have hdue := h.resetDue (p := p) tsNow
  have hleft := h.left.checked hr
  have hright := h.right.checked hr'
  cases hr with
  | reset ts reads hnow hreset =>
    cases hr' with
    | reset ts' reads' hnow' =>
      cases hnow.symm.trans hnow'
      exact ⟨hleft,hright,rfl,rfl⟩
    | kept _ hkept => exact absurd (hdue.mp hreset) hkept
  | kept reads hkept =>
    cases hr' with
    | reset _ _ _ hreset => exact absurd (hdue.mpr hreset) hkept
    | kept => exact ⟨hleft,hright,h.count,h.timestamp⟩

theorem SameCounter.corrected (h : SameCounter d d') (t t' : Option TimeInterval) :
    SameCounter { d with timeDifference := t } { d' with timeDifference := t' } :=
  ⟨⟨h.left.active,h.left.persisted,h.left.count,h.left.behind,h.left.timestamp⟩,
    ⟨h.right.active,h.right.persisted,h.right.count,h.right.behind,h.right.timestamp⟩,
    h.count,h.timestamp⟩

theorem SameCounter.launched (h : SameCounter d d') (now : Date) :
    SameCounter (d.launch now) d' := by
  obtain ⟨hcount,hcells⟩ := h.left.launched now
  exact ⟨hcells,h.right,hcount.trans h.count,h.timestamp⟩

theorem SameCounter.wiped (h : SameCounter d d') : SameCounter { d with defaults := {} } d' := by
  refine ⟨h.left.wiped,h.right,h.count,?_⟩
  rw [h.left.wiped.stored,← h.timestamp,h.left.stored]

/-- Relaunches and reinstalls, wherever they fall, change neither the counter
nor the time of its last reset. -/
theorem reinstalls_keep_counter (p : Platform) (es : List CounterEvent) :
    (es.foldl (Device.counterStep p) {}).accessQuestionsCount =
        ((es.filter CounterEvent.isOperation).foldl
          (Device.counterStep p) {}).accessQuestionsCount ∧
      (es.foldl (Device.counterStep p) {}).resetQuestionCounterTimestamp =
        ((es.filter CounterEvent.isOperation).foldl
          (Device.counterStep p) {}).resetQuestionCounterTimestamp := by
  have hfresh : Cells {} := ⟨rfl,rfl,rfl,Nat.le_refl _,.inl rfl⟩
  have h : SameCounter (es.foldl (Device.counterStep p) {})
      ((es.filter CounterEvent.isOperation).foldl (Device.counterStep p) {}) := by
    refine foldl_filter ?_ ?_ ⟨hfresh,hfresh,rfl,rfl⟩ es
    · intro d d' e he h
      cases e with
      | questionsCountIncrement =>
        have hcount : d.accessQuestionsCount + 1 = d'.accessQuestionsCount + 1 := by rw [h.count]
        exact ⟨h.left.written _,h.right.written _,hcount,h.timestamp⟩
      | getAccessQuestionsCount tsNow =>
        exact (h.corrected _ _).checked (d.checked_checkAt p tsNow) (d'.checked_checkAt p tsNow)
      | relaunch | reinstall => simp [CounterEvent.isOperation] at he
    · intro d d' e he h
      cases e with
      | relaunch now => exact h.launched now
      | reinstall now => exact h.wiped.launched now
      | questionsCountIncrement | getAccessQuestionsCount => simp [CounterEvent.isOperation] at he
  exact ⟨h.count,h.timestamp⟩

end GenieD

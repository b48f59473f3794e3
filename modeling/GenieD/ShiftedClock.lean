import GenieD.Counter
import GenieD.Session

set_option autoImplicit false

namespace GenieD

open Runs

def Platform.at (p : Platform) (now : Date) : Platform := { p with clock := fun _ => now }

inductive ClockAction where
  | serverTime (ts : Date)
  | getAccessQuestionsCount
  | questionsCountIncrement
  | resetAccessQuestionCount
  | setActiveSubscription (newValue : Option Subsciption)
  | relaunch

structure TimedAction where
  action : ClockAction
  now : Date
  shift : TimeInterval := 0

namespace Device

def clockStep (p : Platform) (d : Device) (now : Date) : ClockAction → Device
  | .serverTime ts => d.step (p.at now) (.serverTime ts)
  | .getAccessQuestionsCount => d.step (p.at now) .getAccessQuestionsCount
  | .questionsCountIncrement => d.questionsCountIncrement
  | .resetAccessQuestionCount => d.resetAccessQuestionCount
  | .setActiveSubscription newValue => d.setActiveSubscription newValue
  | .relaunch => d.launch now

end Device

/-- Two runs of one device. `atResponse` is how far the second clock was ahead
when the last server time arrived. -/
structure TwoClocks where
  first : Device := {}
  second : Device := {}
  atResponse : TimeInterval := 0

namespace TwoClocks

def step (p : Platform) (s : TwoClocks) (e : TimedAction) : TwoClocks where
  first := s.first.clockStep p e.now e.action
  second := s.second.clockStep p (e.now + e.shift) e.action
  atResponse :=
    match e.action with
    | .serverTime _ => e.shift
    | _ => s.atResponse

def SameAnswer (p : Platform) (s : TwoClocks) : TimedAction → Prop
  | ⟨.getAccessQuestionsCount,now,shift⟩ =>
    let r := s.first.getAccessQuestionsCount (p.at now)
    let r' := s.second.getAccessQuestionsCount (p.at (now + shift))
    (r.2.journal ≠ s.first.journal ↔ r'.2.journal ≠ s.second.journal) ∧ r.1 = r'.1
  | _ => True

/-- The change of the shift since the last response does not carry the server
time of a check to another day, and at a launch the stored subscription has
run out by both clocks or by neither. -/
def Harmless (p : Platform) (s : TwoClocks) : TimedAction → Prop
  | ⟨.getAccessQuestionsCount,now,shift⟩ =>
    s.first.Counted → ∀ timeDifference ∈ s.first.timeDifference,
      p.day (now - timeDifference + (shift - s.atResponse)) = p.day (now - timeDifference)
  | ⟨.relaunch,now,shift⟩ =>
    ∀ decoded ∈ s.first.persistedSubscription, decoded.access ≠ .lite →
      (decoded.expirationDate > now + shift ↔ decoded.expirationDate > now)
  | _ => True

instance (p : Platform) (s : TwoClocks) (e : TimedAction) : Decidable (s.SameAnswer p e) :=
  match e with
  | ⟨.getAccessQuestionsCount,_,_⟩ => inferInstanceAs (Decidable ((_ ↔ _) ∧ _))
  | ⟨.serverTime _,_,_⟩ | ⟨.questionsCountIncrement,_,_⟩ | ⟨.resetAccessQuestionCount,_,_⟩
  | ⟨.setActiveSubscription _,_,_⟩ | ⟨.relaunch,_,_⟩ => isTrue trivial

instance (p : Platform) (s : TwoClocks) (e : TimedAction) : Decidable (s.Harmless p e) :=
  match e with
  | ⟨.getAccessQuestionsCount,_,_⟩ => inferInstanceAs (Decidable (_ → ∀ t ∈ _, _))
  | ⟨.relaunch,_,_⟩ => inferInstanceAs (Decidable (∀ decoded ∈ _, _ → (_ ↔ _)))
  | ⟨.serverTime _,_,_⟩ | ⟨.questionsCountIncrement,_,_⟩ | ⟨.resetAccessQuestionCount,_,_⟩
  | ⟨.setActiveSubscription _,_,_⟩ => isTrue trivial

/-- What the two runs have in common: everything the counter depends on, up to
the day of a timestamp and the shift in the time difference. -/
structure Alike (p : Platform) (s : TwoClocks) : Prop where
  difference : s.second.timeDifference = s.first.timeDifference.map (· + s.atResponse)
  counted : s.second.Counted ↔ s.first.Counted
  persisted : s.second.persistedSubscription = s.first.persistedSubscription
  memory : s.second.accessQuestionsCount = s.first.accessQuestionsCount
  stored : s.second.storedAccessQuestionsCount = s.first.storedAccessQuestionsCount
  timestamp : s.second.resetQuestionCounterTimestamp.map p.day =
    s.first.resetQuestionCounterTimestamp.map p.day

variable {p : Platform} {s : TwoClocks}

theorem Alike.correctedTime (h : Alike p s) (now : Date) (shift : TimeInterval) :
    s.second.correctedTime (p.at (now + shift)) =
      (s.first.correctedTime (p.at now)).map (· + (shift - s.atResponse)) := by
  simp only [Device.correctedTime,h.difference,Option.map_map]
  congr 1
  funext timeDifference
  simp only [Function.comp,Platform.at]
  ring

theorem Alike.day_eq (h : Alike p s) {now : Date} {shift : TimeInterval} {ts ts' : Date}
    (hday : s.Harmless p ⟨.getAccessQuestionsCount,now,shift⟩) (hcounted : s.first.Counted)
    (hts : s.first.correctedTime (p.at now) = some ts)
    (hts' : s.second.correctedTime (p.at (now + shift)) = some ts') : p.day ts' = p.day ts := by
  rw [h.correctedTime now shift,hts] at hts'
  obtain ⟨timeDifference,hdifference,hnow⟩ := Option.map_eq_some_iff.mp hts
  have hsame := hday hcounted timeDifference hdifference
  simp only [Platform.at] at hnow
  cases hts'
  rw [← hnow]
  exact hsame

theorem Alike.resetDue_iff (h : Alike p s) {now : Date} {shift : TimeInterval}
    (hday : s.Harmless p ⟨.getAccessQuestionsCount,now,shift⟩) :
    s.second.ResetDue (p.at (now + shift)) (s.second.correctedTime (p.at (now + shift))) ↔
      s.first.ResetDue (p.at now) (s.first.correctedTime (p.at now)) := by
  have hcorrected := h.correctedTime now shift
  cases hts : s.first.correctedTime (p.at now) with
  | none =>
    rw [hts,Option.map_none] at hcorrected
    simp [hcorrected,Device.ResetDue]
  | some ts =>
    rw [hts,Option.map_some] at hcorrected
    have hsame := fun hcounted => h.day_eq hday hcounted hts hcorrected
    rw [hcorrected,Device.resetDue_some,Device.resetDue_some,h.counted]
    refine and_congr_right fun hcounted => ?_
    have htimestamp := h.timestamp
    simp only [Platform.at] at htimestamp ⊢
    rw [hsame hcounted,htimestamp]

theorem Alike.check (h : Alike p s) {now : Date} {shift : TimeInterval}
    (hday : s.Harmless p ⟨.getAccessQuestionsCount,now,shift⟩) :
    s.SameAnswer p ⟨.getAccessQuestionsCount,now,shift⟩ ∧
      Alike p (s.step p ⟨.getAccessQuestionsCount,now,shift⟩) := by
  have hr := s.first.checked_getAccessQuestionsCount (p.at now)
  have hr' := s.second.checked_getAccessQuestionsCount (p.at (now + shift))
  have hdue := h.resetDue_iff hday
  have hjournal := hr.journal_ne_iff.trans (hdue.symm.trans hr'.journal_ne_iff.symm)
  simp only [SameAnswer,step,Device.clockStep,Device.step,hjournal,true_and]
  generalize s.first.getAccessQuestionsCount (p.at now) = r at hr ⊢
  generalize s.second.getAccessQuestionsCount (p.at (now + shift)) = r' at hr' ⊢
  cases hr with
  | reset ts reads hts hreset =>
    cases hr' with
    | reset ts' reads' hts' =>
      have hsame := h.day_eq hday hreset.1 hts hts'
      exact ⟨rfl,h.difference,h.counted,h.persisted,rfl,rfl,congrArg some hsame⟩
    | kept reads' hkept => exact absurd (hdue.mpr hreset) hkept
  | kept reads hkept =>
    cases hr' with
    | reset ts' reads' hts' hreset => exact absurd (hdue.mp hreset) hkept
    | kept reads' =>
      exact ⟨h.memory.symm,h.difference,h.counted,h.persisted,h.memory,h.stored,h.timestamp⟩

theorem counted_launch_iff {d : Device} {now : Date} :
    (d.launch now).Counted ↔ ∀ decoded ∈ d.persistedSubscription, decoded.access ≠ .lite →
      ¬ decoded.expirationDate > now := by
  simp only [Device.Counted,Device.access,Device.launch,Device.storedSubscription]
  cases d.persistedSubscription with
  | none => simp
  | some decoded =>
    by_cases hlive : decoded.expirationDate > now
    · have hnot := Int.not_le.mpr hlive
      simp [Option.filter,hlive,hnot]
    · have hle := Int.not_lt.mp hlive
      simp [Option.filter,hlive,hle]

theorem Alike.relaunched (h : Alike p s) {now : Date} {shift : TimeInterval}
    (hlive : s.Harmless p ⟨.relaunch,now,shift⟩) : Alike p (s.step p ⟨.relaunch,now,shift⟩) := by
  refine ⟨rfl,?_,h.persisted,h.stored,h.stored,h.timestamp⟩
  simp only [step,Device.clockStep,counted_launch_iff,h.persisted]
  refine forall₂_congr fun decoded hdecoded => imp_congr_right fun haccess => ?_
  exact not_congr (hlive decoded hdecoded haccess)

theorem Alike.step (h : Alike p s) {e : TimedAction} (he : s.Harmless p e) :
    s.SameAnswer p e ∧ Alike p (s.step p e) := by
  obtain ⟨action,now,shift⟩ := e
  cases action with
  | getAccessQuestionsCount => exact h.check he
  | relaunch => exact ⟨trivial,h.relaunched he⟩
  | serverTime ts =>
    refine ⟨trivial,?_,h.counted,h.persisted,h.memory,h.stored,h.timestamp⟩
    simp only [TwoClocks.step,Device.clockStep,Device.step,Platform.at,Option.map_some]
    congr 1
    ring
  | questionsCountIncrement =>
    have hcount : s.second.accessQuestionsCount + 1 = s.first.accessQuestionsCount + 1 := by
      rw [h.memory]
    refine ⟨trivial,h.difference,h.counted,h.persisted,hcount,?_,h.timestamp⟩
    exact (Device.stored_setAccessQuestionsCount _ _).trans
      (hcount.trans (Device.stored_setAccessQuestionsCount _ _).symm)
  | resetAccessQuestionCount =>
    exact ⟨trivial,h.difference,h.counted,h.persisted,rfl,rfl,h.timestamp⟩
  | setActiveSubscription newValue =>
    exact ⟨trivial,h.difference,Iff.rfl,rfl,h.memory,h.stored,h.timestamp⟩

/-- The clock of the device does not matter as long as no change of it since the
last response reaches another day. -/
theorem harmless_shifts_same_answers (p : Platform) {es : List TimedAction}
    (h : Each (TwoClocks.step p) (Harmless p) {} es) :
    Each (TwoClocks.step p) (SameAnswer p) {} es := by
  have hstart : Alike p {} := ⟨rfl,Iff.rfl,rfl,rfl,rfl,rfl⟩
  exact h.imp (fun _ _ hs he => (Alike.step hs he).2) (fun _ _ hs he => (Alike.step hs he).1) hstart

def oneQuestion (shift : TimeInterval) : List TimedAction :=
  [⟨.serverTime 0,100,shift⟩,⟨.getAccessQuestionsCount,100,shift⟩,
    ⟨.questionsCountIncrement,200,shift⟩,⟨.getAccessQuestionsCount,700,shift⟩]

theorem constant_shift_same_answers :
    let p := Platform.plain Int.ofNat
    let s := (oneQuestion 86400).foldl (TwoClocks.step p) {}
    s.first.accessQuestionsCount = 1 ∧ s.second.accessQuestionsCount = 1 ∧
      Each (TwoClocks.step p) (SameAnswer p) {} (oneQuestion 86400) := by
  intro p s
  have hharmless : Each (TwoClocks.step p) (Harmless p) {} (oneQuestion 86400) := by decide +kernel
  exact ⟨by decide +kernel,by decide +kernel,harmless_shifts_same_answers p hharmless⟩

/-- Set a day ahead after the server time arrived, the clock makes the counter start again. -/
theorem shift_resets_counter :
    let p := Platform.plain Int.ofNat
    let es := oneQuestion 0 ++ [⟨.getAccessQuestionsCount,800,86400⟩]
    let s := es.foldl (TwoClocks.step p) {}
    s.first.accessQuestionsCount = 1 ∧ s.second.accessQuestionsCount = 0 ∧
      ¬ Each (TwoClocks.step p) (SameAnswer p) {} es := by
  decide +kernel

end TwoClocks

end GenieD

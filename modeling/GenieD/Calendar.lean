import GenieD.Counter

set_option autoImplicit false

namespace GenieD

open Runs

structure CalendarDate where
  year : Int
  month : Int
  day : Int
  deriving DecidableEq, Repr

/-- The Gregorian date of a day counted from 1 January 1970. The years of the
computation begin in March, so that the leap day is the last of its year. -/
def gregorianDate (days : Int) : CalendarDate :=
  let era := (days + 719468) / 146097
  let dayOfEra := (days + 719468) % 146097
  let yearOfEra :=
    (dayOfEra - dayOfEra / 1460 + dayOfEra / 36524 - dayOfEra / 146096) / 365
  let dayOfYear := dayOfEra - (365 * yearOfEra + yearOfEra / 4 - yearOfEra / 100)
  let marchMonth := (5 * dayOfYear + 2) / 153
  let month := if marchMonth < 10 then marchMonth + 3 else marchMonth - 9
  { year := era * 400 + yearOfEra + if month ≤ 2 then 1 else 0
    month
    day := dayOfYear - (153 * marchMonth + 2) / 5 + 1 }

example : gregorianDate 0 = ⟨1970,1,1⟩ := by decide
example : gregorianDate 19781 = ⟨2024,2,28⟩ ∧ gregorianDate 19782 = ⟨2024,2,29⟩ ∧
    gregorianDate 19783 = ⟨2024,3,1⟩ := by decide

def Platform.gregorian (clock : Nat → Date) : Platform :=
  { Platform.plain clock with day := fun ts => some (gregorianDate (ts / 86400)).day }

inductive DayEvent where
  | getAccessQuestionsCount (tsNow : Date)
  | questionsCountIncrement

namespace Device

def dayStep (p : Platform) (d : Device) : DayEvent → Device
  | .getAccessQuestionsCount tsNow => (d.checkAt p (some tsNow)).2
  | .questionsCountIncrement => d.questionsCountIncrement

def ResetsAt (p : Platform) (d : Device) (tsNow : Date) : Prop :=
  let r := d.checkAt p (some tsNow)
  r.2.journal ≠ d.journal ∧ r.2.resetQuestionCounterTimestamp = some tsNow ∧
    r.2.accessQuestionsCount = 0 ∧ r.1 = 0

def ResetsOnNewDate (p : Platform) (calendar : Date → CalendarDate) (d : Device) :
    DayEvent → Prop
  | .getAccessQuestionsCount tsNow =>
    d.ResetsAt p tsNow ↔
      ∀ ts ∈ d.resetQuestionCounterTimestamp, calendar ts ≠ calendar tsNow
  | .questionsCountIncrement => True

/-- The check does not fall on the day of the month of the last reset, in another month. -/
def DayTellsDate (calendar : Date → CalendarDate) (d : Device) : DayEvent → Prop
  | .getAccessQuestionsCount tsNow =>
    ∀ ts ∈ d.resetQuestionCounterTimestamp,
      (calendar ts).day = (calendar tsNow).day → calendar ts = calendar tsNow
  | .questionsCountIncrement => True

instance (p : Platform) (d : Device) (tsNow : Date) : Decidable (d.ResetsAt p tsNow) :=
  inferInstanceAs (Decidable (_ ∧ _ ∧ _ ∧ _))

instance (p : Platform) (calendar : Date → CalendarDate) (d : Device) (e : DayEvent) :
    Decidable (d.ResetsOnNewDate p calendar e) :=
  match e with
  | .getAccessQuestionsCount _ => inferInstanceAs (Decidable (_ ↔ ∀ ts ∈ _, _))
  | .questionsCountIncrement => isTrue trivial

instance (calendar : Date → CalendarDate) (d : Device) (e : DayEvent) :
    Decidable (d.DayTellsDate calendar e) :=
  match e with
  | .getAccessQuestionsCount _ => inferInstanceAs (Decidable (∀ ts ∈ _, _ → _))
  | .questionsCountIncrement => isTrue trivial

variable {p : Platform} {d : Device}

theorem resetsAt_iff {tsNow : Date} : d.ResetsAt p tsNow ↔ d.ResetDue p (some tsNow) := by
  have h := d.checked_checkAt p (some tsNow)
  have hdue := h.journal_ne_iff
  unfold ResetsAt
  generalize d.checkAt p (some tsNow) = r at h hdue ⊢
  constructor
  · intro hreset
    exact hdue.mp hreset.1
  · intro hreset
    cases h with
    | reset ts reads hnow =>
      cases hnow
      exact ⟨hdue.mpr hreset,rfl,rfl,rfl⟩
    | kept reads hkept => exact absurd hreset hkept

theorem counted_dayStep (h : d.Counted) (e : DayEvent) : (d.dayStep p e).Counted := by
  cases e with
  | getAccessQuestionsCount tsNow =>
    have hchecked := d.checked_checkAt p (some tsNow)
    simp only [dayStep]
    generalize d.checkAt p (some tsNow) = r at hchecked ⊢
    cases hchecked with
    | reset => exact h
    | kept => exact h
  | questionsCountIncrement => exact h

theorem resetsOnNewDate_iff {calendar : Date → CalendarDate}
    (hday : ∀ ts, p.day ts = some (calendar ts).day) (h : d.Counted) (e : DayEvent) :
    d.ResetsOnNewDate p calendar e ↔ d.DayTellsDate calendar e := by
  cases e with
  | questionsCountIncrement => exact Iff.rfl
  | getAccessQuestionsCount tsNow =>
    simp only [ResetsOnNewDate,DayTellsDate,resetsAt_iff,resetDue_some]
    cases d.resetQuestionCounterTimestamp with
    | none => simp [h]
    | some stored =>
      have hsame : calendar stored = calendar tsNow →
          (calendar stored).day = (calendar tsNow).day := congrArg CalendarDate.day
      simp only [h,hday,Option.map_some,Option.mem_some_iff,forall_eq',true_and,ne_eq,
        Option.some.injEq]
      tauto

/-- The counter starts again exactly on new dates as long as the app is never
checked on the day of the month of its last reset in a later month. -/
theorem resets_on_new_dates_iff {calendar : Date → CalendarDate}
    (hday : ∀ ts, p.day ts = some (calendar ts).day) (h : d.Counted) (es : List DayEvent) :
    Each (dayStep p) (ResetsOnNewDate p calendar) d es ↔
      Each (dayStep p) (DayTellsDate calendar) d es :=
  each_iff_each (J := Counted) (fun _ e hcounted _ => counted_dayStep hcounted e)
    (fun _ e hcounted => resetsOnNewDate_iff hday hcounted e) h es

def threeAsked (first second : Date) : List DayEvent :=
  [.getAccessQuestionsCount first,.questionsCountIncrement,.questionsCountIncrement,
    .questionsCountIncrement,.getAccessQuestionsCount second]

theorem next_day_resets :
    let p := Platform.gregorian Int.ofNat
    let calendar := fun ts : Date => gregorianDate (ts / 86400)
    ((threeAsked 1673740800 1673827200).foldl (dayStep p) {}).accessQuestionsCount = 0 ∧
      Each (dayStep p) (ResetsOnNewDate p calendar) {} (threeAsked 1673740800 1673827200) := by
  intro p calendar
  have htells : Each (dayStep p) (DayTellsDate calendar) {}
      (threeAsked 1673740800 1673827200) := by decide +kernel
  exact ⟨by decide +kernel,(resets_on_new_dates_iff (fun _ => rfl) (.inl rfl) _).mpr htells⟩

/-- 15 January and 15 February 2023: the free questions of the first day still count. -/
theorem month_later_still_locked :
    let p := Platform.gregorian Int.ofNat
    let calendar := fun ts : Date => gregorianDate (ts / 86400)
    let d := (threeAsked 1673740800 1676419200).foldl (dayStep p) {}
    calendar 1673740800 = ⟨2023,1,15⟩ ∧ calendar 1676419200 = ⟨2023,2,15⟩ ∧
      d.accessQuestionsCount = 3 ∧ d.maxQuestionsPerDay = some 3 ∧
      ¬ Each (dayStep p) (ResetsOnNewDate p calendar) {} (threeAsked 1673740800 1676419200) := by
  decide +kernel

end Device

end GenieD

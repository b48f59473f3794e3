import GenieD.Session

set_option autoImplicit false

namespace GenieD

open Runs

/-- `ServerTimeManager` and what it has set going: the requests in flight and
the delays of the retries on the main queue. The device holds `timeDifference`.
An observer keeps the last completion, and whether a date has arrived since the
last activation of the app. -/
structure ServerTimeManager where
  device : Device := {}
  isLoading : Bool := false
  failedRequestsCount : Nat := 0
  inFlight : Nat := 0
  scheduled : List TimeInterval := []
  last : Option (Option Date) := none
  dated : Bool := false

inductive PollingEvent where
  | updateServerTime
  | completed (date : Option Date)
  | fired (index : Nat)
  deriving DecidableEq

namespace ServerTimeManager

/-- `_requestTimestamp`. While a request is loading, a second one is dropped. -/
def requestTimestamp (s : ServerTimeManager) : ServerTimeManager :=
  if s.isLoading then s
  else { s with isLoading := true, inFlight := s.inFlight + 1 }

def handleResponse (p : Platform) (s : ServerTimeManager) (date : Option Date) :
    ServerTimeManager :=
  match date with
  | some ts => { s with failedRequestsCount := 0, device := s.device.step p (.serverTime ts) }
  | none =>
    let failedRequestsCount := s.failedRequestsCount + 1
    if failedRequestsCount ≤ 5 then
      { s with failedRequestsCount, scheduled := s.scheduled ++ [3] }
    else { s with failedRequestsCount, scheduled := s.scheduled ++ [60] }

def updateServerTime (s : ServerTimeManager) : ServerTimeManager :=
  requestTimestamp { s with failedRequestsCount := 0 }

def step (p : Platform) (s : ServerTimeManager) : PollingEvent → ServerTimeManager
  | .updateServerTime => { s.updateServerTime with dated := false }
  | .completed date =>
    handleResponse p
      { s with
        isLoading := false
        inFlight := s.inFlight - 1
        last := some date
        dated := s.dated || date.isSome } date
  | .fired index => requestTimestamp { s with scheduled := s.scheduled.eraseIdx index }

/-- A request completes once, and a block that is scheduled fires once. -/
def Allowed (s : ServerTimeManager) : PollingEvent → Prop
  | .updateServerTime => True
  | .completed _ => 0 < s.inFlight
  | .fired index => index < s.scheduled.length

instance (s : ServerTimeManager) (e : PollingEvent) : Decidable (s.Allowed e) :=
  match e with
  | .updateServerTime => isTrue trivial
  | .completed _ => inferInstanceAs (Decidable (_ < _))
  | .fired _ => inferInstanceAs (Decidable (_ < _))

abbrev PollingRun (p : Platform) := Run (step p) Allowed

def Counted (s : ServerTimeManager) : Prop := s.inFlight = if s.isLoading then 1 else 0

/-- Something is known, or something is on its way. -/
def Live (s : ServerTimeManager) : Prop :=
  (∃ ts, s.last = some (some ts)) ∨ 0 < s.inFlight ∨ s.scheduled ≠ []

variable {p : Platform} {s : ServerTimeManager}

theorem requestTimestamp_spec (h : s.Counted) :
    s.requestTimestamp = { s with isLoading := true, inFlight := 1 } := by
  unfold Counted at h
  unfold requestTimestamp
  cases hloading : s.isLoading with
  | true =>
    rw [hloading,if_pos rfl] at h
    rw [if_pos rfl,← h,← hloading]
  | false =>
    rw [hloading,if_neg Bool.false_ne_true] at h
    rw [if_neg Bool.false_ne_true,h]

inductive Stepped (p : Platform) (s : ServerTimeManager) : PollingEvent → ServerTimeManager → Prop
    where
  | updated : Stepped p s .updateServerTime
      { s with failedRequestsCount := 0, isLoading := true, inFlight := 1, dated := false }
  | delivered (ts : Date) : Stepped p s (.completed (some ts))
      { s with
        device := s.device.step p (.serverTime ts)
        isLoading := false
        failedRequestsCount := 0
        inFlight := 0
        last := some (some ts)
        dated := true }
  | failed (delay : TimeInterval) : Stepped p s (.completed none)
      { s with
        isLoading := false
        failedRequestsCount := s.failedRequestsCount + 1
        inFlight := 0
        scheduled := s.scheduled ++ [delay]
        last := some none }
  | fired (index : Nat) : Stepped p s (.fired index)
      { s with scheduled := s.scheduled.eraseIdx index, isLoading := true, inFlight := 1 }

theorem stepped_step (h : s.Counted) {e : PollingEvent} (hok : s.Allowed e) :
    Stepped p s e (s.step p e) := by
  cases e with
  | updateServerTime =>
    have hspec := @requestTimestamp_spec { s with failedRequestsCount := 0 } h
    simp only [step,updateServerTime,hspec]
    exact .updated
  | completed date =>
    have hone : s.inFlight - 1 = 0 := by
      unfold Counted at h
      split at h <;> omega
    cases date with
    | some ts =>
      simp only [step,handleResponse,hone,Option.isSome_some,Bool.or_true]
      exact .delivered ts
    | none =>
      simp only [step,handleResponse,hone,Option.isSome_none,Bool.or_false]
      split
      · exact .failed 3
      · exact .failed 60
  | fired index =>
    have hspec := @requestTimestamp_spec { s with scheduled := s.scheduled.eraseIdx index } h
    simp only [step,hspec]
    exact .fired index

theorem counted_step (h : s.Counted) {e : PollingEvent} (hok : s.Allowed e) :
    (s.step p e).Counted := by
  have hs := stepped_step (p := p) h hok
  generalize s.step p e = t at hs ⊢
  cases hs <;> rfl

theorem live_step (h : s.Counted) {e : PollingEvent} (hok : s.Allowed e) :
    (s.step p e).Live := by
  have hs := stepped_step (p := p) h hok
  generalize s.step p e = t at hs ⊢
  cases hs with
  | updated => exact .inr (.inl Nat.one_pos)
  | delivered ts => exact .inl ⟨ts,rfl⟩
  | failed delay => exact .inr (.inr (by simp))
  | fired index => exact .inr (.inl Nat.one_pos)

/-- However activations, completions and timers interleave, one request is in
flight at most, and once polling has begun it does not come to a halt without a date. -/
theorem polling_never_stalls (device : Device) {es : List PollingEvent}
    (hrun : PollingRun p { device } es s) :
    s.inFlight ≤ 1 ∧ (s.isLoading = true ↔ 0 < s.inFlight) ∧
      (.updateServerTime ∈ es →
        (∃ ts, s.last = some (some ts)) ∨ 0 < s.inFlight ∨ s.scheduled ≠ []) := by
  have hcounted : s.Counted := hrun.invariant (fun _ _ hok h => counted_step h hok) rfl
  refine ⟨?_,?_,?_⟩
  · unfold Counted at hcounted
    split at hcounted <;> omega
  · unfold Counted at hcounted
    cases hloading : s.isLoading <;> simp [hcounted,hloading]
  · intro hmem
    cases hrun with
    | nil => simp at hmem
    | cons allowed rest =>
      have hfirst := counted_step (p := p) (s := { device }) rfl allowed
      have hlive := live_step (p := p) (s := { device }) rfl allowed
      exact (rest.invariant (I := fun t => t.Counted ∧ t.Live)
        (fun _ _ hok h => ⟨counted_step h.1 hok,live_step h.1 hok⟩) ⟨hfirst,hlive⟩).2

theorem offline_start_live :
    let p := Platform.plain Int.ofNat
    let es := [PollingEvent.updateServerTime,.completed none,.updateServerTime,.fired 0]
    let s := es.foldl (step p) {}
    s.scheduled = [] ∧ (s.isLoading = true ↔ 0 < s.inFlight) ∧
      ((∃ ts, s.last = some (some ts)) ∨ 0 < s.inFlight ∨ s.scheduled ≠ []) := by
  intro p es s
  have hrun : PollingRun p { device := {} } es s := Each.run (by decide)
  obtain ⟨-,hloading,hlive⟩ := polling_never_stalls {} hrun
  exact ⟨by decide,hloading,hlive (by decide)⟩

/-- One request or one retry at most, and none of both after a date. -/
def Single (s : ServerTimeManager) : Prop :=
  s.inFlight + s.scheduled.length ≤ 1 ∧ (s.dated = true → s.scheduled = [])

def Unscheduled (s : ServerTimeManager) (e : PollingEvent) : Prop :=
  e = .updateServerTime → s.scheduled = []

instance (s : ServerTimeManager) : Decidable s.Single := inferInstanceAs (Decidable (_ ∧ (_ → _)))

instance (s : ServerTimeManager) (e : PollingEvent) : Decidable (s.Unscheduled e) :=
  inferInstanceAs (Decidable (_ → _))

structure Rested (s : ServerTimeManager) : Prop where
  counted : s.Counted
  rest : s.dated = true → s.inFlight = 0

theorem rested_step {e : PollingEvent} (hok : s.Allowed e) (h : s.Rested) (hs : s.Single) :
    (s.step p e).Rested := by
  refine ⟨counted_step h.counted hok,?_⟩
  have hstep := stepped_step (p := p) h.counted hok
  generalize s.step p e = t at hstep ⊢
  cases hstep with
  | updated => exact fun hdated => absurd hdated Bool.false_ne_true
  | delivered ts => exact fun _ => rfl
  | failed delay => exact fun _ => rfl
  | fired index =>
    intro hdated
    have hnone : s.scheduled = [] := hs.2 hdated
    have hsome : index < s.scheduled.length := hok
    simp [hnone] at hsome

theorem single_step {e : PollingEvent} (hok : s.Allowed e) (h : s.Rested) (hs : s.Single) :
    (s.step p e).Single ↔ s.Unscheduled e := by
  have hstep := stepped_step (p := p) h.counted hok
  obtain ⟨hsum,hdated⟩ := hs
  generalize s.step p e = t at hstep ⊢
  cases hstep with
  | updated =>
    simp only [Single,Unscheduled,Bool.false_eq_true,false_implies,and_true,forall_const]
    rw [← List.length_eq_zero_iff]
    omega
  | delivered ts =>
    have hflight : 0 < s.inFlight := hok
    have hnone : s.scheduled = [] := List.length_eq_zero_iff.mp (by omega)
    simp [Single,Unscheduled,hnone]
  | failed delay =>
    have hflight : 0 < s.inFlight := hok
    have hnone : s.scheduled = [] := List.length_eq_zero_iff.mp (by omega)
    have hundated : s.dated = false := by
      by_contra hne
      have hrest := h.rest (by simpa using hne)
      omega
    simp [Single,Unscheduled,hnone,hundated]
  | fired index =>
    have hindex : index < s.scheduled.length := hok
    have herased : s.scheduled.eraseIdx index = [] := by
      rw [← List.length_eq_zero_iff,List.length_eraseIdx_of_lt hindex]
      omega
    simp [Single,Unscheduled,herased]

/-- Retries do not multiply exactly as long as the app is activated only while
none is scheduled. -/
theorem single_iff_unscheduled (device : Device) {es : List PollingEvent}
    (hrun : PollingRun p { device } es s) :
    Always (step p) Single { device } es ↔ Each (step p) Unscheduled { device } es :=
  hrun.always_iff_each (J := Rested) (fun _ _ => rested_step) (fun _ _ => single_step)
    ⟨rfl,fun _ => rfl⟩ ⟨Nat.zero_le _,fun _ => rfl⟩

theorem one_retry_at_a_time :
    let p := Platform.plain Int.ofNat
    let es := [PollingEvent.updateServerTime,.completed none,.fired 0,.completed (some 0)]
    Always (step p) Single { device := {} } es ∧ (es.foldl (step p) {}).dated = true := by
  intro p es
  have hrun : PollingRun p { device := {} } es (es.foldl (step p) {}) := Each.run (by decide)
  exact ⟨(single_iff_unscheduled {} hrun).mpr (by decide),by decide⟩

/-- Three activations without a network leave three retries, and they outlive the
date that the fourth request brings. -/
theorem retries_multiply :
    let p := Platform.plain Int.ofNat
    let es := [PollingEvent.updateServerTime,.completed none,.updateServerTime,.completed none,
      .updateServerTime,.completed none]
    let s := es.foldl (step p) {}
    let t := [PollingEvent.updateServerTime,.completed (some 0)].foldl (step p) s
    PollingRun p {} es s ∧ s.scheduled = [3,3,3] ∧ t.dated = true ∧ t.scheduled = [3,3,3] ∧
      ¬ Always (step p) Single {} es := by
  intro p es s t
  have hrun : PollingRun p {} es s := Each.run (by decide)
  have hlast : ¬ s.Single := by decide
  exact ⟨hrun,by decide,by decide,by decide,fun h => hlast h.last⟩

end ServerTimeManager

end GenieD

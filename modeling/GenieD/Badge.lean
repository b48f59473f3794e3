import GenieD.Frames
import GenieD.Quota

set_option autoImplicit false

namespace GenieD

open Runs App

namespace QuestionCountInfoView

def leftCount (p : Platform) (d : Device) : Int × Device :=
  let (usedCount,d') := d.getAccessQuestionsCount p
  (max 0 (d.firestore.freeRequests - usedCount),d')

def title (p : Platform) (d : Device) : String × Device :=
  if d.subscribed then (p.localized "Premium",d)
  else
    let (result,d') := leftCount p d
    (toString result,d')

end QuestionCountInfoView

def upgradeAlertMessage (p : Platform) (d : Device) : String × Device :=
  let (leftCount,d') := QuestionCountInfoView.leftCount p d
  (Text.replacingOccurrences
    (p.localized ("<numberofquestions> questions left in your weekly free package. " ++
      "Upgrade for unlimited questions.")) "<numberofquestions>" (toString leftCount),d')

/-- The counter tells the answers since its reset and is what a new process
would read back, whatever the limit. -/
def Device.Reckoned (d : Device) : Prop := Tallied d.accessQuestionsCount d 0

variable {limit : Int} {n : Nat} {d : Device}

theorem Tallied.reckoned (h : Tallied limit d n) : d.Reckoned := ⟨h.tally,h.stored,by simp⟩

theorem Device.Reckoned.congr {d' : Device} (h : d.Reckoned)
    (hcount : d'.accessQuestionsCount = d.accessQuestionsCount)
    (hstored : d'.storedAccessQuestionsCount = d.storedAccessQuestionsCount)
    (hjournal : answersSinceReset d'.journal = answersSinceReset d.journal) : d'.Reckoned :=
  (Tallied.congr h hcount hstored hjournal).reckoned

theorem Device.Reckoned.waiting (h : d.Reckoned) : Tallied (d.accessQuestionsCount + 1) d 1 :=
  ⟨h.tally,h.stored,by simp⟩

variable {p : Platform} {a b : App}

theorem Device.Reckoned.refreshed {chat : List MessageItem} {d' : Device} (h : d.Reckoned)
    (hd : Refreshed chat d d') : d'.Reckoned := by
  obtain ⟨firestore,hnoted⟩ := hd.noted
  have hread : Device.Reckoned { d with firestore } := h.congr rfl rfl rfl
  exact (Tallied.noted hread hnoted).reckoned

theorem Device.Reckoned.effect (hb : Effect p a b) (h : a.device.Reckoned) :
    b.device.Reckoned := by
  cases hb with
  | probed d hd => exact (Tallied.probed h hd).reckoned
  | rechecked d hd => exact (Tallied.rechecked h hd).reckoned
  | redrawn => exact h
  | commanded b hb =>
    cases hb with
    | mk q r =>
      exact h.congr rfl rfl (answersSinceReset_concat a.device.journal (.command q r))
  | issued b hb =>
    obtain ⟨d,hd,hd'⟩ := hb.noted
    exact ((Tallied.probed h hd).noted hd').reckoned
  | taken index r d _ hd => exact h.refreshed hd
  | continued index r d f _ hd => exact h.refreshed hd
  | saved => exact (Tallied.saved h (saved_saveChat p a)).reckoned

theorem reckoned_step {e : Event} (h : a.device.Reckoned) : (a.step p e).device.Reckoned := by
  by_cases he : ∃ d, e = .device d
  · obtain ⟨d,rfl⟩ := he
    exact (Tallied.stepped h (a.device.stepped_step p d)).reckoned
  · exact frame_step (R := fun a b => a.device.Reckoned → b.device.Reckoned) (fun _ => id)
      (fun h h' => h' ∘ h) .effect
      (fun c _ _ _ h => (Tallied.answered h.waiting _ _ _ _).reckoned) (not_exists.mp he) h

theorem reckoned_screen_step {s : Screen} {act : Act} (h : s.device.Reckoned) :
    (s.step p act).device.Reckoned := by
  have hacted := s.acted_step p act
  generalize (s.step p act).device = d at hacted ⊢
  cases hacted with
  | same => exact h
  | opened => exact h.congr rfl rfl rfl
  | device e => exact (Tallied.stepped h (s.device.stepped_step p e)).reckoned
  | session a e ha => exact reckoned_step (ha ▸ h)
  | saved act a ha =>
    have ht : a.device.Reckoned := ha ▸ h
    exact (Tallied.saved ht (saved_saveChat p a)).reckoned
  | launch =>
    exact ⟨h.stored.trans h.tally,by simp [Screen.launch,Screen.device,Device.launch,
      Device.storedAccessQuestionsCount],by simp⟩

theorem title_eq_zero_iff (n : Nat) : (toString n = "0") ↔ n = 0 :=
  Nat.repr_inj (n := 0)

/-- Whatever has happened so far, the badge of a user without a subscription
tells the questions that are left of the free ones after the answers since the
last reset. It reads 0 if and only if sending is locked at this look, a question
goes out after any other number, and the alert names the same number. -/
theorem badge_tells_rest (active : Option Subsciption) (firestore : FirestoreManager)
    {acts : List Act} {s : Screen} (hrun : PhoneRun p (.install active firestore) acts s)
    (hfree : s.device.subscribed = false) :
    let shown := QuestionCountInfoView.title p s.device
    shown.1 = toString
        (s.device.firestore.freeRequests - answersSinceReset shown.2.journal).toNat ∧
      s.device.isSendMessageLocked p = (decide (shown.1 = "0"),shown.2) ∧
      (shown.1 ≠ "0" → (shown.2.isSendMessageLocked p).1 = false) ∧
      upgradeAlertMessage p s.device =
        (Text.replacingOccurrences
          (p.localized ("<numberofquestions> questions left in your weekly free package. " ++
            "Upgrade for unlimited questions.")) "<numberofquestions>" shown.1,shown.2) := by
  intro shown
  have hreckoned : s.device.Reckoned :=
    hrun.invariant (fun _ _ _ h => reckoned_screen_step h) (I := fun s => s.device.Reckoned)
      ⟨rfl,rfl,by simp⟩
  have hlooked := Tallied.rechecked hreckoned (Device.rechecked_getAccessQuestionsCount p s.device)
  have hmax : s.device.maxQuestionsPerDay = some s.device.firestore.freeRequests := by
    simp only [Device.subscribed,Option.isSome_eq_false_iff,Option.isNone_iff_eq_none] at hfree
    simp [Device.maxQuestionsPerDay,Device.access,hfree]
  have hshown : shown = (toString (QuestionCountInfoView.leftCount p s.device).1,
      (s.device.getAccessQuestionsCount p).2) := by
    simp only [shown,QuestionCountInfoView.title,hfree]
    rfl
  have hcount : (s.device.getAccessQuestionsCount p).1 =
      (s.device.getAccessQuestionsCount p).2.accessQuestionsCount := rfl
  have hleft : (QuestionCountInfoView.leftCount p s.device).1 =
      (s.device.firestore.freeRequests - answersSinceReset shown.2.journal).toNat := by
    rw [hshown,← hlooked.tally,← hcount]
    simp only [QuestionCountInfoView.leftCount]
    omega
  have htitle : shown.1 = toString
      (s.device.firestore.freeRequests - answersSinceReset shown.2.journal).toNat := by
    conv_lhs => rw [hshown,hleft]
    rfl
  have hlocked : s.device.isSendMessageLocked p = (decide (shown.1 = "0"),shown.2) := by
    have hzero : shown.1 = "0" ↔
        s.device.firestore.freeRequests ≤ (s.device.getAccessQuestionsCount p).1 := by
      rw [htitle,title_eq_zero_iff,hshown,← hlooked.tally,← hcount]
      omega
    have hdevice : shown.2 = (s.device.getAccessQuestionsCount p).2 := by rw [hshown]
    simp only [Device.isSendMessageLocked,hmax,hzero,hdevice]
  refine ⟨htitle,hlocked,fun hne => ?_,?_⟩
  · have hopen : (s.device.isSendMessageLocked p).1 = false := by
      rw [hlocked]
      simpa using hne
    have hquota := Device.hasQuota_of_unlocked hopen
    rw [hlocked] at hquota
    exact hquota.unlocked
  · rw [hshown]
    rfl

theorem badge_after_exchange :
    let p := Platform.plain Int.ofNat
    let s := oneExchange.foldl (Screen.step p) (.install none { aikey := some "key" })
    (QuestionCountInfoView.title p s.device).1 = "2" := by
  intro p s
  have hrun : PhoneRun p (.install none { aikey := some "key" }) oneExchange s :=
    Each.run (by decide)
  rw [(badge_tells_rest none { aikey := some "key" } hrun (by decide)).1]
  decide

end GenieD

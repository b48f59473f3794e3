import GenieD.Saving
import GenieD.Screen

set_option autoImplicit false

namespace GenieD

open Runs App

def Entry.tally (n : Nat) : Entry → Nat
  | .reset => 0
  | .answer _ => n + 1
  | .command _ _ | .sendText _ | .post _ _ | .describeFile _ _ _ | .saveChat _ _ => n

def answersSinceReset (journal : List Entry) : Nat := journal.foldl Entry.tally 0

theorem answersSinceReset_concat (journal : List Entry) (e : Entry) :
    answersSinceReset (journal ++ [e]) = e.tally (answersSinceReset journal) := by
  simp [answersSinceReset]

theorem answersSinceReset_network (journal : List Entry) {entries : List Entry}
    (h : ∀ e ∈ entries, e.isNetwork = true) :
    answersSinceReset (journal ++ entries) = answersSinceReset journal := by
  induction entries generalizing journal with
  | nil => simp
  | cons e entries ih =>
    have he := h e List.mem_cons_self
    have hsplit : journal ++ e :: entries = (journal ++ [e]) ++ entries := by simp
    rw [hsplit,ih _ fun x hx => h x (List.mem_cons_of_mem _ hx),answersSinceReset_concat]
    cases e <;> first | rfl | simp [Entry.isNetwork] at he

/-- A user who pays nothing, or for lite only, and the limit of questions that
goes with it. -/
def Device.Capped (limit : Int) (d : Device) : Prop :=
  (d.activeSubscription = none ∧ d.firestore.freeRequests = limit) ∨
    (d.access = some .lite ∧ d.firestore.liteRequests = limit)

theorem Device.Capped.maxQuestionsPerDay {limit : Int} {d : Device} (h : d.Capped limit) :
    d.maxQuestionsPerDay = some limit := by
  rcases h with ⟨hnone,rfl⟩ | ⟨hlite,rfl⟩
  · simp [Device.maxQuestionsPerDay,Device.access,hnone]
  · simp [Device.maxQuestionsPerDay,hlite]

/-- The counter tells the answers since its reset, is what a new process would
read back, and leaves room for the requests in flight. -/
structure Tallied (limit : Int) (d : Device) (inFlight : Nat) : Prop where
  tally : d.accessQuestionsCount = answersSinceReset d.journal
  stored : d.storedAccessQuestionsCount = d.accessQuestionsCount
  room : (d.accessQuestionsCount : Int) + inFlight ≤ limit

variable {limit : Int} {d d' : Device} {n : Nat}

theorem Tallied.congr (h : Tallied limit d n)
    (hcount : d'.accessQuestionsCount = d.accessQuestionsCount)
    (hstored : d'.storedAccessQuestionsCount = d.storedAccessQuestionsCount)
    (hjournal : answersSinceReset d'.journal = answersSinceReset d.journal) :
    Tallied limit d' n where
  tally := by rw [hcount,hjournal]; exact h.tally
  stored := by rw [hstored,hcount]; exact h.stored
  room := by rw [hcount]; exact h.room

theorem Tallied.reset (h : Tallied limit d n) (d' : Device) :
    Tallied limit d'.resetAccessQuestionCount n where
  tally := by simp [Device.resetAccessQuestionCount,Device.note,Device.setAccessQuestionsCount,
    answersSinceReset_concat,Entry.tally]
  stored := Device.stored_setAccessQuestionsCount d' 0
  room := by
    have hroom := h.room
    have hzero : d'.resetAccessQuestionCount.accessQuestionsCount = 0 := rfl
    rw [hzero]
    omega

theorem Tallied.rechecked (h : Tallied limit d n) (hd : d.Rechecked d') : Tallied limit d' n := by
  cases hd with
  | kept reads => exact h.congr rfl rfl rfl
  | reset reads ts => exact h.reset _

theorem Tallied.probed (h : Tallied limit d n) (hd : Probed d d') : Tallied limit d' n := by
  obtain ⟨reads,uuids,-,rfl⟩ := hd
  exact h.congr rfl rfl rfl

theorem Tallied.noted (h : Tallied limit d n) (hd : Noted (fun e => e.isNetwork = true) d d') :
    Tallied limit d' n := by
  obtain ⟨entries,hall,rfl⟩ := hd
  exact h.congr rfl rfl (answersSinceReset_network _ hall)

theorem Tallied.stepped (h : Tallied limit d n) (hd : d.Stepped d') : Tallied limit d' n := by
  cases hd with
  | rechecked hd => exact h.rechecked hd
  | refreshed => exact h.congr rfl rfl rfl
  | resubscribed reads hd =>
    obtain ⟨active,written,rfl⟩ := hd
    exact h.congr rfl rfl rfl
  | purchased reads hd _ => exact h.reset _

theorem Tallied.answered (h : Tallied limit d (n + 1)) (questionsCountForReview : Nat)
    (reads uuids : Nat) (message : MessageItem) :
    Tallied limit (Device.note
      { Device.questionsCountIncrement { d with
          defaults := { d.defaults with questionsCountForReview } } with reads, uuids }
      (.answer message)) n where
  tally := by
    have htally := h.tally
    simp only [Device.note,Device.questionsCountIncrement,Device.setAccessQuestionsCount,
      answersSinceReset_concat,Entry.tally]
    omega
  stored := Device.stored_setAccessQuestionsCount { d with
    defaults := { d.defaults with questionsCountForReview } } (d.accessQuestionsCount + 1)
  room := by
    have hroom := h.room
    simp only [Device.note,Device.questionsCountIncrement,Device.setAccessQuestionsCount]
    omega

structure Metered (limit : Int) (a : App) : Prop where
  tallied : Tallied limit a.device a.pending.length
  pending : a.pending.length = if a.vm.isLoading then 1 else 0
  exclusive : a.vm.isLoading = true → a.vm.isAnswerError = false

variable {p : Platform} {a b : App}

theorem Metered.idle (h : Metered limit a) (hloading : a.vm.isLoading = false) :
    a.pending = [] := by
  have hlen := h.pending
  rw [hloading] at hlen
  exact List.length_eq_zero_iff.mp hlen

theorem Metered.congr (h : Metered limit a) (hd : Tallied limit b.device a.pending.length)
    (hpending : b.pending = a.pending) (hloading : b.vm.isLoading = a.vm.isLoading)
    (herror : b.vm.isAnswerError = a.vm.isAnswerError) : Metered limit b where
  tallied := by rw [hpending]; exact hd
  pending := by rw [hpending,hloading]; exact h.pending
  exclusive := by rw [hloading,herror]; exact h.exclusive

theorem Metered.issued (hd : Tallied limit a.device 0) (hpending : a.pending = [])
    (herror : a.vm.isAnswerError = false) (hcap : a.device.maxQuestionsPerDay = some limit)
    (hquota : a.device.HasQuota) (hb : Issued p a b) : Metered limit b := by
  have hhanded {messages : List MessageItem} {d' : Device} (hd' : Handed messages a.device d') :
      Tallied limit d' 0 :=
    (hd.probed ⟨_,_,Nat.le_succ _,rfl⟩).noted (hd'.mono fun _ he => he.isNetwork)
  cases hb with
  | waiting q d' f text image pdfData _ hd' =>
    have ht := hhanded hd'
    have hcount : d'.accessQuestionsCount = a.device.accessQuestionsCount := by
      obtain ⟨entries,-,rfl⟩ := hd'
      rfl
    have hroom := hquota limit hcap
    refine ⟨⟨ht.tally,ht.stored,?_⟩,by simp [hpending],fun _ => herror⟩
    simp only [hpending,hcount,List.nil_append,List.length_singleton]
    omega
  | failed q d' text image pdfData _ hd' =>
    refine ⟨?_,by simp [hpending],fun h => by simp at h⟩
    simpa [hpending] using hhanded hd'

theorem Metered.sent (h : Metered limit a) (hcap : a.device.Capped limit) (hs : Sent p a b) :
    Metered limit b := by
  have hrechecked {d d' : Device} (hd : Probed a.device d) (hd' : d.Rechecked d') :
      Tallied limit d' a.pending.length := (h.tallied.probed hd).rechecked hd'
  cases hs with
  | busy => exact h
  | command value b _ _ hb =>
    cases hb with
    | mk q r =>
      have htally := answersSinceReset_concat a.device.journal (.command q r)
      exact h.congr (h.tallied.congr rfl rfl htally) rfl rfl rfl
  | locked d d' _ _ hd hd' => exact h.congr (hrechecked hd hd') rfl rfl rfl
  | blank d d' hd hd' => exact h.congr (hrechecked hd hd') rfl rfl rfl
  | issued d d' b hidle _ hd hd' hquota hb =>
    have hpending := h.idle hidle.2.2
    have ht := hrechecked hd hd'
    rw [hpending] at ht
    refine Metered.issued (a := { a with device := d' }) ht hpending hidle.1 ?_ hquota hb
    obtain ⟨reads,uuids,-,rfl⟩ := hd
    exact hd'.maxQuestionsPerDay.trans hcap.maxQuestionsPerDay

theorem Metered.triedAgain (h : Metered limit a) (hcap : a.device.Capped limit)
    (ht : TriedAgain p a b) : Metered limit b := by
  cases ht with
  | nothing => exact h
  | locked q d _ hd => exact h.congr (h.tallied.rechecked hd) rfl rfl rfl
  | resent q d _ _ hd _ =>
    obtain ⟨t,ht⟩ := resentDraft_eq p a.vm q
    rw [ht]
    have hcap' : d.Capped limit := by
      unfold Device.Capped Device.access
      rw [hd.activeSubscription,hd.firestore]
      exact hcap
    exact Metered.sent (a := { a with
      device := d
      vm := { a.vm with
        isAnswerError := false
        messages := a.vm.messages.dropLast
        image := q.image
        text := t } }) ⟨h.tallied.rechecked hd,h.pending,fun _ => rfl⟩ hcap' (sent_onSendAction p _)

theorem Metered.completed {index : Nat} {outcome : Outcome} (h : Metered limit a)
    (hc : Completed p a index outcome b) : Metered limit b := by
  have hrefreshed {chat : List MessageItem} {d' : Device} (hd : Refreshed chat a.device d') :
      Tallied limit d' a.pending.length := by
    obtain ⟨firestore,hnoted⟩ := hd
    have ht : Tallied limit { a.device with firestore } a.pending.length :=
      h.tallied.congr rfl rfl rfl
    exact ht.noted (hnoted.mono fun _ he => by rw [he]; rfl)
  cases hc with
  | ignored => exact h
  | settled r d' result hr hd =>
    have hlt : index < a.pending.length := (List.getElem?_eq_some_iff.mp hr).1
    have hone : a.pending.length = 1 := by
      have := h.pending
      split at this <;> omega
    have herase : (a.pending.eraseIdx index).length = 0 := by
      rw [List.length_eraseIdx_of_lt hlt,hone]
    have ht := hrefreshed hd
    rw [hone] at ht
    cases result with
    | none =>
      refine ⟨?_,by simpa [handleSendTextResponse] using herase,fun hl => by
        simp [handleSendTextResponse] at hl⟩
      simp only [handleSendTextResponse,herase]
      exact ⟨ht.tally,ht.stored,by have := ht.room; omega⟩
    | some response =>
      refine ⟨?_,by simpa [handleSendTextResponse] using herase,fun hl => by
        simp [handleSendTextResponse] at hl⟩
      simp only [handleSendTextResponse,herase]
      exact Tallied.answered (n := 0) ht _ _ _ _
  | continued r d' f hr hd =>
    have hlt : index < a.pending.length := (List.getElem?_eq_some_iff.mp hr).1
    have hlen : (a.pending.eraseIdx index ++ [Request.mk r.questionId f]).length =
        a.pending.length := by
      rw [List.length_append,List.length_eraseIdx_of_lt hlt,List.length_singleton]
      omega
    refine ⟨?_,by rw [hlen]; exact h.pending,h.exclusive⟩
    rw [hlen]
    exact hrefreshed hd

theorem Tallied.saved (h : Tallied limit a.device n) (hs : Saved p a b) :
    Tallied limit b.device n := by
  cases hs with
  | skipped => exact h
  | deleted => exact h
  | stored => exact h.congr rfl rfl (answersSinceReset_concat _ _)
  | detached => exact h.congr rfl rfl (answersSinceReset_concat _ _)

theorem metered_step {e : Event} (hcap : a.device.Capped limit) (h : Metered limit a) :
    Metered limit (a.step p e) := by
  cases e with
  | setText text => exact h.congr h.tallied rfl rfl rfl
  | setImage image =>
    obtain ⟨t,ht⟩ := setImage_eq p a.vm image
    simp only [step,ht]
    exact h.congr h.tallied rfl rfl rfl
  | setPdfData pdfData =>
    obtain ⟨t,ht⟩ := setPdfData_eq p a.vm pdfData
    simp only [step,ht]
    exact h.congr h.tallied rfl rfl rfl
  | setChatNameText text => exact h.congr h.tallied rfl rfl rfl
  | onSendAction => exact h.sent hcap (sent_onSendAction p a)
  | onFinishTyping => exact h.congr h.tallied rfl rfl rfl
  | onTryAgainAction => exact h.triedAgain hcap (triedAgain_onTryAgainAction p a)
  | closePaywall =>
    obtain ⟨b,hb,hstep⟩ := closePaywall_cases p a
    have hdone : Metered limit b := by
      rcases hb with rfl | ⟨-,hb⟩ | ⟨-,hb⟩
      · exact h
      · exact h.sent hcap hb
      · exact h.triedAgain hcap hb
    rw [hstep]
    exact hdone.congr hdone.tallied rfl rfl rfl
  | upgrade => exact h.congr h.tallied rfl rfl rfl
  | saveChat =>
    have ht := h.tallied.saved (saved_saveChat p a)
    obtain ⟨chat,moc,uuids,journal,-,hsave⟩ := saveChat_frame p a
    simp only [step,hsave] at ht ⊢
    exact h.congr ht rfl rfl rfl
  | complete index outcome => exact h.completed (completed_complete p a index outcome)
  | device e => exact h.congr (h.tallied.stepped (a.device.stepped_step p e)) rfl rfl rfl

theorem Tallied.dropped (h : Tallied limit d n) : Tallied limit d 0 :=
  ⟨h.tally,h.stored,by have := h.room; omega⟩

def Screen.Metered (limit : Int) : Screen → Prop
  | .home device _ => Tallied limit device 0
  | .dialog a => GenieD.Metered limit a

theorem Screen.Metered.tallied {s : Screen} (h : s.Metered limit) : Tallied limit s.device 0 := by
  cases s with
  | home device moc => exact h
  | dialog a => exact Tallied.dropped (GenieD.Metered.tallied h)

theorem metered_screen_step {s : Screen} {act : Act} (hcap : s.device.Capped limit)
    (h : s.Metered limit) : (s.step p act).Metered limit := by
  have hlaunch : (s.launch p).Metered limit :=
    ⟨h.tallied.stored.trans h.tallied.tally,by
      simp [Device.launch,Device.storedAccessQuestionsCount],by
      have hroom := h.tallied.room
      rw [← h.tallied.stored] at hroom
      exact hroom⟩
  cases s with
  | home device moc =>
    cases act with
    | device e => exact Tallied.stepped h (device.stepped_step p e)
    | openChat chat allObjects =>
      have hstart := unstarted_openScreen p device moc true chat allObjects
      obtain ⟨reads,hdevice⟩ := hstart.device
      refine ⟨?_,by simp [hstart.pending,hstart.isLoading],fun _ => hstart.isAnswerError⟩
      rw [hdevice,hstart.pending]
      exact Tallied.congr h rfl rfl rfl
    | launch => exact hlaunch
    | session | leave | onDeleteChatAction => exact h
  | dialog a =>
    cases act with
    | session e => exact metered_step hcap h
    | leave => exact (Tallied.saved h.tallied (saved_saveChat p a)).dropped
    | onDeleteChatAction =>
      have hdevice : a.onDeleteChatAction.device = a.device := by
        unfold App.onDeleteChatAction
        split <;> rfl
      have ht := GenieD.Metered.tallied h
      rw [← hdevice] at ht
      exact (ht.saved (saved_saveChat p _)).dropped
    | launch => exact hlaunch
    | device | openChat => exact h

/-- For a user who has no subscription, or lite, and a limit that stays the
same, the counter tells the answers since its last reset and never passes the
limit, over any number of sessions and launches. -/
theorem quota_sound (hlimit : 0 ≤ limit) (active : Option Subsciption)
    (firestore : FirestoreManager) (hcap : (Screen.install active firestore).device.Capped limit)
    {acts : List Act} {s : Screen}
    (hrun : Run (Screen.step p) (fun s act => s.Allowed act ∧ (s.step p act).device.Capped limit)
      (.install active firestore) acts s) :
    s.device.accessQuestionsCount = answersSinceReset s.device.journal ∧
      (s.device.accessQuestionsCount : Int) ≤ limit := by
  have hstart : (Screen.install active firestore).Metered limit := ⟨rfl,rfl,by simpa using hlimit⟩
  have hkeep : ∀ (s : Screen) (act : Act), s.Allowed act ∧ (s.step p act).device.Capped limit →
      s.Metered limit ∧ s.device.Capped limit →
      (s.step p act).Metered limit ∧ (s.step p act).device.Capped limit :=
    fun _ _ hok h => ⟨metered_screen_step h.2 h.1,hok.2⟩
  obtain ⟨h,-⟩ := hrun.invariant hkeep ⟨hstart,hcap⟩
  have hroom := h.tallied.room
  exact ⟨h.tallied.tally,by omega⟩

theorem first_answer_counted :
    let p := Platform.plain Int.ofNat
    let firestore : FirestoreManager := { aikey := some "key" }
    let acts : List Act := [.openChat none [],.session (.setText "Hello"),.session .onSendAction,
      .session (.complete 0 (.responded (some ⟨["Hi"],⟨some 1,some 5⟩⟩)))]
    let s := acts.foldl (Screen.step p) (.install none firestore)
    answersSinceReset s.device.journal = 1 ∧
      s.device.accessQuestionsCount = answersSinceReset s.device.journal := by
  intro p firestore acts s
  have hcap : ∀ {d : Device}, d.activeSubscription = none → d.firestore.freeRequests = 3 →
      d.Capped 3 := fun h h' => .inl ⟨h,h'⟩
  have hrun : Run (Screen.step p) (fun s act => s.Allowed act ∧ (s.step p act).device.Capped 3)
      (.install none firestore) acts s :=
    .cons ⟨by simp [Screen.Allowed,Screen.install],hcap rfl rfl⟩ (.cons ⟨rfl,hcap rfl rfl⟩
      (.cons ⟨rfl,hcap (by decide) (by decide)⟩
        (.cons ⟨trivial,hcap (by decide) (by decide)⟩ (.nil _))))
  exact ⟨by decide,(quota_sound (by decide) none firestore (hcap rfl rfl) hrun).1⟩

end GenieD

import GenieD.Session

set_option autoImplicit false

namespace GenieD

/-- What the command branch of onSendAction recognises. -/
def commandValue (p : Platform) (text : String) : Option Double :=
  if mentionsCommand p text then p.double (strValue p text) else none

def Sendable (p : Platform) (text : String) : Prop :=
  Text.isBlank text = false ∧ commandValue p text = none

structure IsNewQuestion (p : Platform) (d : Device) (text : String) (q : MessageItem) : Prop where
  id : q.id = p.uuid d.uuids
  text : q.text = text
  isMy : q.isMy = true
  usageTokens : q.usageTokens = 0

def testFiltered (messages : List MessageItem) : List MessageItem :=
  messages.filter (fun m => !isTestText m.text)

def Flight.chat : Flight → List MessageItem
  | .describe _ _ _ => []
  | .fetchSystem chat => chat
  | .post chat _ _ => chat

inductive Flight.Serves (d : Device) (chat : List MessageItem) : Flight → Prop where
  | fetchSystem : Serves d chat (.fetchSystem chat)
  | post (refreshToken : Bool) : Serves d chat (.post chat refreshToken (d.turboBody chat))

theorem Flight.Serves.chat_eq {d : Device} {chat : List MessageItem} {f : Flight}
    (h : f.Serves d chat) : f.chat = chat := by
  cases h <;> rfl

theorem serves_sendTurbo {d : Device} {chat : List MessageItem} {refreshToken : Bool} {f : Flight}
    (h : d.sendTurbo chat refreshToken = some f) : f.Serves d chat := by
  unfold Device.sendTurbo checkRefreshKeyAndRestart at h
  split at h
  · contradiction
  · split at h
    · split at h
      · cases h
        exact .fetchSystem
      · contradiction
    · cases h
      exact .post refreshToken

inductive Handing (d : Device) (messages : List MessageItem) : Entry → Prop where
  | describeFile (data : Data) (fileType : FileType) (text : String) :
      Handing d messages (.describeFile data fileType text)
  | sendText : Handing d messages (.sendText (testFiltered messages))
  | post : Handing d messages (.post (testFiltered messages) (d.turboBody (testFiltered messages)))

def Entry.isNetwork : Entry → Bool
  | .sendText _ | .post _ _ | .describeFile _ _ _ => true
  | .command _ _ | .answer _ | .saveChat _ _ | .reset => false

theorem Handing.isNetwork {d : Device} {messages : List MessageItem} {e : Entry}
    (h : Handing d messages e) : e.isNetwork = true := by
  cases h <;> rfl

def Noted (ok : Entry → Prop) (d d' : Device) : Prop :=
  ∃ entries : List Entry, (∀ e ∈ entries, ok e) ∧ d' = { d with journal := d.journal ++ entries }

theorem Noted.refl (ok : Entry → Prop) (d : Device) : Noted ok d d := ⟨[],by simp,by simp⟩

theorem Noted.trans {ok : Entry → Prop} {d d' d'' : Device} (h : Noted ok d d')
    (h' : Noted ok d' d'') : Noted ok d d'' := by
  obtain ⟨entries,hok,rfl⟩ := h
  obtain ⟨entries',hok',rfl⟩ := h'
  refine ⟨entries ++ entries',?_,by simp⟩
  simpa [or_imp,forall_and] using ⟨hok,hok'⟩

theorem Noted.note {ok : Entry → Prop} {d d' : Device} (h : Noted ok d d') {e : Entry}
    (he : ok e) : Noted ok d (d'.note e) :=
  h.trans ⟨[e],by simpa using he,rfl⟩

theorem Noted.mono {ok ok' : Entry → Prop} {d d' : Device} (h : Noted ok d d')
    (hmono : ∀ e, ok e → ok' e) : Noted ok' d d' := by
  obtain ⟨entries,hok,rfl⟩ := h
  exact ⟨entries,fun e he => hmono e (hok e he),rfl⟩

/-- The device after a question went out: one id drawn, one date read. -/
def Handed (messages : List MessageItem) (d d' : Device) : Prop :=
  Noted (Handing d messages) { d with reads := d.reads + 1, uuids := d.uuids + 1 } d'

inductive Issued (p : Platform) (a : App) : App → Prop where
  | waiting (q : MessageItem) (d : Device) (f : Flight) (text : String) (image : Option UIImage)
      (pdfData : Option Data) (hq : IsNewQuestion p a.device a.vm.text q)
      (hd : Handed (a.vm.messages ++ [q]) a.device d)
      (hf : f.chat = [] ∨ f.Serves a.device (testFiltered (a.vm.messages ++ [q]))) :
      Issued p a
        { a with
          device := d
          vm := { a.vm with
            messages := a.vm.messages ++ [q], isLoading := true, text, image, pdfData }
          pending := a.pending ++ [⟨q.id,f⟩] }
  | failed (q : MessageItem) (d : Device) (text : String) (image : Option UIImage)
      (pdfData : Option Data) (hq : IsNewQuestion p a.device a.vm.text q)
      (hd : Handed (a.vm.messages ++ [q]) a.device d) :
      Issued p a
        { a with
          device := d
          vm := { a.vm with
            messages := a.vm.messages ++ [q], isLoading := false, isAnswerError := true, text, image
            pdfData, shouldScrollToBottom := true } }

namespace App

theorem setImage_eq (p : Platform) (vm : AskQuestionViewModel) (image : Option UIImage) :
    ∃ t, vm.setImage p image = { vm with image, text := t } := by
  unfold AskQuestionViewModel.setImage
  dsimp only
  split
  · exact ⟨_,rfl⟩
  · exact ⟨vm.text,rfl⟩

theorem setPdfData_eq (p : Platform) (vm : AskQuestionViewModel) (pdfData : Option Data) :
    ∃ t, vm.setPdfData p pdfData = { vm with pdfData, text := t } := by
  unfold AskQuestionViewModel.setPdfData
  dsimp only
  split
  · exact ⟨_,rfl⟩
  · exact ⟨vm.text,rfl⟩

theorem resentDraft_eq (p : Platform) (vm : AskQuestionViewModel) (q : MessageItem) :
    ∃ t, ({ vm with
        isAnswerError := false
        messages := vm.messages.dropLast }.setText q.text).setImage p q.image =
      { vm with
        isAnswerError := false
        messages := vm.messages.dropLast
        text := t
        image := q.image } := by
  obtain ⟨t,ht⟩ := setImage_eq p ({ vm with
    isAnswerError := false, messages := vm.messages.dropLast }.setText q.text) q.image
  exact ⟨t,ht⟩

/-- How a call of the network layer leaves the app: a request is in flight, or
the completion has reported a failure. -/
theorem await_cases (p : Platform) (a : App) (questionId : String) (flight : Option Flight) :
    (flight = none ∧ a.await p questionId flight =
      { a with vm := { a.vm with
        isLoading := false, shouldScrollToBottom := true, isAnswerError := true } }) ∨
    ∃ f d, flight = some f ∧
      Noted (fun e => ∃ chat refreshToken body, f = .post chat refreshToken body ∧
        e = .post chat body) a.device d ∧
      a.await p questionId flight =
        { a with device := d, pending := a.pending ++ [⟨questionId,f⟩] } := by
  cases flight with
  | none => exact .inl ⟨rfl,rfl⟩
  | some f =>
    right
    cases f with
    | describe data fileType text => exact ⟨_,a.device,rfl,.refl _ _,rfl⟩
    | fetchSystem chat => exact ⟨_,a.device,rfl,.refl _ _,rfl⟩
    | post chat refreshToken body =>
      exact ⟨_,_,rfl,(Noted.refl _ a.device).note (e := .post chat body) ⟨_,_,_,rfl,rfl⟩,rfl⟩

theorem issued_await (p : Platform) (a : App) {q : MessageItem} {d : Device} {text : String}
    {image : Option UIImage} {pdfData : Option Data} {flight : Option Flight}
    (hq : IsNewQuestion p a.device a.vm.text q) (hd : Handed (a.vm.messages ++ [q]) a.device d)
    (hflight : ∀ f, flight = some f → (∃ data fileType text, f = .describe data fileType text) ∨
      f.Serves a.device (testFiltered (a.vm.messages ++ [q]))) :
    Issued p a (App.await p
      { a with
        device := d
        vm := { a.vm with
          messages := a.vm.messages ++ [q], isLoading := true, text, image, pdfData } }
      q.id flight) := by
  rcases await_cases p { a with
      device := d
      vm := { a.vm with
        messages := a.vm.messages ++ [q], isLoading := true, text, image, pdfData } }
      q.id flight with ⟨-,h⟩ | ⟨f,d',hf,hd',h⟩
  · rw [h]
    exact .failed q d text image pdfData hq hd
  · rw [h]
    refine .waiting q d' f text image pdfData hq (hd.trans (hd'.mono ?_)) ?_
    · rintro e ⟨chat,refreshToken,body,rfl,rfl⟩
      rcases hflight _ hf with ⟨_,_,_,hdescribe⟩ | hserves
      · cases hdescribe
      · cases hserves
        exact .post
    · rcases hflight f hf with ⟨_,_,_,rfl⟩ | hserves
      · exact .inl rfl
      · exact .inr hserves

theorem newQuestion (p : Platform) (d : Device) (text : String) (image : Option UIImage) :
    IsNewQuestion p d text (d.newMessage p text true image).1 := ⟨rfl,rfl,rfl,rfl⟩

theorem handed_newMessage (p : Platform) (d : Device) (messages : List MessageItem) (text : String)
    (image : Option UIImage) : Handed messages d (d.newMessage p text true image).2 := .refl _ _

theorem issue_cases (p : Platform) (a : App) (resultText : String) :
    Issued p a (a.issue p resultText) := by
  unfold issue
  split
  · rename_i resultImage _
    have hd := handed_newMessage p a.device (a.vm.messages ++
      [(a.device.newMessage p a.vm.text true (some resultImage)).1]) a.vm.text (some resultImage)
    cases hpng : p.pngData resultImage with
    | none =>
      have hnone : ∀ f : Flight, none = some f → (∃ data fileType text,
          f = .describe data fileType text) ∨ f.Serves a.device (testFiltered (a.vm.messages ++
            [(a.device.newMessage p a.vm.text true (some resultImage)).1])) := by simp
      exact issued_await p a (newQuestion p _ _ (some resultImage)) hd hnone
    | some data =>
      exact issued_await p a (newQuestion p _ _ (some resultImage))
        (hd.note (.describeFile data .image resultText))
        (fun f hf => .inl ⟨data,.image,resultText,(Option.some.inj hf).symm⟩)
  · rename_i resultPdf _ _
    have hd := handed_newMessage p a.device (a.vm.messages ++
      [(a.device.newMessage p a.vm.text true none).1]) a.vm.text none
    exact issued_await p a (newQuestion p _ _ none)
      (hd.note (.describeFile resultPdf .pdf resultText))
      (fun f hf => .inl ⟨resultPdf,.pdf,resultText,(Option.some.inj hf).symm⟩)
  · have hd := handed_newMessage p a.device (a.vm.messages ++
      [(a.device.newMessage p a.vm.text true none).1]) a.vm.text none
    exact issued_await p a (newQuestion p _ _ none) (hd.note .sendText)
      (fun f hf => .inr (serves_sendTurbo hf))

def Probed (d d' : Device) : Prop :=
  ∃ reads uuids, d.uuids ≤ uuids ∧ d' = { d with reads, uuids }

/-- What a temperature command does: an exchange of its own, with one of the
phrases in its answer. -/
inductive Commanded (p : Platform) (a : App) : App → Prop where
  | mk (q r : MessageItem) (temperature : Option Double) (reads : Nat) (text : String)
      (hq : IsNewQuestion p a.device a.vm.text q) (hid : r.id = p.uuid (a.device.uuids + 1))
      (hmy : r.isMy = false) (hreply : isTestText r.text = true) (htokens : r.usageTokens = 0) :
      Commanded p a
        { a with
          device := { a.device with
            temperature, reads, uuids := a.device.uuids + 2
            journal := a.device.journal ++ [.command q r] }
          vm := { a.vm with
            messages := a.vm.messages ++ [q] ++ [r], text, shouldScrollToBottom := true } }

theorem isTestText_reply (p : Platform) (value : Double) :
    isTestText (if value.isBetweenZeroAndTwo
      then Test.textTemperatureIsSetTo ++ p.description value else Test.textError) = true := by
  unfold isTestText
  split
  · rw [Text.contains_append_left,Bool.or_true,Bool.true_or]
  · rw [Text.contains_self,Bool.or_true]

theorem commanded_answerCommand (p : Platform) (a : App) (value : Double) :
    Commanded p a (answerCommand p { a with device := (a.device.newMessage p a.vm.text true).2 }
      (a.device.newMessage p a.vm.text true).1 value) := by
  have hq := newQuestion p a.device a.vm.text none
  have hreply := isTestText_reply p value
  unfold answerCommand
  dsimp only
  split
  · rename_i hvalue
    rw [if_pos hvalue] at hreply
    exact .mk _ _ (some value) _ _ hq rfl rfl hreply rfl
  · rename_i hvalue
    rw [if_neg hvalue] at hreply
    exact .mk _ _ a.device.temperature _ _ hq rfl rfl hreply rfl

inductive Sent (p : Platform) (a : App) : App → Prop where
  | busy (h : a.vm.isAnswerError = true ∨ a.vm.isTyping = true ∨ a.vm.isLoading = true) : Sent p a a
  | command (value : Double) (b : App)
      (h : a.vm.isAnswerError = false ∧ a.vm.isTyping = false ∧ a.vm.isLoading = false)
      (hvalue : commandValue p a.vm.text = some value) (hb : Commanded p a b) : Sent p a b
  | locked (d d' : Device)
      (h : a.vm.isAnswerError = false ∧ a.vm.isTyping = false ∧ a.vm.isLoading = false)
      (hvalue : commandValue p a.vm.text = none) (hd : Probed a.device d) (hd' : d.Rechecked d')
      (hquota : (d.isSendMessageLocked p).1 = true) :
      Sent p a
        { a with
          device := d'
          vm := { a.vm with
            wasSendActionBeforeNavigationToPaywall := true, showBuyPro := true } }
  | blank (d d' : Device) (hd : Probed a.device d) (hd' : d.Rechecked d')
      (hblank : Text.isBlank a.vm.text = true) : Sent p a { a with device := d' }
  | issued (d d' : Device) (b : App)
      (h : a.vm.isAnswerError = false ∧ a.vm.isTyping = false ∧ a.vm.isLoading = false)
      (hsend : Sendable p a.vm.text) (hd : Probed a.device d) (hd' : d.Rechecked d')
      (hquota : d'.HasQuota) (hb : Issued p { a with device := d' } b) : Sent p a b

theorem probed_newMessage (p : Platform) (d : Device) (text : String) :
    Probed d (d.newMessage p text true).2 := ⟨_,_,Nat.le_succ _,rfl⟩

theorem sendQuestion_eq_issue {p : Platform} {a : App}
    (hopen : (a.device.isSendMessageLocked p).1 = false) (hblank : Text.isBlank a.vm.text = false) :
    a.sendQuestion p = issue p { a with device := (a.device.isSendMessageLocked p).2 }
      (Text.trimmingCharacters a.vm.text) := by
  have hempty : (Text.trimmingCharacters a.vm.text).isEmpty = false := hblank
  simp [sendQuestion,hopen,hempty]

theorem sent_sendQuestion (p : Platform) (a : App) (d : Device)
    (h : a.vm.isAnswerError = false ∧ a.vm.isTyping = false ∧ a.vm.isLoading = false)
    (hvalue : commandValue p a.vm.text = none) (hd : Probed a.device d) :
    Sent p a (sendQuestion p { a with device := d }) := by
  have hd' := d.rechecked_isSendMessageLocked p
  cases hlock : (d.isSendMessageLocked p).1 with
  | true =>
    have heq : sendQuestion p { a with device := d } =
        { a with
          device := (d.isSendMessageLocked p).2
          vm := { a.vm with
            wasSendActionBeforeNavigationToPaywall := true, showBuyPro := true } } := by
      simp [sendQuestion,hlock,handleSendWhenLimitReached]
    rw [heq]
    exact .locked d _ h hvalue hd hd' hlock
  | false =>
    cases hblank : Text.isBlank a.vm.text with
    | true =>
      have heq : sendQuestion p { a with device := d } =
          { a with device := (d.isSendMessageLocked p).2 } := by
        have hempty : (Text.trimmingCharacters a.vm.text).isEmpty = true := hblank
        simp [sendQuestion,hlock,hempty]
      rw [heq]
      exact .blank d _ hd hd' hblank
    | false =>
      rw [@sendQuestion_eq_issue p { a with device := d } hlock hblank]
      exact .issued d _ _ h ⟨hblank,hvalue⟩ hd hd' (Device.hasQuota_of_unlocked hlock)
        (issue_cases p _ _)

theorem sent_onSendAction (p : Platform) (a : App) : Sent p a (a.onSendAction p) := by
  unfold onSendAction
  split
  · rename_i h
    simp only [Bool.or_eq_true,or_assoc] at h
    exact .busy h
  · rename_i h
    simp only [Bool.or_eq_true,not_or,Bool.not_eq_true,and_assoc] at h
    split
    · rename_i hmentions
      dsimp only
      split
      · rename_i value hdouble
        exact .command value _ h (by simp [commandValue,hmentions,hdouble])
          (commanded_answerCommand p a value)
      · rename_i hdouble
        exact sent_sendQuestion p a _ h (by simp [commandValue,hmentions,hdouble])
          (probed_newMessage p a.device a.vm.text)
    · rename_i hmentions
      exact sent_sendQuestion p a a.device h (by simp [commandValue,hmentions])
        ⟨a.device.reads,a.device.uuids,Nat.le_refl _,rfl⟩

theorem issued_onSendAction {p : Platform} {a : App}
    (h : a.vm.isAnswerError = false ∧ a.vm.isTyping = false ∧ a.vm.isLoading = false)
    (hsend : Sendable p a.vm.text) (hquota : a.device.HasQuota) :
    ∃ d d', Probed a.device d ∧ d.Rechecked d' ∧ d'.HasQuota ∧
      Issued p { a with device := d' } (a.onSendAction p) := by
  have hsent := sent_onSendAction p a
  generalize a.onSendAction p = b at hsent ⊢
  cases hsent with
  | busy hbusy => simp_all
  | command value b _ hvalue => simp [hsend.2] at hvalue
  | locked d d' _ _ hd hd' hlock =>
    obtain ⟨reads,uuids,-,rfl⟩ := hd
    have hopen : Device.HasQuota { a.device with reads, uuids } := hquota
    simp [hopen.unlocked] at hlock
  | blank d d' _ _ hblank => simp [hsend.1] at hblank
  | issued d d' b _ _ hd hd' hq hb => exact ⟨d,d',hd,hd',hq,hb⟩

inductive TriedAgain (p : Platform) (a : App) : App → Prop where
  | nothing (h : a.vm.messages.getLast?.any MessageItem.isMy = false) : TriedAgain p a a
  | locked (q : MessageItem) (d : Device) (hlast : a.vm.messages.getLast? = some q)
      (hd : a.device.Rechecked d) :
      TriedAgain p a
        { a with
          device := d
          vm := { a.vm with
            wasTryAgainActionBeforeNavigationToPaywall := true, showBuyPro := true } }
  | resent (q : MessageItem) (d : Device) (hlast : a.vm.messages.getLast? = some q)
      (hmy : q.isMy = true) (hd : a.device.Rechecked d) (hquota : d.HasQuota) :
      TriedAgain p a (onSendAction p
        { a with
          device := d
          vm := ({ a.vm with
            isAnswerError := false
            messages := a.vm.messages.dropLast }.setText q.text).setImage p q.image })

theorem triedAgain_onTryAgainAction (p : Platform) (a : App) :
    TriedAgain p a (a.onTryAgainAction p) := by
  unfold onTryAgainAction
  split
  · rename_i hlast
    exact .nothing (by simp [hlast])
  · rename_i q hlast
    split
    · rename_i hmy
      exact .nothing (by simpa [hlast] using hmy)
    · rename_i hmy
      dsimp only
      split
      · exact .locked q _ hlast (a.device.rechecked_isSendMessageLocked p)
      · rename_i hlock
        exact .resent q _ hlast (by simpa using hmy) (a.device.rechecked_isSendMessageLocked p)
          (Device.hasQuota_of_unlocked (by simpa using hlock))

theorem text_restored (p : Platform) (vm : AskQuestionViewModel) (q : MessageItem)
    (hdialog : vm.isDialog = true) (hblank : Text.isBlank q.text = false) :
    ((vm.setText q.text).setImage p q.image).text = q.text := by
  simp [AskQuestionViewModel.setImage,AskQuestionViewModel.setText,hdialog,hblank]

/-- Closing the paywall repeats what it interrupted, once a subscription is there. -/
theorem closePaywall_cases (p : Platform) (a : App) :
    ∃ b, (b = a ∨
      (a.vm.wasTryAgainActionBeforeNavigationToPaywall = false ∧ Sent p a b) ∨
      (a.vm.wasTryAgainActionBeforeNavigationToPaywall = true ∧ TriedAgain p a b)) ∧
      a.step p .closePaywall = { b with vm := { b.vm with
        wasSendActionBeforeNavigationToPaywall := false
        wasTryAgainActionBeforeNavigationToPaywall := false
        showBuyPro := false } } := by
  simp only [step,onPaywallDoneAction]
  split
  · split
    · rename_i hflag
      exact ⟨_,.inr (.inr ⟨hflag,triedAgain_onTryAgainAction p a⟩),rfl⟩
    · rename_i hflag
      split
      · exact ⟨_,.inr (.inl ⟨by simpa using hflag,sent_onSendAction p a⟩),rfl⟩
      · exact ⟨a,.inl rfl,rfl⟩
  · exact ⟨a,.inl rfl,rfl⟩

def Refreshed (chat : List MessageItem) (d d' : Device) : Prop :=
  ∃ firestore, Noted (fun e => e = .post chat (Device.turboBody { d with firestore } chat))
    { d with firestore } d'

theorem Refreshed.refl (chat : List MessageItem) (d : Device) : Refreshed chat d d :=
  ⟨d.firestore,.refl _ _⟩

inductive Completed (p : Platform) (a : App) (index : Nat) (outcome : Outcome) : App → Prop where
  | ignored : Completed p a index outcome a
  | settled (r : Request) (d : Device) (result : Option ChatResponse)
      (hr : a.pending[index]? = some r) (hd : Refreshed r.flight.chat a.device d)
      (hresult : ∀ response, result = some response →
        (∃ output, response = ⟨output,0,0⟩) ∨ ∃ chat refreshToken body turbo,
          r.flight = .post chat refreshToken body ∧ outcome = .responded (some turbo) ∧
          response = turbo.toChatResponse) :
      Completed p a index outcome (handleSendTextResponse p
        { a with device := d, pending := a.pending.eraseIdx index } result r.questionId)
  | continued (r : Request) (d : Device) (f : Flight)
      (hr : a.pending[index]? = some r) (hd : Refreshed r.flight.chat a.device d)
      (hf : f.Serves d r.flight.chat) :
      Completed p a index outcome
        { a with device := d, pending := a.pending.eraseIdx index ++ [⟨r.questionId,f⟩] }

theorem completed_await (p : Platform) (a : App) (index : Nat) (outcome : Outcome) (r : Request)
    (firestore : FirestoreManager) {flight : Option Flight} (hr : a.pending[index]? = some r)
    (hflight : ∀ f, flight = some f → f.Serves { a.device with firestore } r.flight.chat) :
    Completed p a index outcome (await p
      { a with device := { a.device with firestore }, pending := a.pending.eraseIdx index }
      r.questionId flight) := by
  rcases await_cases p { a with
      device := { a.device with firestore }, pending := a.pending.eraseIdx index } r.questionId
      flight with ⟨rfl,-⟩ | ⟨f,d',hf,hd',h⟩
  · exact .settled r _ none hr ⟨firestore,.refl _ _⟩ (by simp)
  · rw [h]
    have hserves := hflight f hf
    refine .continued r d' f hr ⟨firestore,hd'.mono ?_⟩ ?_
    · rintro e ⟨chat,refreshToken,body,rfl,rfl⟩
      cases hserves
      rfl
    · obtain ⟨entries,-,rfl⟩ := hd'
      cases hserves with
      | fetchSystem => exact .fetchSystem
      | post refreshToken => exact .post refreshToken

theorem completed_complete (p : Platform) (a : App) (index : Nat) (outcome : Outcome) :
    Completed p a index outcome (a.complete p index outcome) := by
  unfold complete
  split
  · exact .ignored
  · rename_i r hr
    dsimp only
    split
    · rename_i message hflight
      refine .settled r a.device _ hr (.refl _ _) fun response hresponse => .inl ?_
      obtain ⟨output,-,rfl⟩ := Option.map_eq_some_iff.mp hresponse
      exact ⟨output,rfl⟩
    · rename_i chat snapshot hflight
      have hchat : r.flight.chat = chat := by rw [hflight]; rfl
      split
      · exact .settled r _ none hr ⟨_,.refl _ _⟩ (by simp)
      · refine completed_await p a index _ r _ hr fun f hf => ?_
        rw [hchat]
        exact serves_sendTurbo hf
    · rename_i chat refreshToken body turbo hflight
      refine .settled r a.device _ hr (.refl _ _) fun response hresponse => .inr ?_
      exact ⟨chat,refreshToken,body,turbo,hflight,rfl,(Option.some.inj hresponse).symm⟩
    · rename_i chat refreshToken body hflight
      have hchat : r.flight.chat = chat := by rw [hflight]; rfl
      refine completed_await p a index _ r a.device.firestore hr fun f hf => ?_
      unfold checkRefreshKeyAndRestart at hf
      split at hf
      · cases hf
        rw [hchat]
        exact .fetchSystem
      · contradiction
    · exact .ignored

theorem Sent.keeps_store {p : Platform} {a b : App} (h : Sent p a b) :
    b.moc = a.moc ∧ b.vm.chat = a.vm.chat ∧ b.vm.chatNameText = a.vm.chatNameText := by
  cases h with
  | busy => exact ⟨rfl,rfl,rfl⟩
  | command value b _ _ hb => cases hb; exact ⟨rfl,rfl,rfl⟩
  | locked => exact ⟨rfl,rfl,rfl⟩
  | blank => exact ⟨rfl,rfl,rfl⟩
  | issued d d' b _ _ _ _ _ hb => cases hb <;> exact ⟨rfl,rfl,rfl⟩

theorem TriedAgain.keeps_store {p : Platform} {a b : App} (h : TriedAgain p a b) :
    b.moc = a.moc ∧ b.vm.chat = a.vm.chat ∧ b.vm.chatNameText = a.vm.chatNameText := by
  cases h with
  | nothing => exact ⟨rfl,rfl,rfl⟩
  | locked => exact ⟨rfl,rfl,rfl⟩
  | resent q d _ _ _ _ =>
    obtain ⟨hmoc,hchat,hname⟩ := (sent_onSendAction p { a with
      device := d
      vm := ({ a.vm with
        isAnswerError := false
        messages := a.vm.messages.dropLast }.setText q.text).setImage p q.image }).keeps_store
    obtain ⟨t,ht⟩ := resentDraft_eq p a.vm q
    exact ⟨hmoc,hchat.trans (by rw [ht]),hname.trans (by rw [ht])⟩

theorem Completed.keeps_store {p : Platform} {a b : App} {index : Nat} {outcome : Outcome}
    (h : Completed p a index outcome b) :
    b.moc = a.moc ∧ b.vm.chat = a.vm.chat ∧ b.vm.chatNameText = a.vm.chatNameText := by
  cases h with
  | ignored => exact ⟨rfl,rfl,rfl⟩
  | continued => exact ⟨rfl,rfl,rfl⟩
  | settled r d result => cases result <;> exact ⟨rfl,rfl,rfl⟩

theorem step_keeps_store (p : Platform) (a : App) {e : Event} (he : e ≠ .saveChat) :
    (a.step p e).moc = a.moc ∧ (a.step p e).vm.chat = a.vm.chat ∧
      ((∀ text, e ≠ .setChatNameText text) →
        (a.step p e).vm.chatNameText = a.vm.chatNameText) := by
  have hkeeps {b : App} (h : b.moc = a.moc ∧ b.vm.chat = a.vm.chat ∧
      b.vm.chatNameText = a.vm.chatNameText) : b.moc = a.moc ∧ b.vm.chat = a.vm.chat ∧
      ((∀ text, e ≠ .setChatNameText text) → b.vm.chatNameText = a.vm.chatNameText) :=
    ⟨h.1,h.2.1,fun _ => h.2.2⟩
  cases e with
  | setText text => exact hkeeps ⟨rfl,rfl,rfl⟩
  | setImage image =>
    obtain ⟨t,ht⟩ := setImage_eq p a.vm image
    exact hkeeps (by simp only [step,ht,and_self])
  | setPdfData pdfData =>
    obtain ⟨t,ht⟩ := setPdfData_eq p a.vm pdfData
    exact hkeeps (by simp only [step,ht,and_self])
  | setChatNameText text => exact ⟨rfl,rfl,fun h => absurd rfl (h text)⟩
  | onSendAction => exact hkeeps (sent_onSendAction p a).keeps_store
  | onFinishTyping => exact hkeeps ⟨rfl,rfl,rfl⟩
  | onTryAgainAction => exact hkeeps (triedAgain_onTryAgainAction p a).keeps_store
  | closePaywall =>
    obtain ⟨b,hb,hstep⟩ := closePaywall_cases p a
    rw [hstep]
    rcases hb with rfl | ⟨-,hb⟩ | ⟨-,hb⟩
    · exact hkeeps ⟨rfl,rfl,rfl⟩
    · exact hkeeps hb.keeps_store
    · exact hkeeps hb.keeps_store
  | upgrade => exact hkeeps ⟨rfl,rfl,rfl⟩
  | saveChat => exact absurd rfl he
  | complete index outcome => exact hkeeps (completed_complete p a index outcome).keeps_store
  | device e => exact hkeeps ⟨rfl,rfl,rfl⟩

theorem saveChat_frame (p : Platform) (a : App) :
    ∃ chat moc uuids journal, a.device.uuids ≤ uuids ∧ a.saveChat p =
      { a with device := { a.device with uuids, journal }, moc, vm := { a.vm with chat } } := by
  unfold saveChat
  dsimp only
  split
  · split
    · exact ⟨a.vm.chat,_,a.device.uuids,a.device.journal,Nat.le_refl _,rfl⟩
    · exact ⟨a.vm.chat,_,a.device.uuids,a.device.journal,Nat.le_refl _,rfl⟩
  · cases hchat : a.vm.chat with
    | some chat => exact ⟨some chat,_,a.device.uuids,_,Nat.le_refl _,rfl⟩
    | none => exact ⟨_,_,a.device.uuids + 1,_,Nat.le_succ _,rfl⟩

end App

def Resubscribed (d d' : Device) : Prop :=
  ∃ active written, d' =
    { d with
      activeSubscription := active
      defaults := { d.defaults with activeSubscription := written } }

theorem Resubscribed.trans {d d' d'' : Device} (h : Resubscribed d d') (h' : Resubscribed d' d'') :
    Resubscribed d d'' := by
  obtain ⟨active,written,rfl⟩ := h
  obtain ⟨active',written',rfl⟩ := h'
  exact ⟨active',written',rfl⟩

theorem resubscribed_considerProduct (now : Date) (receipt : ReceiptInfo) (d : Device)
    (product : BuyProProduct) : Resubscribed d (d.considerProduct now receipt product) := by
  have hsame : Resubscribed d d := ⟨d.activeSubscription,d.defaults.activeSubscription,rfl⟩
  unfold Device.considerProduct
  split
  · dsimp only
    split
    · exact ⟨_,_,rfl⟩
    · exact hsame
  · exact hsame
  · exact hsame

theorem resubscribed_verifyPurchases (d : Device) (now : Date) (result : VerifyReceiptResult) :
    Resubscribed d (d.verifyPurchases now result) := by
  have hnone : Resubscribed d (d.setActiveSubscription none) := ⟨_,_,rfl⟩
  cases result with
  | error => exact hnone
  | success receipt =>
    have hfold (products : List BuyProProduct) (d' : Device) (h : Resubscribed d d') :
        Resubscribed d (d'.updateSubscriptionsWithReceipt now products receipt) := by
      induction products generalizing d' with
      | nil => exact h
      | cons product products ih => exact ih _ (h.trans (resubscribed_considerProduct _ _ _ _))
    exact hfold allProducts _ hnone

inductive Device.Stepped (d : Device) : Device → Prop where
  | rechecked {d' : Device} (h : d.Rechecked d') : Stepped d d'
  | refreshed (timeDifference : Option TimeInterval) (firestore : FirestoreManager) (reads : Nat) :
      Stepped d { d with timeDifference, firestore, reads }
  | resubscribed (reads : Nat) {d' : Device} (h : Resubscribed { d with reads } d') : Stepped d d'
  | purchased (reads : Nat) {d' : Device} (h : Resubscribed { d with reads } d')
      (hsubscribed : d'.subscribed = true) : Stepped d d'.resetAccessQuestionCount

theorem Device.stepped_step (p : Platform) (d : Device) (e : DeviceEvent) :
    d.Stepped (d.step p e) := by
  cases e with
  | getAccessQuestionsCount => exact .rechecked (rechecked_getAccessQuestionsCount p d)
  | serverTime ts => exact .refreshed _ d.firestore _
  | fetchSystem snapshot => exact .refreshed d.timeDifference _ d.reads
  | verified issuer result =>
    have h := resubscribed_verifyPurchases { d with reads := d.reads + 1 } (p.clock d.reads) result
    cases issuer with
    | completeTransactions => exact .resubscribed _ h
    | restore => exact .resubscribed _ h
    | purchase =>
      simp only [Device.step,Device.verified]
      split
      · rename_i hsubscribed
        exact .purchased _ h hsubscribed
      · exact .resubscribed _ h

def Grew (ok : Entry → Prop) (d d' : Device) : Prop :=
  ∃ entries : List Entry, (∀ e ∈ entries, ok e) ∧ d'.journal = d.journal ++ entries

theorem Grew.of_journal {ok : Entry → Prop} {d d' : Device} (h : d'.journal = d.journal) :
    Grew ok d d' := ⟨[],by simp,by simp [h]⟩

theorem Grew.one {ok : Entry → Prop} {d d' : Device} {e : Entry} (he : ok e)
    (h : d'.journal = d.journal ++ [e]) : Grew ok d d' := ⟨[e],by simpa using he,h⟩

theorem Grew.trans {ok : Entry → Prop} {d d' d'' : Device} (h : Grew ok d d')
    (h' : Grew ok d' d'') : Grew ok d d'' := by
  obtain ⟨entries,hok,hd⟩ := h
  obtain ⟨entries',hok',hd'⟩ := h'
  refine ⟨entries ++ entries',?_,by simp [hd',hd]⟩
  simpa [or_imp,forall_and] using ⟨hok,hok'⟩

theorem Grew.mono {ok ok' : Entry → Prop} {d d' : Device} (h : Grew ok d d')
    (hmono : ∀ e, ok e → ok' e) : Grew ok' d d' := by
  obtain ⟨entries,hok,hd⟩ := h
  exact ⟨entries,fun e he => hmono e (hok e he),hd⟩

theorem Grew.handed {messages : List MessageItem} {d d' : Device} (h : Handed messages d d') :
    Grew (Handing d messages) d d' := by
  obtain ⟨entries,hok,rfl⟩ := h
  exact ⟨entries,hok,rfl⟩

theorem Grew.rechecked {d d' : Device} (h : d.Rechecked d') : Grew (· = .reset) d d' := by
  cases h with
  | kept => exact .of_journal rfl
  | reset => exact .one rfl rfl

theorem Grew.probed {ok : Entry → Prop} {d d' : Device} (h : App.Probed d d') : Grew ok d d' := by
  obtain ⟨reads,uuids,-,rfl⟩ := h
  exact .of_journal rfl

theorem Grew.refreshed {chat : List MessageItem} {d d' : Device} (h : App.Refreshed chat d d') :
    Grew (· = .post chat (d'.turboBody chat)) d d' := by
  obtain ⟨firestore,entries,hok,rfl⟩ := h
  exact ⟨entries,hok,rfl⟩

theorem Grew.stepped {d d' : Device} (h : d.Stepped d') : Grew (· = .reset) d d' := by
  cases h with
  | rechecked h => exact .rechecked h
  | refreshed => exact .of_journal rfl
  | resubscribed reads h =>
    obtain ⟨active,written,rfl⟩ := h
    exact .of_journal rfl
  | purchased reads h _ =>
    obtain ⟨active,written,rfl⟩ := h
    exact .one rfl rfl

theorem Device.Stepped.uuids {d d' : Device} (h : d.Stepped d') : d'.uuids = d.uuids := by
  cases h with
  | rechecked h => exact h.uuids
  | refreshed => rfl
  | resubscribed reads h =>
    obtain ⟨active,written,rfl⟩ := h
    rfl
  | purchased reads h _ =>
    obtain ⟨active,written,rfl⟩ := h
    rfl

/-- What Try Again puts back: the last question as the draft. -/
def AskQuestionViewModel.restored (p : Platform) (vm : AskQuestionViewModel) :
    AskQuestionViewModel :=
  match vm.messages.getLast? with
  | none => vm
  | some lastQuestion =>
    ({ vm with isAnswerError := false, messages := vm.messages.dropLast }.setText
      lastQuestion.text).setImage p lastQuestion.image

namespace App

/-- The messages and the draft that onSendAction finds, if the event comes to it. -/
def asking (p : Platform) (a : App) : Event → AskQuestionViewModel
  | .onTryAgainAction => a.vm.restored p
  | .closePaywall =>
    if a.vm.wasTryAgainActionBeforeNavigationToPaywall then a.vm.restored p else a.vm
  | _ => a.vm

/-- Everything that a step other than a save can note, where onSendAction found
the view model `vm` if the step came to it. -/
inductive Notes (p : Platform) (vm : AskQuestionViewModel) (a b : App) : Entry → Prop where
  | reset : Notes p vm a b .reset
  | command (q r : MessageItem) (hmessages : b.vm.messages = vm.messages ++ [q] ++ [r])
      (hmy : r.isMy = false) : Notes p vm a b (.command q r)
  | answer (m : MessageItem) : Notes p vm a b (.answer m)
  | describeFile (data : Data) (fileType : FileType) (text : String) :
      Notes p vm a b (.describeFile data fileType text)
  | sendText (q : MessageItem) (n : Nat) (hmessages : b.vm.messages = vm.messages ++ [q])
      (htext : q.text = vm.text) (hmy : q.isMy = true) (hid : q.id = p.uuid n)
      (hn : a.device.uuids ≤ n) : Notes p vm a b (.sendText (testFiltered b.vm.messages))
  | post (chat : List MessageItem)
      (hchat : chat = testFiltered b.vm.messages ∨ ∃ r ∈ a.pending, chat = r.flight.chat) :
      Notes p vm a b (.post chat (b.device.turboBody chat))

variable {p : Platform} {a b : App}

theorem Notes.congr {vm : AskQuestionViewModel} {a' b' : App} {e : Entry} (h : Notes p vm a' b' e)
    (huuids : a.device.uuids ≤ a'.device.uuids) (hpending : a'.pending = a.pending)
    (hdevice : b.device = b'.device) (hmessages : b.vm.messages = b'.vm.messages) :
    Notes p vm a b e := by
  cases h with
  | reset => exact .reset
  | command q r hb hmy => exact .command q r (hmessages.trans hb) hmy
  | answer m => exact .answer m
  | describeFile data fileType text => exact .describeFile data fileType text
  | sendText q n hb htext hmy hid hn =>
    rw [← hmessages] at hb ⊢
    exact .sendText q n hb htext hmy hid (huuids.trans hn)
  | post chat hchat =>
    rw [← hmessages,hpending] at hchat
    rw [← hdevice]
    exact .post chat hchat

theorem notes_issued {d : Device} (huuids : a.device.uuids ≤ d.uuids)
    (h : Issued p { a with device := d } b) : Grew (Notes p a.vm a b) d b.device := by
  have hnotes {q : MessageItem} {d' : Device} (hq : IsNewQuestion p d a.vm.text q)
      (hmessages : b.vm.messages = a.vm.messages ++ [q]) (hdevice : b.device = d')
      (hd' : Handed (a.vm.messages ++ [q]) d d') : Grew (Notes p a.vm a b) d d' := by
    refine (Grew.handed hd').mono fun e he => ?_
    have hbody (chat : List MessageItem) : d.turboBody chat = b.device.turboBody chat := by
      obtain ⟨entries,-,rfl⟩ := hd'
      rw [hdevice]
      rfl
    rw [← hmessages] at he
    cases he with
    | describeFile data fileType text => exact .describeFile data fileType text
    | sendText => exact .sendText q _ hmessages hq.text hq.isMy hq.id huuids
    | post =>
      rw [hbody]
      exact .post _ (.inl rfl)
  cases h with
  | waiting q d' f text image pdfData hq hd' => exact hnotes hq rfl rfl hd'
  | failed q d' text image pdfData hq hd' => exact hnotes hq rfl rfl hd'

theorem notes_sent (h : Sent p a b) : Grew (Notes p a.vm a b) a.device b.device := by
  have hrechecked {d d' : Device} {c : App} (hd : Probed a.device d) (hd' : d.Rechecked d') :
      Grew (Notes p a.vm a c) a.device d' :=
    (Grew.probed hd).trans ((Grew.rechecked hd').mono fun _ he => he ▸ .reset)
  cases h with
  | busy => exact .of_journal rfl
  | command value b _ _ hb =>
    cases hb with
    | mk q r temperature reads text hq hid hmy => exact .one (.command q r rfl hmy) rfl
  | locked d d' _ _ hd hd' => exact hrechecked hd hd'
  | blank d d' hd hd' => exact hrechecked hd hd'
  | issued d d' b _ _ hd hd' _ hb =>
    refine (hrechecked hd hd').trans (notes_issued ?_ hb)
    obtain ⟨reads,uuids,hle,rfl⟩ := hd
    rw [hd'.uuids]
    exact hle

theorem notes_triedAgain (h : TriedAgain p a b) :
    Grew (Notes p (a.vm.restored p) a b) a.device b.device := by
  have hrechecked {d : Device} {c : App} (hd : a.device.Rechecked d) :
      Grew (Notes p (a.vm.restored p) a c) a.device d :=
    (Grew.rechecked hd).mono fun _ he => he ▸ .reset
  cases h with
  | nothing => exact .of_journal rfl
  | locked q d _ hd => exact hrechecked hd
  | resent q d hlast _ hd _ =>
    have hvm : a.vm.restored p = ({ a.vm with
        isAnswerError := false
        messages := a.vm.messages.dropLast }.setText q.text).setImage p q.image := by
      simp [AskQuestionViewModel.restored,hlast]
    rw [hvm] at hrechecked ⊢
    exact (hrechecked hd).trans ((notes_sent (sent_onSendAction p _)).mono fun e he =>
      he.congr (Nat.le_of_eq hd.uuids.symm) rfl rfl rfl)

theorem notes_completed {index : Nat} {outcome : Outcome} (h : Completed p a index outcome b) :
    Grew (Notes p a.vm a b) a.device b.device := by
  have hposts {r : Request} {d : Device} {c : App} (hr : a.pending[index]? = some r)
      (hd : Refreshed r.flight.chat a.device d)
      (hbody : ∀ chat, d.turboBody chat = c.device.turboBody chat) :
      Grew (Notes p a.vm a c) a.device d := by
    refine (Grew.refreshed hd).mono fun e he => ?_
    rw [he,hbody]
    exact .post _ (.inr ⟨r,List.mem_of_getElem? hr,rfl⟩)
  cases h with
  | ignored => exact .of_journal rfl
  | continued r d f hr hd => exact hposts hr hd fun _ => rfl
  | settled r d result hr hd =>
    cases result with
    | none => exact hposts hr hd fun _ => rfl
    | some response =>
      let c := handleSendTextResponse p
        { a with device := d, pending := a.pending.eraseIdx index } (some response) r.questionId
      have hposted : Grew (Notes p a.vm a c) a.device d := hposts hr hd fun _ => rfl
      exact hposted.trans (.one (.answer _) rfl)

theorem notes_step (p : Platform) (a : App) {e : Event} (he : e ≠ .saveChat) :
    Grew (Notes p (a.asking p e) a (a.step p e)) a.device (a.step p e).device := by
  cases e with
  | setText | setImage | setPdfData | setChatNameText | onFinishTyping | upgrade =>
    exact .of_journal rfl
  | onSendAction => exact notes_sent (sent_onSendAction p a)
  | onTryAgainAction => exact notes_triedAgain (triedAgain_onTryAgainAction p a)
  | closePaywall =>
    obtain ⟨b,hb,hstep⟩ := closePaywall_cases p a
    have hnotes : Grew (Notes p (a.asking p .closePaywall) a b) a.device b.device := by
      rcases hb with rfl | ⟨hflag,hb⟩ | ⟨hflag,hb⟩
      · exact .of_journal rfl
      · simp only [asking,hflag]
        exact notes_sent hb
      · simp only [asking,hflag]
        exact notes_triedAgain hb
    rw [hstep]
    exact hnotes.mono fun e he => he.congr (Nat.le_refl _) rfl rfl rfl
  | saveChat => exact absurd rfl he
  | complete index outcome => exact notes_completed (completed_complete p a index outcome)
  | device e => exact (Grew.stepped (a.device.stepped_step p e)).mono fun _ he => he ▸ .reset

end App

end GenieD

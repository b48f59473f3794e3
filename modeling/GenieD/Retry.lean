import GenieD.Opening

set_option autoImplicit false

namespace GenieD

open App

inductive Payload where
  | text (chat : List (PostedMessage × Int))
  | image (data : Data) (text : String)
  | document (data : Data) (text : String)
  deriving DecidableEq, Repr

def FileType.payload (fileType : FileType) (data : Data) (text : String) : Payload :=
  match fileType with
  | .image => .image data text
  | .pdf => .document data text

/-- The document in the draft is the one the question was sent with. -/
def Payload.Attached (pdfData : Option Data) : Payload → Prop
  | .text _ => pdfData = none
  | .image _ _ => True
  | .document data _ => pdfData = some data

instance (pdfData : Option Data) (r : Payload) : Decidable (r.Attached pdfData) :=
  match r with
  | .text _ | .document _ _ => inferInstanceAs (Decidable (_ = _))
  | .image _ _ => isTrue trivial

def MessageItem.payload (m : MessageItem) : PostedMessage × Int := (m.posted,m.usageTokens)

def Payload.handed : List (PostedMessage × Int) → Option Payload
  | [] => none
  | m :: chat => some (.text (m :: chat))

def Entry.payload : Entry → Option Payload
  | .sendText chat => Payload.handed (chat.map MessageItem.payload)
  | .describeFile data fileType text => some (fileType.payload data text)
  | .command _ _ | .post _ _ | .answer _ | .saveChat _ _ | .reset => none

/-- The questions that the service made requests of, a chat as it was handed
over, before the token budget cuts it. -/
def Device.requests (d : Device) : List Payload := d.journal.filterMap Entry.payload

variable {p : Platform}

theorem Device.requests_note (d : Device) (e : Entry) :
    (d.note e).requests = d.requests ++ e.payload.toList := by
  simp only [requests,note,List.filterMap_append]
  cases h : e.payload <;> simp [h]

theorem Device.Rechecked.requests {d d' : Device} (h : d.Rechecked d') :
    d'.requests = d.requests := by
  cases h with
  | kept n => rfl
  | reset n ts =>
    exact (Device.requests_note _ _).trans (by simp [Entry.payload]; rfl)

namespace App

theorem await_frame (p : Platform) (a : App) (questionId : String) (flight : Option Flight) :
    (a.await p questionId flight).device.requests = a.device.requests ∧
      (a.await p questionId flight).vm.messages = a.vm.messages := by
  cases flight with
  | none => exact ⟨rfl,rfl⟩
  | some flight =>
    cases flight with
    | describe | fetchSystem => exact ⟨rfl,rfl⟩
    | post chat refreshToken body =>
      refine ⟨(Device.requests_note _ _).trans ?_,rfl⟩
      simp [Entry.payload]

/-- The draft as a request. No request is made of an image without PNG data or of
a chat that the test phrases leave empty. -/
def draft (p : Platform) (vm : AskQuestionViewModel) : Option Payload :=
  match vm.image, vm.pdfData with
  | some image, _ =>
    (p.pngData image).map fun data => .image data (Text.trimmingCharacters vm.text)
  | none, some pdfData => some (.document pdfData (Text.trimmingCharacters vm.text))
  | none, none =>
    Payload.handed ((testFiltered (vm.messages ++ [⟨"",vm.text,true,none,0,0⟩])).map
      MessageItem.payload)

def Asks (messages : List MessageItem) (q : MessageItem) (messages' : List MessageItem) : Prop :=
  ∃ id created, messages' = messages ++ [{ q with id, created }]

theorem testFiltered_payload (messages : List MessageItem) (q : MessageItem) (id : String)
    (created : Date) (image : Option UIImage) :
    (testFiltered (messages ++ [{ q with id, created, image }])).map MessageItem.payload =
      (testFiltered (messages ++ [q])).map MessageItem.payload := by
  simp only [testFiltered,List.filter_append,List.map_append]
  congr 1
  by_cases htest : isTestText q.text = true
  · simp [htest]
  · simp [htest,MessageItem.payload,MessageItem.posted]

theorem describeFile_frame (p : Platform) (a : App) (data : Option Data) (fileType : FileType)
    (text questionId : String) :
    (a.describeFile p data fileType text questionId).device.requests =
        a.device.requests ++ (data.map fun data => fileType.payload data text).toList ∧
      (a.describeFile p data fileType text questionId).vm.messages = a.vm.messages := by
  unfold describeFile
  cases data with
  | none =>
    obtain ⟨hrequests,hmessages⟩ := a.await_frame p questionId none
    exact ⟨by simp [hrequests],hmessages⟩
  | some data =>
    obtain ⟨hrequests,hmessages⟩ := await_frame p
      { a with device := a.device.note (.describeFile data fileType text) } questionId
      (some (.describe data fileType text))
    exact ⟨hrequests.trans (Device.requests_note _ _),hmessages⟩

theorem sendText_frame (p : Platform) (a : App) (questionId : String) :
    (a.sendText p questionId).device.requests = a.device.requests ++
        (Payload.handed ((testFiltered a.vm.messages).map MessageItem.payload)).toList ∧
      (a.sendText p questionId).vm.messages = a.vm.messages := by
  obtain ⟨hrequests,hmessages⟩ := await_frame p
    { a with device := a.device.note (.sendText (testFiltered a.vm.messages)) } questionId
    (Device.sendTurbo (a.device.note (.sendText (testFiltered a.vm.messages)))
      (testFiltered a.vm.messages) true)
  exact ⟨hrequests.trans (Device.requests_note _ _),hmessages⟩

theorem issue_draft (p : Platform) (a : App) :
    Asks a.vm.messages ⟨"",a.vm.text,true,a.vm.image,0,0⟩
        (a.issue p (Text.trimmingCharacters a.vm.text)).vm.messages ∧
      (a.issue p (Text.trimmingCharacters a.vm.text)).device.requests =
        a.device.requests ++ (draft p a.vm).toList := by
  unfold issue draft
  cases himage : a.vm.image with
  | some image =>
    obtain ⟨hrequests,hmessages⟩ := describeFile_frame p
      { (a.appendQuestion p (some image)).2 with
        vm := (a.appendQuestion p (some image)).2.vm.setImage p none }
      (p.pngData image) .image (Text.trimmingCharacters a.vm.text)
      (a.appendQuestion p (some image)).1.id
    exact ⟨⟨_,_,hmessages⟩,hrequests⟩
  | none =>
    cases hpdf : a.vm.pdfData with
    | some pdfData =>
      obtain ⟨hrequests,hmessages⟩ := describeFile_frame p
        { (a.appendQuestion p none).2 with
          vm := (a.appendQuestion p none).2.vm.setPdfData p none }
        (some pdfData) .pdf (Text.trimmingCharacters a.vm.text) (a.appendQuestion p none).1.id
      exact ⟨⟨_,_,hmessages⟩,hrequests⟩
    | none =>
      obtain ⟨hrequests,hmessages⟩ := sendText_frame p (a.appendQuestion p none).2
        (a.appendQuestion p none).1.id
      refine ⟨⟨_,_,hmessages⟩,hrequests.trans ?_⟩
      have hfiltered := testFiltered_payload a.vm.messages ⟨"",a.vm.text,true,none,0,0⟩
        (p.uuid a.device.uuids) (p.clock a.device.reads) none
      exact congrArg (fun chat => a.device.requests ++ (Payload.handed chat).toList) hfiltered

def questionDevice (p : Platform) (a : App) : Device :=
  if mentionsCommand p a.vm.text then (a.device.newMessage p a.vm.text true).2 else a.device

theorem onSendAction_questionDevice {a : App}
    (hidle : a.vm.isAnswerError = false ∧ a.vm.isTyping = false ∧ a.vm.isLoading = false)
    (hvalue : commandValue p a.vm.text = none) :
    a.onSendAction p = sendQuestion p { a with device := a.questionDevice p } := by
  obtain ⟨herror,htyping,hloading⟩ := hidle
  unfold onSendAction questionDevice
  simp only [herror,htyping,hloading,Bool.or_self,Bool.false_eq_true,if_false]
  split
  · rename_i hmentions
    have hdouble : p.double (strValue p a.vm.text) = none := by
      simpa [commandValue,hmentions] using hvalue
    rw [hdouble]
  · rfl

theorem onSendAction_eq_sendQuestion {a : App} (hbusy : a.vm.isAnswerError = false ∧
    a.vm.isTyping = false ∧ a.vm.isLoading = false) (hvalue : commandValue p a.vm.text = none) :
    ∃ d, Probed a.device d ∧ a.onSendAction p = sendQuestion p { a with device := d } := by
  refine ⟨a.questionDevice p,?_,onSendAction_questionDevice hbusy hvalue⟩
  unfold questionDevice
  split
  · exact probed_newMessage p a.device a.vm.text
  · exact ⟨a.device.reads,a.device.uuids,Nat.le_refl _,rfl⟩

theorem sendQuestion_draft {a : App} (hopen : (a.device.isSendMessageLocked p).1 = false)
    (hblank : Text.isBlank a.vm.text = false) :
    Asks a.vm.messages ⟨"",a.vm.text,true,a.vm.image,0,0⟩ (a.sendQuestion p).vm.messages ∧
      (a.sendQuestion p).device.requests = a.device.requests ++ (draft p a.vm).toList := by
  rw [sendQuestion_eq_issue hopen hblank]
  obtain ⟨hasks,hrequests⟩ := issue_draft p
    { a with device := (a.device.isSendMessageLocked p).2 }
  refine ⟨hasks,hrequests.trans ?_⟩
  rw [(a.device.rechecked_isSendMessageLocked p).requests]

/-- What onSendAction does with a question that may go out. -/
theorem onSendAction_draft {a : App} (hbusy : a.vm.isAnswerError = false ∧ a.vm.isTyping = false ∧
    a.vm.isLoading = false) (hsend : Sendable p a.vm.text) (hquota : a.device.HasQuota) :
    Asks a.vm.messages ⟨"",a.vm.text,true,a.vm.image,0,0⟩ (a.onSendAction p).vm.messages ∧
      (a.onSendAction p).device.requests = a.device.requests ++ (draft p a.vm).toList := by
  obtain ⟨d,⟨reads,uuids,-,rfl⟩,heq⟩ := onSendAction_eq_sendQuestion hbusy hsend.2
  have hopen : Device.HasQuota { a.device with reads, uuids } := hquota
  rw [heq]
  exact @sendQuestion_draft p { a with device := { a.device with reads, uuids } } hopen.unlocked
    hsend.1

inductive Carries (p : Platform) (messages : List MessageItem) (q : MessageItem) :
    Option Payload → Prop where
  | text (himage : q.image = none) :
      Carries p messages q (Payload.handed ((testFiltered messages).map MessageItem.payload))
  | image (image : UIImage) (himage : q.image = some image) :
      Carries p messages q ((p.pngData image).map fun data =>
        .image data (Text.trimmingCharacters q.text))
  | document (data : Data) (himage : q.image = none) :
      Carries p messages q (some (.document data (Text.trimmingCharacters q.text)))

/-- The last message is a question that went through onSendAction, and this is the
request that was made of it, if one was. -/
structure SentWith (p : Platform) (a : App) (q : MessageItem) (r : Option Payload) : Prop where
  last : a.vm.messages.getLast? = some q
  isMy : q.isMy = true
  sendable : Sendable p q.text
  fits : a.vm.isDialog = true ∨ q.text.length ≤ AskQuestionViewModel.characterLimit
  usageTokens : q.usageTokens = 0
  spent : Spent p a.device.uuids q.id
  carries : Carries p a.vm.messages q r

/-- Try Again makes the same request once more, for the same messages up to the
id and date of the last, or makes none and does not touch the messages and the
draft. Histories are compared as they are handed over, before the token budget
cuts them. -/
def AllOrNothing (p : Platform) (a : App) (q : MessageItem) (r : Option Payload) : Prop :=
  let b := a.onTryAgainAction p
  (∃ r', r = some r' ∧ b.device.requests = a.device.requests ++ [r'] ∧
      Asks a.vm.messages.dropLast q b.vm.messages) ∨
    (b.device.requests = a.device.requests ∧ b.vm.messages = a.vm.messages ∧
      b.vm.text = a.vm.text ∧ b.vm.image = a.vm.image ∧ b.vm.pdfData = a.vm.pdfData)

variable {a : App} {q : MessageItem} {r : Option Payload}

theorem restored_eq (hlast : a.vm.messages.getLast? = some q)
    (hfits : a.vm.isDialog = true ∨ q.text.length ≤ AskQuestionViewModel.characterLimit)
    (hblank : Text.isBlank q.text = false) :
    a.vm.restored p = { a.vm with
      isAnswerError := false
      messages := a.vm.messages.dropLast
      text := q.text
      image := q.image } := by
  have hkept : (!a.vm.isDialog && decide (q.text.length > AskQuestionViewModel.characterLimit)) =
      false := by
    rcases hfits with hdialog | hlength
    · simp [hdialog]
    · simp [Nat.not_lt.mpr hlength]
  have htext (vm : AskQuestionViewModel) (hsame : vm.isDialog = a.vm.isDialog) :
      vm.setText q.text = { vm with text := q.text } := by
    simp [AskQuestionViewModel.setText,hsame,hkept]
  unfold AskQuestionViewModel.restored
  rw [hlast]
  simp only [htext,AskQuestionViewModel.setImage,hblank,Bool.and_false,Bool.false_eq_true,if_false]

theorem SentWith.restored (h : SentWith p a q r) :
    a.vm.restored p = { a.vm with
      isAnswerError := false
      messages := a.vm.messages.dropLast
      text := q.text
      image := q.image } :=
  restored_eq h.last h.fits h.sendable.1

theorem SentWith.dropLast (h : SentWith p a q r) :
    a.vm.messages.dropLast ++ [q] = a.vm.messages :=
  List.dropLast_append_getLast? q h.last

theorem handed_eq_some {chat : List (PostedMessage × Int)} {r : Payload}
    (h : Payload.handed chat = some r) : r = .text chat := by
  cases chat with
  | nil => cases h
  | cons m chat => exact (Option.some.inj h).symm

/-- The restored draft is the request again exactly if the document has stayed attached. -/
theorem SentWith.draft_iff {r : Payload} (h : SentWith p a q (some r)) :
    draft p (a.vm.restored p) = some r ↔ r.Attached a.vm.pdfData := by
  rw [h.restored]
  obtain ⟨sent,hr,hcarries⟩ : ∃ sent, some r = sent ∧ Carries p a.vm.messages q sent :=
    ⟨_,rfl,h.carries⟩
  cases hcarries with
  | image image himage =>
    obtain ⟨data,hdata,rfl⟩ := Option.map_eq_some_iff.mp hr.symm
    simp only [draft,himage,hdata]
    exact iff_of_true rfl trivial
  | document data himage =>
    cases hr
    cases hpdf : a.vm.pdfData with
    | none =>
      simp only [draft,himage,hpdf]
      refine iff_of_false (fun hsame => ?_) (by simp [Payload.Attached])
      cases handed_eq_some hsame
    | some pdfData => simp [draft,himage,hpdf,Payload.Attached]
  | text himage =>
    have htext := handed_eq_some hr.symm
    cases hpdf : a.vm.pdfData with
    | some pdfData => simp [draft,himage,hpdf,htext,Payload.Attached]
    | none =>
      have hsame := testFiltered_payload a.vm.messages.dropLast q "" 0 none
      rw [h.dropLast,h.isMy,h.usageTokens] at hsame
      simp only [draft,himage,hpdf]
      exact iff_of_true ((congrArg Payload.handed hsame).trans hr.symm) (htext ▸ rfl)

theorem SentWith.asks (h : SentWith p a q r) {messages messages' : List MessageItem}
    (hasks : Asks messages ⟨"",q.text,true,q.image,0,0⟩ messages') : Asks messages q messages' := by
  obtain ⟨id,created,rfl⟩ := hasks
  refine ⟨id,created,?_⟩
  rw [← h.isMy,← h.usageTokens]

theorem onTryAgainAction_locked (hlast : a.vm.messages.getLast? = some q) (hmy : q.isMy = true)
    (hlock : (a.device.isSendMessageLocked p).1 = true) :
    a.onTryAgainAction p =
      { a with
        device := (a.device.isSendMessageLocked p).2
        vm := { a.vm with
          wasTryAgainActionBeforeNavigationToPaywall := true, showBuyPro := true } } := by
  simp [onTryAgainAction,hlast,hmy,hlock,handleSendWhenLimitReached]

theorem onTryAgainAction_open (hlast : a.vm.messages.getLast? = some q) (hmy : q.isMy = true)
    (hlock : (a.device.isSendMessageLocked p).1 = false) :
    a.onTryAgainAction p =
      { a with
        device := (a.device.isSendMessageLocked p).2
        vm := a.vm.restored p }.onSendAction p := by
  simp [onTryAgainAction,AskQuestionViewModel.restored,hlast,hmy,hlock]

theorem onSendAction_busy (h : a.vm.isTyping = true ∨ a.vm.isLoading = true) :
    a.onSendAction p = a := by
  rcases h with h | h <;> simp [onSendAction,h]

theorem SentWith.openDevice (h : SentWith p a q r) :
    Spent p (a.device.isSendMessageLocked p).2.uuids q.id := by
  rw [(a.device.rechecked_isSendMessageLocked p).uuids]
  exact h.spent

theorem SentWith.renewed (h : SentWith p a q r)
    (hlock : (a.device.isSendMessageLocked p).1 = false) (htyping : a.vm.isTyping = false)
    (hloading : a.vm.isLoading = false) : (a.onTryAgainAction p).vm.messages ≠ a.vm.messages := by
  obtain ⟨d,d',hd,hd',-,hissued⟩ := @issued_onSendAction p
    { a with device := (a.device.isSendMessageLocked p).2, vm := a.vm.restored p }
    (by rw [h.restored]; exact ⟨rfl,htyping,hloading⟩) (by rw [h.restored]; exact h.sendable)
    (Device.hasQuota_of_unlocked hlock)
  rw [← onTryAgainAction_open h.last h.isMy hlock] at hissued
  have hle : (a.device.isSendMessageLocked p).2.uuids ≤ d'.uuids := by
    obtain ⟨reads,uuids,hle,rfl⟩ := hd
    rw [hd'.uuids]
    exact hle
  have hnew {x : MessageItem} (hid : x.id = p.uuid d'.uuids) :
      (a.vm.restored p).messages ++ [x] ≠ a.vm.messages := by
    intro hsame
    rw [h.restored] at hsame
    have hlast := h.last
    rw [← hsame,List.getLast?_concat] at hlast
    cases hlast
    exact h.openDevice _ hle hid
  generalize a.onTryAgainAction p = b at hissued ⊢
  cases hissued with
  | waiting x d f text image pdfData hx => exact hnew hx.id
  | failed x d text image pdfData hx => exact hnew hx.id

theorem carries_draft {vm : AskQuestionViewModel} {messages : List MessageItem}
    (hasks : Asks vm.messages ⟨"",vm.text,true,vm.image,0,0⟩ messages) :
    ∃ q, messages.getLast? = some q ∧ q.isMy = true ∧ q.text = vm.text ∧ q.usageTokens = 0 ∧
      Carries p messages q (draft p vm) := by
  obtain ⟨id,created,rfl⟩ := hasks
  refine ⟨_,List.getLast?_concat ..,rfl,rfl,rfl,?_⟩
  unfold draft
  split
  · rename_i image himage
    exact .image image himage
  · rename_i pdfData himage _
    exact .document pdfData himage
  · rename_i himage _
    have hsame := testFiltered_payload vm.messages ⟨"",vm.text,true,none,0,0⟩ id created vm.image
    rw [← hsame]
    exact .text himage

theorem sentWith_issue (hsend : Sendable p a.vm.text)
    (hfits : a.vm.isDialog = true ∨ a.vm.text.length ≤ AskQuestionViewModel.characterLimit) :
    ∃ q, SentWith p (a.issue p (Text.trimmingCharacters a.vm.text)) q (draft p a.vm) := by
  obtain ⟨hasks,-⟩ := issue_draft p a
  obtain ⟨q,hlast,hmy,htext,htokens,hcarries⟩ := carries_draft (p := p) hasks
  have hissued := issue_cases p a (Text.trimmingCharacters a.vm.text)
  clear hasks
  generalize a.issue p (Text.trimmingCharacters a.vm.text) = b at hlast hcarries hissued ⊢
  have hnew : b.vm.isDialog = a.vm.isDialog ∧ Spent p b.device.uuids q.id := by
    cases hissued with
    | waiting x d f text image pdfData hx hd =>
      obtain rfl : x = q := by simpa using hlast
      exact ⟨rfl,hx.id ▸ spent_uuid p (by rw [hd.uuids]; exact Nat.lt_succ_self _)⟩
    | failed x d text image pdfData hx hd =>
      obtain rfl : x = q := by simpa using hlast
      exact ⟨rfl,hx.id ▸ spent_uuid p (by rw [hd.uuids]; exact Nat.lt_succ_self _)⟩
  exact ⟨q,hlast,hmy,htext ▸ hsend,by rw [hnew.1,htext]; exact hfits,htokens,hnew.2,hcarries⟩

theorem sentWith_sendQuestion (hvalue : commandValue p a.vm.text = none)
    (hfits : a.vm.isDialog = true ∨ a.vm.text.length ≤ AskQuestionViewModel.characterLimit)
    (hasked : (a.sendQuestion p).vm.messages ≠ a.vm.messages) :
    ∃ q r, SentWith p (a.sendQuestion p) q r ∧
      (a.sendQuestion p).device.requests = a.device.requests ++ r.toList := by
  cases hlock : (a.device.isSendMessageLocked p).1 with
  | true => simp [sendQuestion,hlock,handleSendWhenLimitReached] at hasked
  | false =>
    cases hblank : Text.isBlank a.vm.text with
    | true =>
      have hempty : (Text.trimmingCharacters a.vm.text).isEmpty = true := hblank
      simp [sendQuestion,hlock,hempty] at hasked
    | false =>
      have hrequests := (sendQuestion_draft hlock hblank).2
      rw [sendQuestion_eq_issue hlock hblank] at hrequests ⊢
      obtain ⟨q,hq⟩ := @sentWith_issue p { a with device := (a.device.isSendMessageLocked p).2 }
        ⟨hblank,hvalue⟩ hfits
      exact ⟨q,_,hq,hrequests⟩

/-- Every question that onSendAction puts at the end of the messages is one that
Try Again can meet, with the request that was made of it or with none. -/
theorem sentWith_onSendAction {x : MessageItem}
    (hfits : a.vm.isDialog = true ∨ a.vm.text.length ≤ AskQuestionViewModel.characterLimit)
    (hasked : (a.onSendAction p).vm.messages = a.vm.messages ++ [x]) :
    ∃ q r, SentWith p (a.onSendAction p) q r ∧
      (a.onSendAction p).device.requests = a.device.requests ++ r.toList := by
  cases hvalue : commandValue p a.vm.text with
  | some value =>
    have hs := sent_onSendAction p a
    generalize a.onSendAction p = b at hs hasked
    cases hs with
    | busy | blank => simp at hasked
    | command value b _ _ hb =>
      cases hb with
      | mk =>
        have hlength := congrArg List.length hasked
        simp at hlength
    | locked _ _ _ hnone => simp [hvalue] at hnone
    | issued _ _ _ _ hsend => simp [hsend.2] at hvalue
  | none =>
    by_cases hbusy : a.vm.isAnswerError = false ∧ a.vm.isTyping = false ∧ a.vm.isLoading = false
    · obtain ⟨d,⟨reads,uuids,-,rfl⟩,heq⟩ := onSendAction_eq_sendQuestion hbusy hvalue
      rw [heq] at hasked ⊢
      exact @sentWith_sendQuestion p { a with device := { a.device with reads, uuids } } hvalue
        hfits (by simp [hasked])
    · have hstuck : a.onSendAction p = a := by
        have hany : (a.vm.isAnswerError || a.vm.isTyping || a.vm.isLoading) = true := by
          by_contra hnot
          exact hbusy (by simpa [and_assoc] using hnot)
        simp [onSendAction,hany]
      simp [hstuck] at hasked

theorem allOrNothing_of_locked (h : SentWith p a q r)
    (hlock : (a.device.isSendMessageLocked p).1 = true) : AllOrNothing p a q r := by
  unfold AllOrNothing
  rw [onTryAgainAction_locked h.last h.isMy hlock]
  exact .inr ⟨(a.device.rechecked_isSendMessageLocked p).requests,rfl,rfl,rfl,rfl⟩

theorem not_allOrNothing_of_busy (h : SentWith p a q r)
    (hlock : (a.device.isSendMessageLocked p).1 = false)
    (hbusy : a.vm.isTyping = true ∨ a.vm.isLoading = true) : ¬ AllOrNothing p a q r := by
  have hstuck : (a.vm.restored p).isTyping = true ∨ (a.vm.restored p).isLoading = true := by
    rw [h.restored]
    exact hbusy
  unfold AllOrNothing
  rw [onTryAgainAction_open h.last h.isMy hlock,onSendAction_busy hstuck]
  rintro (⟨r',-,hmore,-⟩ | ⟨-,hmessages,-⟩)
  · rw [(a.device.rechecked_isSendMessageLocked p).requests] at hmore
    simp at hmore
  · have hdropped : a.vm.messages.dropLast = a.vm.messages := by
      simpa only [h.restored] using hmessages
    have hlength := congrArg List.length h.dropLast
    simp [hdropped] at hlength

theorem allOrNothing_iff_attached (h : SentWith p a q r)
    (hlock : (a.device.isSendMessageLocked p).1 = false) (htyping : a.vm.isTyping = false)
    (hloading : a.vm.isLoading = false) :
    AllOrNothing p a q r ↔ ∃ r', r = some r' ∧ r'.Attached a.vm.pdfData := by
  obtain ⟨hasks,hrequests⟩ := @onSendAction_draft p
    { a with device := (a.device.isSendMessageLocked p).2, vm := a.vm.restored p }
    (by rw [h.restored]; exact ⟨rfl,htyping,hloading⟩) (by rw [h.restored]; exact h.sendable)
    (Device.hasQuota_of_unlocked hlock)
  rw [(a.device.rechecked_isSendMessageLocked p).requests,
    ← onTryAgainAction_open h.last h.isMy hlock] at hrequests
  rw [← onTryAgainAction_open h.last h.isMy hlock] at hasks
  constructor
  · rintro (⟨r',rfl,hmore,-⟩ | ⟨-,hsame,-⟩)
    · have hdraft : (draft p (a.vm.restored p)).toList = [r'] :=
        List.append_cancel_left (hrequests.symm.trans hmore)
      exact ⟨r',rfl,h.draft_iff.mp (by cases hd : draft p (a.vm.restored p) <;> simp_all)⟩
    · exact absurd hsame (h.renewed hlock htyping hloading)
  · rintro ⟨r',rfl,hattached⟩
    rw [h.draft_iff.mpr hattached] at hrequests
    simp only [h.restored] at hasks
    exact .inl ⟨r',rfl,hrequests,h.asks hasks⟩

/-- Try Again is all or nothing exactly if the quota stops it, or nothing is
under way, a request was made of the question and its document is still attached. -/
theorem try_again_iff (h : SentWith p a q r) :
    AllOrNothing p a q r ↔ (a.device.isSendMessageLocked p).1 = true ∨
      (a.vm.isTyping = false ∧ a.vm.isLoading = false ∧
        ∃ r', r = some r' ∧ r'.Attached a.vm.pdfData) := by
  cases hlock : (a.device.isSendMessageLocked p).1 with
  | true => exact iff_of_true (allOrNothing_of_locked h hlock) (.inl rfl)
  | false =>
    cases htyping : a.vm.isTyping with
    | true => simpa using not_allOrNothing_of_busy h hlock (.inl htyping)
    | false =>
      cases hloading : a.vm.isLoading with
      | true => simpa using not_allOrNothing_of_busy h hlock (.inr hloading)
      | false => simpa using allOrNothing_iff_attached h hlock htyping hloading

def failedText : List Event :=
  [.setText "Hello",.onSendAction,.complete 0 (.responded none),.complete 0 (.fetched none),
    .complete 0 (.responded none)]

def failedDocument : List Event :=
  [.setPdfData (some [1]),.setText "Sum up",.onSendAction,.complete 0 (.described none)]

def filteredText : List Event :=
  [.setText "Why does it say Temperature is set to 21?",.onSendAction]

theorem first_retry_faithful :
    let p := Platform.plain Int.ofNat
    let a := failedText.foldl (step p) (Opening.fresh p (.withFreeTokens 3000)).screen
    let q : MessageItem := ⟨"","Hello",true,none,0,0⟩
    AllOrNothing p a q (some (.text [q.payload])) := by
  intro p a q
  have hchat : Payload.handed ((testFiltered a.vm.messages).map MessageItem.payload) =
      some (.text [q.payload]) := by decide
  have hsent : SentWith p a q (some (.text [q.payload])) :=
    ⟨by decide,rfl,⟨by decide,by decide⟩,.inl (by decide),rfl,spent_uuid p (m := 0) (by decide),
      by rw [← hchat]; exact .text rfl⟩
  exact (try_again_iff hsent).mpr (.inr ⟨by decide,by decide,_,rfl,by decide⟩)

/-- A second tap takes the question off the screen, a document is sent again as a
mere text, and a question that the test phrases kept back is put in anew. -/
theorem retry_loses_question :
    let p := Platform.plain Int.ofNat
    let start := (Opening.fresh p (.withFreeTokens 3000)).screen
    let tapped := (failedText ++ [Event.onTryAgainAction]).foldl (step p) start
    let q : MessageItem := ⟨"0","Hello",true,none,1,0⟩
    let document := failedDocument.foldl (step p) start
    let d : MessageItem := ⟨"","Sum up",true,none,0,0⟩
    let filtered := filteredText.foldl (step p) start
    let f : MessageItem := ⟨"","Why does it say Temperature is set to 21?",true,none,0,0⟩
    SentWith p tapped q (some (.text [q.payload])) ∧ (tapped.onTryAgainAction p).vm.messages = [] ∧
      ¬ AllOrNothing p tapped q (some (.text [q.payload])) ∧
      SentWith p document d (some (.document [1] "Sum up")) ∧
      (document.onTryAgainAction p).device.requests =
        [.document [1] "Sum up",.text [d.payload]] ∧
      ¬ AllOrNothing p document d (some (.document [1] "Sum up")) ∧
      SentWith p filtered f none ∧ (filtered.onTryAgainAction p).device.requests = [] ∧
      ¬ AllOrNothing p filtered f none := by
  intro p start tapped q document d filtered f
  have hchat : Payload.handed ((testFiltered tapped.vm.messages).map MessageItem.payload) =
      some (.text [q.payload]) := by decide
  have htapped : SentWith p tapped q (some (.text [q.payload])) :=
    ⟨by decide,rfl,⟨by decide,by decide⟩,.inl (by decide),rfl,spent_uuid p (m := 1) (by decide),
      by rw [← hchat]; exact .text rfl⟩
  have htext : Text.trimmingCharacters d.text = "Sum up" := by decide +kernel
  have hdocument : SentWith p document d (some (.document [1] "Sum up")) :=
    ⟨by decide,rfl,⟨by decide,by decide⟩,.inl (by decide),rfl,spent_uuid p (m := 0) (by decide),
      htext ▸ .document [1] rfl⟩
  have hnone : Payload.handed ((testFiltered filtered.vm.messages).map MessageItem.payload) =
      none := by decide +kernel
  have hfiltered : SentWith p filtered f none :=
    ⟨by decide +kernel,rfl,⟨by decide +kernel,by decide +kernel⟩,.inl (by decide +kernel),rfl,
      spent_uuid p (m := 0) (by decide +kernel),by rw [← hnone]; exact .text rfl⟩
  have hbusy := not_allOrNothing_of_busy htapped (by decide) (.inr (by decide))
  have hdetached : ¬ Payload.Attached document.vm.pdfData (.document [1] "Sum up") := by decide
  refine ⟨htapped,by decide,hbusy,hdocument,by decide +kernel,?_,hfiltered,by decide +kernel,?_⟩
  · rw [allOrNothing_iff_attached hdocument (by decide) (by decide) (by decide)]
    rintro ⟨r,hr,hattached⟩
    cases hr
    exact hdetached hattached
  · rw [allOrNothing_iff_attached hfiltered (by decide +kernel) (by decide +kernel)
      (by decide +kernel)]
    rintro ⟨r,hr,-⟩
    cases hr

end App

end GenieD

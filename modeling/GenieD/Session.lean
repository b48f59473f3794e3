import GenieD.AskQuestion
import GenieD.BuyPro
import GenieD.Dialogs

set_option autoImplicit false

namespace GenieD

open Runs

inductive Outcome where
  | described (message : Option String)
  | fetched (snapshot : Option (List SystemDocument))
  | responded (response : Option TextTurboResponse)

/-- What happens to the shared services from outside the dialog screen: a badge
or an alert looks at the counter, the server time arrives, limits are fetched, a
purchase is verified. -/
inductive DeviceEvent where
  | getAccessQuestionsCount
  | serverTime (ts : Date)
  | fetchSystem (snapshot : Option (List SystemDocument))
  | verified (issuer : Issuer) (result : VerifyReceiptResult)

def Device.step (p : Platform) (d : Device) : DeviceEvent → Device
  | .getAccessQuestionsCount => (d.getAccessQuestionsCount p).2
  | .serverTime ts =>
    { d with timeDifference := some (p.clock d.reads - ts), reads := d.reads + 1 }
  | .fetchSystem snapshot => { d with firestore := d.firestore.fetchSystem snapshot }
  | .verified issuer result =>
    { d with reads := d.reads + 1 }.verified issuer (p.clock d.reads) result

inductive Event where
  | setText (text : String)
  | setImage (image : Option UIImage)
  | setPdfData (pdfData : Option Data)
  | setChatNameText (text : String)
  | onSendAction
  | onFinishTyping
  | onTryAgainAction
  | closePaywall
  | upgrade
  | saveChat
  | complete (index : Nat) (outcome : Outcome)
  | device (e : DeviceEvent)

namespace App

/-- The completion of the request at `index`; an outcome of another kind of
request does not occur and is ignored. -/
def complete (p : Platform) (a : App) (index : Nat) (outcome : Outcome) : App :=
  match a.pending[index]? with
  | none => a
  | some request =>
    let rest := { a with pending := a.pending.eraseIdx index }
    match request.flight, outcome with
    | .describe _ _ _, .described message =>
      rest.handleSendTextResponse p (message.map (fun output => ⟨output,0,0⟩)) request.questionId
    | .fetchSystem chat, .fetched snapshot =>
      let rest := { rest with device :=
        { a.device with firestore := a.device.firestore.fetchSystem snapshot } }
      if rest.device.firestore.aikey = none then
        rest.handleSendTextResponse p none request.questionId
      else rest.await p request.questionId (rest.device.sendTurbo chat false)
    | .post _ _ _, .responded (some response) =>
      rest.handleSendTextResponse p (some response.toChatResponse) request.questionId
    | .post chat refreshToken _, .responded none =>
      rest.await p request.questionId (checkRefreshKeyAndRestart chat refreshToken)
    | _, _ => a

def step (p : Platform) (a : App) : Event → App
  | .setText text => { a with vm := a.vm.setText text }
  | .setImage image => { a with vm := a.vm.setImage p image }
  | .setPdfData pdfData => { a with vm := a.vm.setPdfData p pdfData }
  | .setChatNameText text => { a with vm := { a.vm with chatNameText := text } }
  | .onSendAction => a.onSendAction p
  | .onFinishTyping => a.onFinishTyping
  | .onTryAgainAction => a.onTryAgainAction p
  | .closePaywall =>
    let a := a.onPaywallDoneAction p
    { a with vm := { a.vm with showBuyPro := false } }
  | .upgrade => a.handleSendWhenLimitReached
  | .saveChat => a.saveChat p
  | .complete index outcome => a.complete p index outcome
  | .device e => { a with device := a.device.step p e }

/-- What the view lets happen: Try Again only on an error, and under the paywall
no user action but closing it. -/
def Allowed (a : App) : Event → Prop
  | .onTryAgainAction => a.vm.isAnswerError = true ∧ a.vm.showBuyPro = false
  | .closePaywall => a.vm.showBuyPro = true
  | .setText _ | .setImage _ | .setPdfData _ | .setChatNameText _ | .onSendAction | .upgrade =>
    a.vm.showBuyPro = false
  | .onFinishTyping | .saveChat | .complete _ _ | .device _ => True

instance (a : App) (e : Event) : Decidable (a.Allowed e) :=
  match e with
  | .onTryAgainAction => inferInstanceAs (Decidable (_ ∧ _))
  | .closePaywall | .setText _ | .setImage _ | .setPdfData _ | .setChatNameText _
  | .onSendAction | .upgrade => inferInstanceAs (Decidable (_ = _))
  | .onFinishTyping | .saveChat | .complete _ _ | .device _ => isTrue trivial

abbrev SessionRun (p : Platform) := Run (step p) Allowed

end App

/-- `init(coreDataMessage:)` for each object in turn; a row without a date takes `Date()`. -/
def Device.loadMessages (p : Platform) : Device → List Message → List MessageItem × Device
  | d, [] => ([],d)
  | d, m :: ms =>
    let d' := if m.content.created.isSome then d else { d with reads := d.reads + 1 }
    let (items,d'') := d'.loadMessages p ms
    (m.content.item p (p.clock d.reads) :: items,d'')

/-- `init(isDialog:chat:)`. `allObjects` lists the rows of the chat in the order
in which the unordered set happens to give them. -/
def openScreen (p : Platform) (d : Device) (moc : ManagedObjectContext) (isDialog : Bool)
    (chat : Option Nat) (allObjects : List Message) : App :=
  match chat with
  | none =>
    { device := { d with temperature := none }, moc, vm := { isDialog }, pending := [] }
  | some objectID =>
    let (result,d) := d.loadMessages p allObjects
    let row := moc.graph.chat? objectID
    { device := { d with temperature := none }
      moc
      vm :=
        { isDialog
          chat := some objectID
          showDeleteChatButton := true
          messages := result.insertionSort (fun x y => x.created ≤ y.created)
          chatNameText := ((row.bind Chat.name).or (row.bind Chat.lastQuestion)).getD "" }
      pending := [] }

theorem mem_loadMessages {p : Platform} {d : Device} {rows : List Message} {item : MessageItem}
    (h : item ∈ (d.loadMessages p rows).1) :
    ∃ m ∈ rows, ∃ now, item = m.content.item p now := by
  induction rows generalizing d with
  | nil => simp [Device.loadMessages] at h
  | cons m rows ih =>
    rcases List.mem_cons.mp h with rfl | h
    · exact ⟨m,List.mem_cons_self,_,rfl⟩
    · obtain ⟨m',hm',now,hitem⟩ := ih h
      exact ⟨m',List.mem_cons_of_mem _ hm',now,hitem⟩

theorem loadMessages_device (p : Platform) (d : Device) (rows : List Message) :
    ∃ reads, (d.loadMessages p rows).2 = { d with reads } := by
  induction rows generalizing d with
  | nil => exact ⟨d.reads,rfl⟩
  | cons m rows ih =>
    simp only [Device.loadMessages]
    split
    · exact ih d
    · exact ih { d with reads := d.reads + 1 }

theorem openScreen_moc (p : Platform) (d : Device) (moc : ManagedObjectContext) (isDialog : Bool)
    (chat : Option Nat) (allObjects : List Message) :
    (openScreen p d moc isDialog chat allObjects).moc = moc := by
  cases chat <;> rfl

structure Unstarted (d : Device) (isDialog : Bool) (chat : Option Nat) (a : App) : Prop where
  device : ∃ reads, a.device = { d with reads, temperature := none }
  isDialog : a.vm.isDialog = isDialog
  chat : a.vm.chat = chat
  isLoading : a.vm.isLoading = false
  isAnswerError : a.vm.isAnswerError = false
  unflagged : a.vm.wasTryAgainActionBeforeNavigationToPaywall = false
  pending : a.pending = []

theorem unstarted_openScreen (p : Platform) (d : Device) (moc : ManagedObjectContext)
    (isDialog : Bool) (chat : Option Nat) (allObjects : List Message) :
    Unstarted d isDialog chat (openScreen p d moc isDialog chat allObjects) := by
  cases chat with
  | none => exact ⟨⟨d.reads,rfl⟩,rfl,rfl,rfl,rfl,rfl,rfl⟩
  | some objectID =>
    obtain ⟨reads,hreads⟩ := loadMessages_device p d allObjects
    refine ⟨⟨reads,?_⟩,rfl,rfl,rfl,rfl,rfl,rfl⟩
    simp only [openScreen,hreads]

end GenieD

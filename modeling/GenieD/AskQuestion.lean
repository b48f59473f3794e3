import GenieD.OpenAI

set_option autoImplicit false

namespace GenieD

structure AskQuestionViewModel where
  isDialog : Bool
  chat : Option Nat := none
  showDeleteChatButton : Bool := false
  chatNameText : String := ""
  text : String := ""
  image : Option UIImage := none
  pdfData : Option Data := none
  messages : List MessageItem := []
  isLoading : Bool := false
  isAnswerError : Bool := false
  typingMessageId : Option String := none
  showBuyPro : Bool := false
  shouldScrollToBottom : Bool := false
  wasTryAgainActionBeforeNavigationToPaywall : Bool := false
  wasSendActionBeforeNavigationToPaywall : Bool := false

namespace AskQuestionViewModel

def isTyping (vm : AskQuestionViewModel) : Bool := vm.typingMessageId.isSome

def characterLimit : Nat := 255

def setText (vm : AskQuestionViewModel) (text : String) : AskQuestionViewModel :=
  { vm with
    text := if !vm.isDialog && decide (text.length > characterLimit)
      then Text.first characterLimit text else text }

def setImage (p : Platform) (vm : AskQuestionViewModel) (image : Option UIImage) :
    AskQuestionViewModel :=
  let vm := { vm with image }
  if image.isSome && Text.isBlank vm.text then
    vm.setText (p.localized "What is this image about?")
  else vm

def setPdfData (p : Platform) (vm : AskQuestionViewModel) (pdfData : Option Data) :
    AskQuestionViewModel :=
  let vm := { vm with pdfData }
  if pdfData.isSome then vm.setText (p.localized "What is this document about?") else vm

end AskQuestionViewModel

structure Request where
  questionId : String
  flight : Flight

/-- One open screen: the device, the store, the view model and the requests
whose completion can still reach it. -/
structure App where
  device : Device
  moc : ManagedObjectContext
  vm : AskQuestionViewModel
  pending : List Request

def strValue (p : Platform) (text : String) : String :=
  Text.trimmingCharacters
    (Text.replacingOccurrences (p.lowercased text) (p.lowercased Test.textSetTo) "")

def mentionsCommand (p : Platform) (text : String) : Bool :=
  Text.contains (p.lowercased text) (p.lowercased Test.textSetTo)

def isTestText (text : String) : Bool :=
  Text.contains text Test.textSetTo || Text.contains text Test.textTemperatureIsSetTo ||
    Text.contains text Test.textError

namespace App

def handleSendTextResponse (p : Platform) (a : App) (result : Option ChatResponse)
    (questionId : String) : App :=
  let vm := { a.vm with isLoading := false, shouldScrollToBottom := true }
  match result with
  | none => { a with vm := { vm with isAnswerError := true } }
  | some result =>
    let d := { a.device with
      defaults := { a.device.defaults with
        questionsCountForReview := a.device.defaults.questionsCountForReview + 1 } }
    let d := d.questionsCountIncrement
    let index := vm.messages.findIdx (fun m => m.id = questionId)
    let messages := vm.messages.modify index
      (fun m => { m with usageTokens := result.promptTokens })
    let (newAnswer,d) := d.newMessage p result.output false none result.completionTokens
    { a with
      device := d.note (.answer newAnswer)
      vm := { vm with
        messages := messages ++ [newAnswer]
        typingMessageId := some newAnswer.id } }

/-- The request goes out, or its completion has been called with nil already. -/
def await (p : Platform) (a : App) (questionId : String) : Option Flight → App
  | none => a.handleSendTextResponse p none questionId
  | some (.post chat refreshToken body) =>
    { a with
      device := a.device.note (.post chat body)
      pending := a.pending ++ [⟨questionId,.post chat refreshToken body⟩] }
  | some flight => { a with pending := a.pending ++ [⟨questionId,flight⟩] }

/-- `describeFile`, preceded for an image by `pngData()`. -/
def describeFile (p : Platform) (a : App) (data : Option Data) (fileType : FileType) (text : String)
    (questionId : String) : App :=
  match data with
  | none => a.await p questionId none
  | some data =>
    { a with device := a.device.note (.describeFile data fileType text) }.await p questionId
      (some (.describe data fileType text))

def sendText (p : Platform) (a : App) (questionId : String) : App :=
  let testFiltered := a.vm.messages.filter (fun m => !isTestText m.text)
  let a := { a with device := a.device.note (.sendText testFiltered) }
  a.await p questionId (a.device.sendTurbo testFiltered true)

def handleSendWhenLimitReached (a : App) : App := { a with vm := { a.vm with showBuyPro := true } }

def answerCommand (p : Platform) (a : App) (newQuestion : MessageItem) (doubleValue : Double) :
    App :=
  let vm := { a.vm with messages := a.vm.messages ++ [newQuestion] }.setText ""
  let d := if doubleValue.isBetweenZeroAndTwo
    then { a.device with temperature := some doubleValue } else a.device
  let (newAnswer,d) := d.newMessage p
    (if doubleValue.isBetweenZeroAndTwo
      then Test.textTemperatureIsSetTo ++ p.description doubleValue else Test.textError) false
  { a with
    device := d.note (.command newQuestion newAnswer)
    vm := { vm with messages := vm.messages ++ [newAnswer], shouldScrollToBottom := true } }

def appendQuestion (p : Platform) (a : App) (image : Option UIImage) : MessageItem × App :=
  let (newQuestion,d) := a.device.newMessage p a.vm.text true image
  (newQuestion,
    { a with
      device := d
      vm := { { a.vm with messages := a.vm.messages ++ [newQuestion] }.setText "" with
        isLoading := true } })

def issue (p : Platform) (a : App) (resultText : String) : App :=
  match a.vm.image, a.vm.pdfData with
  | some resultImage, _ =>
    let (newQuestion,a) := a.appendQuestion p (some resultImage)
    { a with vm := a.vm.setImage p none }.describeFile p (p.pngData resultImage) .image resultText
      newQuestion.id
  | none, some resultPdf =>
    let (newQuestion,a) := a.appendQuestion p none
    { a with vm := a.vm.setPdfData p none }.describeFile p (some resultPdf) .pdf resultText
      newQuestion.id
  | none, none =>
    let (newQuestion,a) := a.appendQuestion p none
    a.sendText p newQuestion.id

/-- onSendAction from its quota check on. -/
def sendQuestion (p : Platform) (a : App) : App :=
  let (locked,d) := a.device.isSendMessageLocked p
  let a := { a with device := d }
  if locked then
    handleSendWhenLimitReached
      { a with vm := { a.vm with wasSendActionBeforeNavigationToPaywall := true } }
  else
    let resultText := Text.trimmingCharacters a.vm.text
    if resultText.isEmpty then a else a.issue p resultText

def onSendAction (p : Platform) (a : App) : App :=
  if a.vm.isAnswerError || a.vm.isTyping || a.vm.isLoading then a
  else if mentionsCommand p a.vm.text then
    let (newQuestion,d) := a.device.newMessage p a.vm.text true
    match p.double (strValue p a.vm.text) with
    | some doubleValue => { a with device := d }.answerCommand p newQuestion doubleValue
    | none => { a with device := d }.sendQuestion p
  else a.sendQuestion p

def onFinishTyping (a : App) : App := { a with vm := { a.vm with typingMessageId := none } }

def onTryAgainAction (p : Platform) (a : App) : App :=
  match a.vm.messages.getLast? with
  | none => a
  | some lastQuestion =>
    if !lastQuestion.isMy then a
    else
      let (locked,d) := a.device.isSendMessageLocked p
      let a := { a with device := d }
      if locked then
        handleSendWhenLimitReached
          { a with vm := { a.vm with wasTryAgainActionBeforeNavigationToPaywall := true } }
      else
        let vm := { a.vm with isAnswerError := false, messages := a.vm.messages.dropLast }
        { a with vm := (vm.setText lastQuestion.text).setImage p lastQuestion.image }.onSendAction p

def onPaywallDoneAction (p : Platform) (a : App) : App :=
  let a :=
    if a.device.subscribed then
      if a.vm.wasTryAgainActionBeforeNavigationToPaywall then a.onTryAgainAction p
      else if a.vm.wasSendActionBeforeNavigationToPaywall then a.onSendAction p
      else a
    else a
  { a with vm := { a.vm with
    wasSendActionBeforeNavigationToPaywall := false
    wasTryAgainActionBeforeNavigationToPaywall := false } }

def saveChat (p : Platform) (a : App) : App :=
  let (rows,graph) := a.moc.graph.insertMessages (a.vm.messages.map (MessageItem.content p))
  let resultMessages := if rows.getLast?.any (fun m => m.content.isMy) then rows.dropLast else rows
  match resultMessages.reverse.find? (fun m => m.content.isMy) with
  | none =>
    match a.vm.chat with
    | none => { a with moc := { a.moc with graph } }
    | some chat =>
      { a with moc := ManagedObjectContext.save { a.moc with graph := graph.deleteChat chat } }
  | some lastQuestion =>
    let (chat,graph,d) : Nat × Graph × Device :=
      match a.vm.chat with
      | some chat => (chat,graph,a.device)
      | none => (graph.nextID,graph.insertChat (p.uuid a.device.uuids),
          { a.device with uuids := a.device.uuids + 1 })
    let name := if Text.isBlank a.vm.chatNameText then none else some a.vm.chatNameText
    let graph :=
      graph.setAttributes chat name lastQuestion.content.text lastQuestion.content.created
    let graph := graph.setMessages chat (resultMessages.map Message.objectID)
    { a with
      device := d.note (.saveChat chat (resultMessages.map Message.content))
      moc := ManagedObjectContext.save { a.moc with graph }
      vm := { a.vm with chat := some chat } }

end App

end GenieD

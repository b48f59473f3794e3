import GenieD.NewChat
import GenieD.Screen
import GenieD.Sieve

set_option autoImplicit false

namespace GenieD

open Runs Sieve App

def Text.hasSuffix (text ending : String) : Bool := decide (ending.toList <:+ text.toList)

inductive AlertType where
  | newChat
  | deleteChat
  | upgrade
  | settings (message : String)
  deriving DecidableEq, Repr

/-- `denied` stands for every status that is neither of the others. -/
inductive AuthorizationStatus where
  | notDetermined
  | authorized
  | denied
  deriving DecidableEq, Repr

/-- What is still to be called: the answers to requests for access, and the block
that `openPhotosBlock` has put on the main queue. -/
inductive AccessBlock where
  | camera
  | photos
  | openPhotos
  deriving DecidableEq, Repr

structure ImportedFile where
  absoluteString : String
  startAccessingSecurityScopedResource : Bool
  contents : Option Data
  deriving DecidableEq, Repr

/-- The dialog with what it presents. `left` is how it was left; `sent` holds what
it did to the session, with the connection at that moment. -/
structure AskQuestionView where
  app : App
  isConnected : Bool := false
  showNoConnection : Bool := false
  alertType : Option AlertType := none
  showingAlert : Bool := false
  showingOptions : Bool := false
  shouldPresentImagePicker : Bool := false
  shouldPresentCamera : Bool := false
  shouldPresentFiles : Bool := false
  showGoogleDriveFiles : Bool := false
  blocks : List AccessBlock := []
  left : Option Act := none
  sent : List (Event × Bool) := []

/-- What users do to the view, what comes back to it, and in `session` what goes
on in the dialog without it. -/
inductive ViewEvent where
  | path (satisfied : Bool)
  | editText (text : String)
  | editName (text : String)
  | tapQuestion (text : String) (shouldOpenFilesOptions : Bool)
  | sendButton
  | tryAgainButton
  | noConnectionTryAgain
  | plusButton
  | removeAttachment
  | gallery (status : AuthorizationStatus)
  | camera (status : AuthorizationStatus)
  | iCloud
  | googleDrive
  | closeOptions
  | block (index : Nat) (granted : Bool)
  | picked (image : Option UIImage)
  | imported (file : Option ImportedFile)
  | driveDone (result : List Data)
  | driveClosed
  | upgradeButton
  | deleteButton
  | askNewQuestionButton
  | alertButton (primary : Bool)
  | backButton
  | closePaywall
  | session (e : Event)

def Event.isQuiet : Event → Bool
  | .onFinishTyping | .saveChat | .complete _ _ | .device _ => true
  | .setText _ | .setImage _ | .setPdfData _ | .setChatNameText _ | .onSendAction
  | .onTryAgainAction | .closePaywall | .upgrade => false

namespace AskQuestionView

def free (v : AskQuestionView) : Bool :=
  !(v.app.vm.showBuyPro || v.showNoConnection || v.showingAlert || v.showingOptions ||
    v.shouldPresentImagePicker || v.shouldPresentFiles || v.showGoogleDriveFiles)

def uncovered (v : AskQuestionView) : Bool := !v.app.vm.showBuyPro && !v.showNoConnection

def send (p : Platform) (v : AskQuestionView) (e : Event) : AskQuestionView :=
  { v with app := v.app.step p e, sent := v.sent ++ [(e,v.isConnected)] }

def showAlert (v : AskQuestionView) (type : AlertType) : AskQuestionView :=
  { v with alertType := some type, showingAlert := true }

def onCameraAction (p : Platform) (v : AskQuestionView) : AuthorizationStatus → AskQuestionView
  | .notDetermined => { v with blocks := v.blocks ++ [.camera] }
  | .authorized => { v with shouldPresentImagePicker := true, shouldPresentCamera := true }
  | .denied => v.showAlert (.settings (p.localized "Camera access is denied."))

def onGalleryAction (p : Platform) (v : AskQuestionView) : AuthorizationStatus → AskQuestionView
  | .authorized => { v with blocks := v.blocks ++ [.openPhotos] }
  | .notDetermined => { v with blocks := v.blocks ++ [.photos] }
  | .denied => v.showAlert (.settings (p.localized "Photo Library access is denied."))

def call (v : AskQuestionView) (granted : Bool) : AccessBlock → AskQuestionView
  | .camera =>
    if granted then { v with shouldPresentImagePicker := true, shouldPresentCamera := true } else v
  | .photos => if granted then { v with blocks := v.blocks ++ [.openPhotos] } else v
  | .openPhotos => { v with shouldPresentImagePicker := true, shouldPresentCamera := false }

section

variable (p : Platform) (resizeImage : UIImage → Option UIImage)

def attachData (v : AskQuestionView) (data : Data) : AskQuestionView :=
  match (p.uiImage data).bind resizeImage with
  | some resized => v.send p (.setImage (some resized))
  | none => v

def importFile (v : AskQuestionView) (file : ImportedFile) : AskQuestionView :=
  match file.startAccessingSecurityScopedResource, file.contents with
  | true, some data =>
    let stringUrl := p.lowercased file.absoluteString
    if Text.hasSuffix stringUrl ".png" || Text.hasSuffix stringUrl ".jpg" ||
        Text.hasSuffix stringUrl ".jpeg" then v.attachData p resizeImage data
    else if Text.hasSuffix stringUrl ".pdf" then v.send p (.setPdfData (some data))
    else v
  | _, _ => v

def removeAttachment (v : AskQuestionView) : AskQuestionView :=
  if v.app.vm.image.isSome then (v.send p (.setText "")).send p (.setImage none)
  else if v.app.vm.pdfData.isSome then (v.send p (.setText "")).send p (.setPdfData none)
  else v

def alertAction (v : AskQuestionView) (primary : Bool) : AskQuestionView :=
  match v.alertType, primary with
  | some .newChat, false => { v with app := v.app.onNewChatAction p }
  | some .deleteChat, false => { v with left := some .onDeleteChatAction }
  | some .upgrade, true => v.send p .upgrade
  | _, _ => v

/-- What a control does once it can be reached. -/
def act (v : AskQuestionView) : ViewEvent → AskQuestionView
  | .path satisfied => { v with isConnected := satisfied }
  | .editText text => if v.free then v.send p (.setText text) else v
  | .editName text =>
    if v.free && v.app.vm.chat.isSome then v.send p (.setChatNameText text) else v
  | .tapQuestion text shouldOpenFilesOptions =>
    if v.free && v.app.vm.messages.isEmpty then
      { v.send p (.setText text) with showingOptions := shouldOpenFilesOptions }
    else v
  | .sendButton =>
    if v.free then
      if v.isConnected then v.send p .onSendAction else { v with showNoConnection := true }
    else v
  | .tryAgainButton =>
    if v.free && v.app.vm.isAnswerError && !v.app.vm.messages.isEmpty then
      v.send p .onTryAgainAction
    else v
  | .noConnectionTryAgain =>
    if v.showNoConnection then
      { if v.isConnected then v.send p .onSendAction else v with showNoConnection := false }
    else v
  | .plusButton =>
    if v.free && !v.app.vm.isLoading && v.app.vm.image.isNone && v.app.vm.pdfData.isNone then
      { v with showingOptions := true }
    else v
  | .removeAttachment => if v.free then v.removeAttachment p else v
  | .gallery status =>
    if v.showingOptions then { v with showingOptions := false }.onGalleryAction p status else v
  | .camera status =>
    if v.showingOptions then { v with showingOptions := false }.onCameraAction p status else v
  | .iCloud =>
    if v.showingOptions then { v with showingOptions := false, shouldPresentFiles := true } else v
  | .googleDrive =>
    if v.showingOptions then { v with showingOptions := false, showGoogleDriveFiles := true }
    else v
  | .closeOptions => { v with showingOptions := false }
  | .block index granted =>
    match v.blocks[index]? with
    | some block => { v with blocks := v.blocks.eraseIdx index }.call granted block
    | none => v
  | .picked image =>
    if v.shouldPresentImagePicker && v.uncovered then
      { match image with
        | some image => v.send p (.setImage (resizeImage image))
        | none => v with shouldPresentImagePicker := false }
    else v
  | .imported file =>
    if v.shouldPresentFiles && v.uncovered then
      { match file with
        | some file => v.importFile p resizeImage file
        | none => v with shouldPresentFiles := false }
    else v
  | .driveDone result =>
    if v.showGoogleDriveFiles && v.uncovered then
      { match result with
        | data :: _ => v.attachData p resizeImage data
        | [] => v with showGoogleDriveFiles := false }
    else v
  | .driveClosed => { v with showGoogleDriveFiles := false }
  | .upgradeButton =>
    if v.free && v.app.vm.chat.isNone && !v.app.device.subscribed then v.showAlert .upgrade else v
  | .deleteButton =>
    if v.free && v.app.vm.showDeleteChatButton then v.showAlert .deleteChat else v
  | .askNewQuestionButton =>
    if v.free && !v.app.vm.isDialog && !v.app.vm.messages.isEmpty && !v.app.vm.isLoading then
      v.showAlert .newChat
    else v
  | .alertButton primary =>
    if v.showingAlert then { v.alertAction p primary with showingAlert := false } else v
  | .backButton => if v.free && !v.app.vm.isLoading then { v with left := some .leave } else v
  | .closePaywall => if v.app.vm.showBuyPro then v.send p .closePaywall else v
  | .session e => if e.isQuiet then v.send p e else v

def step (v : AskQuestionView) (e : ViewEvent) : AskQuestionView :=
  if v.left.isSome then v else v.act p resizeImage e

end

end AskQuestionView

structure Fixed (a b : App) : Prop where
  isDialog : b.vm.isDialog = a.vm.isDialog
  showDeleteChatButton : b.vm.showDeleteChatButton = a.vm.showDeleteChatButton

namespace Fixed

variable {p : Platform} {a b : App}

theorem effect (h : Effect p a b) : Fixed a b := by
  cases h with
  | probed | rechecked | taken | continued => exact ⟨rfl,rfl⟩
  | redrawn vm hvm => exact ⟨hvm.isDialog,hvm.showDeleteChatButton⟩
  | commanded b hb =>
    cases hb
    exact ⟨rfl,rfl⟩
  | issued b hb => cases hb <;> exact ⟨rfl,rfl⟩
  | saved =>
    obtain ⟨chat,moc,uuids,journal,-,hsave⟩ := saveChat_frame p a
    rw [hsave]
    exact ⟨rfl,rfl⟩

theorem step (p : Platform) (a : App) (e : Event) : Fixed a (a.step p e) := by
  by_cases he : ∃ d, e = .device d
  · obtain ⟨d,rfl⟩ := he
    exact ⟨rfl,rfl⟩
  · refine frame_step (fun _ => ⟨rfl,rfl⟩) ?_ .effect (fun _ _ _ _ => ⟨rfl,rfl⟩)
      (not_exists.mp he)
    intro a b c hab hbc
    exact ⟨hbc.isDialog.trans hab.isDialog,
      hbc.showDeleteChatButton.trans hab.showDeleteChatButton⟩

end Fixed

def Event.isCovering : Event → Bool
  | .onSendAction | .onTryAgainAction | .closePaywall | .upgrade => true
  | .setText _ | .setImage _ | .setPdfData _ | .setChatNameText _ | .onFinishTyping | .saveChat
  | .complete _ _ | .device _ => false

theorem showBuyPro_step (p : Platform) (a : App) {e : Event} (he : e.isCovering = false) :
    (a.step p e).vm.showBuyPro = a.vm.showBuyPro := by
  cases e with
  | setText | setChatNameText | onFinishTyping | device => rfl
  | setImage image =>
    obtain ⟨t,ht⟩ := setImage_eq p a.vm image
    simp only [App.step,ht]
  | setPdfData pdfData =>
    obtain ⟨t,ht⟩ := setPdfData_eq p a.vm pdfData
    simp only [App.step,ht]
  | saveChat =>
    obtain ⟨chat,moc,uuids,journal,-,hsave⟩ := saveChat_frame p a
    simp only [App.step,hsave]
  | complete index outcome =>
    have hcompleted := completed_complete p a index outcome
    simp only [App.step]
    generalize a.complete p index outcome = b at hcompleted ⊢
    cases hcompleted with
    | ignored | continued => rfl
    | settled r d result => cases result <;> rfl
  | onSendAction | onTryAgainAction | closePaywall | upgrade => cases he

namespace AskQuestionView

/-- The session so far ran as its gating allows. The send button and
`NoConnectionView` call `onSendAction` only with a connection; `onTryAgainAction`
sends without asking for one. -/
structure Traced (p : Platform) (a app : App) (sent : List (Event × Bool)) : Prop where
  run : SessionRun p a (sent.map Prod.fst) app
  connected : ∀ s ∈ sent, s.1 = .onSendAction → s.2 = true
  dialog : app.vm.isDialog = true

/-- An alert is one of the dialog's, and neither it nor the other presentations
come together with a cover. -/
structure Covers (v : AskQuestionView) : Prop where
  alert : v.showingAlert = true → v.app.vm.showBuyPro = false ∧ v.showNoConnection = false ∧
    v.showingOptions = false ∧ ∃ type, v.alertType = some type ∧ type ≠ .newChat ∧
      (type = .deleteChat → v.app.vm.showDeleteChatButton = true)
  offline : v.showNoConnection = true → v.app.vm.showBuyPro = false
  options : v.showingOptions = true → v.app.vm.showBuyPro = false ∧ v.showNoConnection = false

structure Gated (p : Platform) (a : App) (v : AskQuestionView) : Prop where
  traced : Traced p a v.app v.sent
  covers : Covers v
  left : ∀ act ∈ v.left, (Screen.dialog v.app).Allowed act

variable {p : Platform} {resizeImage : UIImage → Option UIImage} {a : App} {v : AskQuestionView}
  {e : Event}

theorem Traced.send (h : Traced p a v.app v.sent) (hallowed : v.app.Allowed e)
    (hconnected : e = .onSendAction → v.isConnected = true) :
    Traced p a (v.send p e).app (v.send p e).sent := by
  refine ⟨?_,?_,(Fixed.step p v.app e).isDialog.trans h.dialog⟩
  · simp only [AskQuestionView.send,List.map_append,List.map_cons,List.map_nil]
    exact h.run.concat hallowed
  · intro s hs
    rcases List.mem_append.mp hs with hold | hnew
    · exact h.connected s hold
    · rw [List.mem_singleton.mp hnew]
      exact hconnected

theorem Covers.send (h : Covers v) (he : e.isCovering = false) : Covers (v.send p e) := by
  have hcover : (v.send p e).app.vm.showBuyPro = v.app.vm.showBuyPro := showBuyPro_step p v.app he
  have hbutton := (Fixed.step p v.app e).showDeleteChatButton
  refine ⟨fun halert => ?_,fun hoffline => hcover.trans (h.offline hoffline),
    fun hoptions => ⟨hcover.trans (h.options hoptions).1,(h.options hoptions).2⟩⟩
  obtain ⟨hpaywall,hconnection,hoptions,type,htype,hdialog,hdelete⟩ := h.alert halert
  exact ⟨hcover.trans hpaywall,hconnection,hoptions,type,htype,hdialog,
    fun hkind => hbutton.trans (hdelete hkind)⟩

theorem covers_of_closed (halert : v.showingAlert = false) (hoffline : v.showNoConnection = false)
    (hoptions : v.showingOptions = false) : Covers v :=
  ⟨by simp [halert],by simp [hoffline],by simp [hoptions]⟩

theorem free_iff : v.free = true ↔ v.app.vm.showBuyPro = false ∧ v.showNoConnection = false ∧
    v.showingAlert = false ∧ v.showingOptions = false ∧ v.shouldPresentImagePicker = false ∧
    v.shouldPresentFiles = false ∧ v.showGoogleDriveFiles = false := by
  simp [free,and_assoc]

theorem uncovered_iff : v.uncovered = true ↔
    v.app.vm.showBuyPro = false ∧ v.showNoConnection = false := by
  simp [uncovered]

theorem Gated.guarded (h : Gated p a v) {reached : Bool} {w : AskQuestionView}
    (hw : reached = true → Gated p a w) : Gated p a (if reached then w else v) := by
  split
  · rename_i hreached
    exact hw hreached
  · exact h

theorem Gated.send (h : Gated p a v) (hleft : v.left = none) (hallowed : v.app.Allowed e)
    (hconnected : e = .onSendAction → v.isConnected = true) (hcovers : Covers (v.send p e)) :
    Gated p a (v.send p e) :=
  ⟨h.traced.send hallowed hconnected,hcovers,by simp [AskQuestionView.send,hleft]⟩

theorem Gated.sendFree (h : Gated p a v) (hleft : v.left = none) (hfree : v.free = true)
    (hallowed : v.app.Allowed e) (hconnected : e = .onSendAction → v.isConnected = true) :
    Gated p a (v.send p e) := by
  obtain ⟨-,hoffline,halert,hoptions,-⟩ := free_iff.mp hfree
  exact h.send hleft hallowed hconnected (covers_of_closed halert hoffline hoptions)

theorem Gated.attachData (h : Gated p a v) (hleft : v.left = none)
    (hcover : v.app.vm.showBuyPro = false) (data : Data) :
    Gated p a (v.attachData p resizeImage data) := by
  unfold AskQuestionView.attachData
  split
  · exact h.send hleft hcover (by simp) (h.covers.send rfl)
  · exact h

theorem Gated.importFile (h : Gated p a v) (hleft : v.left = none)
    (hcover : v.app.vm.showBuyPro = false) (file : ImportedFile) :
    Gated p a (v.importFile p resizeImage file) := by
  unfold AskQuestionView.importFile
  split
  · dsimp only
    split
    · exact h.attachData hleft hcover _
    · split
      · exact h.send hleft hcover (by simp) (h.covers.send rfl)
      · exact h
  · exact h

theorem Gated.removeAttachment (h : Gated p a v) (hleft : v.left = none) (hfree : v.free = true) :
    Gated p a (v.removeAttachment p) := by
  have hcover := (free_iff.mp hfree).1
  have hcleared := h.sendFree hleft hfree (e := .setText "") hcover (by simp)
  have hcover' : (v.send p (.setText "")).app.vm.showBuyPro = false := hcover
  unfold AskQuestionView.removeAttachment
  split
  · exact hcleared.send hleft hcover' (by simp) (hcleared.covers.send rfl)
  · split
    · exact hcleared.send hleft hcover' (by simp) (hcleared.covers.send rfl)
    · exact h

theorem Gated.showAlert (h : Gated p a v) (hcover : v.app.vm.showBuyPro = false)
    (hoffline : v.showNoConnection = false) (hoptions : v.showingOptions = false)
    {type : AlertType} (hdialog : type ≠ .newChat)
    (hdelete : type = .deleteChat → v.app.vm.showDeleteChatButton = true) :
    Gated p a (v.showAlert type) :=
  ⟨h.traced,⟨fun _ => ⟨hcover,hoffline,hoptions,type,rfl,hdialog,hdelete⟩,h.covers.offline,
    h.covers.options⟩,h.left⟩

theorem Gated.closeOptions (h : Gated p a v) : Gated p a { v with showingOptions := false } := by
  refine ⟨h.traced,⟨fun halert => ?_,h.covers.offline,by simp⟩,h.left⟩
  obtain ⟨hcover,hoffline,-,halertType⟩ := h.covers.alert halert
  exact ⟨hcover,hoffline,rfl,halertType⟩

theorem Gated.sheets (h : Gated p a v) (picker camera files drive : Bool)
    (blocks : List AccessBlock) :
    Gated p a { v with
      shouldPresentImagePicker := picker, shouldPresentCamera := camera
      shouldPresentFiles := files, showGoogleDriveFiles := drive, blocks } :=
  ⟨h.traced,⟨h.covers.alert,h.covers.offline,h.covers.options⟩,h.left⟩

theorem Gated.call (h : Gated p a v) (granted : Bool) (block : AccessBlock) :
    Gated p a (v.call granted block) := by
  cases block with
  | camera | photos =>
    simp only [AskQuestionView.call]
    split
    · exact h.sheets _ _ _ _ _
    · exact h
  | openPhotos => exact h.sheets _ _ _ _ _

theorem Gated.alertAction (h : Gated p a v) (hleft : v.left = none)
    (halert : v.showingAlert = true) (primary : Bool) :
    Gated p a { v.alertAction p primary with showingAlert := false } := by
  obtain ⟨hcover,hoffline,hoptions,type,htype,hdialog,hdelete⟩ := h.covers.alert halert
  unfold AskQuestionView.alertAction
  split
  · rename_i hkind
    exact absurd (Option.some.inj (htype.symm.trans hkind)) hdialog
  · rename_i hkind
    refine ⟨h.traced,covers_of_closed rfl hoffline hoptions,fun act hact => ?_⟩
    cases hact
    exact ⟨hcover,hdelete (Option.some.inj (htype.symm.trans hkind))⟩
  · exact ⟨h.traced.send (e := .upgrade) hcover (by simp),covers_of_closed rfl hoffline hoptions,
      by simp [AskQuestionView.send,hleft]⟩
  · exact ⟨h.traced,covers_of_closed rfl hoffline hoptions,h.left⟩

theorem Gated.sendButton (h : Gated p a v) (hleft : v.left = none) :
    Gated p a (v.act p resizeImage .sendButton) := by
  refine h.guarded fun hfree => ?_
  obtain ⟨hcover,-,halert,hoptions,-⟩ := free_iff.mp hfree
  split
  · rename_i hconnected
    exact h.sendFree hleft hfree hcover fun _ => hconnected
  · refine ⟨h.traced,⟨?_,fun _ => hcover,?_⟩,h.left⟩
    · simp [halert]
    · simp [hoptions]

theorem Gated.tryAgainButton (h : Gated p a v) (hleft : v.left = none) :
    Gated p a (v.act p resizeImage .tryAgainButton) := by
  refine h.guarded fun hcan => ?_
  simp only [Bool.and_eq_true] at hcan
  obtain ⟨⟨hfree,herror⟩,-⟩ := hcan
  exact h.sendFree hleft hfree ⟨herror,(free_iff.mp hfree).1⟩ (by simp)

theorem Gated.noConnectionTryAgain (h : Gated p a v) (hleft : v.left = none) :
    Gated p a (v.act p resizeImage .noConnectionTryAgain) := by
  refine h.guarded fun hoffline => ?_
  have hcover := h.covers.offline hoffline
  have halert : v.showingAlert = false := by
    by_contra hup
    have hdown := (h.covers.alert (by simpa using hup)).2.1
    simp [hoffline] at hdown
  have hoptions : v.showingOptions = false := by
    by_contra hup
    have hdown := (h.covers.options (by simpa using hup)).2
    simp [hoffline] at hdown
  split
  · rename_i hconnected
    exact ⟨h.traced.send (e := .onSendAction) hcover fun _ => hconnected,
      covers_of_closed halert rfl hoptions,
      by simp [AskQuestionView.send,hleft]⟩
  · exact ⟨h.traced,covers_of_closed halert rfl hoptions,h.left⟩

theorem Gated.tapQuestion (h : Gated p a v) (hleft : v.left = none) (text : String)
    (shouldOpenFilesOptions : Bool) :
    Gated p a (v.act p resizeImage (.tapQuestion text shouldOpenFilesOptions)) := by
  refine h.guarded fun hcan => ?_
  have hfree : v.free = true := (Bool.and_eq_true_iff.mp hcan).1
  obtain ⟨hcover,hoffline,halert,-⟩ := free_iff.mp hfree
  have hsent := h.sendFree hleft hfree (e := .setText text) hcover (by simp)
  refine ⟨hsent.traced,⟨?_,?_,fun _ => ⟨hcover,hoffline⟩⟩,hsent.left⟩
  · simp [AskQuestionView.send,halert]
  · simp [AskQuestionView.send,hoffline]

theorem Gated.plusButton (h : Gated p a v) : Gated p a (v.act p resizeImage .plusButton) := by
  refine h.guarded fun hcan => ?_
  simp only [Bool.and_eq_true] at hcan
  obtain ⟨hcover,hoffline,halert,-⟩ := free_iff.mp hcan.1.1.1
  refine ⟨h.traced,⟨?_,?_,fun _ => ⟨hcover,hoffline⟩⟩,h.left⟩
  · simp [halert]
  · simp [hoffline]

theorem Gated.options (h : Gated p a v) (denied : String) (status : AuthorizationStatus)
    (hoptions : v.showingOptions = true)
    (f : AskQuestionView → AuthorizationStatus → AskQuestionView)
    (hdenied : ∀ v', f v' .denied = v'.showAlert (.settings denied))
    (hsheets : ∀ v', status ≠ .denied → ∃ picker camera blocks, f v' status =
      { v' with shouldPresentImagePicker := picker, shouldPresentCamera := camera, blocks }) :
    Gated p a (f { v with showingOptions := false } status) := by
  obtain ⟨hcover,hoffline⟩ := h.covers.options hoptions
  by_cases hstatus : status = .denied
  · rw [hstatus,hdenied]
    exact h.closeOptions.showAlert hcover hoffline rfl (by simp) (by simp)
  · obtain ⟨picker,camera,blocks,heq⟩ := hsheets { v with showingOptions := false } hstatus
    rw [heq]
    exact h.closeOptions.sheets _ _ _ _ _

theorem Gated.gallery (h : Gated p a v) (status : AuthorizationStatus) :
    Gated p a (v.act p resizeImage (.gallery status)) := by
  refine h.guarded fun hoptions => ?_
  refine h.options _ status hoptions (onGalleryAction p) (fun _ => rfl) fun v' hstatus => ?_
  cases status with
  | denied => exact absurd rfl hstatus
  | authorized | notDetermined => exact ⟨_,_,_,rfl⟩

theorem Gated.camera (h : Gated p a v) (status : AuthorizationStatus) :
    Gated p a (v.act p resizeImage (.camera status)) := by
  refine h.guarded fun hoptions => ?_
  refine h.options _ status hoptions (onCameraAction p) (fun _ => rfl) fun v' hstatus => ?_
  cases status with
  | denied => exact absurd rfl hstatus
  | authorized | notDetermined => exact ⟨_,_,_,rfl⟩

theorem Gated.picked (h : Gated p a v) (hleft : v.left = none) (image : Option UIImage) :
    Gated p a (v.act p resizeImage (.picked image)) := by
  refine h.guarded fun hcan => ?_
  have hcover := (uncovered_iff.mp (Bool.and_eq_true_iff.mp hcan).2).1
  cases image with
  | none => exact h.sheets _ _ _ _ _
  | some image =>
    have hsent : Gated p a (v.send p (.setImage (resizeImage image))) :=
      h.send hleft hcover (by simp) (h.covers.send rfl)
    exact hsent.sheets _ _ _ _ _

theorem Gated.imported (h : Gated p a v) (hleft : v.left = none) (file : Option ImportedFile) :
    Gated p a (v.act p resizeImage (.imported file)) := by
  refine h.guarded fun hcan => ?_
  have hcover := (uncovered_iff.mp (Bool.and_eq_true_iff.mp hcan).2).1
  cases file with
  | none => exact h.sheets _ _ _ _ _
  | some file => exact (h.importFile hleft hcover file).sheets _ _ _ _ _

theorem Gated.driveDone (h : Gated p a v) (hleft : v.left = none) (result : List Data) :
    Gated p a (v.act p resizeImage (.driveDone result)) := by
  refine h.guarded fun hcan => ?_
  have hcover := (uncovered_iff.mp (Bool.and_eq_true_iff.mp hcan).2).1
  cases result with
  | nil => exact h.sheets _ _ _ _ _
  | cons data rest => exact (h.attachData hleft hcover data).sheets _ _ _ _ _

theorem Gated.upgradeButton (h : Gated p a v) :
    Gated p a (v.act p resizeImage .upgradeButton) := by
  refine h.guarded fun hcan => ?_
  simp only [Bool.and_eq_true] at hcan
  obtain ⟨hcover,hoffline,-,hoptions,-⟩ := free_iff.mp hcan.1.1
  exact h.showAlert hcover hoffline hoptions (by simp) (by simp)

theorem Gated.deleteButton (h : Gated p a v) : Gated p a (v.act p resizeImage .deleteButton) := by
  refine h.guarded fun hcan => ?_
  obtain ⟨hfree,hbutton⟩ := Bool.and_eq_true_iff.mp hcan
  obtain ⟨hcover,hoffline,-,hoptions,-⟩ := free_iff.mp hfree
  exact h.showAlert hcover hoffline hoptions (by simp) fun _ => hbutton

theorem Gated.backButton (h : Gated p a v) : Gated p a (v.act p resizeImage .backButton) := by
  refine h.guarded fun hcan => ?_
  have hfree : v.free = true := (Bool.and_eq_true_iff.mp hcan).1
  refine ⟨h.traced,⟨h.covers.alert,h.covers.offline,h.covers.options⟩,fun act hact => ?_⟩
  cases hact
  exact (free_iff.mp hfree).1

theorem Gated.closePaywall (h : Gated p a v) (hleft : v.left = none) :
    Gated p a (v.act p resizeImage .closePaywall) := by
  refine h.guarded fun hup => ?_
  have hnone {b : Bool} (hdown : b = true → v.app.vm.showBuyPro = false) : b = false := by
    cases b with
    | false => rfl
    | true => simp [hup] at hdown
  have hcovers : Covers (v.send p .closePaywall) :=
    covers_of_closed (hnone fun halert => (h.covers.alert halert).1) (hnone h.covers.offline)
      (hnone fun hoptions => (h.covers.options hoptions).1)
  exact h.send hleft hup (by simp) hcovers

theorem Gated.session (h : Gated p a v) (hleft : v.left = none) (e : Event) :
    Gated p a (v.act p resizeImage (.session e)) := by
  refine h.guarded fun hquiet => ?_
  have hcovering : e.isCovering = false := by
    cases e <;> first | rfl | cases hquiet
  refine h.send hleft ?_ ?_ (h.covers.send hcovering)
  · cases e <;> trivial
  · rintro rfl
    cases hquiet

theorem gated_act (h : Gated p a v) (hleft : v.left = none) (e : ViewEvent) :
    Gated p a (v.act p resizeImage e) := by
  cases e with
  | path satisfied => exact ⟨h.traced,⟨h.covers.alert,h.covers.offline,h.covers.options⟩,h.left⟩
  | editText text =>
    exact h.guarded fun hfree => h.sendFree hleft hfree (free_iff.mp hfree).1 (by simp)
  | editName text =>
    refine h.guarded fun hcan => ?_
    have hfree : v.free = true := (Bool.and_eq_true_iff.mp hcan).1
    exact h.sendFree hleft hfree (free_iff.mp hfree).1 (by simp)
  | tapQuestion text shouldOpenFilesOptions => exact h.tapQuestion hleft text _
  | sendButton => exact h.sendButton hleft
  | tryAgainButton => exact h.tryAgainButton hleft
  | noConnectionTryAgain => exact h.noConnectionTryAgain hleft
  | plusButton => exact h.plusButton
  | removeAttachment => exact h.guarded fun hfree => h.removeAttachment hleft hfree
  | gallery status => exact h.gallery status
  | camera status => exact h.camera status
  | iCloud | googleDrive => exact h.guarded fun _ => h.closeOptions.sheets _ _ _ _ _
  | closeOptions => exact h.closeOptions
  | block index granted =>
    simp only [act]
    split
    · exact (h.sheets _ _ _ _ _).call granted _
    · exact h
  | picked image => exact h.picked hleft image
  | imported file => exact h.imported hleft file
  | driveDone result => exact h.driveDone hleft result
  | driveClosed => exact h.sheets _ _ _ _ _
  | upgradeButton => exact h.upgradeButton
  | deleteButton => exact h.deleteButton
  | askNewQuestionButton =>
    simp only [act,h.traced.dialog]
    simpa using h
  | alertButton primary => exact h.guarded fun halert => h.alertAction hleft halert primary
  | backButton => exact h.backButton
  | closePaywall => exact h.closePaywall hleft
  | session e => exact h.session hleft e

theorem gated_step (h : Gated p a v) (e : ViewEvent) : Gated p a (v.step p resizeImage e) := by
  unfold step
  split
  · exact h
  · rename_i hleft
    exact gated_act h (by simpa using hleft) e

end AskQuestionView

/-- Whatever is tapped and picked in the view of a dialog, in whatever order, the
session behind it keeps to its gating and leaves it only as the phone allows; the
send button and Try Again of `NoConnectionView` send only with a connection, which
Try Again of a failed answer does not ask for; and an alert has its type, which is
never the one of a new chat. -/
theorem view_keeps_gating (p : Platform) (resizeImage : UIImage → Option UIImage) (d : Device)
    (moc : ManagedObjectContext) (chat : Option Nat) (allObjects : List Message)
    (es : List ViewEvent) :
    let a := openScreen p d moc true chat allObjects
    let v := es.foldl (AskQuestionView.step p resizeImage) { app := a }
    SessionRun p a (v.sent.map Prod.fst) v.app ∧
      (∀ act ∈ v.left, (Screen.dialog v.app).Allowed act) ∧
      (∀ s ∈ v.sent, s.1 = .onSendAction → s.2 = true) ∧
      (v.showingAlert = true → ∃ type, v.alertType = some type ∧ type ≠ .newChat) := by
  intro a v
  have hinit : AskQuestionView.Gated p a { app := a } :=
    ⟨⟨.nil a,by simp,(unstarted_openScreen p d moc true chat allObjects).isDialog⟩,
      AskQuestionView.covers_of_closed rfl rfl rfl,by simp⟩
  have hgated : AskQuestionView.Gated p a v :=
    foldl_invariant (I := AskQuestionView.Gated p a)
      (fun _ e hs => AskQuestionView.gated_step hs e) hinit es
  refine ⟨hgated.traced.run,hgated.left,hgated.traced.connected,fun halert => ?_⟩
  obtain ⟨-,-,-,type,htype,hdialog,-⟩ := hgated.covers.alert halert
  exact ⟨type,htype,hdialog⟩

end GenieD

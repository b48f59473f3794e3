import GenieD.NewChat
import GenieD.Retry

set_option autoImplicit false

namespace GenieD

open Runs App

structure Question where
  text : String
  image : Option UIImage
  pdfData : Option Data
  deriving DecidableEq, Repr

/-- What a paywall was opened by: the upgrade alert, or an action that it blocked. -/
inductive Cause where
  | upgrade
  | send (q : Question)
  | retry (q : Question)
  deriving DecidableEq, Repr

def Entry.document : Entry → Option (Option Data)
  | .sendText _ => some none
  | .describeFile _ .image _ => some none
  | .describeFile data .pdf _ => some (some data)
  | .command _ _ | .post _ _ | .answer _ | .saveChat _ _ | .reset => none

/-- The document that the last question was sent with. -/
def Device.sentDocument (d : Device) : Option Data :=
  (d.journal.filterMap Entry.document).getLast?.join

namespace App

def drafted (a : App) : Question := ⟨a.vm.text,a.vm.image,a.vm.pdfData⟩

/-- The last message, with the document it was sent with, which the message does not keep. -/
def retried (a : App) : Question :=
  match a.vm.messages.getLast? with
  | none => a.drafted
  | some m => ⟨m.text,m.image,a.device.sentDocument⟩

end App

def ChatEvent.cause (a : App) : ChatEvent → Cause
  | .session .onSendAction => .send a.drafted
  | .session .onTryAgainAction => .retry a.retried
  | .session _ | .onNewChatAction => .upgrade

structure Watched where
  app : App
  cause : Option Cause := none

namespace Watched

def step (p : Platform) (w : Watched) (e : ChatEvent) : Watched where
  app := w.app.chatStep p e
  cause :=
    if (w.app.chatStep p e).vm.showBuyPro then
      if w.app.vm.showBuyPro then w.cause else some (e.cause w.app)
    else none

/-- What the views let happen. A second tap on Back finds the paywall closed, and
New Chat waits for the answer. -/
def Allowed (w : Watched) : ChatEvent → Prop
  | .session .closePaywall => True
  | .session e => w.app.Allowed e
  | .onNewChatAction => w.app.vm.isLoading = false ∧ w.app.vm.showBuyPro = false

instance (w : Watched) (e : ChatEvent) : Decidable (w.Allowed e) :=
  match e with
  | .session .closePaywall => isTrue trivial
  | .session .onTryAgainAction => inferInstanceAs (Decidable (_ ∧ _))
  | .session (.setText _) | .session (.setImage _) | .session (.setPdfData _)
  | .session (.setChatNameText _) | .session .onSendAction | .session .upgrade =>
    inferInstanceAs (Decidable (_ = _))
  | .session .onFinishTyping | .session .saveChat | .session (.complete _ _)
  | .session (.device _) => isTrue trivial
  | .onNewChatAction => inferInstanceAs (Decidable (_ ∧ _))

end Watched

variable {p : Platform} {a b : App}

theorem Grew.sentDocument {ok : Entry → Prop} {d d' : Device} (h : Grew ok d d')
    (hok : ∀ e, ok e → e.document = none) : d'.sentDocument = d.sentDocument := by
  obtain ⟨entries,hall,hjournal⟩ := h
  have hnone : entries.filterMap Entry.document = [] :=
    List.filterMap_eq_nil_iff.mpr fun e he => hok e (hall e he)
  simp [Device.sentDocument,hjournal,hnone]

theorem sentDocument_rechecked {d d' : Device} (h : d.Rechecked d') :
    d'.sentDocument = d.sentDocument := (Grew.rechecked h).sentDocument fun _ he => he ▸ rfl

theorem retried_congr (hmessages : b.vm.messages = a.vm.messages) (hdrafted : b.drafted = a.drafted)
    (hdocument : b.device.sentDocument = a.device.sentDocument) : b.retried = a.retried := by
  unfold App.retried
  rw [hmessages,hdrafted,hdocument]

structure Orderly (p : Platform) (a : App) : Prop where
  isDialog : a.vm.isDialog = true
  pending : a.vm.isLoading = false → a.pending = []
  single : a.pending.length ≤ 1
  failed : a.vm.isAnswerError = true → a.vm.isLoading = false
  waiting : a.vm.isLoading = true ∨ a.vm.isAnswerError = true → a.vm.isTyping = false ∧
    ∃ m, a.vm.messages.getLast? = some m ∧ m.isMy = true ∧ Sendable p m.text

theorem Orderly.of_idle (hdialog : a.vm.isDialog = true) (hloading : a.vm.isLoading = false)
    (herror : a.vm.isAnswerError = false) (hpending : a.pending = []) : Orderly p a where
  isDialog := hdialog
  pending _ := hpending
  single := by simp [hpending]
  failed _ := hloading
  waiting h := by simp [hloading,herror] at h

theorem Orderly.congr (h : Orderly p a) (hdialog : b.vm.isDialog = a.vm.isDialog)
    (hloading : b.vm.isLoading = a.vm.isLoading)
    (herror : b.vm.isAnswerError = a.vm.isAnswerError) (hpending : b.pending = a.pending)
    (hmessages : b.vm.messages = a.vm.messages)
    (htyping : a.vm.isTyping = false → b.vm.isTyping = false) : Orderly p b where
  isDialog := hdialog.trans h.isDialog
  pending hb := by
    rw [hpending]
    exact h.pending (hloading.symm.trans hb)
  single := by
    rw [hpending]
    exact h.single
  failed hb := hloading.trans (h.failed (herror.symm.trans hb))
  waiting hb := by
    rw [hloading,herror] at hb
    rw [hmessages]
    exact ⟨htyping (h.waiting hb).1,(h.waiting hb).2⟩

theorem Orderly.issued {d : Device} (h : Orderly p a)
    (hidle : a.vm.isAnswerError = false ∧ a.vm.isTyping = false ∧ a.vm.isLoading = false)
    (hsend : Sendable p a.vm.text) (hb : Issued p { a with device := d } b) : Orderly p b := by
  obtain ⟨herror,htyping,hloading⟩ := hidle
  have hpending := h.pending hloading
  cases hb with
  | waiting q d f text image pdfData hq =>
    have hsent : Sendable p q.text := hq.text ▸ hsend
    exact {
      isDialog := h.isDialog
      pending := by simp
      single := by simp [hpending]
      failed := by simp [herror]
      waiting := fun _ => ⟨htyping,q,by simp,hq.isMy,hsent⟩ }
  | failed q d text image pdfData hq =>
    have hsent : Sendable p q.text := hq.text ▸ hsend
    exact {
      isDialog := h.isDialog
      pending := fun _ => hpending
      single := by simp [hpending]
      failed := fun _ => rfl
      waiting := fun _ => ⟨htyping,q,by simp,hq.isMy,hsent⟩ }

theorem Orderly.sent (h : Orderly p a) (hs : Sent p a b) : Orderly p b := by
  cases hs with
  | busy => exact h
  | command value b hidle _ hb =>
    cases hb
    exact .of_idle h.isDialog hidle.2.2 hidle.1 (h.pending hidle.2.2)
  | locked => exact h.congr rfl rfl rfl rfl rfl id
  | blank => exact h.congr rfl rfl rfl rfl rfl id
  | issued d d' b hidle hsend _ _ _ hb => exact h.issued hidle hsend hb

theorem Orderly.triedAgain (h : Orderly p a) (hloading : a.vm.isLoading = false)
    (ht : TriedAgain p a b) : Orderly p b := by
  cases ht with
  | nothing => exact h
  | locked => exact h.congr rfl rfl rfl rfl rfl id
  | resent q d =>
    obtain ⟨t,ht⟩ := resentDraft_eq p a.vm q
    rw [ht]
    refine Orderly.sent ?_ (sent_onSendAction p _)
    exact .of_idle h.isDialog hloading rfl (h.pending hloading)

theorem Orderly.completed {index : Nat} {outcome : Outcome} (h : Orderly p a)
    (hc : Completed p a index outcome b) : Orderly p b := by
  have hflight {r : Request} (hr : a.pending[index]? = some r) : a.vm.isLoading = true ∧
      a.vm.isAnswerError = false ∧ a.pending.eraseIdx index = [] := by
    have hloading : a.vm.isLoading = true := by
      by_contra hnot
      simp [h.pending (by simpa using hnot)] at hr
    have hlt : index < a.pending.length := (List.getElem?_eq_some_iff.mp hr).1
    have hsingle := h.single
    refine ⟨hloading,?_,?_⟩
    · by_contra herror
      simp [h.failed (by simpa using herror)] at hloading
    · rw [← List.length_eq_zero_iff,List.length_eraseIdx_of_lt hlt]
      omega
  cases hc with
  | ignored => exact h
  | continued r d f hr =>
    obtain ⟨hloading,herror,hnone⟩ := hflight hr
    exact {
      isDialog := h.isDialog
      pending := fun hidle => by simp [hloading] at hidle
      single := by simp [hnone]
      failed := h.failed
      waiting := h.waiting }
  | settled r d result hr =>
    obtain ⟨hloading,herror,hnone⟩ := hflight hr
    cases result with
    | none =>
      exact {
        isDialog := h.isDialog
        pending := fun _ => hnone
        single := by simp [handleSendTextResponse,hnone]
        failed := fun _ => rfl
        waiting := fun _ => h.waiting (.inl hloading) }
    | some response => exact .of_idle h.isDialog rfl herror hnone

theorem Orderly.saveChat (h : Orderly p a) : Orderly p (a.saveChat p) := by
  obtain ⟨chat,moc,uuids,journal,-,hsave⟩ := saveChat_frame p a
  rw [hsave]
  exact h.congr rfl rfl rfl rfl rfl id

/-- The flags of a session tell what opened the paywall that is up, and the
blocked question is still there. -/
inductive Held (p : Platform) (a : App) : Option Cause → Prop where
  | free (cover : a.vm.showBuyPro = false)
      (send : a.vm.wasSendActionBeforeNavigationToPaywall = false)
      (retry : a.vm.wasTryAgainActionBeforeNavigationToPaywall = false) : Held p a none
  | upgrade (cover : a.vm.showBuyPro = true)
      (send : a.vm.wasSendActionBeforeNavigationToPaywall = false)
      (retry : a.vm.wasTryAgainActionBeforeNavigationToPaywall = false) : Held p a (some .upgrade)
  | send (cover : a.vm.showBuyPro = true)
      (send : a.vm.wasSendActionBeforeNavigationToPaywall = true)
      (retry : a.vm.wasTryAgainActionBeforeNavigationToPaywall = false)
      (idle : a.vm.isAnswerError = false ∧ a.vm.isTyping = false ∧ a.vm.isLoading = false)
      (value : commandValue p a.vm.text = none) : Held p a (some (.send a.drafted))
  | retry (cover : a.vm.showBuyPro = true)
      (send : a.vm.wasSendActionBeforeNavigationToPaywall = false)
      (retry : a.vm.wasTryAgainActionBeforeNavigationToPaywall = true)
      (failed : a.vm.isAnswerError = true) : Held p a (some (.retry a.retried))

theorem Held.cover_iff {cause : Option Cause} (h : Held p a cause) :
    a.vm.showBuyPro = true ↔ cause ≠ none := by
  cases h with
  | free cover => simp [cover]
  | upgrade cover | send cover | retry cover => simp [cover]

theorem Held.not_loading {cause : Option Cause} (h : Held p a cause) (ho : Orderly p a)
    (hflag : a.vm.wasSendActionBeforeNavigationToPaywall = true ∨
      a.vm.wasTryAgainActionBeforeNavigationToPaywall = true) : a.vm.isLoading = false := by
  cases h with
  | free _ send retry | upgrade _ send retry => simp [send,retry] at hflag
  | send _ _ _ idle => exact idle.2.2
  | retry _ _ _ failed => exact ho.failed failed

theorem Held.unflagged {cause : Option Cause} (h : Held p a cause)
    (hcover : a.vm.showBuyPro = false) : a.vm.wasSendActionBeforeNavigationToPaywall = false ∧
      a.vm.wasTryAgainActionBeforeNavigationToPaywall = false := by
  cases h with
  | free _ send retry => exact ⟨send,retry⟩
  | upgrade cover | send cover | retry cover => simp [hcover] at cover

structure Leaves (a b : App) : Prop where
  cover : b.vm.showBuyPro = a.vm.showBuyPro
  send : b.vm.wasSendActionBeforeNavigationToPaywall =
    a.vm.wasSendActionBeforeNavigationToPaywall
  retry : b.vm.wasTryAgainActionBeforeNavigationToPaywall =
    a.vm.wasTryAgainActionBeforeNavigationToPaywall

structure LeavesQuestion (a b : App) : Prop where
  error : b.vm.isAnswerError = a.vm.isAnswerError
  typing : a.vm.isTyping = false → b.vm.isTyping = false
  loading : b.vm.isLoading = a.vm.isLoading
  drafted : b.drafted = a.drafted
  retried : b.retried = a.retried

theorem Held.congr {cause : Option Cause} (h : Held p a cause) (hl : Leaves a b)
    (hq : a.vm.wasSendActionBeforeNavigationToPaywall = true ∨
      a.vm.wasTryAgainActionBeforeNavigationToPaywall = true → LeavesQuestion a b) :
    Held p b cause := by
  cases h with
  | free cover send retry =>
    exact .free (hl.cover.trans cover) (hl.send.trans send) (hl.retry.trans retry)
  | upgrade cover send retry =>
    exact .upgrade (hl.cover.trans cover) (hl.send.trans send) (hl.retry.trans retry)
  | send cover send retry idle value =>
    have hsame := hq (.inl send)
    have htext : b.vm.text = a.vm.text := congrArg Question.text hsame.drafted
    rw [← hsame.drafted]
    exact .send (hl.cover.trans cover) (hl.send.trans send) (hl.retry.trans retry)
      ⟨hsame.error.trans idle.1,hsame.typing idle.2.1,hsame.loading.trans idle.2.2⟩
      (htext ▸ value)
  | retry cover send retry failed =>
    have hsame := hq (.inr retry)
    rw [← hsame.retried]
    exact .retry (hl.cover.trans cover) (hl.send.trans send) (hl.retry.trans retry)
      (hsame.error.trans failed)

theorem Leaves.issued {d : Device} (h : Issued p { a with device := d } b) : Leaves a b := by
  cases h <;> exact ⟨rfl,rfl,rfl⟩

theorem Leaves.completed {index : Nat} {outcome : Outcome} (h : Completed p a index outcome b) :
    Leaves a b := by
  cases h with
  | ignored => exact ⟨rfl,rfl,rfl⟩
  | continued => exact ⟨rfl,rfl,rfl⟩
  | settled r d result => cases result <;> exact ⟨rfl,rfl,rfl⟩

theorem Leaves.resent {q : MessageItem} {d : Device} (ho : Orderly p a)
    (herror : a.vm.isAnswerError = true) (hlast : a.vm.messages.getLast? = some q)
    (hquota : d.HasQuota) :
    Leaves a (onSendAction p
      { a with
        device := d
        vm := ({ a.vm with
          isAnswerError := false
          messages := a.vm.messages.dropLast }.setText q.text).setImage p q.image }) := by
  obtain ⟨htyping,m,hm,-,hsend⟩ := ho.waiting (.inr herror)
  obtain rfl : q = m := Option.some.inj (hlast.symm.trans hm)
  have hvm : ({ a.vm with
      isAnswerError := false
      messages := a.vm.messages.dropLast }.setText q.text).setImage p q.image =
      a.vm.restored p := by
    simp [AskQuestionViewModel.restored,hlast]
  rw [hvm,restored_eq hlast (.inl ho.isDialog) hsend.1]
  obtain ⟨_,d',-,-,-,hissued⟩ := @issued_onSendAction p { a with
    device := d
    vm := { a.vm with
      isAnswerError := false
      messages := a.vm.messages.dropLast
      text := q.text
      image := q.image } } ⟨rfl,htyping,ho.failed herror⟩ hsend hquota
  generalize onSendAction p _ = b at hissued ⊢
  cases hissued <;> exact ⟨rfl,rfl,rfl⟩

abbrev Watched.Fits (p : Platform) (w : Watched) : Prop := Held p w.app w.cause

theorem Held.kept {w : Watched} {e : ChatEvent} (h : w.Fits p)
    (hl : Leaves w.app (w.app.chatStep p e))
    (hq : w.app.vm.wasSendActionBeforeNavigationToPaywall = true ∨
      w.app.vm.wasTryAgainActionBeforeNavigationToPaywall = true →
        LeavesQuestion w.app (w.app.chatStep p e)) :
    (w.step p e).Fits p := by
  have hcause : (w.step p e).cause = w.cause := by
    simp only [Watched.step,hl.cover]
    cases hcover : w.app.vm.showBuyPro with
    | true => simp
    | false =>
      have hnone : w.cause = none := by
        by_contra hsome
        simp [h.cover_iff.mpr hsome] at hcover
      simp [hnone]
  rw [Watched.Fits,hcause]
  exact h.congr hl hq

theorem Held.uncovered {w : Watched} {e : ChatEvent} (h : w.Fits p)
    (hcover : w.app.vm.showBuyPro = false) (hl : Leaves w.app (w.app.chatStep p e)) :
    (w.step p e).Fits p := by
  obtain ⟨hsend,hretry⟩ := h.unflagged hcover
  exact h.kept hl fun hflag => by simp [hsend,hretry] at hflag

theorem Held.opened {w : Watched} {e : ChatEvent} {cause : Cause}
    (hcover : w.app.vm.showBuyPro = false) (hcause : e.cause w.app = cause)
    (h : Held p (w.app.chatStep p e) (some cause)) :
    (w.step p e).Fits p := by
  have hup : (w.app.chatStep p e).vm.showBuyPro = true := h.cover_iff.mpr (by simp)
  have hstep : (w.step p e).cause = some cause := by simp [Watched.step,hup,hcover,hcause]
  rw [Watched.Fits,hstep]
  exact h

theorem Held.send_step {w : Watched} (h : w.Fits p)
    (hcover : w.app.vm.showBuyPro = false) :
    (w.step p (.session .onSendAction)).Fits p := by
  obtain ⟨hsend,hretry⟩ := h.unflagged hcover
  have hs := sent_onSendAction p w.app
  have huncovered (hl : Leaves w.app (w.app.onSendAction p)) :
      (w.step p (.session .onSendAction)).Fits p := h.uncovered hcover hl
  have hopened (hheld : Held p (w.app.onSendAction p) (some (.send w.app.drafted))) :
      (w.step p (.session .onSendAction)).Fits p := .opened hcover rfl hheld
  generalize w.app.onSendAction p = b at hs huncovered hopened
  cases hs with
  | busy => exact huncovered ⟨rfl,rfl,rfl⟩
  | command value b _ _ hb => cases hb; exact huncovered ⟨rfl,rfl,rfl⟩
  | blank => exact huncovered ⟨rfl,rfl,rfl⟩
  | issued d d' b _ _ _ _ _ hb => exact huncovered (.issued hb)
  | locked d d' hidle hvalue => exact hopened (.send rfl rfl hretry hidle hvalue)

theorem Held.retry_step {w : Watched} (h : w.Fits p) (ho : Orderly p w.app)
    (hcover : w.app.vm.showBuyPro = false) (herror : w.app.vm.isAnswerError = true) :
    (w.step p (.session .onTryAgainAction)).Fits p := by
  obtain ⟨hsend,hretry⟩ := h.unflagged hcover
  have ht := triedAgain_onTryAgainAction p w.app
  have huncovered (hl : Leaves w.app (w.app.onTryAgainAction p)) :
      (w.step p (.session .onTryAgainAction)).Fits p := h.uncovered hcover hl
  have hopened (hheld : Held p (w.app.onTryAgainAction p) (some (.retry w.app.retried))) :
      (w.step p (.session .onTryAgainAction)).Fits p := .opened hcover rfl hheld
  generalize w.app.onTryAgainAction p = b at ht huncovered hopened
  cases ht with
  | nothing => exact huncovered ⟨rfl,rfl,rfl⟩
  | resent q d hlast _ _ hquota => exact huncovered (.resent ho herror hlast hquota)
  | locked q d hlast hd =>
    have hsame := @retried_congr w.app { w.app with
      device := d
      vm := { w.app.vm with
        wasTryAgainActionBeforeNavigationToPaywall := true, showBuyPro := true } }
      rfl rfl (sentDocument_rechecked hd)
    rw [← hsame] at hopened
    exact hopened (.retry rfl hsend rfl herror)

theorem Held.closed (p : Platform) (a : App) : Held p (a.step p .closePaywall) none := by
  obtain ⟨b,-,hstep⟩ := closePaywall_cases p a
  rw [hstep]
  exact .free rfl rfl rfl

theorem held_step {w : Watched} {e : ChatEvent} (hok : w.Allowed e) (ho : Orderly p w.app)
    (h : w.Fits p) : (w.step p e).Fits p := by
  cases e with
  | onNewChatAction =>
    refine h.uncovered hok.2 ?_
    obtain ⟨chat,moc,uuids,journal,-,hsave⟩ := saveChat_frame p w.app
    simp only [chatStep,onNewChatAction,hsave]
    exact ⟨rfl,rfl,rfl⟩
  | session e =>
    cases e with
    | setText text => exact h.uncovered hok ⟨rfl,rfl,rfl⟩
    | setImage image =>
      obtain ⟨t,ht⟩ := setImage_eq p w.app.vm image
      refine h.uncovered hok ?_
      simp only [chatStep,App.step,ht]
      exact ⟨rfl,rfl,rfl⟩
    | setPdfData pdfData =>
      obtain ⟨t,ht⟩ := setPdfData_eq p w.app.vm pdfData
      refine h.uncovered hok ?_
      simp only [chatStep,App.step,ht]
      exact ⟨rfl,rfl,rfl⟩
    | setChatNameText text => exact h.uncovered hok ⟨rfl,rfl,rfl⟩
    | onSendAction => exact h.send_step hok
    | onTryAgainAction => exact h.retry_step ho hok.2 hok.1
    | upgrade =>
      obtain ⟨hsend,hretry⟩ := h.unflagged hok
      exact .opened hok rfl (.upgrade rfl hsend hretry)
    | closePaywall =>
      have hclosed := Held.closed p w.app
      have hdown : (w.app.chatStep p (.session .closePaywall)).vm.showBuyPro = false := by
        cases hclosed with
        | free cover => exact cover
      have hcause : (w.step p (.session .closePaywall)).cause = none := by
        simp [Watched.step,hdown]
      rw [Watched.Fits,hcause]
      exact hclosed
    | onFinishTyping => exact h.kept ⟨rfl,rfl,rfl⟩ fun _ => ⟨rfl,fun _ => rfl,rfl,rfl,rfl⟩
    | saveChat =>
      obtain ⟨chat,moc,uuids,journal,-,hsave⟩ := saveChat_frame p w.app
      have hstep : w.app.chatStep p (.session .saveChat) = _ := hsave
      have hdocument : (w.app.saveChat p).device.sentDocument = w.app.device.sentDocument := by
        refine (saved_saveChat p w.app).grew.sentDocument ?_
        rintro _ ⟨chat,rows,rfl⟩
        rfl
      refine h.kept ?_ fun _ => ?_
      · rw [hstep]
        exact ⟨rfl,rfl,rfl⟩
      · rw [hsave] at hdocument
        rw [hstep]
        exact ⟨rfl,id,rfl,rfl,retried_congr rfl rfl hdocument⟩
    | complete index outcome =>
      refine h.kept (.completed (completed_complete p w.app index outcome)) fun hflag => ?_
      have hpending := ho.pending (h.not_loading ho hflag)
      have hsame : w.app.chatStep p (.session (.complete index outcome)) = w.app := by
        simp [chatStep,App.step,complete,hpending]
      rw [hsame]
      exact ⟨rfl,id,rfl,rfl,rfl⟩
    | device e =>
      have hgrew := Grew.stepped (w.app.device.stepped_step p e)
      exact h.kept ⟨rfl,rfl,rfl⟩ fun _ =>
        ⟨rfl,id,rfl,rfl,retried_congr rfl rfl (hgrew.sentDocument fun _ he => he ▸ rfl)⟩

theorem orderly_step {w : Watched} {e : ChatEvent} (hok : w.Allowed e) (ho : Orderly p w.app)
    (h : w.Fits p) : Orderly p (w.step p e).app := by
  cases e with
  | onNewChatAction =>
    have hsaved := ho.saveChat
    refine .of_idle hsaved.isDialog ?_ rfl ?_
    all_goals
      obtain ⟨chat,moc,uuids,journal,-,hsave⟩ := saveChat_frame p w.app
      simp only [Watched.step,chatStep,onNewChatAction,hsave]
    · exact hok.1
    · exact ho.pending hok.1
  | session e =>
    cases e with
    | setText text => exact ho.congr rfl rfl rfl rfl rfl id
    | setImage image =>
      obtain ⟨t,ht⟩ := setImage_eq p w.app.vm image
      simp only [Watched.step,chatStep,App.step,ht]
      exact ho.congr rfl rfl rfl rfl rfl id
    | setPdfData pdfData =>
      obtain ⟨t,ht⟩ := setPdfData_eq p w.app.vm pdfData
      simp only [Watched.step,chatStep,App.step,ht]
      exact ho.congr rfl rfl rfl rfl rfl id
    | setChatNameText text => exact ho.congr rfl rfl rfl rfl rfl id
    | onSendAction => exact ho.sent (sent_onSendAction p w.app)
    | onTryAgainAction =>
      exact ho.triedAgain (ho.failed hok.1) (triedAgain_onTryAgainAction p w.app)
    | upgrade => exact ho.congr rfl rfl rfl rfl rfl id
    | closePaywall =>
      obtain ⟨b,hb,hstep⟩ := closePaywall_cases p w.app
      have hdone : Orderly p b := by
        rcases hb with rfl | ⟨-,hb⟩ | ⟨hflag,hb⟩
        · exact ho
        · exact ho.sent hb
        · exact ho.triedAgain (h.not_loading ho (.inr hflag)) hb
      simp only [Watched.step,chatStep,hstep]
      exact hdone.congr rfl rfl rfl rfl rfl id
    | onFinishTyping => exact ho.congr rfl rfl rfl rfl rfl fun _ => rfl
    | saveChat => exact ho.saveChat
    | complete index outcome => exact ho.completed (completed_complete p w.app index outcome)
    | device e => exact ho.congr rfl rfl rfl rfl rfl id

def Watched.start (p : Platform) (d : Device) (moc : ManagedObjectContext) (chat : Option Nat)
    (allObjects : List Message) : Watched where
  app := openScreen p d moc true chat allObjects

theorem held_run {d : Device} {moc : ManagedObjectContext} {chat : Option Nat}
    {allObjects : List Message} {es : List ChatEvent} {w : Watched}
    (hrun : Run (Watched.step p) Watched.Allowed (.start p d moc chat allObjects) es w) :
    Orderly p w.app ∧ w.Fits p := by
  refine hrun.invariant (I := fun w : Watched => Orderly p w.app ∧ w.Fits p)
    (fun w e hok h => ⟨orderly_step hok h.1 h.2,held_step hok h.1 h.2⟩) ?_
  have hstart : Unstarted d true chat (openScreen p d moc true chat allObjects) :=
    unstarted_openScreen ..
  refine ⟨.of_idle hstart.isDialog hstart.isLoading hstart.isAnswerError hstart.pending,?_⟩
  exact .free (by cases chat <;> rfl) (by cases chat <;> rfl) hstart.unflagged

/-- The request has the question in it, as the last message of a chat if no file
is attached. -/
def Question.CarriedBy (p : Platform) (q : Question) : Payload → Prop
  | .image data text => q.image.bind p.pngData = some data ∧ text = Text.trimmingCharacters q.text
  | .document data text =>
    q.image = none ∧ q.pdfData = some data ∧ text = Text.trimmingCharacters q.text
  | .text chat => q.image = none ∧ q.pdfData = none ∧
    chat.getLast? = some (MessageItem.payload ⟨"",q.text,true,none,0,0⟩)

/-- With this document in the draft the question goes out whole: its image can be
encoded, or it has none and the document is its own, and no test phrase is in a
question without a file. -/
def Question.Kept (p : Platform) (pdfData : Option Data) (q : Question) : Prop :=
  match q.image with
  | some image => p.pngData image ≠ none
  | none => q.pdfData = pdfData ∧ (pdfData = none → isTestText q.text = false)

theorem handed_last (messages : List MessageItem) (q : MessageItem) :
    (∃ chat, Payload.handed ((testFiltered (messages ++ [q])).map MessageItem.payload) =
      some (.text chat) ∧ chat.getLast? = some q.payload) ↔ isTestText q.text = false := by
  constructor
  · rintro ⟨chat,hchat,hlast⟩
    have htext := handed_eq_some hchat
    cases htext
    rw [List.getLast?_map,Option.map_eq_some_iff] at hlast
    obtain ⟨m,hm,hpayload⟩ := hlast
    have hfiltered := List.mem_filter.mp (List.mem_of_getLast? hm)
    have hsame : m.text = q.text := congrArg (fun x => x.1.content) hpayload
    rw [← hsame]
    simpa using hfiltered.2
  · intro htest
    have hend : testFiltered (messages ++ [q]) = testFiltered messages ++ [q] := by
      simp [testFiltered,htest]
    rw [hend,List.map_append,List.map_singleton]
    refine ⟨(testFiltered messages).map MessageItem.payload ++ [q.payload],?_,by simp⟩
    cases (testFiltered messages).map MessageItem.payload <;> rfl

theorem draft_carries_iff (vm : AskQuestionViewModel) {q : Question} (htext : vm.text = q.text)
    (himage : vm.image = q.image) :
    (∃ r, draft p vm = some r ∧ q.CarriedBy p r) ↔ q.Kept p vm.pdfData := by
  unfold draft Question.Kept
  rw [htext,himage]
  cases hq : q.image with
  | some image =>
    cases hdata : p.pngData image with
    | none => simp [hdata]
    | some data => simp [hdata,hq,Question.CarriedBy]
  | none =>
    cases hpdf : vm.pdfData with
    | some pdfData => simp [hq,Question.CarriedBy]
    | none =>
      have hlast := handed_last vm.messages ⟨"",q.text,true,none,0,0⟩
      constructor
      · rintro ⟨r,hr,hcarried⟩
        obtain rfl := handed_eq_some hr
        exact ⟨hcarried.2.1,fun _ => hlast.mp ⟨_,hr,hcarried.2.2⟩⟩
      · rintro ⟨hnone,htest⟩
        obtain ⟨chat,hchat,hend⟩ := hlast.mpr (htest rfl)
        exact ⟨_,hchat,hq,hnone,hend⟩

namespace App

theorem questionDevice_requests (p : Platform) (a : App) :
    (a.questionDevice p).requests = a.device.requests := by
  unfold questionDevice
  split <;> rfl

theorem sendQuestion_unsent (h : ¬ ((a.device.isSendMessageLocked p).1 = false ∧
    Text.isBlank a.vm.text = false)) : (a.sendQuestion p).device.requests = a.device.requests := by
  have hrechecked := (a.device.rechecked_isSendMessageLocked p).requests
  cases hlock : (a.device.isSendMessageLocked p).1 with
  | true => simp [sendQuestion,hlock,handleSendWhenLimitReached,hrechecked]
  | false =>
    have hempty : (Text.trimmingCharacters a.vm.text).isEmpty = true := by
      simpa [hlock,Text.isBlank] using h
    simp [sendQuestion,hlock,hempty,hrechecked]

end App

def Resumable (p : Platform) (a : App) : Option Cause → Prop
  | some (.send q) => a.device.subscribed = true ∧
    ((a.questionDevice p).isSendMessageLocked p).1 = false ∧ Text.isBlank q.text = false
  | some (.retry q) => a.device.subscribed = true ∧
    (a.device.isSendMessageLocked p).1 = false ∧ Text.isBlank q.text = false
  | some .upgrade | none => False

def Cause.question : Cause → Option Question
  | .upgrade => none
  | .send q | .retry q => some q

def Intact (p : Platform) (a : App) (cause : Option Cause) : Prop :=
  ∀ q, cause.bind Cause.question = some q → q.Kept p a.vm.pdfData

theorem closePaywall_device (p : Platform) (a : App) :
    (a.step p .closePaywall).device =
      (if a.device.subscribed then
        if a.vm.wasTryAgainActionBeforeNavigationToPaywall then a.onTryAgainAction p
        else if a.vm.wasSendActionBeforeNavigationToPaywall then a.onSendAction p
        else a
      else a).device := rfl

/-- What closing the paywall issues: the blocked question, if it can be sent now. -/
structure Resumes (p : Platform) (a : App) (cause : Option Cause) : Prop where
  issues : Resumable p a cause → ∃ q r, cause.bind Cause.question = some q ∧ q.CarriedBy p r ∧
    (a.step p .closePaywall).device.requests = a.device.requests ++ [r]
  silent : ¬ Resumable p a cause →
    (a.step p .closePaywall).device.requests = a.device.requests

theorem resumes_unflagged {cause : Option Cause} (hnot : ¬ Resumable p a cause)
    (hsend : a.vm.wasSendActionBeforeNavigationToPaywall = false)
    (hretry : a.vm.wasTryAgainActionBeforeNavigationToPaywall = false) : Resumes p a cause where
  issues h := absurd h hnot
  silent _ := by
    rw [closePaywall_device]
    simp [hsend,hretry]

theorem resumes_iff_of_draft {cause : Cause} {q : Question} (vm : AskQuestionViewModel)
    (hq : cause.question = some q) (htext : vm.text = q.text) (himage : vm.image = q.image)
    (hpdf : vm.pdfData = a.vm.pdfData)
    (hsent : Resumable p a (some cause) → (a.step p .closePaywall).device.requests =
      a.device.requests ++ (draft p vm).toList)
    (hsilent : ¬ Resumable p a (some cause) →
      (a.step p .closePaywall).device.requests = a.device.requests) :
    Resumes p a (some cause) ↔ (Resumable p a (some cause) → Intact p a (some cause)) := by
  have hcarries := draft_carries_iff (p := p) vm htext himage
  rw [hpdf] at hcarries
  constructor
  · rintro h hres x hx
    obtain rfl : q = x := Option.some.inj (hq.symm.trans hx)
    obtain ⟨y,r,hy,hcarried,hrequests⟩ := h.issues hres
    obtain rfl : q = y := Option.some.inj (hq.symm.trans hy)
    rw [hsent hres] at hrequests
    refine hcarries.mp ⟨r,?_,hcarried⟩
    have hdraft := List.append_cancel_left hrequests
    cases hd : draft p vm <;> simp_all
  · intro h
    refine ⟨fun hres => ?_,hsilent⟩
    obtain ⟨r,hdraft,hcarried⟩ := hcarries.mpr (h hres q hq)
    exact ⟨q,r,hq,hcarried,by rw [hsent hres,hdraft]; rfl⟩

theorem resumes_send (hsend : a.vm.wasSendActionBeforeNavigationToPaywall = true)
    (hretry : a.vm.wasTryAgainActionBeforeNavigationToPaywall = false)
    (hidle : a.vm.isAnswerError = false ∧ a.vm.isTyping = false ∧ a.vm.isLoading = false)
    (hvalue : commandValue p a.vm.text = none) :
    Resumes p a (some (.send a.drafted)) ↔
      (Resumable p a (some (.send a.drafted)) → Intact p a (some (.send a.drafted))) := by
  have hrequests := a.questionDevice_requests p
  have hsame := onSendAction_questionDevice hidle hvalue
  refine resumes_iff_of_draft a.vm rfl rfl rfl rfl ?_ fun hnot => ?_
  · rintro ⟨hsubscribed,hopen,hblank⟩
    rw [closePaywall_device]
    simp only [hsubscribed,hretry,hsend,if_true,Bool.false_eq_true,if_false]
    rw [hsame,(@sendQuestion_draft p { a with device := a.questionDevice p } hopen hblank).2,
      hrequests]
  · rw [closePaywall_device]
    cases hsubscribed : a.device.subscribed with
    | false => simp
    | true =>
      simp only [hretry,hsend,if_true,Bool.false_eq_true,if_false]
      rw [hsame,@sendQuestion_unsent p { a with device := a.questionDevice p }
        (fun hopen => hnot ⟨hsubscribed,hopen⟩),hrequests]

theorem resumes_retry (ho : Orderly p a)
    (hretry : a.vm.wasTryAgainActionBeforeNavigationToPaywall = true)
    (herror : a.vm.isAnswerError = true) :
    Resumes p a (some (.retry a.retried)) ↔
      (Resumable p a (some (.retry a.retried)) → Intact p a (some (.retry a.retried))) := by
  obtain ⟨htyping,m,hlast,hmy,hsendable⟩ := ho.waiting (.inr herror)
  have hretried : a.retried = ⟨m.text,m.image,a.device.sentDocument⟩ := by simp [retried,hlast]
  have hrequests := (a.device.rechecked_isSendMessageLocked p).requests
  have hrestored := restored_eq (p := p) hlast (.inl ho.isDialog) hsendable.1
  rw [hretried]
  refine resumes_iff_of_draft (a.vm.restored p) rfl (by rw [hrestored]) (by rw [hrestored])
    (by rw [hrestored]) ?_ fun hnot => ?_
  · rintro ⟨hsubscribed,hopen,-⟩
    rw [closePaywall_device]
    simp only [hsubscribed,hretry,if_true]
    rw [onTryAgainAction_open hlast hmy hopen,hrestored]
    have hdraft := (@onSendAction_draft p { a with
      device := (a.device.isSendMessageLocked p).2
      vm := { a.vm with
        isAnswerError := false
        messages := a.vm.messages.dropLast
        text := m.text
        image := m.image } } ⟨rfl,htyping,ho.failed herror⟩ hsendable
      (Device.hasQuota_of_unlocked hopen)).2
    rw [hdraft,hrequests]
  · rw [closePaywall_device]
    cases hsubscribed : a.device.subscribed with
    | false => simp
    | true =>
      have hlock : (a.device.isSendMessageLocked p).1 = true := by
        by_contra hopen
        exact hnot ⟨hsubscribed,by simpa using hopen,hsendable.1⟩
      simp only [hretry,if_true]
      rw [onTryAgainAction_locked hlast hmy hlock]
      exact hrequests

theorem Held.resumes_iff {cause : Option Cause} (ho : Orderly p a) (h : Held p a cause) :
    Resumes p a cause ↔ (Resumable p a cause → Intact p a cause) := by
  have hunflagged {cause : Option Cause} (hnot : ¬ Resumable p a cause)
      (send : a.vm.wasSendActionBeforeNavigationToPaywall = false)
      (retry : a.vm.wasTryAgainActionBeforeNavigationToPaywall = false) :
      Resumes p a cause ↔ (Resumable p a cause → Intact p a cause) :=
    iff_of_true (resumes_unflagged hnot send retry) fun hres => absurd hres hnot
  cases h with
  | free _ send retry => exact hunflagged id send retry
  | upgrade _ send retry => exact hunflagged id send retry
  | send _ send retry idle value => exact resumes_send send retry idle value
  | retry _ _ retry failed => exact resumes_retry ho retry failed

/-- A blocked action is remembered while the paywall that it opened is up, and
closing that resumes it once, if it can be sent now. -/
structure ResumedOnce (p : Platform) (w : Watched) : Prop where
  exclusive : ¬ (w.app.vm.wasSendActionBeforeNavigationToPaywall = true ∧
    w.app.vm.wasTryAgainActionBeforeNavigationToPaywall = true)
  send : w.app.vm.wasSendActionBeforeNavigationToPaywall = true →
    w.app.vm.showBuyPro = true ∧ ∃ q, w.cause = some (.send q)
  retry : w.app.vm.wasTryAgainActionBeforeNavigationToPaywall = true →
    w.app.vm.showBuyPro = true ∧ ∃ q, w.cause = some (.retry q)
  cleared : (w.app.step p .closePaywall).vm.wasSendActionBeforeNavigationToPaywall = false ∧
    (w.app.step p .closePaywall).vm.wasTryAgainActionBeforeNavigationToPaywall = false
  resumes : Resumes p w.app w.cause
  again : ((w.app.step p .closePaywall).step p .closePaywall).device.requests =
    (w.app.step p .closePaywall).device.requests

theorem Held.flags {cause : Option Cause} (h : Held p a cause) :
    (a.vm.wasSendActionBeforeNavigationToPaywall = true →
      a.vm.wasTryAgainActionBeforeNavigationToPaywall = false ∧ a.vm.showBuyPro = true ∧
        ∃ q, cause = some (.send q)) ∧
    (a.vm.wasTryAgainActionBeforeNavigationToPaywall = true →
      a.vm.showBuyPro = true ∧ ∃ q, cause = some (.retry q)) := by
  cases h with
  | free _ send retry | upgrade _ send retry => simp [send,retry]
  | send cover _ retry => exact ⟨fun _ => ⟨retry,cover,_,rfl⟩,fun h => by simp [retry] at h⟩
  | retry cover send => exact ⟨fun h => by simp [send] at h,fun _ => ⟨cover,_,rfl⟩⟩

/-- In every session, whatever opened the paywall and whatever arrives under it:
a blocked action is remembered and resumed as it should be, exactly if the
question, where it is to be resumed, would still go out whole. -/
theorem blocked_question_resumed_iff (d : Device) (moc : ManagedObjectContext) (chat : Option Nat)
    (allObjects : List Message) {es : List ChatEvent} {w : Watched}
    (hrun : Run (Watched.step p) Watched.Allowed (.start p d moc chat allObjects) es w) :
    ResumedOnce p w ↔ (Resumable p w.app w.cause → Intact p w.app w.cause) := by
  obtain ⟨ho,h⟩ := held_run hrun
  have hdone : (w.app.step p .closePaywall).vm.wasSendActionBeforeNavigationToPaywall = false ∧
      (w.app.step p .closePaywall).vm.wasTryAgainActionBeforeNavigationToPaywall = false := by
    cases Held.closed p w.app with
    | free _ send retry => exact ⟨send,retry⟩
  have hagain : Resumes p (w.app.step p .closePaywall) none :=
    resumes_unflagged id hdone.1 hdone.2
  rw [← h.resumes_iff ho]
  refine ⟨ResumedOnce.resumes,fun hresumes => ?_⟩
  refine ⟨?_,fun hsend => (h.flags.1 hsend).2,h.flags.2,hdone,hresumes,?_⟩
  · rintro ⟨hsend,hretry⟩
    simp [(h.flags.1 hsend).1] at hretry
  · exact hagain.silent id

def usedUp : Device := { firestore := { aikey := some "key", freeRequests := 0 } }

def boughtUnderPaywall : ChatEvent :=
  .session (.device (.verified .purchase (.success
    ⟨some [{ productId := some "com.nisos.gpt.advanced.week", expirationDate := some 100 }],none⟩)))

theorem bought_and_resumed :
    let p := Platform.plain Int.ofNat
    let es : List ChatEvent :=
      [.session (.setText "Hello"),.session .onSendAction,boughtUnderPaywall]
    let w := es.foldl (Watched.step p) (.start p usedUp {} none [])
    w.cause = some (.send ⟨"Hello",none,none⟩) ∧ ResumedOnce p w ∧
      w.app.device.requests = [] ∧ (w.app.step p .closePaywall).device.requests =
        [.text [(⟨.user,"Hello"⟩,0)]] := by
  intro p es w
  have hallowed : Each (Watched.step p) Watched.Allowed (.start p usedUp {} none []) es := by
    decide
  have hcause : w.cause = some (.send ⟨"Hello",none,none⟩) := by decide
  have hkept : Intact p w.app w.cause := by
    rw [hcause]
    rintro q hq
    cases hq
    exact ⟨by decide,fun _ => by decide⟩
  exact ⟨hcause,(blocked_question_resumed_iff usedUp {} none [] hallowed.run).mpr fun _ => hkept,
    by decide,by decide⟩

/-- A question with a test phrase goes nowhere after the purchase, and a retried
document question goes out without its document. -/
theorem resumed_question_lost :
    let p := Platform.plain Int.ofNat
    let text := "Why does it say Temperature is set to 21?"
    let es : List ChatEvent :=
      [.session (.setText text),.session .onSendAction,boughtUnderPaywall]
    let w := es.foldl (Watched.step p) (.start p usedUp {} none [])
    let start : Watched := .start p (.withFreeTokens 3000) {} none []
    let es' : List ChatEvent := failedDocument.map .session ++
      [.session (.device (.fetchSystem (some [.dayLimit (some 0) none none none none]))),
        .session .onTryAgainAction,boughtUnderPaywall]
    let w' := es'.foldl (Watched.step p) start
    Run (Watched.step p) Watched.Allowed (.start p usedUp {} none []) es w ∧
      w.cause = some (.send ⟨text,none,none⟩) ∧ Resumable p w.app w.cause ∧
      (w.app.step p .closePaywall).device.requests = [] ∧ ¬ ResumedOnce p w ∧
      Run (Watched.step p) Watched.Allowed start es' w' ∧
      w'.cause = some (.retry ⟨"Sum up",none,some [1]⟩) ∧ Resumable p w'.app w'.cause ∧
      (w'.app.step p .closePaywall).device.requests =
        [.document [1] "Sum up",.text [(⟨.user,"Sum up"⟩,0)]] ∧ ¬ ResumedOnce p w' := by
  intro p text es w start es' w'
  have hallowed : Each (Watched.step p) Watched.Allowed (.start p usedUp {} none []) es := by
    decide +kernel
  have hallowed' : Each (Watched.step p) Watched.Allowed start es' := by decide +kernel
  have hcause : w.cause = some (.send ⟨text,none,none⟩) := by decide +kernel
  have hcause' : w'.cause = some (.retry ⟨"Sum up",none,some [1]⟩) := by decide +kernel
  have hres : Resumable p w.app w.cause := by
    rw [hcause]
    exact ⟨by decide +kernel,by decide +kernel,by decide +kernel⟩
  have hres' : Resumable p w'.app w'.cause := by
    rw [hcause']
    exact ⟨by decide +kernel,by decide +kernel,by decide +kernel⟩
  have hnone : (w.app.step p .closePaywall).device.requests = [] := by decide +kernel
  have htext : (w'.app.step p .closePaywall).device.requests =
      [.document [1] "Sum up",.text [(⟨.user,"Sum up"⟩,0)]] := by decide +kernel
  have hbefore : w'.app.device.requests = [.document [1] "Sum up"] := by decide +kernel
  refine ⟨hallowed.run,hcause,hres,hnone,fun h => ?_,hallowed'.run,hcause',hres',htext,fun h => ?_⟩
  · obtain ⟨q,r,-,-,hrequests⟩ := h.resumes.issues hres
    rw [hnone] at hrequests
    exact List.append_ne_nil_of_right_ne_nil _ (List.cons_ne_nil r []) hrequests.symm
  · obtain ⟨q,r,hq,hcarried,hrequests⟩ := h.resumes.issues hres'
    rw [hcause'] at hq
    cases hq
    rw [htext,hbefore] at hrequests
    obtain rfl : Payload.text [(⟨.user,"Sum up"⟩,0)] = r := by simpa using hrequests
    cases hcarried.2.1

end GenieD

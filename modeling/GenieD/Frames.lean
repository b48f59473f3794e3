import GenieD.Saving
import GenieD.Screen

set_option autoImplicit false

namespace GenieD

open Relation

theorem Issued.noted {p : Platform} {a b : App} (h : Issued p a b) :
    ∃ d, App.Probed a.device d ∧ Noted (fun e => e.isNetwork = true) d b.device := by
  cases h with
  | waiting q d f text image pdfData _ hd =>
    exact ⟨_,⟨_,_,Nat.le_succ _,rfl⟩,hd.mono fun _ he => he.isNetwork⟩
  | failed q d text image pdfData _ hd =>
    exact ⟨_,⟨_,_,Nat.le_succ _,rfl⟩,hd.mono fun _ he => he.isNetwork⟩

namespace App

theorem Refreshed.noted {chat : List MessageItem} {d d' : Device} (h : Refreshed chat d d') :
    ∃ firestore, Noted (fun e => e.isNetwork = true) { d with firestore } d' := by
  obtain ⟨firestore,hnoted⟩ := h
  exact ⟨firestore,hnoted.mono fun _ he => by rw [he]; rfl⟩

structure Redrawn (vm vm' : AskQuestionViewModel) : Prop where
  isDialog : vm'.isDialog = vm.isDialog
  showDeleteChatButton : vm'.showDeleteChatButton = vm.showDeleteChatButton
  typing : vm'.typingMessageId = vm.typingMessageId ∨ vm'.typingMessageId = none
  messages : ∀ m ∈ vm'.messages, m ∈ vm.messages

theorem Redrawn.of_eq {vm vm' : AskQuestionViewModel} (hdialog : vm'.isDialog = vm.isDialog)
    (hbutton : vm'.showDeleteChatButton = vm.showDeleteChatButton)
    (htyping : vm'.typingMessageId = vm.typingMessageId) (hmessages : vm'.messages = vm.messages) :
    Redrawn vm vm' := ⟨hdialog,hbutton,.inl htyping,fun _ hm => hmessages ▸ hm⟩

/-- What the steps of a dialog are made of, but for the answer that may come last. -/
inductive Effect (p : Platform) (a : App) : App → Prop where
  | probed (d : Device) (hd : Probed a.device d) : Effect p a { a with device := d }
  | rechecked (d : Device) (hd : a.device.Rechecked d) : Effect p a { a with device := d }
  | redrawn (vm : AskQuestionViewModel) (hvm : Redrawn a.vm vm) : Effect p a { a with vm }
  | commanded (b : App) (hb : Commanded p a b) : Effect p a b
  | issued (b : App) (hb : Issued p a b) : Effect p a b
  | taken (index : Nat) (r : Request) (d : Device) (hr : a.pending[index]? = some r)
      (hd : Refreshed r.flight.chat a.device d) :
      Effect p a { a with device := d, pending := a.pending.eraseIdx index }
  | continued (index : Nat) (r : Request) (d : Device) (f : Flight)
      (hr : a.pending[index]? = some r) (hd : Refreshed r.flight.chat a.device d)
      (hf : f.chat = r.flight.chat) :
      Effect p a
        { a with device := d, pending := a.pending.eraseIdx index ++ [⟨r.questionId,f⟩] }
  | saved : Effect p a (a.saveChat p)

abbrev Effects (p : Platform) : App → App → Prop := ReflTransGen (Effect p)

variable {p : Platform} {a b : App}

theorem effects_redrawn {vm : AskQuestionViewModel} (h : Effects p a b) (hvm : Redrawn b.vm vm) :
    Effects p a { b with vm } := h.tail (.redrawn vm hvm)

theorem effects_looked {d d' : Device} (hd : Probed a.device d) (hd' : d.Rechecked d') :
    Effects p a { a with device := d' } :=
  .tail (.single (.probed d hd)) (.rechecked (a := { a with device := d }) d' hd')

theorem effects_sent (h : Sent p a b) : Effects p a b := by
  cases h with
  | busy => exact .refl
  | command value b _ _ hb => exact .single (.commanded b hb)
  | locked d d' _ _ hd hd' => exact effects_redrawn (effects_looked hd hd') (.of_eq rfl rfl rfl rfl)
  | blank d d' hd hd' => exact effects_looked hd hd'
  | issued d d' b _ _ hd hd' _ hb => exact (effects_looked hd hd').tail (.issued b hb)

theorem effects_triedAgain (h : TriedAgain p a b) : Effects p a b := by
  cases h with
  | nothing => exact .refl
  | locked q d _ hd => exact effects_redrawn (.single (.rechecked d hd)) (.of_eq rfl rfl rfl rfl)
  | resent q d _ _ hd _ =>
    obtain ⟨t,ht⟩ := resentDraft_eq p a.vm q
    rw [ht]
    refine .trans ?_ (effects_sent (sent_onSendAction p _))
    exact effects_redrawn (.single (.rechecked d hd))
      ⟨rfl,rfl,.inl rfl,fun m hm => List.mem_of_mem_dropLast hm⟩

inductive Brings (a : App) : Event → ChatResponse → Prop where
  | described (index : Nat) (outcome : Outcome) (output : String) :
      Brings a (.complete index outcome) ⟨output,0,0⟩
  | responded (index : Nat) (r : Request) (chat : List MessageItem) (refreshToken : Bool)
      (body : TurboBody) (turbo : TextTurboResponse) (hr : a.pending[index]? = some r)
      (hflight : r.flight = .post chat refreshToken body) :
      Brings a (.complete index (.responded (some turbo))) turbo.toChatResponse

/-- After the effects of an event nothing more happens, or the response it brings is shown. -/
def AnswersTo (p : Platform) (a : App) (e : Event) (c b : App) : Prop :=
  b = c ∨ ∃ response questionId, Brings a e response ∧
    b = c.handleSendTextResponse p (some response) questionId

theorem effects_completed {index : Nat} {outcome : Outcome} (h : Completed p a index outcome b) :
    ∃ c, Effects p a c ∧ AnswersTo p a (.complete index outcome) c b := by
  cases h with
  | ignored => exact ⟨a,.refl,.inl rfl⟩
  | continued r d f hr hd hf =>
    exact ⟨_,.single (.continued index r d f hr hd hf.chat_eq),.inl rfl⟩
  | settled r d result hr hd hresult =>
    have htaken := ReflTransGen.single (Effect.taken (p := p) index r d hr hd)
    cases result with
    | none =>
      refine ⟨_,htaken.tail (.redrawn { a.vm with
        isLoading := false, isAnswerError := true, shouldScrollToBottom := true } ?_),.inl rfl⟩
      exact .of_eq rfl rfl rfl rfl
    | some response =>
      refine ⟨_,htaken,.inr ⟨response,r.questionId,?_,rfl⟩⟩
      rcases hresult response rfl with ⟨output,rfl⟩ |
        ⟨chat,refreshToken,body,turbo,hflight,rfl,rfl⟩
      · exact .described index outcome output
      · exact .responded index r chat refreshToken body turbo hr hflight

theorem effects_step (p : Platform) (a : App) {e : Event} (he : ∀ d, e ≠ .device d) :
    ∃ c, Effects p a c ∧ AnswersTo p a e c (a.step p e) := by
  have hsilent (h : Effects p a (a.step p e)) :
      ∃ c, Effects p a c ∧ AnswersTo p a e c (a.step p e) := ⟨_,h,.inl rfl⟩
  have hredrawn {vm : AskQuestionViewModel} (hvm : Redrawn a.vm vm) : Effects p a { a with vm } :=
    effects_redrawn .refl hvm
  cases e with
  | setText text => exact hsilent (hredrawn (.of_eq rfl rfl rfl rfl))
  | setImage image =>
    obtain ⟨t,ht⟩ := setImage_eq p a.vm image
    refine hsilent (hredrawn ?_)
    rw [ht]
    exact .of_eq rfl rfl rfl rfl
  | setPdfData pdfData =>
    obtain ⟨t,ht⟩ := setPdfData_eq p a.vm pdfData
    refine hsilent (hredrawn ?_)
    rw [ht]
    exact .of_eq rfl rfl rfl rfl
  | setChatNameText text => exact hsilent (hredrawn (.of_eq rfl rfl rfl rfl))
  | onSendAction => exact hsilent (effects_sent (sent_onSendAction p a))
  | onFinishTyping => exact hsilent (hredrawn ⟨rfl,rfl,.inr rfl,fun _ => id⟩)
  | onTryAgainAction => exact hsilent (effects_triedAgain (triedAgain_onTryAgainAction p a))
  | closePaywall =>
    obtain ⟨b,hb,hstep⟩ := closePaywall_cases p a
    have hdone : Effects p a b := by
      rcases hb with rfl | ⟨-,hb⟩ | ⟨-,hb⟩
      · exact .refl
      · exact effects_sent hb
      · exact effects_triedAgain hb
    refine hsilent ?_
    rw [hstep]
    exact effects_redrawn hdone (.of_eq rfl rfl rfl rfl)
  | upgrade => exact hsilent (hredrawn (.of_eq rfl rfl rfl rfl))
  | saveChat => exact hsilent (.single .saved)
  | complete index outcome => exact effects_completed (completed_complete p a index outcome)
  | device d => exact absurd rfl (he d)

section Frame

variable {R : App → App → Prop} (hrefl : ∀ a, R a a) (htrans : ∀ {a b c}, R a b → R b c → R a c)
  (heffect : ∀ {a b}, Effect p a b → R a b)

include hrefl htrans heffect

theorem frame_effects (h : Effects p a b) : R a b := by
  induction h with
  | refl => exact hrefl a
  | tail _ hlast ih => exact htrans ih (heffect hlast)

/-- A relation that every effect and the answer keep is kept by a step. -/
theorem frame_step {e : Event} (hanswer : ∀ c response questionId, Brings a e response →
      R c (handleSendTextResponse p c (some response) questionId))
    (he : ∀ d, e ≠ .device d) : R a (a.step p e) := by
  obtain ⟨c,hc,hstep⟩ := effects_step p a he
  have hkept := frame_effects hrefl htrans heffect hc
  rcases hstep with hstep | ⟨response,questionId,hbrings,hstep⟩
  · rw [hstep]
    exact hkept
  · rw [hstep]
    exact htrans hkept (hanswer c response questionId hbrings)

end Frame

end App

inductive Screen.Acted (p : Platform) (s : Screen) : Act → Device → Prop where
  | same (act : Act) : Acted p s act s.device
  | opened (chat : Option Nat) (allObjects : List Message) (reads : Nat) :
      Acted p s (.openChat chat allObjects) { s.device with reads, temperature := none }
  | device (e : DeviceEvent) : Acted p s (.device e) (s.device.step p e)
  | session (a : App) (e : Event) (ha : a.device = s.device) :
      Acted p s (.session e) (a.step p e).device
  | saved (act : Act) (a : App) (ha : a.device = s.device) : Acted p s act (a.saveChat p).device
  | launch : Acted p s .launch (s.launch p).device

theorem Screen.acted_step (p : Platform) (s : Screen) (act : Act) :
    s.Acted p act (s.step p act).device := by
  cases s with
  | home device moc =>
    cases act with
    | device e => exact .device e
    | openChat chat allObjects =>
      obtain ⟨reads,hdevice⟩ := (unstarted_openScreen p device moc true chat allObjects).device
      simp only [Screen.step,Screen.device,hdevice]
      exact .opened (s := .home device moc) chat allObjects reads
    | launch => exact .launch
    | session | leave | onDeleteChatAction => exact .same _
  | dialog a =>
    cases act with
    | session e => exact .session a e rfl
    | leave => exact .saved _ a rfl
    | onDeleteChatAction => exact .saved _ a.onDeleteChatAction a.device_onDeleteChatAction
    | launch => exact .launch
    | device | openChat => exact .same _

end GenieD

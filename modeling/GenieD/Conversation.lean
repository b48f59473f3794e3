import GenieD.Effects

set_option autoImplicit false

namespace GenieD

open Runs Dialogs App

abbrev Conversation := Dialog MessageItem.isMy

def Amends (q r : MessageItem) : Prop := ∃ usageTokens, r = { q with usageTokens }

def isWaiting (d : Conversation) : Bool := d.asked.any (fun q => q.2 = .waiting)

def hasFailed (d : Conversation) : Bool := d.asked.any (fun q => q.2 = .failed)

/-- An id that `UUID()` will not return any more. -/
def Spent (p : Platform) (uuids : Nat) (id : String) : Prop := ∀ n, uuids ≤ n → id ≠ p.uuid n

theorem Spent.mono {p : Platform} {m n : Nat} {id : String} (h : Spent p m id) (hle : m ≤ n) :
    Spent p n id := fun k hk => h k (hle.trans hk)

theorem spent_uuid (p : Platform) {m n : Nat} (h : m < n) : Spent p n (p.uuid m) := by
  intro k hk heq
  have := p.uuid_injective heq
  omega

/-- The screen shows a conversation: its flags tell the fate of the open
question, and a request is in flight exactly for a question that waits. -/
structure Shows (p : Platform) (a : App) (d : Conversation) : Prop where
  isDialog : a.vm.isDialog = true
  messages : a.vm.messages = d.messages
  isLoading : a.vm.isLoading = isWaiting d
  isAnswerError : a.vm.isAnswerError = hasFailed d
  pending : a.pending.map Request.questionId =
    if isWaiting d then (d.asked.map (fun q => q.1.val.id)).toList else []
  silent : d.asked ≠ none → a.vm.typingMessageId = none
  sendable : ∀ q ∈ d.asked, Sendable p q.1.val.text
  spent : ∀ m ∈ a.vm.messages, Spent p a.device.uuids m.id
  distinct : ∀ q ∈ d.asked, ∀ m ∈ transcript d.exchanges, m.id ≠ q.1.val.id

/-- A blocked retry is remembered only under the paywall that blocked it. -/
def Flagged (a : App) : Prop :=
  a.vm.wasTryAgainActionBeforeNavigationToPaywall = true →
    a.vm.showBuyPro = true ∧ a.vm.isAnswerError = true

variable {p : Platform}

theorem Shows.congr {a b : App} {d : Conversation} (h : Shows p a d)
    (hdialog : b.vm.isDialog = a.vm.isDialog) (hmessages : b.vm.messages = a.vm.messages)
    (hloading : b.vm.isLoading = a.vm.isLoading)
    (herror : b.vm.isAnswerError = a.vm.isAnswerError)
    (hpending : b.pending.map Request.questionId = a.pending.map Request.questionId)
    (htyping : a.vm.typingMessageId = none → b.vm.typingMessageId = none)
    (huuids : a.device.uuids ≤ b.device.uuids) : Shows p b d where
  isDialog := hdialog.trans h.isDialog
  messages := hmessages.trans h.messages
  isLoading := hloading.trans h.isLoading
  isAnswerError := herror.trans h.isAnswerError
  pending := hpending.trans h.pending
  silent hasked := htyping (h.silent hasked)
  sendable := h.sendable
  spent m hm := (h.spent m (hmessages ▸ hm)).mono huuids
  distinct := h.distinct

theorem Shows.closed {a : App} {d : Conversation} (h : Shows p a d)
    (hloading : a.vm.isLoading = false) (herror : a.vm.isAnswerError = false) :
    d = ⟨d.exchanges,none⟩ := by
  obtain ⟨es,asked⟩ := d
  cases asked with
  | none => rfl
  | some q =>
    obtain ⟨q,f⟩ := q
    have hw := h.isLoading
    have hf := h.isAnswerError
    cases f <;> simp_all [isWaiting,hasFailed]

theorem Shows.failed {a : App} {d : Conversation} (h : Shows p a d)
    (herror : a.vm.isAnswerError = true) : ∃ q, d = ⟨d.exchanges,some (q,.failed)⟩ := by
  obtain ⟨es,asked⟩ := d
  have hf := h.isAnswerError
  cases asked with
  | none => simp_all [hasFailed]
  | some q =>
    obtain ⟨q,f⟩ := q
    cases f with
    | waiting => simp_all [hasFailed]
    | failed => exact ⟨q,rfl⟩

theorem Shows.waiting {a : App} {d : Conversation} (h : Shows p a d) {index : Nat} {r : Request}
    (hr : a.pending[index]? = some r) :
    ∃ q, d = ⟨d.exchanges,some (q,.waiting)⟩ ∧ a.pending = [r] ∧ index = 0 ∧
      r.questionId = q.val.id := by
  obtain ⟨es,asked⟩ := d
  have hp := h.pending
  have hne : a.pending ≠ [] := by
    rintro hnil
    simp [hnil] at hr
  cases asked with
  | none => simp [isWaiting,hne] at hp
  | some q =>
    obtain ⟨q,f⟩ := q
    cases f with
    | failed => simp [isWaiting,hne] at hp
    | waiting =>
      simp only [isWaiting,Option.any_some,decide_true,if_true,Option.map_some,Option.toList_some]
        at hp
      obtain ⟨r',hpending,hid⟩ := List.map_eq_singleton_iff.mp hp
      rw [hpending] at hr
      cases index with
      | succ n => simp at hr
      | zero =>
        cases hr
        exact ⟨q,rfl,hpending,rfl,hid⟩

theorem Device.Rechecked.uuids_le {d d' d'' : Device} (hd' : d'.Rechecked d'') (hd : Probed d d') :
    d.uuids ≤ d''.uuids := by
  obtain ⟨reads,uuids,hle,rfl⟩ := hd
  rw [hd'.uuids]
  exact hle

theorem Handed.uuids {messages : List MessageItem} {d d' : Device} (h : Handed messages d d') :
    d'.uuids = d.uuids + 1 := by
  obtain ⟨entries,-,rfl⟩ := h
  rfl

theorem fresh_id {d : Device} {text : String} {q : MessageItem} {ms : List MessageItem}
    (hq : IsNewQuestion p d text q) (hspent : ∀ m ∈ ms, Spent p d.uuids m.id) :
    ∀ m ∈ ms, m.id ≠ q.id := by
  intro m hm
  rw [hq.id]
  exact hspent m hm d.uuids (Nat.le_refl _)

theorem Shows.issued {a b : App} {es : List (Exchange MessageItem.isMy)}
    (h : Shows p a ⟨es,none⟩) (hsend : Sendable p a.vm.text)
    (htyping : a.vm.typingMessageId = none) (hb : Issued p a b) :
    ∃ q, Shows p b ⟨es,some (q,.waiting)⟩ ∨ Shows p b ⟨es,some (q,.failed)⟩ := by
  have hmessages : a.vm.messages = transcript es := by simpa using h.messages
  have hpending : a.pending = [] := by simpa [isWaiting] using h.pending
  have herror : a.vm.isAnswerError = false := by simpa [hasFailed] using h.isAnswerError
  have hspent {q : MessageItem} {d : Device} (hq : IsNewQuestion p a.device a.vm.text q)
      (hd : Handed (a.vm.messages ++ [q]) a.device d) :
      ∀ m ∈ a.vm.messages ++ [q], Spent p d.uuids m.id := by
    intro m hm
    rw [hd.uuids]
    rcases List.mem_append.mp hm with hold | hnew
    · exact (h.spent m hold).mono (Nat.le_succ _)
    · rw [List.mem_singleton.mp hnew,hq.id]
      exact spent_uuid p (Nat.lt_succ_self _)
  cases hb with
  | waiting q d f text image pdfData hq hd =>
    refine ⟨⟨q,hq.isMy⟩,.inl ?_⟩
    exact {
      isDialog := h.isDialog
      messages := by simp [hmessages]
      isLoading := by simp [isWaiting]
      isAnswerError := by simp [hasFailed,herror]
      pending := by simp [isWaiting,hpending]
      silent := fun _ => htyping
      sendable := by simpa [hq.text] using hsend
      spent := hspent hq hd
      distinct := by simpa [← hmessages] using fresh_id hq h.spent }
  | failed q d text image pdfData hq hd =>
    refine ⟨⟨q,hq.isMy⟩,.inr ?_⟩
    exact {
      isDialog := h.isDialog
      messages := by simp [hmessages]
      isLoading := by simp [isWaiting]
      isAnswerError := by simp [hasFailed]
      pending := by simp [isWaiting,hpending]
      silent := fun _ => htyping
      sendable := by simpa [hq.text] using hsend
      spent := hspent hq hd
      distinct := by simpa [← hmessages] using fresh_id hq h.spent }

theorem Shows.command {a b : App} {es : List (Exchange MessageItem.isMy)}
    (h : Shows p a ⟨es,none⟩) (hb : Commanded p a b) : ∃ e, Shows p b ⟨es ++ [e],none⟩ := by
  have hmessages : a.vm.messages = transcript es := by simpa using h.messages
  cases hb with
  | mk q r temperature reads text hq hid hmy =>
    refine ⟨⟨q,r,hq.isMy,hmy⟩,?_⟩
    exact {
      isDialog := h.isDialog
      messages := by simp [hmessages]
      isLoading := h.isLoading
      isAnswerError := h.isAnswerError
      pending := by simpa [isWaiting] using h.pending
      silent := by simp
      sendable := by simp
      spent := by
        intro m hm
        simp only [List.mem_append,List.mem_singleton,or_assoc] at hm
        rcases hm with hold | rfl | rfl
        · exact (h.spent m hold).mono (Nat.le_add_right _ 2)
        · exact hq.id ▸ spent_uuid p (Nat.lt_add_of_pos_right (by decide))
        · exact hid ▸ spent_uuid p (Nat.lt_succ_self _)
      distinct := by simp }

theorem modify_asked {ms : List MessageItem} {q : MessageItem} (hdistinct : ∀ m ∈ ms, m.id ≠ q.id)
    (f : MessageItem → MessageItem) :
    (ms ++ [q]).modify ((ms ++ [q]).findIdx (fun m => m.id = q.id)) f = ms ++ [f q] := by
  have hidx : (ms ++ [q]).findIdx (fun m => m.id = q.id) = ms.length := by
    have hnone : ms.findIdx (fun m => m.id = q.id) = ms.length :=
      List.findIdx_eq_length.mpr (by simpa using hdistinct)
    rw [List.findIdx_append]
    simp [hnone]
  rw [hidx,List.modify_eq_take_cons_drop (by simp)]
  simp

theorem Shows.settled {a : App} {es : List (Exchange MessageItem.isMy)}
    {q : Question MessageItem.isMy} (h : Shows p a ⟨es,some (q,.waiting)⟩) (d : Device)
    (hd : a.device.uuids ≤ d.uuids) (result : Option ChatResponse) :
    ∃ c, Step Amends ⟨es,some (q,.waiting)⟩ c ∧
      Shows p
        (handleSendTextResponse p { a with device := d, pending := [] } result q.val.id) c := by
  have hmessages : a.vm.messages = transcript es ++ [q.val] := by simpa using h.messages
  have htyping : a.vm.typingMessageId = none := h.silent (by simp)
  have herror : a.vm.isAnswerError = false := by simpa [hasFailed] using h.isAnswerError
  have hdistinct := h.distinct (q,.waiting) (by simp)
  cases result with
  | none =>
    refine ⟨⟨es,some (q,.failed)⟩,.fail es q,?_⟩
    exact {
      isDialog := h.isDialog
      messages := by simpa [handleSendTextResponse] using hmessages
      isLoading := by simp [handleSendTextResponse,isWaiting]
      isAnswerError := by simp [handleSendTextResponse,hasFailed]
      pending := by simp [handleSendTextResponse,isWaiting]
      silent := fun _ => htyping
      sendable := by simpa using h.sendable
      spent := fun m hm => (h.spent m hm).mono hd
      distinct := by simpa using hdistinct }
  | some response =>
    let question : MessageItem := { q.val with usageTokens := response.promptTokens }
    let answer : MessageItem :=
      ⟨p.uuid d.uuids,response.output,false,none,p.clock d.reads,response.completionTokens⟩
    have hafter : (handleSendTextResponse p { a with device := d, pending := [] } (some response)
        q.val.id).vm.messages = transcript es ++ [question,answer] := by
      simp only [handleSendTextResponse,hmessages]
      rw [modify_asked hdistinct]
      simp [question,answer,Device.newMessage,Device.questionsCountIncrement,
        Device.setAccessQuestionsCount]
    refine ⟨⟨es ++ [⟨question,answer,q.property,rfl⟩],none⟩,
      .answer es q _ ⟨response.promptTokens,rfl⟩,?_⟩
    exact {
      isDialog := h.isDialog
      messages := by simp [hafter]
      isLoading := by simp [handleSendTextResponse,isWaiting]
      isAnswerError := by simpa [handleSendTextResponse,hasFailed] using herror
      pending := by simp [handleSendTextResponse,isWaiting]
      silent := by simp
      sendable := by simp
      spent := by
        intro m hm
        have huuids : (handleSendTextResponse p { a with device := d, pending := [] }
            (some response) q.val.id).device.uuids = d.uuids + 1 := rfl
        rw [huuids]
        rw [hafter] at hm
        have hold {x : MessageItem} (hx : x ∈ a.vm.messages) : Spent p (d.uuids + 1) x.id :=
          (h.spent x hx).mono (Nat.le_succ_of_le hd)
        simp only [List.mem_append,List.mem_cons,List.not_mem_nil,or_false] at hm
        rcases hm with hm | rfl | rfl
        · exact hold (by simp [hmessages,hm])
        · exact hold (x := q.val) (by simp [hmessages])
        · exact spent_uuid p (Nat.lt_succ_self _)
      distinct := by simp }

theorem App.Sent.keeps_retry {a b : App} (h : Sent p a b) :
    b.vm.wasTryAgainActionBeforeNavigationToPaywall =
      a.vm.wasTryAgainActionBeforeNavigationToPaywall := by
  cases h with
  | busy => rfl
  | command value b _ _ hb => cases hb; rfl
  | locked => rfl
  | blank => rfl
  | issued d d' b _ _ _ _ _ hb => cases hb <;> rfl

theorem Shows.sent {a b : App} {d : Conversation} (h : Shows p a d) (hs : Sent p a b) :
    ∃ c, Relation.ReflTransGen (Step Amends) d c ∧ Shows p b c := by
  cases hs with
  | busy => exact ⟨d,.refl,h⟩
  | command value b hidle _ hb =>
    have hd := h.closed hidle.2.2 hidle.1
    rw [hd] at h ⊢
    obtain ⟨e,he⟩ := h.command hb
    exact ⟨_,.single (.exchange _ e),he⟩
  | locked _ d' _ _ hd hd' =>
    exact ⟨d,.refl,h.congr rfl rfl rfl rfl rfl id (hd'.uuids_le hd)⟩
  | blank _ d' hd hd' => exact ⟨d,.refl,h.congr rfl rfl rfl rfl rfl id (hd'.uuids_le hd)⟩
  | issued _ d' b hidle hsend hd hd' _ hb =>
    have hclosed := h.closed hidle.2.2 hidle.1
    rw [hclosed] at h ⊢
    have htyping : a.vm.typingMessageId = none := by
      simpa [AskQuestionViewModel.isTyping] using hidle.2.1
    have h' : Shows p { a with device := d' } ⟨d.exchanges,none⟩ :=
      h.congr rfl rfl rfl rfl rfl id (hd'.uuids_le hd)
    obtain ⟨q,hq | hq⟩ := h'.issued hsend htyping hb
    · exact ⟨_,.single (.ask _ q),hq⟩
    · exact ⟨_,.tail (.single (.ask _ q)) (.fail _ q),hq⟩

theorem Shows.triedAgain {a b : App} {d : Conversation} (h : Shows p a d)
    (herror : a.vm.isAnswerError = true) (ht : TriedAgain p a b) :
    ∃ c, Relation.ReflTransGen (Step Amends) d c ∧ Shows p b c := by
  cases ht with
  | nothing => exact ⟨d,.refl,h⟩
  | locked q d' _ hd => exact ⟨d,.refl,h.congr rfl rfl rfl rfl rfl id (Nat.le_of_eq hd.uuids.symm)⟩
  | resent q d' hlast hmy hd hquota =>
    obtain ⟨r,hr⟩ := h.failed herror
    rw [hr] at h ⊢
    have hmessages : a.vm.messages = transcript d.exchanges ++ [r.val] := by simpa using h.messages
    have hloading : a.vm.isLoading = false := by simpa [isWaiting] using h.isLoading
    have htyping : a.vm.typingMessageId = none := h.silent (by simp)
    have hqr : q = r.val := by simpa [hmessages] using hlast.symm
    have hsend : Sendable p q.text := by simpa [hqr] using h.sendable (r,.failed) (by simp)
    obtain ⟨t,ht⟩ := resentDraft_eq p a.vm q
    have htext : (({ a.vm with
        isAnswerError := false, messages := a.vm.messages.dropLast }.setText q.text).setImage p
          q.image).text = q.text := text_restored p _ q h.isDialog hsend.1
    rw [ht] at htext ⊢
    cases htext
    let vm : AskQuestionViewModel := { a.vm with
      isAnswerError := false, messages := a.vm.messages.dropLast, text := q.text, image := q.image }
    have hback : Shows p { a with device := d', vm := vm } ⟨d.exchanges,none⟩ := {
      isDialog := h.isDialog
      messages := by simp [vm,hmessages]
      isLoading := by simpa [vm,isWaiting] using hloading
      isAnswerError := by simp [vm,hasFailed]
      pending := by simpa [isWaiting] using h.pending
      silent := by simp
      sendable := by simp
      spent := fun m hm =>
        (h.spent m (List.mem_of_mem_dropLast hm)).mono (Nat.le_of_eq hd.uuids.symm)
      distinct := by simp }
    have hidle : vm.isAnswerError = false ∧ vm.isTyping = false ∧ vm.isLoading = false :=
      ⟨rfl,by simp [vm,AskQuestionViewModel.isTyping,htyping],hloading⟩
    obtain ⟨e,e',he,he',-,hissued⟩ :=
      issued_onSendAction (a := { a with device := d', vm := vm }) hidle hsend hquota
    have hback' : Shows p { a with device := e', vm := vm } ⟨d.exchanges,none⟩ :=
      hback.congr rfl rfl rfl rfl rfl id (he'.uuids_le he)
    obtain ⟨s,hs | hs⟩ := hback'.issued hsend htyping hissued
    · exact ⟨_,.single (.retry _ r s),hs⟩
    · exact ⟨_,.tail (.single (.retry _ r s)) (.fail _ s),hs⟩

theorem Shows.completed {a b : App} {d : Conversation} {index : Nat} {outcome : Outcome}
    (h : Shows p a d) (hc : Completed p a index outcome b) :
    ∃ c, Relation.ReflTransGen (Step Amends) d c ∧ Shows p b c := by
  have huuids {chat : List MessageItem} {d' : Device} (hd : Refreshed chat a.device d') :
      a.device.uuids ≤ d'.uuids := by
    obtain ⟨firestore,entries,-,rfl⟩ := hd
    exact Nat.le_refl _
  cases hc with
  | ignored => exact ⟨d,.refl,h⟩
  | settled r d' result hr hd =>
    obtain ⟨q,hq,hpending,rfl,hid⟩ := h.waiting hr
    rw [hq] at h ⊢
    obtain ⟨c,hstep,hc⟩ := h.settled d' (huuids hd) result
    rw [hpending,hid]
    exact ⟨c,.single hstep,hc⟩
  | continued r d' f hr hd =>
    obtain ⟨q,hq,hpending,rfl,hid⟩ := h.waiting hr
    refine ⟨d,.refl,h.congr rfl rfl rfl rfl ?_ id (huuids hd)⟩
    simp [hpending]

theorem Flagged.of_false {a : App}
    (h : a.vm.wasTryAgainActionBeforeNavigationToPaywall = false) : Flagged a := by
  simp [Flagged,h]

theorem Flagged.unflagged {a : App} (h : Flagged a) (hcover : a.vm.showBuyPro = false) :
    a.vm.wasTryAgainActionBeforeNavigationToPaywall = false := by
  by_contra hflag
  have hshown := (h (by simpa using hflag)).1
  simp [hcover] at hshown

theorem Flagged.congr {a b : App} (h : Flagged a)
    (hflag : b.vm.wasTryAgainActionBeforeNavigationToPaywall =
      a.vm.wasTryAgainActionBeforeNavigationToPaywall)
    (hcover : b.vm.showBuyPro = a.vm.showBuyPro)
    (herror : b.vm.isAnswerError = a.vm.isAnswerError) : Flagged b := by
  unfold Flagged
  rw [hflag,hcover,herror]
  exact h

theorem Flagged.triedAgain {a b : App} (h : Flagged a)
    (herror : a.vm.isAnswerError = true) (hcover : a.vm.showBuyPro = false)
    (ht : TriedAgain p a b) : Flagged b := by
  cases ht with
  | nothing => exact h
  | locked => exact fun _ => ⟨rfl,herror⟩
  | resent q d _ _ _ _ =>
    refine .of_false ((Sent.keeps_retry (sent_onSendAction p _)).trans ?_)
    obtain ⟨t,ht⟩ := resentDraft_eq p a.vm q
    rw [ht]
    exact h.unflagged hcover

def Quiet (a : App) : Prop := a.pending ≠ [] → a.vm.isAnswerError = false

theorem Flagged.completed {a b : App} {index : Nat} {outcome : Outcome} (h : Flagged a)
    (hq : Quiet a) (hc : Completed p a index outcome b) : Flagged b := by
  cases hc with
  | ignored => exact h
  | continued => exact h
  | settled r d' result hr _ =>
    have herror : a.vm.isAnswerError = false := hq (fun hnil => by simp [hnil] at hr)
    have hflag : a.vm.wasTryAgainActionBeforeNavigationToPaywall = false := by
      by_contra hflag
      have := (h (by simpa using hflag)).2
      simp [herror] at this
    cases result with
    | none => exact .of_false hflag
    | some response => exact .of_false hflag

theorem flagged_step {a : App} {e : Event} (hok : a.Allowed e) (hf : Flagged a) (hq : Quiet a) :
    Flagged (a.step p e) := by
  cases e with
  | setText text => exact hf
  | setImage image =>
    obtain ⟨t,ht⟩ := setImage_eq p a.vm image
    simp only [step,ht]
    exact hf
  | setPdfData pdfData =>
    obtain ⟨t,ht⟩ := setPdfData_eq p a.vm pdfData
    simp only [step,ht]
    exact hf
  | setChatNameText text => exact hf
  | onSendAction => exact .of_false ((sent_onSendAction p a).keeps_retry.trans (hf.unflagged hok))
  | onFinishTyping => exact hf
  | onTryAgainAction => exact hf.triedAgain hok.1 hok.2 (triedAgain_onTryAgainAction p a)
  | closePaywall => exact .of_false rfl
  | upgrade => exact .of_false (hf.unflagged hok)
  | saveChat =>
    obtain ⟨chat,moc,uuids,journal,-,hsave⟩ := saveChat_frame p a
    simp only [step,hsave]
    exact hf
  | complete index outcome => exact hf.completed hq (completed_complete p a index outcome)
  | device e => exact hf

theorem Shows.quiet {a : App} {d : Conversation} (h : Shows p a d) : Quiet a := by
  intro hne
  obtain ⟨r,hr⟩ := List.exists_mem_of_ne_nil _ hne
  obtain ⟨index,hindex⟩ := List.mem_iff_getElem?.mp hr
  obtain ⟨q,hq,-⟩ := h.waiting hindex
  rw [h.isAnswerError,hq]
  rfl

theorem Shows.closePaywall {a : App} {d : Conversation} (h : Shows p a d) (hf : Flagged a) :
    ∃ c, Relation.ReflTransGen (Step Amends) d c ∧ Shows p (a.step p .closePaywall) c := by
  obtain ⟨b,hb,hstep⟩ := closePaywall_cases p a
  have hdone : ∃ c, Relation.ReflTransGen (Step Amends) d c ∧ Shows p b c := by
    rcases hb with rfl | ⟨-,hb⟩ | ⟨hflag,hb⟩
    · exact ⟨d,.refl,h⟩
    · exact h.sent hb
    · exact h.triedAgain (hf hflag).2 hb
  obtain ⟨c,hsteps,hc⟩ := hdone
  rw [hstep]
  exact ⟨c,hsteps,hc.congr rfl rfl rfl rfl rfl id (Nat.le_refl _)⟩

/-- Every event of a session is matched by steps of its conversation. -/
theorem shows_step {a : App} {e : Event} {d : Conversation} (hok : a.Allowed e) (h : Shows p a d)
    (hf : Flagged a) :
    ∃ c, Relation.ReflTransGen (Step Amends) d c ∧ Shows p (a.step p e) c := by
  cases e with
  | setText text => exact ⟨d,.refl,h.congr rfl rfl rfl rfl rfl id (Nat.le_refl _)⟩
  | setImage image =>
    obtain ⟨t,ht⟩ := setImage_eq p a.vm image
    simp only [step,ht]
    exact ⟨d,.refl,h.congr rfl rfl rfl rfl rfl id (Nat.le_refl _)⟩
  | setPdfData pdfData =>
    obtain ⟨t,ht⟩ := setPdfData_eq p a.vm pdfData
    simp only [step,ht]
    exact ⟨d,.refl,h.congr rfl rfl rfl rfl rfl id (Nat.le_refl _)⟩
  | setChatNameText text => exact ⟨d,.refl,h.congr rfl rfl rfl rfl rfl id (Nat.le_refl _)⟩
  | onSendAction => exact h.sent (sent_onSendAction p a)
  | onFinishTyping => exact ⟨d,.refl,h.congr rfl rfl rfl rfl rfl (fun _ => rfl) (Nat.le_refl _)⟩
  | onTryAgainAction => exact h.triedAgain hok.1 (triedAgain_onTryAgainAction p a)
  | closePaywall => exact h.closePaywall hf
  | upgrade => exact ⟨d,.refl,h.congr rfl rfl rfl rfl rfl id (Nat.le_refl _)⟩
  | saveChat =>
    obtain ⟨chat,moc,uuids,journal,hle,hsave⟩ := saveChat_frame p a
    simp only [step,hsave]
    exact ⟨d,.refl,h.congr rfl rfl rfl rfl rfl id hle⟩
  | complete index outcome => exact h.completed (completed_complete p a index outcome)
  | device e =>
    have hle := Nat.le_of_eq (a.device.stepped_step p e).uuids.symm
    exact ⟨d,.refl,h.congr rfl rfl rfl rfl rfl id hle⟩

theorem shows_run {a b : App} {es : List Event} {d : Conversation} (hrun : SessionRun p a es b)
    (h : Shows p a d) (hf : Flagged a) :
    ∃ c, Relation.ReflTransGen (Step Amends) d c ∧ Shows p b c ∧ Flagged b := by
  have hsim : ∀ (a : App) (e : Event) (d : Conversation), a.Allowed e → Shows p a d ∧ Flagged a →
      ∃ c, Relation.ReflTransGen (Step Amends) d c ∧ Shows p (a.step p e) c ∧
        Flagged (a.step p e) := by
    rintro a e d hok ⟨h,hf⟩
    obtain ⟨c,hsteps,hc⟩ := shows_step hok h hf
    exact ⟨c,hsteps,hc,flagged_step hok hf h.quiet⟩
  exact hrun.simulate hsim ⟨h,hf⟩

end GenieD

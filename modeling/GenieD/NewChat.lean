import GenieD.Provenance

set_option autoImplicit false

namespace GenieD

open Runs App

namespace App

/-- The previous conversation is saved and taken off the screen; the link to its
chat is left as it is. -/
def onNewChatAction (p : Platform) (a : App) : App :=
  let a := a.saveChat p
  { a with vm := { a.vm with isAnswerError := false, messages := [] } }

end App

inductive ChatEvent where
  | session (e : Event)
  | onNewChatAction

def ChatEvent.saves : ChatEvent → Bool
  | .session .saveChat | .onNewChatAction => true
  | .session _ => false

def App.chatStep (p : Platform) (a : App) : ChatEvent → App
  | .session e => a.step p e
  | .onNewChatAction => a.onNewChatAction p

variable {p : Platform} {a b c : App}

/-- Every message was there before or has an id drawn in between. -/
structure Drew (p : Platform) (a b : App) : Prop where
  uuids : a.device.uuids ≤ b.device.uuids
  ids : ∀ m ∈ b.vm.messages, (∃ x ∈ a.vm.messages, x.id = m.id) ∨
    ∃ n, a.device.uuids ≤ n ∧ n < b.device.uuids ∧ m.id = p.uuid n

theorem Drew.of_subset (huuids : a.device.uuids ≤ b.device.uuids)
    (h : ∀ m ∈ b.vm.messages, m ∈ a.vm.messages) : Drew p a b :=
  ⟨huuids,fun m hm => .inl ⟨m,h m hm,rfl⟩⟩

theorem Drew.trans (h : Drew p a b) (h' : Drew p b c) : Drew p a c where
  uuids := h.uuids.trans h'.uuids
  ids m hm := by
    rcases h'.ids m hm with ⟨x,hx,hid⟩ | ⟨n,hn,hlt,hid⟩
    · rcases h.ids x hx with ⟨y,hy,hid'⟩ | ⟨n,hn,hlt,hid'⟩
      · exact .inl ⟨y,hy,hid'.trans hid⟩
      · exact .inr ⟨n,hn,hlt.trans_le h'.uuids,hid ▸ hid'⟩
    · exact .inr ⟨n,h.uuids.trans hn,hlt,hid⟩

theorem Drew.issued (h : Issued p a b) : Drew p a b := by
  have hnew {q : MessageItem} {d : Device} (hq : IsNewQuestion p a.device a.vm.text q)
      (hd : Handed (a.vm.messages ++ [q]) a.device d) :
      a.device.uuids ≤ d.uuids ∧ ∀ m ∈ a.vm.messages ++ [q],
        (∃ x ∈ a.vm.messages, x.id = m.id) ∨
          ∃ n, a.device.uuids ≤ n ∧ n < d.uuids ∧ m.id = p.uuid n := by
    have huuids := hd.uuids
    refine ⟨by omega,fun m hm => ?_⟩
    rcases List.mem_append.mp hm with hold | hlast
    · exact .inl ⟨m,hold,rfl⟩
    · rw [List.mem_singleton.mp hlast]
      exact .inr ⟨a.device.uuids,Nat.le_refl _,by omega,hq.id⟩
  cases h with
  | waiting q d f text image pdfData hq hd => exact ⟨(hnew hq hd).1,(hnew hq hd).2⟩
  | failed q d text image pdfData hq hd => exact ⟨(hnew hq hd).1,(hnew hq hd).2⟩

theorem Drew.command (h : Commanded p a b) : Drew p a b := by
  cases h with
  | mk q r temperature reads text hq hr =>
    refine ⟨Nat.le_add_right _ 2,fun m hm => ?_⟩
    simp only [List.mem_append,List.mem_singleton,or_assoc] at hm
    rcases hm with hold | rfl | rfl
    · exact .inl ⟨m,hold,rfl⟩
    · exact .inr ⟨a.device.uuids,Nat.le_refl _,Nat.lt_add_of_pos_right (by omega),hq.id⟩
    · exact .inr ⟨a.device.uuids + 1,Nat.le_succ _,Nat.lt_succ_self _,hr⟩

theorem Drew.saved (p : Platform) (a : App) : Drew p a (a.saveChat p) := by
  obtain ⟨chat,moc,uuids,journal,hle,hsave⟩ := saveChat_frame p a
  rw [hsave]
  exact .of_subset hle fun _ => id

theorem Drew.effect (h : Effect p a b) : Drew p a b := by
  have huuids {chat : List MessageItem} {d : Device} (hd : Refreshed chat a.device d) :
      a.device.uuids ≤ d.uuids := by
    obtain ⟨firestore,entries,-,rfl⟩ := hd
    exact Nat.le_refl _
  cases h with
  | probed d hd =>
    obtain ⟨reads,uuids,hle,rfl⟩ := hd
    exact .of_subset hle fun _ => id
  | rechecked d hd => exact .of_subset (Nat.le_of_eq hd.uuids.symm) fun _ => id
  | redrawn vm hvm => exact .of_subset (Nat.le_refl _) hvm.messages
  | commanded b hb => exact .command hb
  | issued b hb => exact .issued hb
  | taken index r d _ hd => exact .of_subset (huuids hd) fun _ => id
  | continued index r d f _ hd => exact .of_subset (huuids hd) fun _ => id
  | saved => exact .saved p a

theorem Drew.answered (p : Platform) (a : App) (response : ChatResponse) (questionId : String) :
    Drew p a (handleSendTextResponse p a (some response) questionId) := by
  refine ⟨Nat.le_succ _,fun m hm => ?_⟩
  rcases List.mem_append.mp hm with hold | hnew
  · rcases mem_modify hold with hmem | ⟨x,hx,rfl⟩
    · exact .inl ⟨m,hmem,rfl⟩
    · exact .inl ⟨x,hx,rfl⟩
  · rw [List.mem_singleton.mp hnew]
    exact .inr ⟨a.device.uuids,Nat.le_refl _,Nat.lt_succ_self _,rfl⟩

theorem drew_step (p : Platform) (a : App) (e : Event) : Drew p a (a.step p e) := by
  by_cases he : ∃ d, e = .device d
  · obtain ⟨d,rfl⟩ := he
    exact .of_subset (Nat.le_of_eq (a.device.stepped_step p d).uuids.symm) fun _ => id
  · exact frame_step (fun _ => .of_subset (Nat.le_refl _) fun _ => id) .trans .effect
      (fun c response questionId _ => .answered p c response questionId) (not_exists.mp he)

theorem drew_chatStep (p : Platform) (a : App) (e : ChatEvent) : Drew p a (a.chatStep p e) := by
  cases e with
  | session e => exact drew_step p a e
  | onNewChatAction =>
    refine .of_subset (Drew.saved p a).uuids fun m hm => ?_
    simp [chatStep,onNewChatAction] at hm

theorem Drew.spent (h : Drew p a b) (hspent : ∀ m ∈ a.vm.messages, Spent p a.device.uuids m.id) :
    ∀ m ∈ b.vm.messages, Spent p b.device.uuids m.id := by
  intro m hm
  rcases h.ids m hm with ⟨x,hx,hid⟩ | ⟨n,-,hlt,hid⟩
  · exact hid ▸ (hspent x hx).mono h.uuids
  · rw [hid]
    exact spent_uuid p hlt

/-- All that is on the screen came after the first `n` ids. -/
def Since (p : Platform) (n : Nat) (a : App) : Prop :=
  n ≤ a.device.uuids ∧ ∀ m ∈ a.vm.messages, ¬ Spent p n m.id

theorem Since.drew {n : Nat} (h : Since p n a) (hd : Drew p a b) : Since p n b := by
  refine ⟨h.1.trans hd.uuids,fun m hm => ?_⟩
  rcases hd.ids m hm with ⟨x,hx,hid⟩ | ⟨k,hk,-,hid⟩
  · exact hid ▸ h.2 x hx
  · rw [hid]
    exact not_spent p (h.1.trans hk)

/-- The chat that New Chat saves is later in the store with the messages and the
last question it had then, and no later save is to it. -/
def KeepsPrevious (p : Platform) (a : App) (later : List ChatEvent) : Prop :=
  let b := a.onNewChatAction p
  let t := later.foldl (chatStep p) b
  ∃ chat, b.vm.chat = some chat ∧ t.moc.store.HasChat chat ∧
    ((t.moc.store.linked chat).map Message.content).Perm
      ((b.moc.store.linked chat).map Message.content) ∧
    (t.moc.store.chat? chat).map (fun row => (row.lastQuestion,row.lastQuestionCreated)) =
      (b.moc.store.chat? chat).map (fun row => (row.lastQuestion,row.lastQuestionCreated)) ∧
    ∀ chat' rows, .saveChat chat' rows ∈ t.device.journal.drop b.device.journal.length →
      chat' ≠ chat

theorem KeepsPrevious.hasChat {later : List ChatEvent} {chat : Nat} (h : KeepsPrevious p a later)
    (hchat : (a.onNewChatAction p).vm.chat = some chat) :
    (later.foldl (chatStep p) (a.onNewChatAction p)).moc.store.HasChat chat := by
  obtain ⟨c,hc,hhas,-⟩ := h
  obtain rfl : chat = c := Option.some.inj (hchat.symm.trans hc)
  exact hhas

/-- A save of a session with an answered question leaves context and store the
same. It saves the chat unless this has left the context before. -/
theorem saved_chat (hs : Saved p a b) (hq : lastQuestion a.vm.messages ≠ none) :
    ∃ chat, b.vm.chat = some chat ∧ b.moc.store = b.moc.graph ∧
      ((∀ c ∈ a.vm.chat, a.moc.graph.HasChat c) ↔ b.moc.graph.HasChat chat) ∧
      (b.moc.graph.HasChat chat → (b.moc.graph.linked chat).map Message.content =
        (answered a.vm.messages).map (MessageItem.content p)) := by
  cases hs with
  | skipped g rows hchat hnone => exact absurd hnone hq
  | deleted chat g rows hchat hnone => exact absurd hnone hq
  | detached chat g rows q _ hchat hgone _ _ _ hchats =>
    have hout : ¬ g.HasChat chat := fun h => hgone ((Graph.hasChat_congr hchats chat).mp h)
    refine ⟨chat,hchat,rfl,iff_of_false (fun h => hgone (h chat hchat)) hout,?_⟩
    exact fun h => absurd h hout
  | stored chat g uuids q name chats kept rest _ hchat _ hkept _ hunlinked hmessages hchats =>
    have hhas : g.HasChat chat := by
      refine (Graph.hasChat_map hchats (update_objectID chat name (q.content p))).mpr ?_
      rcases hchat with ⟨-,hin,rfl⟩ | ⟨-,-,c,rfl,rfl⟩
      · exact hin
      · simp
    refine ⟨chat,rfl,rfl,iff_of_true ?_ hhas,fun _ => ?_⟩
    · intro c hc
      rcases hchat with ⟨hvm,hin,-⟩ | ⟨hvm,-⟩
      · cases hvm.symm.trans hc
        exact hin
      · simp [hvm] at hc
    · rw [(Graph.linked_replaced hmessages hunlinked).1,← hkept,List.map_map]
      rfl

/-- The screen still leads to the chat, but none of its rows is from before the
first `n` ids were drawn. -/
structure Replaced (p : Platform) (n chat : Nat) (a : App) : Prop where
  since : Since p n a
  leads : a.vm.chat = some chat
  saved : a.moc.store = a.moc.graph
  rows : ∀ m ∈ a.moc.graph.linked chat, ¬ Spent p n (m.content.id.getD "")

theorem Replaced.content {n chat : Nat} {rows : List Message} {items : List MessageItem}
    (h : rows.map Message.content = items.map (MessageItem.content p))
    (hitems : ∀ m ∈ items, ¬ Spent p n m.id) :
    ∀ m ∈ rows.map (fun m => { m with ofChat := some chat }),
      ¬ Spent p n (m.content.id.getD "") := by
  intro m hm
  obtain ⟨row,hrow,rfl⟩ := List.mem_map.mp hm
  obtain ⟨item,hitem,hcontent⟩ := exists_item h hrow
  simp only [hcontent]
  exact hitems item hitem

theorem replaced_saveChat {n chat : Nat} (hsince : Since p n a) (hchat : a.vm.chat = some chat)
    (hrows : a.moc.graph.HasChat chat ∨
      ∀ m ∈ a.moc.graph.linked chat, ¬ Spent p n (m.content.id.getD "")) :
    Replaced p n chat (a.saveChat p) := by
  have hsaved := hsince.drew (Drew.saved p a)
  have hs := saved_saveChat p a
  generalize a.saveChat p = b at hsaved hs ⊢
  cases hs with
  | skipped g rows hnone => simp [hchat] at hnone
  | deleted c g rows hc _ _ hunlinked hmessages =>
    cases hchat.symm.trans hc
    refine ⟨hsaved,hchat,rfl,fun m hm => ?_⟩
    simp [(Graph.linked_unlinked hmessages hunlinked).1] at hm
  | stored c g uuids q name chats kept rest _ hc _ hkept _ hunlinked hmessages =>
    rcases hc with ⟨hc,-⟩ | ⟨hc,-⟩
    · cases hchat.symm.trans hc
      refine ⟨hsaved,rfl,rfl,?_⟩
      rw [(Graph.linked_replaced hmessages hunlinked).1]
      exact Replaced.content hkept fun m hm => hsince.2 m (mem_answered (.inl hm))
    · simp [hchat] at hc
  | detached c g rows q _ hc hgone _ hunlinked hmessages =>
    cases hchat.symm.trans hc
    refine ⟨hsaved,hchat,rfl,?_⟩
    rw [Graph.linked_extended hmessages hunlinked]
    exact hrows.resolve_left hgone

theorem replaced_of_saves {n chat : Nat} {e : ChatEvent} (he : e.saves = true)
    (hsince : Since p n a) (hchat : a.vm.chat = some chat)
    (hrows : a.moc.graph.HasChat chat ∨
      ∀ m ∈ a.moc.graph.linked chat, ¬ Spent p n (m.content.id.getD "")) :
    Replaced p n chat (a.chatStep p e) := by
  have h := replaced_saveChat hsince hchat hrows
  have hsince' := hsince.drew (drew_chatStep p a e)
  cases e with
  | onNewChatAction => exact ⟨hsince',h.leads,h.saved,h.rows⟩
  | session e =>
    cases e <;> first | exact h | simp [ChatEvent.saves] at he

theorem chatStep_keeps_store {e : ChatEvent} (he : e.saves = false) :
    (a.chatStep p e).moc = a.moc ∧ (a.chatStep p e).vm.chat = a.vm.chat ∧
      Grew (fun x => ∀ chat rows, x ≠ .saveChat chat rows) a.device (a.chatStep p e).device := by
  cases e with
  | onNewChatAction => simp [ChatEvent.saves] at he
  | session e =>
    have hne : e ≠ .saveChat := by
      rintro rfl
      simp [ChatEvent.saves] at he
    obtain ⟨hmoc,hchat,-⟩ := step_keeps_store p a hne
    refine ⟨hmoc,hchat,(notes_step p a hne).mono fun x hx chat rows => ?_⟩
    cases hx <;> simp

theorem Replaced.step {n chat : Nat} (h : Replaced p n chat a) (e : ChatEvent) :
    Replaced p n chat (a.chatStep p e) := by
  cases he : e.saves with
  | true => exact replaced_of_saves he h.since h.leads (.inr h.rows)
  | false =>
    obtain ⟨hmoc,hchat,-⟩ := chatStep_keeps_store (p := p) (a := a) he
    refine ⟨h.since.drew (drew_chatStep p a e),hchat.trans h.leads,?_,?_⟩
    · rw [hmoc]
      exact h.saved
    · rw [hmoc]
      exact h.rows

theorem replaced_run {n chat : Nat} {later : List ChatEvent} (hsince : Since p n a)
    (hchat : a.vm.chat = some chat) (hhas : a.moc.graph.HasChat chat)
    (hsaves : ∃ e ∈ later, e.saves = true) : Replaced p n chat (later.foldl (chatStep p) a) := by
  induction later generalizing a with
  | nil => simp at hsaves
  | cons e later ih =>
    cases he : e.saves with
    | true =>
      have hreplaced := replaced_of_saves he hsince hchat (.inl hhas)
      exact List.foldlRecOn later _ hreplaced fun _ h e _ => h.step e
    | false =>
      obtain ⟨hmoc,hvm,-⟩ := chatStep_keeps_store (p := p) (a := a) he
      refine ih (hsince.drew (drew_chatStep p a e)) (hvm.trans hchat) (hmoc ▸ hhas) ?_
      obtain ⟨x,hx,hxs⟩ := hsaves
      rcases List.mem_cons.mp hx with rfl | hx
      · simp [he] at hxs
      · exact ⟨x,hx,hxs⟩

/-- A chat that has left the context does not come back: the link to it stays, and
nothing is saved under it. -/
structure Lost (chat : Nat) (a : App) : Prop where
  leads : a.vm.chat = some chat
  gone : ¬ a.moc.graph.HasChat chat
  saved : a.moc.store = a.moc.graph

theorem Lost.saveChat {chat : Nat} (h : Lost chat a) : Lost chat (a.saveChat p) := by
  have hleads := h.leads
  have hgone := h.gone
  have hs := saved_saveChat p a
  generalize a.saveChat p = b at hs ⊢
  cases hs with
  | skipped g rows hnone => simp [hleads] at hnone
  | deleted c g rows hc _ _ _ _ hchats =>
    exact ⟨hleads,fun hhas => hgone ((Graph.hasChat_filter hchats).mp hhas).2,rfl⟩
  | stored c g uuids q name chats kept rest _ hc =>
    rcases hc with ⟨hc,hin,-⟩ | ⟨hc,-⟩
    · cases hleads.symm.trans hc
      exact absurd hin hgone
    · simp [hleads] at hc
  | detached c g rows q _ hc _ _ _ _ hchats =>
    exact ⟨hleads,fun hhas => hgone ((Graph.hasChat_congr hchats chat).mp hhas),rfl⟩

theorem Lost.step {chat : Nat} (h : Lost chat a) (e : ChatEvent) :
    Lost chat (a.chatStep p e) := by
  cases he : e.saves with
  | false =>
    obtain ⟨hmoc,hchat,-⟩ := chatStep_keeps_store (p := p) (a := a) he
    refine ⟨hchat.trans h.leads,?_,?_⟩
    · rw [hmoc]
      exact h.gone
    · rw [hmoc]
      exact h.saved
  | true =>
    have hlost := h.saveChat (p := p)
    cases e with
    | onNewChatAction => exact ⟨hlost.leads,hlost.gone,hlost.saved⟩
    | session e => cases e <;> first | exact hlost | simp [ChatEvent.saves] at he

theorem unsaved_run {later : List ChatEvent} (h : ∀ e ∈ later, e.saves = false) :
    (later.foldl (chatStep p) a).moc = a.moc ∧
      Grew (fun x => ∀ chat rows, x ≠ .saveChat chat rows) a.device
        (later.foldl (chatStep p) a).device := by
  refine List.foldlRecOn later (motive := fun b : App => b.moc = a.moc ∧
    Grew (fun x => ∀ chat rows, x ≠ .saveChat chat rows) a.device b.device)
    _ ⟨rfl,.of_journal rfl⟩ fun b hb e he => ?_
  obtain ⟨hmoc,-,hgrew⟩ := chatStep_keeps_store (p := p) (a := b) (h e he)
  exact ⟨hmoc.trans hb.1,hb.2.trans hgrew⟩

theorem lastQuestion_of_exchange {messages : List MessageItem} {q r : MessageItem}
    (h : [q,r] <:+: messages) (hq : q.isMy = true) (hr : r.isMy = false) :
    lastQuestion messages ≠ none := by
  obtain ⟨before,after,rfl⟩ := h
  have hmem : q ∈ answered (before ++ [q,r] ++ after) := by
    unfold answered
    split
    · rename_i hlast
      rcases List.eq_nil_or_concat after with rfl | ⟨after',x,rfl⟩
      · simp [hr] at hlast
      · simp [← List.append_assoc]
    · simp
  intro hnone
  have hnot := List.find?_eq_none.mp hnone q (by simpa using hmem)
  exact hnot hq

theorem Replaced.not_perm {n chat : Nat} {rows : List MessageContent}
    (h : Replaced p n chat a) (hq : lastQuestion b.vm.messages ≠ none)
    (hspent : ∀ m ∈ b.vm.messages, Spent p n m.id)
    (hrows : rows = (answered b.vm.messages).map (MessageItem.content p)) :
    ¬ ((a.moc.store.linked chat).map Message.content).Perm rows := by
  intro hperm
  obtain ⟨q,hlast⟩ := Option.ne_none_iff_exists'.mp hq
  have hmem : q ∈ answered b.vm.messages := by
    simpa using List.mem_of_find?_eq_some hlast
  have hrow : q.content p ∈ (a.moc.store.linked chat).map Message.content := by
    rw [hperm.mem_iff,hrows]
    exact List.mem_map_of_mem hmem
  obtain ⟨m,hm,hcontent⟩ := List.mem_map.mp hrow
  rw [h.saved] at hm
  refine h.rows m hm ?_
  rw [hcontent]
  exact hspent q (mem_answered (.inl hmem))

theorem keepsPrevious_iff {later : List ChatEvent} (hq : lastQuestion a.vm.messages ≠ none)
    (hspent : ∀ m ∈ a.vm.messages, Spent p a.device.uuids m.id) :
    KeepsPrevious p a later ↔
      (∀ chat ∈ a.vm.chat, a.moc.graph.HasChat chat) ∧ ∀ e ∈ later, e.saves = false := by
  obtain ⟨chat,hchat,hsaved,hhas,hrows⟩ := saved_chat (saved_saveChat p a) hq
  have hchat' : (a.onNewChatAction p).vm.chat = some chat := hchat
  have hmoc' : (a.onNewChatAction p).moc = (a.saveChat p).moc := rfl
  have hsince : Since p (a.onNewChatAction p).device.uuids (a.onNewChatAction p) :=
    ⟨Nat.le_refl _,fun m hm => by simp [onNewChatAction] at hm⟩
  have hspent' : ∀ m ∈ a.vm.messages, Spent p (a.onNewChatAction p).device.uuids m.id :=
    fun m hm => (hspent m hm).mono (Drew.saved p a).uuids
  unfold KeepsPrevious
  generalize a.onNewChatAction p = b at hchat' hmoc' hsince hspent' ⊢
  constructor
  · rintro ⟨chat',hc,hstored,hperm,-,-⟩
    cases hchat'.symm.trans hc
    have hin : ∀ c ∈ a.vm.chat, a.moc.graph.HasChat c := by
      by_contra hout
      have hlost : Lost chat b :=
        ⟨hchat',by rw [hmoc',← hhas]; exact hout,by rw [hmoc']; exact hsaved⟩
      have hlost' : Lost chat (later.foldl (chatStep p) b) :=
        List.foldlRecOn later _ hlost fun _ h e _ => h.step e
      rw [hlost'.saved] at hstored
      exact hlost'.gone hstored
    refine ⟨hin,?_⟩
    by_contra hsome
    have hsaves : ∃ e ∈ later, e.saves = true := by simpa using hsome
    have hreplaced := replaced_run hsince hchat' (hmoc' ▸ hhas.mp hin) hsaves
    refine hreplaced.not_perm hq hspent' ?_ hperm
    rw [hmoc',hsaved]
    exact hrows (hhas.mp hin)
  · rintro ⟨hin,hunsaved⟩
    obtain ⟨hmoc,hgrew⟩ := unsaved_run (p := p) (a := b) hunsaved
    refine ⟨chat,hchat',?_,?_,?_,?_⟩
    · rw [hmoc,hmoc',hsaved]
      exact hhas.mp hin
    · rw [hmoc]
    · rw [hmoc]
    · intro chat' rows hmem
      obtain ⟨entries,hok,hjournal⟩ := hgrew
      rw [hjournal,List.drop_left] at hmem
      exact absurd rfl (hok _ hmem chat' rows)

def Opening.view (o : Opening p) (isDialog : Bool) : App :=
  openScreen p o.device o.moc isDialog o.chat o.allObjects

/-- New Chat keeps the previous one exactly as long as the view model saves
nothing more, and had not lost its chat before. -/
theorem new_chat_keeps_iff (o : Opening p) (isDialog : Bool) (earlier later : List ChatEvent)
    (hexchange : ∃ q r, [q,r] <:+: (earlier.foldl (chatStep p) (o.view isDialog)).vm.messages ∧
      q.isMy = true ∧ r.isMy = false) :
    KeepsPrevious p (earlier.foldl (chatStep p) (o.view isDialog)) later ↔
      (∀ chat ∈ (earlier.foldl (chatStep p) (o.view isDialog)).vm.chat,
        (earlier.foldl (chatStep p) (o.view isDialog)).moc.graph.HasChat chat) ∧
      ∀ e ∈ later, e.saves = false := by
  obtain ⟨q,r,hpair,hq,hr⟩ := hexchange
  refine keepsPrevious_iff (lastQuestion_of_exchange hpair hq hr) ?_
  have hstart : ∀ m ∈ (o.view isDialog).vm.messages,
      Spent p (o.view isDialog).device.uuids m.id := spent_openScreen o isDialog
  exact List.foldlRecOn earlier (motive := fun a : App =>
    ∀ m ∈ a.vm.messages, Spent p a.device.uuids m.id) _ hstart
    fun a h e _ => (drew_chatStep p a e).spent h

def helloAnswered : List ChatEvent :=
  [.session (.setText "Hello"),.session .onSendAction,
    .session (.complete 0 (.responded (some ⟨["Hi"],⟨some 1,some 5⟩⟩))),
    .session .onFinishTyping]

theorem next_question_keeps_chat :
    let p := Platform.plain Int.ofNat
    let a := helloAnswered.foldl (chatStep p)
      ((Opening.fresh p (.withFreeTokens 3000)).view false)
    KeepsPrevious p a [.session (.setText "More"),.session .onSendAction] := by
  intro p a
  have hexchange : ∃ q r, [q,r] <:+: a.vm.messages ∧ q.isMy = true ∧ r.isMy = false :=
    ⟨⟨"","Hello",true,none,0,5⟩,⟨"0","Hi",false,none,1,1⟩,by decide,rfl,rfl⟩
  exact (new_chat_keeps_iff (.fresh p (.withFreeTokens 3000)) false helloAnswered _
    hexchange).mpr ⟨by decide,by decide⟩

/-- Leaving the empty screen deletes the chat; leaving it after the next answer
gives the chat the new messages. -/
theorem new_chat_loses_previous :
    let p := Platform.plain Int.ofNat
    let a := helloAnswered.foldl (chatStep p)
      ((Opening.fresh p (.withFreeTokens 3000)).view false)
    let b := a.onNewChatAction p
    let left := [ChatEvent.session .saveChat].foldl (chatStep p) b
    let more := (helloAnswered ++ [ChatEvent.session .saveChat]).foldl (chatStep p) b
    b.vm.chat = some 2 ∧ b.moc.store.HasChat 2 ∧ ¬ left.moc.store.HasChat 2 ∧
      more.vm.chat = some 2 ∧
      (b.moc.store.linked 2).map (fun m => m.content.id) = [some "",some "0"] ∧
      (more.moc.store.linked 2).map (fun m => m.content.id) = [some "000",some "0000"] ∧
      ¬ KeepsPrevious p a [.session .saveChat] := by
  intro p a
  have hb : (a.onNewChatAction p).vm.chat = some 2 := by decide
  have hstored : (a.onNewChatAction p).moc.store.HasChat 2 := by decide
  have hleft : ¬ ([ChatEvent.session .saveChat].foldl (chatStep p)
      (a.onNewChatAction p)).moc.store.HasChat 2 := by decide
  have hnot : ¬ KeepsPrevious p a [.session .saveChat] := fun h => hleft (h.hasChat hb)
  refine ⟨hb,hstored,hleft,?_,?_,?_,hnot⟩
  · decide +kernel
  · decide +kernel
  · decide +kernel

end GenieD

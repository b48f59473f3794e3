import GenieD.NewChat

set_option autoImplicit false

namespace GenieD

open Runs App

def Chat.title (chat : Chat) : String := (chat.name.or chat.lastQuestion).getD ""

/-- Whether saving the title as a name gives the name that the chat has. -/
def Chat.Settled (chat : Chat) : Prop :=
  match chat.name with
  | some name => Text.isBlank name = false
  | none => ∀ lastQuestion ∈ chat.lastQuestion, Text.isBlank lastQuestion = true

theorem savedName_eq_none {text : String} : savedName text = none ↔ Text.isBlank text = true := by
  unfold savedName
  split <;> simp_all

theorem savedName_eq_some {text : String} :
    savedName text = some text ↔ Text.isBlank text = false := by
  unfold savedName
  split <;> simp_all

theorem Chat.settled_iff (chat : Chat) : chat.Settled ↔ savedName chat.title = chat.name := by
  cases hname : chat.name with
  | some name =>
    have htitle : chat.title = name := by simp [title,hname]
    rw [htitle,savedName_eq_some]
    simp only [Settled,hname]
  | none =>
    rw [savedName_eq_none]
    simp only [Settled,hname]
    cases hquestion : chat.lastQuestion with
    | none =>
      have htitle : chat.title = "" := by simp [title,hname,hquestion]
      have hblank : Text.isBlank "" = true := by decide
      simp [htitle,hblank]
    | some lastQuestion =>
      have htitle : chat.title = lastQuestion := by simp [title,hname,hquestion]
      simp [htitle]

def ChatEvent.editsName : ChatEvent → Bool
  | .session (.setChatNameText _) => true
  | .session _ | .onNewChatAction => false

/-- A chat as the store and the context have it. -/
structure StoredChat where
  moc : ManagedObjectContext
  row : Chat
  stored : moc.store.chat? row.objectID = some row
  fetched : moc.graph.chat? row.objectID = some row

def StoredChat.screen (o : StoredChat) (p : Platform) (d : Device) (allObjects : List Message) :
    App :=
  openScreen p d o.moc true (some o.row.objectID) allObjects

variable {p : Platform} {a : App}

def Writes (chat : Nat) (a : App) : Prop :=
  lastQuestion a.vm.messages ≠ none ∧ a.moc.graph.HasChat chat

/-- After a save the chat has the name it had before the session, and without a
name its title is the last question. -/
def KeepsTitle (p : Platform) (row : Chat) (a : App) (e : ChatEvent) : Prop :=
  e.saves = true → ∀ saved ∈ (a.chatStep p e).moc.store.chat? row.objectID,
    saved.name = row.name ∧
      (row.name = none → some saved.title = (lastQuestion a.vm.messages).map MessageItem.text)

/-- The screen of a chat on which the name is as it was read. -/
structure Unedited (row : Chat) (a : App) : Prop where
  chat : a.vm.chat = some row.objectID
  chatNameText : a.vm.chatNameText = row.title

theorem unedited_screen (o : StoredChat) (d : Device) (allObjects : List Message) :
    Unedited o.row (o.screen p d allObjects) where
  chat := rfl
  chatNameText := by simp [StoredChat.screen,openScreen,o.fetched,Chat.title]

theorem saveChat_row {chat : Nat} (hchat : a.vm.chat = some chat) :
    (a.saveChat p).moc.store.chat? chat = (lastQuestion a.vm.messages).bind fun q =>
      (a.moc.graph.chat? chat).map fun row =>
        row.update (savedName a.vm.chatNameText) (q.content p) := by
  have hs := saved_saveChat p a
  generalize a.saveChat p = b at hs ⊢
  cases hs with
  | skipped g rows hnone => simp [hchat] at hnone
  | deleted c g rows hc hnone _ _ _ hchats =>
    cases hchat.symm.trans hc
    rw [hnone]
    exact Graph.chat?_eq_none.mpr fun h => ((Graph.hasChat_filter hchats).mp h).1 rfl
  | detached c g rows q hq hc hgone _ _ _ hchats =>
    cases hchat.symm.trans hc
    rw [hq,Graph.chat?_eq_none.mpr hgone]
    exact Graph.chat?_eq_none.mpr fun h => hgone ((Graph.hasChat_congr hchats chat).mp h)
  | stored c g uuids q name chats kept rest hq hc _ _ _ _ _ hchats hname =>
    rcases hc with ⟨hc,-,rfl⟩ | ⟨hc,-⟩
    · cases hchat.symm.trans hc
      rw [hq,← hname]
      exact Graph.chat?_updated hchats
    · simp [hchat] at hc

theorem chatStep_saves {e : ChatEvent} (he : e.saves = true) :
    (a.chatStep p e).moc = (a.saveChat p).moc := by
  cases e with
  | onNewChatAction => rfl
  | session e => cases e <;> first | rfl | simp [ChatEvent.saves] at he

theorem Unedited.saveChat {row : Chat} (h : Unedited row a) : Unedited row (a.saveChat p) := by
  have hs := saved_saveChat p a
  generalize a.saveChat p = b at hs ⊢
  cases hs with
  | skipped | deleted | detached => exact ⟨h.chat,h.chatNameText⟩
  | stored c g uuids q name chats kept rest _ hc =>
    rcases hc with ⟨hc,-⟩ | ⟨hc,-⟩
    · exact ⟨hc.symm.trans h.chat,h.chatNameText⟩
    · simp [h.chat] at hc

theorem Unedited.step {row : Chat} {e : ChatEvent} (h : Unedited row a)
    (he : e.editsName = false) : Unedited row (a.chatStep p e) := by
  cases e with
  | onNewChatAction => exact ⟨(h.saveChat (p := p)).chat,(h.saveChat (p := p)).chatNameText⟩
  | session e =>
    by_cases hsave : e = .saveChat
    · subst hsave
      exact h.saveChat
    · obtain ⟨-,hchat,hname⟩ := step_keeps_store p a hsave
      have hkept : ∀ text, e ≠ .setChatNameText text := by
        rintro text rfl
        simp [ChatEvent.editsName] at he
      exact ⟨hchat.trans h.chat,(hname hkept).trans h.chatNameText⟩

theorem keepsTitle_iff {row : Chat} (h : Unedited row a) (e : ChatEvent) :
    KeepsTitle p row a e ↔ (e.saves = true → Writes row.objectID a → row.Settled) := by
  unfold KeepsTitle
  refine imp_congr_right fun he => ?_
  rw [chatStep_saves he,saveChat_row h.chat,h.chatNameText,row.settled_iff]
  constructor
  · rintro hsaved ⟨hq,hhas⟩
    obtain ⟨q,hq⟩ := Option.ne_none_iff_exists'.mp hq
    obtain ⟨x,hx⟩ : ∃ x, a.moc.graph.chat? row.objectID = some x :=
      Option.ne_none_iff_exists'.mp fun hnone => Graph.chat?_eq_none.mp hnone hhas
    have hname := hsaved (x.update (savedName row.title) (q.content p)) (by simp [hq,hx])
    simpa only [Chat.update_name] using hname.1
  · intro hsettled saved hmem
    obtain ⟨q,hq,hmem⟩ := Option.bind_eq_some_iff.mp hmem
    obtain ⟨x,hx,rfl⟩ := Option.map_eq_some_iff.mp hmem
    have hhas : a.moc.graph.HasChat row.objectID := by
      by_contra hgone
      simp [Graph.chat?_eq_none.mpr hgone] at hx
    have hname := hsettled ⟨by simp [hq],hhas⟩
    refine ⟨by simpa only [Chat.update_name] using hname,fun hnone => ?_⟩
    rw [hname,hnone,hq]
    simp [Chat.title,MessageItem.content]

/-- A session without an edit of the name keeps it and the title exactly if no
save writes a chat whose title is not the name it has. -/
theorem title_kept_iff (o : StoredChat) (d : Device) (allObjects : List Message)
    {es : List ChatEvent} (hes : ∀ e ∈ es, e.editsName = false) :
    Each (chatStep p) (KeepsTitle p o.row) (o.screen p d allObjects) es ↔
      Each (chatStep p) (fun a e => e.saves = true → Writes o.row.objectID a → o.row.Settled)
        (o.screen p d allObjects) es := by
  have hrun : Each (chatStep p) (fun _ e => e.editsName = false) (o.screen p d allObjects) es :=
    each_of_forall hes
  exact hrun.run.each_iff_each (J := Unedited o.row) (fun a e he h _ => h.step he)
    (fun a e _ h => keepsTitle_iff h e) (unedited_screen o d allObjects)

theorem chats_agree {active : Option Subsciption} {firestore : FirestoreManager} {acts : List Act}
    {s : Screen} (hrun : PhoneRun p (.install active firestore) acts s) :
    s.moc.graph.chats = s.moc.store.chats := by
  refine hrun.invariant (I := fun s : Screen => s.moc.graph.chats = s.moc.store.chats)
    (fun s act _ h => ?_) rfl
  have hsaved (a : App) (h : a.moc.graph.chats = a.moc.store.chats) :
      (a.saveChat p).moc.graph.chats = (a.saveChat p).moc.store.chats := by
    have hs := saved_saveChat p a
    generalize a.saveChat p = b at hs ⊢
    cases hs with
    | skipped g rows _ _ _ _ _ hchats => exact hchats.trans h
    | deleted | stored | detached => rfl
  cases s with
  | home device moc =>
    cases act with
    | openChat chat allObjects =>
      simp only [Screen.step,Screen.moc,openScreen_moc]
      exact h
    | launch => rfl
    | device | session | leave | onDeleteChatAction => exact h
  | dialog a =>
    cases act with
    | session e =>
      by_cases he : e = .saveChat
      · subst he
        exact hsaved a h
      · obtain ⟨hmoc,-⟩ := step_keeps_store p a he
        simp only [Screen.step,Screen.moc,hmoc]
        exact h
    | leave => exact hsaved a h
    | onDeleteChatAction =>
      refine hsaved a.onDeleteChatAction ?_
      unfold App.onDeleteChatAction
      split
      · exact h
      · rfl
    | launch => rfl
    | device | openChat => exact h

def StoredChat.ofRun {active : Option Subsciption} {firestore : FirestoreManager} {acts : List Act}
    {d : Device} {moc : ManagedObjectContext} {row : Chat}
    (hrun : PhoneRun p (.install active firestore) acts (.home d moc))
    (hrow : moc.graph.chat? row.objectID = some row) : StoredChat where
  moc
  row
  stored := by
    have hchats : moc.graph.chats = moc.store.chats := chats_agree hrun
    rw [Graph.chat?,← hchats]
    exact hrow
  fetched := hrow

theorem exists_stored {active : Option Subsciption} {firestore : FirestoreManager}
    {acts : List Act} {d : Device} {moc : ManagedObjectContext} {row : Chat}
    (hrun : PhoneRun p (.install active firestore) acts (.home d moc))
    (hrow : moc.graph.chat? row.objectID = some row) :
    ∃ o : StoredChat, o.moc = moc ∧ o.row = row ∧ ∀ allObjects,
      o.screen p d allObjects = openScreen p d moc true (some row.objectID) allObjects :=
  ⟨.ofRun hrun hrow,rfl,rfl,fun _ => rfl⟩

theorem renamed_not_kept {row saved : Chat} {es : List ChatEvent} {e : ChatEvent}
    (he : e.saves = true)
    (hsaved : ((es ++ [e]).foldl (chatStep p) a).moc.store.chat? row.objectID = some saved)
    (hne : saved.name ≠ row.name) : ¬ Each (chatStep p) (KeepsTitle p row) a (es ++ [e]) := by
  intro h
  rw [List.foldl_append] at hsaved
  exact hne (h.last he saved hsaved).1

def askMore : List ChatEvent :=
  [.session (.setText "More"),.session .onSendAction,
    .session (.complete 0 (.responded (some ⟨["Well"],⟨some 1,some 5⟩⟩)))]

def named : List Act :=
  [.openChat none [],.session (.setText "Hello"),.session .onSendAction,
    .session (.complete 0 (.responded (some ⟨["Hi"],⟨some 1,some 5⟩⟩))),
    .session (.setChatNameText "Greeting"),.leave]

theorem named_chat_keeps_title :
    let p := Platform.plain Int.ofNat
    let s := named.foldl (Screen.step p) (.install none { aikey := some "key" })
    ∃ o : StoredChat, o.moc = s.moc ∧ o.row.name = some "Greeting" ∧
      Each (chatStep p) (KeepsTitle p o.row) (o.screen p s.device (s.moc.graph.linked 2))
        (askMore ++ [ChatEvent.session .saveChat]) := by
  intro p s
  have hallowed : Each (Screen.step p) Screen.Allowed (.install none { aikey := some "key" })
      named := by decide
  have hrun : PhoneRun p (.install none { aikey := some "key" }) named
      (.home s.device s.moc) := hallowed.run
  let row : Chat := ⟨2,some "00",some "Hello",some 0,some "Greeting"⟩
  have hrow : s.moc.graph.chat? row.objectID = some row := by decide +kernel
  have hsettled : row.Settled := (by decide : Text.isBlank "Greeting" = false)
  obtain ⟨o,hmoc,hstored,-⟩ := exists_stored hrun hrow
  have hes : ∀ e ∈ askMore ++ [.session .saveChat], e.editsName = false := by decide
  refine ⟨o,hmoc,by rw [hstored],(title_kept_iff o _ _ hes).mpr ?_⟩
  rw [hstored]
  exact ⟨fun _ _ => hsettled,fun _ _ => hsettled,fun _ _ => hsettled,fun _ _ => hsettled,trivial⟩

/-- The last question that stood in for a name becomes the name, and the title
does not follow the next question. -/
theorem unnamed_chat_renamed :
    let p := Platform.plain Int.ofNat
    let s := oneExchange.foldl (Screen.step p) (.install none { aikey := some "key" })
    let row : Chat := ⟨2,some "00",some "Hello",some 0,none⟩
    let saved : Chat := ⟨2,some "00",some "More",some 2,some "Hello"⟩
    saved.title = "Hello" ∧ ∃ o : StoredChat, o.moc = s.moc ∧ o.row = row ∧
      ((askMore ++ [ChatEvent.session .saveChat]).foldl (chatStep p)
        (o.screen p s.device (s.moc.graph.linked 2))).moc.store.chat? row.objectID = some saved ∧
      ¬ Each (chatStep p) (KeepsTitle p o.row) (o.screen p s.device (s.moc.graph.linked 2))
        (askMore ++ [.session .saveChat]) := by
  intro p s row saved
  have hallowed : Each (Screen.step p) Screen.Allowed (.install none { aikey := some "key" })
      oneExchange := by decide
  have hrun : PhoneRun p (.install none { aikey := some "key" }) oneExchange
      (.home s.device s.moc) := hallowed.run
  have hrow : s.moc.graph.chat? row.objectID = some row := by decide +kernel
  have hsaved : ((askMore ++ [ChatEvent.session .saveChat]).foldl (chatStep p)
      (openScreen p s.device s.moc true (some row.objectID)
        (s.moc.graph.linked 2))).moc.store.chat? row.objectID = some saved := by decide +kernel
  obtain ⟨o,hmoc,hstored,hscreen⟩ := exists_stored hrun hrow
  rw [← hscreen] at hsaved
  refine ⟨rfl,o,hmoc,hstored,hsaved,?_⟩
  rw [hstored]
  exact renamed_not_kept rfl hsaved (by decide)

end GenieD

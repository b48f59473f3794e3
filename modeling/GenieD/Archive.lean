import GenieD.Saving
import GenieD.Screen

set_option autoImplicit false

namespace GenieD

open Runs App

def Entry.savedTo (chat : Nat) : Entry → Option (List MessageContent)
  | .saveChat c rows => if c = chat then some rows else none
  | .command _ _ | .sendText _ | .post _ _ | .describeFile _ _ _ | .answer _ | .reset => none

def lastSaved (journal : List Entry) (chat : Nat) : Option (List MessageContent) :=
  journal.reverse.findSome? (Entry.savedTo chat)

theorem lastSaved_concat (journal : List Entry) (e : Entry) (chat : Nat) :
    lastSaved (journal ++ [e]) chat = (e.savedTo chat).or (lastSaved journal chat) := by
  simp [lastSaved,List.findSome?_cons]
  cases e.savedTo chat <;> rfl

def Unsaved (d d' : Device) : Prop := ∀ chat, lastSaved d'.journal chat = lastSaved d.journal chat

theorem Unsaved.trans {d d' d'' : Device} (h : Unsaved d d') (h' : Unsaved d' d'') :
    Unsaved d d'' := fun chat => (h' chat).trans (h chat)

theorem Unsaved.grew {ok : Entry → Prop} {d d' : Device} (h : Grew ok d d')
    (hok : ∀ e, ok e → ∀ chat, e.savedTo chat = none) : Unsaved d d' := by
  obtain ⟨entries,hall,hd⟩ := h
  intro chat
  rw [hd]
  clear hd
  induction entries using List.reverseRecOn with
  | nil => simp
  | append_singleton entries e ih =>
    rw [← ih fun x hx => hall x (by simp [hx]),← List.append_assoc,lastSaved_concat,
      hok e (hall e (by simp)) chat,Option.none_or]

variable {p : Platform} {a b : App}

theorem Unsaved.step {e : Event} (he : e ≠ .saveChat) : Unsaved a.device (a.step p e).device :=
  .grew (notes_step p a he) fun _ hnotes chat => by cases hnotes <;> rfl

/-- What a chat holds was written by `saveChat`: the rows of message items, at
least one of them a question, and the list it was last saved with. -/
def Archived (p : Platform) (journal : List Entry) (g : Graph) (chat : Nat) : Prop :=
  ∃ items : List MessageItem, items.any MessageItem.isMy = true ∧
    (g.linked chat).map Message.content = items.map (MessageItem.content p) ∧
    lastSaved journal chat = some (items.map (MessageItem.content p))

/-- The context differs from the store at most by rows that belong to no chat,
and all chats are archived. -/
structure Filed (p : Platform) (moc : ManagedObjectContext) (journal : List Entry) : Prop where
  chats : moc.graph.chats.map Chat.objectID = moc.store.chats.map Chat.objectID
  messages : ∃ rows, moc.graph.messages = moc.store.messages ++ rows ∧ ∀ m ∈ rows, m.ofChat = none
  archived : ∀ chat, moc.store.HasChat chat → Archived p journal moc.store chat

theorem Filed.hasChat {moc : ManagedObjectContext} {journal : List Entry}
    (h : Filed p moc journal) (chat : Nat) : moc.graph.HasChat chat ↔ moc.store.HasChat chat := by
  unfold Graph.HasChat
  rw [h.chats]

theorem Filed.linked {moc : ManagedObjectContext} {journal : List Entry}
    (h : Filed p moc journal) (chat : Nat) : moc.graph.linked chat = moc.store.linked chat := by
  obtain ⟨rows,hrows,hunlinked⟩ := h.messages
  exact Graph.linked_extended hrows hunlinked chat

theorem Filed.unsaved {moc : ManagedObjectContext} {d d' : Device}
    (h : Filed p moc d.journal) (hd : Unsaved d d') : Filed p moc d'.journal where
  chats := h.chats
  messages := h.messages
  archived chat hchat := by
    obtain ⟨items,hmy,hrows,hlast⟩ := h.archived chat hchat
    exact ⟨items,hmy,hrows,(hd chat).trans hlast⟩

theorem lastQuestion_mem {messages : List MessageItem} {q : MessageItem}
    (h : lastQuestion messages = some q) : (answered messages).any MessageItem.isMy = true := by
  rw [List.any_eq_true]
  exact ⟨q,by simpa using List.mem_of_find?_eq_some h,by simpa using List.find?_some h⟩

theorem Archived.congr {journal journal' : List Entry} {g g' : Graph} {chat : Nat}
    (h : Archived p journal g chat) (hlinked : g'.linked chat = g.linked chat)
    (hlast : lastSaved journal' chat = lastSaved journal chat) : Archived p journal' g' chat := by
  unfold Archived
  rw [hlinked,hlast]
  exact h

theorem Filed.saved (h : Filed p a.moc a.device.journal) (hs : Saved p a b) :
    Filed p b.moc b.device.journal := by
  have hold (chat : Nat) (hchat : a.moc.graph.HasChat chat) :
      Archived p a.device.journal a.moc.graph chat :=
    (h.archived chat ((h.hasChat chat).mp hchat)).congr (h.linked chat) rfl
  cases hs with
  | skipped g rows _ _ _ hunlinked hmessages hchats =>
    obtain ⟨pending,hpending,hnone⟩ := h.messages
    refine ⟨by simpa [hchats] using h.chats,⟨pending ++ rows,?_,?_⟩,h.archived⟩
    · simp only [hmessages,hpending,List.append_assoc]
    · simpa [or_imp,forall_and] using ⟨hnone,hunlinked⟩
  | deleted chat g rows _ _ _ hunlinked hmessages hchats =>
    refine ⟨rfl,⟨[],by simp⟩,fun c hc => ?_⟩
    obtain ⟨hne,hin⟩ := (Graph.hasChat_filter hchats).mp hc
    have hlinked := (Graph.linked_unlinked hmessages hunlinked).2
    exact (hold c hin).congr (hlinked c hne) rfl
  | stored chat g uuids q name chats kept rest hq hchat _ hkept _ hunlinked hmessages hchats =>
    obtain ⟨hself,hother⟩ := Graph.linked_replaced hmessages hunlinked
    refine ⟨rfl,⟨[],by simp⟩,fun c hc => ?_⟩
    by_cases hsame : c = chat
    · subst hsame
      refine ⟨answered a.vm.messages,lastQuestion_mem hq,?_,?_⟩
      · rw [hself,← hkept,List.map_map]
        rfl
      · simp [Device.note,lastSaved_concat,Entry.savedTo]
    · have hin : a.moc.graph.HasChat c := by
        have hmem := (Graph.hasChat_map hchats (update_objectID chat name (q.content p))).mp hc
        rcases hchat with ⟨-,-,rfl⟩ | ⟨-,-,x,rfl,rfl⟩
        · exact hmem
        · simpa [Ne.symm hsame,hsame,Graph.HasChat] using hmem
      refine (hold c hin).congr (hother c hsame) ?_
      simp [Device.note,lastSaved_concat,Entry.savedTo,Ne.symm hsame]
  | detached chat g rows q _ _ hgone _ hunlinked hmessages hchats =>
    refine ⟨rfl,⟨[],by simp⟩,fun c hc => ?_⟩
    have hin := (Graph.hasChat_congr hchats c).mp hc
    have hne : chat ≠ c := by
      rintro rfl
      exact hgone hin
    refine (hold c hin).congr (Graph.linked_extended hmessages hunlinked c) ?_
    simp [Device.note,lastSaved_concat,Entry.savedTo,hne]

theorem Filed.deleteChat {moc : ManagedObjectContext} {journal : List Entry}
    (h : Filed p moc journal) (chat : Nat) :
    Filed p (ManagedObjectContext.save { moc with graph := moc.graph.deleteChat chat })
      journal := by
  refine ⟨rfl,⟨[],by simp [ManagedObjectContext.save]⟩,fun c hc => ?_⟩
  obtain ⟨hne,hin⟩ : c ≠ chat ∧ moc.graph.HasChat c := (Graph.hasChat_filter rfl).mp hc
  have hmessages : (moc.graph.deleteChat chat).messages =
      moc.graph.messages.map (Message.unlink chat) ++ [] := by simp [Graph.deleteChat]
  have hlinked := (Graph.linked_unlinked hmessages (by simp)).2 c hne
  exact (h.archived c ((h.hasChat c).mp hin)).congr (hlinked.trans (h.linked c)) rfl

theorem filed_leave (h : Filed p a.moc a.device.journal) :
    Filed p (a.leave p).moc (a.leave p).device.journal :=
  h.saved (saved_saveChat p a)

theorem filed_onDeleteChatAction (h : Filed p a.moc a.device.journal) :
    Filed p a.onDeleteChatAction.moc a.onDeleteChatAction.device.journal := by
  unfold App.onDeleteChatAction
  split
  · exact h
  · rename_i chat _
    exact h.deleteChat chat

theorem filed_step {s : Screen} {act : Act} (h : Filed p s.moc s.device.journal) :
    Filed p (s.step p act).moc (s.step p act).device.journal := by
  have hlaunch : Filed p (s.launch p).moc (s.launch p).device.journal :=
    ⟨rfl,⟨[],by simp [Screen.launch,Screen.moc]⟩,h.archived⟩
  cases s with
  | home device moc =>
    cases act with
    | device e =>
      refine Filed.unsaved h (.grew (.stepped (device.stepped_step p e)) ?_)
      rintro _ rfl chat
      rfl
    | openChat chat allObjects =>
      obtain ⟨reads,hdevice⟩ := (unstarted_openScreen p device moc true chat allObjects).device
      simp only [Screen.step,Screen.moc,Screen.device,openScreen_moc,hdevice]
      exact h
    | launch => exact hlaunch
    | session | leave | onDeleteChatAction => exact h
  | dialog a =>
    cases act with
    | session e =>
      by_cases he : e = .saveChat
      · subst he
        exact Filed.saved h (saved_saveChat p a)
      · obtain ⟨hmoc,-⟩ := step_keeps_store p a he
        simp only [Screen.step,Screen.moc,hmoc]
        exact Filed.unsaved h (.step he)
    | leave => exact filed_leave h
    | onDeleteChatAction => exact filed_leave (filed_onDeleteChatAction h)
    | launch => exact hlaunch
    | device | openChat => exact h

theorem filed_install (active : Option Subsciption) (firestore : FirestoreManager) :
    Filed p (Screen.install active firestore).moc
      (Screen.install active firestore).device.journal where
  chats := rfl
  messages := ⟨[],by simp [Screen.install,Screen.moc]⟩
  archived := by simp [Screen.install,Screen.moc,Graph.HasChat,Graph.empty]

/-- In every run, the store holds what the saves of chats wrote. -/
theorem filed_run {active : Option Subsciption} {firestore : FirestoreManager} {acts : List Act}
    {s : Screen} (hrun : PhoneRun p (.install active firestore) acts s) :
    Filed p s.moc s.device.journal :=
  hrun.invariant (I := fun s : Screen => Filed p s.moc s.device.journal) (fun _ _ _ => filed_step)
    (filed_install active firestore)

end GenieD

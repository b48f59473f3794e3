import GenieD.Model

set_option autoImplicit false

namespace GenieD

structure MessageContent where
  id : Option String
  text : Option String
  created : Option Date
  isMy : Bool
  image : Option Data
  usageTokens : Int
  deriving DecidableEq, Repr

structure Message where
  objectID : Nat
  content : MessageContent
  ofChat : Option Nat
  deriving DecidableEq, Repr

structure Chat where
  objectID : Nat
  id : Option String := none
  lastQuestion : Option String := none
  lastQuestionCreated : Option Date := none
  name : Option String := none
  deriving DecidableEq, Repr

def MessageItem.content (p : Platform) (item : MessageItem) : MessageContent where
  id := some item.id
  text := some item.text
  created := some item.created
  isMy := item.isMy
  image := item.image.bind p.pngData
  usageTokens := item.usageTokens

/-- `MessageItem.init(coreDataMessage:)`; `now` stands in for a missing date. -/
def MessageContent.item (p : Platform) (now : Date) (content : MessageContent) : MessageItem where
  id := content.id.getD ""
  text := content.text.getD ""
  isMy := content.isMy
  image := p.uiImage (content.image.getD [])
  created := content.created.getD now
  usageTokens := content.usageTokens

def Message.unlink (chat : Nat) (m : Message) : Message :=
  if m.ofChat = some chat then { m with ofChat := none } else m

@[simp] theorem Message.unlink_objectID (chat : Nat) (m : Message) :
    (m.unlink chat).objectID = m.objectID := by unfold unlink; split <;> rfl

@[simp] theorem Message.unlink_content (chat : Nat) (m : Message) :
    (m.unlink chat).content = m.content := by unfold unlink; split <;> rfl

theorem Message.unlink_ofChat (chat : Nat) (m : Message) (c : Nat) :
    (m.unlink chat).ofChat = some c ↔ m.ofChat = some c ∧ c ≠ chat := by
  unfold unlink
  split
  · rename_i h
    simp only [reduceCtorEq,h,Option.some.injEq,false_iff]
    rintro ⟨rfl,hne⟩
    exact hne rfl
  · rename_i h
    constructor
    · intro hc
      refine ⟨hc,?_⟩
      rintro rfl
      exact h hc
    · exact And.left

theorem Message.unlink_of_none {m : Message} (h : m.ofChat = none) (chat : Nat) :
    m.unlink chat = m := by
  simp [unlink,h]

/-- A graph of chats and messages. Every link leads to a chat of the graph, so
a message belongs to at most one chat and never to a missing one. -/
structure Graph where
  chats : List Chat
  messages : List Message
  nextID : Nat
  chat_lt : ∀ c ∈ chats, c.objectID < nextID
  message_lt : ∀ m ∈ messages, m.objectID < nextID
  link_mem : ∀ m ∈ messages, ∀ c, m.ofChat = some c → c ∈ chats.map Chat.objectID

namespace Graph

def empty : Graph := ⟨[],[],0,by simp,by simp,by simp⟩

/-- The rows of a chat, in the order of their insertion. -/
def linked (g : Graph) (chat : Nat) : List Message :=
  g.messages.filter (fun m => m.ofChat = some chat)

def HasChat (g : Graph) (chat : Nat) : Prop := chat ∈ g.chats.map Chat.objectID

instance (g : Graph) (chat : Nat) : Decidable (g.HasChat chat) :=
  inferInstanceAs (Decidable (_ ∈ _))

def chat? (g : Graph) (chat : Nat) : Option Chat := g.chats.find? (fun c => c.objectID = chat)

def insertMessage (g : Graph) (content : MessageContent) : Graph where
  chats := g.chats
  messages := g.messages ++ [⟨g.nextID,content,none⟩]
  nextID := g.nextID + 1
  chat_lt c hc := Nat.lt_succ_of_lt (g.chat_lt c hc)
  message_lt m hm := by
    rcases List.mem_append.mp hm with h | h
    · exact Nat.lt_succ_of_lt (g.message_lt m h)
    · simp_all
  link_mem m hm c hc := by
    rcases List.mem_append.mp hm with h | h
    · exact g.link_mem m h c hc
    · simp_all

/-- The loop of `saveChat` over its messages: the objects it made, and the graph. -/
def insertMessages (g : Graph) : List MessageContent → List Message × Graph
  | [] => ([],g)
  | content :: rest =>
    let (rows,g') := (g.insertMessage content).insertMessages rest
    (⟨g.nextID,content,none⟩ :: rows,g')

def insertChat (g : Graph) (id : String) : Graph where
  chats := g.chats ++ [{ objectID := g.nextID, id := some id }]
  messages := g.messages
  nextID := g.nextID + 1
  chat_lt c hc := by
    rcases List.mem_append.mp hc with h | h
    · exact Nat.lt_succ_of_lt (g.chat_lt c h)
    · simp_all
  message_lt m hm := Nat.lt_succ_of_lt (g.message_lt m hm)
  link_mem m hm c hc := by
    have h := g.link_mem m hm c hc
    simp only [List.map_append,List.mem_append]
    exact .inl h

def setAttributes (g : Graph) (chat : Nat) (name : Option String) (lastQuestion : Option String)
    (lastQuestionCreated : Option Date) : Graph where
  chats := g.chats.map fun c =>
    if c.objectID = chat then { c with name, lastQuestion, lastQuestionCreated } else c
  messages := g.messages
  nextID := g.nextID
  chat_lt c hc := by
    obtain ⟨c',hc',rfl⟩ := List.mem_map.mp hc
    have h := g.chat_lt c' hc'
    split <;> exact h
  message_lt := g.message_lt
  link_mem m hm c hc := by
    have h := g.link_mem m hm c hc
    simp only [List.map_map]
    convert h using 2
    funext c'
    simp only [Function.comp]
    split <;> rfl

/-- Assignment to the to-many relationship. Rows it no longer names lose their
inverse link; an object that has left the context takes no links. -/
def setMessages (g : Graph) (chat : Nat) (rows : List Nat) : Graph where
  chats := g.chats
  messages := g.messages.map fun m =>
    if g.HasChat chat ∧ m.objectID ∈ rows then { m with ofChat := some chat } else m.unlink chat
  nextID := g.nextID
  chat_lt := g.chat_lt
  message_lt m hm := by
    obtain ⟨m',hm',rfl⟩ := List.mem_map.mp hm
    have h := g.message_lt m' hm'
    split
    · exact h
    · simpa using h
  link_mem m hm c hc := by
    obtain ⟨m',hm',rfl⟩ := List.mem_map.mp hm
    split at hc
    · rename_i h
      cases hc
      exact h.1
    · exact g.link_mem m' hm' c ((m'.unlink_ofChat chat c).mp hc).1

def deleteChat (g : Graph) (chat : Nat) : Graph where
  chats := g.chats.filter (fun c => c.objectID ≠ chat)
  messages := g.messages.map (Message.unlink chat)
  nextID := g.nextID
  chat_lt c hc := g.chat_lt c (List.mem_filter.mp hc).1
  message_lt m hm := by
    obtain ⟨m',hm',rfl⟩ := List.mem_map.mp hm
    simpa using g.message_lt m' hm'
  link_mem m hm c hc := by
    obtain ⟨m',hm',rfl⟩ := List.mem_map.mp hm
    obtain ⟨hlink,hne⟩ := (m'.unlink_ofChat chat c).mp hc
    obtain ⟨chat',hchat',rfl⟩ := List.mem_map.mp (g.link_mem m' hm' c hlink)
    exact List.mem_map_of_mem (List.mem_filter.mpr ⟨hchat',by simpa using hne⟩)

theorem HasChat.lt {g : Graph} {chat : Nat} (h : g.HasChat chat) : chat < g.nextID := by
  obtain ⟨c,hc,rfl⟩ := List.mem_map.mp h
  exact g.chat_lt c hc

@[simp] theorem hasChat_setAttributes (g : Graph) (chat c : Nat) (name lastQuestion : Option String)
    (lastQuestionCreated : Option Date) :
    (g.setAttributes chat name lastQuestion lastQuestionCreated).HasChat c ↔ g.HasChat c := by
  unfold HasChat setAttributes
  rw [List.map_map]
  have hid : (Chat.objectID ∘ fun c : Chat =>
      if c.objectID = chat then { c with name, lastQuestion, lastQuestionCreated } else c) =
      Chat.objectID := by
    funext c'
    simp only [Function.comp]
    split <;> rfl
  rw [hid]

theorem setAttributes_missing {g : Graph} {chat : Nat} (hchat : ¬ g.HasChat chat)
    (name lastQuestion : Option String) (lastQuestionCreated : Option Date) :
    (g.setAttributes chat name lastQuestion lastQuestionCreated).chats = g.chats := by
  simp only [setAttributes]
  conv_rhs => rw [← List.map_id g.chats]
  apply List.map_congr_left
  intro c hc
  rw [if_neg]
  · rfl
  · rintro rfl
    exact hchat (List.mem_map_of_mem hc)

theorem insertMessages_content (g : Graph) (contents : List MessageContent) :
    (g.insertMessages contents).1.map Message.content = contents := by
  induction contents generalizing g with
  | nil => rfl
  | cons content rest ih => simp [insertMessages,ih]

@[simp] theorem insertMessages_chats (g : Graph) (contents : List MessageContent) :
    (g.insertMessages contents).2.chats = g.chats := by
  induction contents generalizing g with
  | nil => rfl
  | cons content rest ih => simp [insertMessages,ih,insertMessage]

theorem insertMessages_messages (g : Graph) (contents : List MessageContent) :
    (g.insertMessages contents).2.messages = g.messages ++ (g.insertMessages contents).1 := by
  induction contents generalizing g with
  | nil => simp [insertMessages]
  | cons content rest ih => simp [insertMessages,ih,insertMessage]

theorem insertMessages_new (g : Graph) (contents : List MessageContent) :
    (∀ m ∈ (g.insertMessages contents).1, g.nextID ≤ m.objectID ∧ m.ofChat = none) ∧
      ((g.insertMessages contents).1.map Message.objectID).Nodup := by
  induction contents generalizing g with
  | nil => simp [insertMessages]
  | cons content rest ih =>
    obtain ⟨hnew,hnodup⟩ := ih (g.insertMessage content)
    have hnext : (g.insertMessage content).nextID = g.nextID + 1 := rfl
    simp only [insertMessages,List.mem_cons,List.map_cons,List.nodup_cons,List.mem_map]
    refine ⟨?_,?_,hnodup⟩
    · rintro m (rfl | hm)
      · exact ⟨Nat.le_refl _,rfl⟩
      · have := hnew m hm
        exact ⟨by omega,this.2⟩
    · rintro ⟨m,hm,hid⟩
      have := hnew m hm
      omega

theorem insertMessages_unlinked {g : Graph} {contents : List MessageContent} {m : Message}
    (h : m ∈ (g.insertMessages contents).1) : m.ofChat = none :=
  ((g.insertMessages_new contents).1 m h).2

theorem setMessages_inserted {g g' : Graph} {contents : List MessageContent} {chat : Nat}
    {kept rest : List Message} (hrows : (g.insertMessages contents).1 = kept ++ rest)
    (hmessages : g'.messages = g.messages ++ (kept ++ rest)) (hchat : g'.HasChat chat) :
    (g'.setMessages chat (kept.map Message.objectID)).messages =
      g.messages.map (Message.unlink chat) ++
        (kept.map (fun m => { m with ofChat := some chat }) ++ rest) := by
  obtain ⟨hnew,hnodup⟩ := g.insertMessages_new contents
  rw [hrows] at hnew hnodup
  rw [List.map_append,List.nodup_append] at hnodup
  simp only [setMessages,hmessages,hchat,true_and,List.map_append]
  congr 1
  · apply List.map_congr_left
    intro m hm
    rw [if_neg]
    intro hmem
    obtain ⟨r,hr,hid⟩ := List.mem_map.mp hmem
    have hlow := g.message_lt m hm
    have hhigh := (hnew r (List.mem_append_left _ hr)).1
    omega
  · congr 1
    · apply List.map_congr_left
      intro m hm
      rw [if_pos (List.mem_map_of_mem hm)]
    · conv_rhs => rw [← List.map_id rest]
      apply List.map_congr_left
      intro m hm
      rw [if_neg]
      · exact Message.unlink_of_none (hnew m (List.mem_append_right _ hm)).2 chat
      · intro hmem
        exact hnodup.2.2 _ hmem _ (List.mem_map_of_mem hm) rfl

theorem deleteChat_inserted {g g' : Graph} {rows : List Message} (chat : Nat)
    (hmessages : g'.messages = g.messages ++ rows) (hunlinked : ∀ m ∈ rows, m.ofChat = none) :
    (g'.deleteChat chat).messages = g.messages.map (Message.unlink chat) ++ rows := by
  have hsame : rows.map (Message.unlink chat) = rows.map id :=
    List.map_congr_left fun m hm => Message.unlink_of_none (hunlinked m hm) chat
  simp only [deleteChat,hmessages,List.map_append,hsame,List.map_id]

theorem setMessages_missing {g : Graph} {chat : Nat} (hchat : ¬ g.HasChat chat) (rows : List Nat) :
    (g.setMessages chat rows).messages = g.messages := by
  simp only [setMessages,hchat,false_and,if_false]
  conv_rhs => rw [← List.map_id g.messages]
  apply List.map_congr_left
  intro m hm
  rw [Message.unlink,if_neg]
  · rfl
  · exact fun h => hchat (g.link_mem m hm chat h)

theorem filter_unlink_self (chat : Nat) (ms : List Message) :
    (ms.map (Message.unlink chat)).filter (fun m => m.ofChat = some chat) = [] := by
  simp [Message.unlink_ofChat]

theorem filter_unlink_other {chat c : Nat} (hne : c ≠ chat) (ms : List Message) :
    (ms.map (Message.unlink chat)).filter (fun m => m.ofChat = some c) =
      ms.filter (fun m => m.ofChat = some c) := by
  induction ms with
  | nil => rfl
  | cons m ms ih =>
    rw [List.map_cons,List.filter_cons,List.filter_cons,ih]
    by_cases hm : m.ofChat = some c
    · have hkeep : m.unlink chat = m := by
        rw [Message.unlink,if_neg]
        rw [hm]
        exact fun h => hne (Option.some.inj h)
      rw [hkeep]
    · simp [Message.unlink_ofChat,hm]

theorem filter_unlinked {ms : List Message} (h : ∀ m ∈ ms, m.ofChat = none) (c : Nat) :
    ms.filter (fun m => m.ofChat = some c) = [] := by
  simp +contextual [h]

theorem linked_replaced {g g' : Graph} {chat : Nat} {kept rest : List Message}
    (hmessages : g'.messages = g.messages.map (Message.unlink chat) ++
      (kept.map (fun m => { m with ofChat := some chat }) ++ rest))
    (hrest : ∀ m ∈ rest, m.ofChat = none) :
    g'.linked chat = kept.map (fun m => { m with ofChat := some chat }) ∧
      ∀ c ≠ chat, g'.linked c = g.linked c := by
  unfold linked
  rw [hmessages]
  constructor
  · rw [List.filter_append,List.filter_append,filter_unlink_self,filter_unlinked hrest]
    simp
  · intro c hc
    rw [List.filter_append,List.filter_append,filter_unlink_other hc,filter_unlinked hrest]
    simp [hc.symm]

theorem linked_unlinked {g g' : Graph} {chat : Nat} {rest : List Message}
    (hmessages : g'.messages = g.messages.map (Message.unlink chat) ++ rest)
    (hrest : ∀ m ∈ rest, m.ofChat = none) :
    g'.linked chat = [] ∧ ∀ c ≠ chat, g'.linked c = g.linked c :=
  @linked_replaced g g' chat [] rest (by simpa using hmessages) hrest

theorem linked_extended {g g' : Graph} {rows : List Message}
    (hmessages : g'.messages = g.messages ++ rows) (hrows : ∀ m ∈ rows, m.ofChat = none) (c : Nat) :
    g'.linked c = g.linked c := by
  unfold linked
  rw [hmessages,List.filter_append,filter_unlinked hrows,List.append_nil]

end Graph

/-- The view context: `graph` holds its objects with their pending changes,
`store` what the last save wrote. -/
structure ManagedObjectContext where
  graph : Graph := .empty
  store : Graph := .empty

def ManagedObjectContext.save (moc : ManagedObjectContext) : ManagedObjectContext :=
  { moc with store := moc.graph }

end GenieD

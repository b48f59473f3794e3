import GenieD.Effects

set_option autoImplicit false

namespace GenieD

/-- The messages without a question that still waits for its answer. -/
def answered (messages : List MessageItem) : List MessageItem :=
  if messages.getLast?.any MessageItem.isMy then messages.dropLast else messages

def unanswered (messages : List MessageItem) : List MessageItem :=
  if messages.getLast?.any MessageItem.isMy then messages.getLast?.toList else []

theorem answered_append (messages : List MessageItem) :
    answered messages ++ unanswered messages = messages := by
  unfold answered unanswered
  split
  · rename_i h
    rcases List.eq_nil_or_concat messages with rfl | ⟨ms,m,rfl⟩
    · simp at h
    · simp
  · simp

def lastQuestion (messages : List MessageItem) : Option MessageItem :=
  (answered messages).reverse.find? MessageItem.isMy

def savedName (chatNameText : String) : Option String :=
  if Text.isBlank chatNameText then none else some chatNameText

def Chat.update (c : Chat) (name : Option String) (q : MessageContent) : Chat :=
  { c with name, lastQuestion := q.text, lastQuestionCreated := q.created }

@[simp] theorem Chat.update_name (c : Chat) (name : Option String) (q : MessageContent) :
    (c.update name q).name = name := rfl

@[simp] theorem Chat.update_lastQuestion (c : Chat) (name : Option String) (q : MessageContent) :
    (c.update name q).lastQuestion = q.text := rfl

theorem Graph.hasChat_map {g : Graph} {chats : List Chat} {chat : Nat} {f : Chat → Chat}
    (hchats : g.chats = chats.map f) (hf : ∀ c, (f c).objectID = c.objectID) :
    g.HasChat chat ↔ chat ∈ chats.map Chat.objectID := by
  unfold Graph.HasChat
  rw [hchats,List.map_map]
  have : Chat.objectID ∘ f = Chat.objectID := funext hf
  rw [this]

theorem Graph.hasChat_congr {g g' : Graph} (hchats : g'.chats = g.chats) (chat : Nat) :
    g'.HasChat chat ↔ g.HasChat chat := by
  unfold Graph.HasChat
  rw [hchats]

theorem Graph.hasChat_filter {g g' : Graph} {chat c : Nat}
    (hchats : g'.chats = g.chats.filter (fun x => x.objectID ≠ chat)) :
    g'.HasChat c ↔ c ≠ chat ∧ g.HasChat c := by
  unfold Graph.HasChat
  rw [hchats,List.mem_map,List.mem_map]
  constructor
  · rintro ⟨x,hx,rfl⟩
    obtain ⟨hin,hne⟩ := List.mem_filter.mp hx
    exact ⟨by simpa using hne,x,hin,rfl⟩
  · rintro ⟨hne,x,hin,rfl⟩
    exact ⟨x,List.mem_filter.mpr ⟨hin,by simpa using hne⟩,rfl⟩

theorem update_objectID (chat : Nat) (name : Option String) (q : MessageContent) (c : Chat) :
    (if c.objectID = chat then c.update name q else c).objectID = c.objectID := by
  split <;> rfl

theorem Graph.chat?_updated {g : Graph} {chats : List Chat} {chat : Nat} {name : Option String}
    {q : MessageContent}
    (hchats : g.chats = chats.map fun c => if c.objectID = chat then c.update name q else c) :
    g.chat? chat =
      (chats.find? (fun c => c.objectID = chat)).map (fun c => c.update name q) := by
  have hpred : ((fun c : Chat => decide (c.objectID = chat)) ∘ fun c : Chat =>
      if c.objectID = chat then c.update name q else c) =
      fun c : Chat => decide (c.objectID = chat) := by
    funext c
    simp only [Function.comp,update_objectID]
  rw [Graph.chat?,hchats,List.find?_map,hpred]
  cases hrow : chats.find? (fun c => c.objectID = chat) with
  | none => rfl
  | some row =>
    have hid : row.objectID = chat := by simpa using List.find?_some hrow
    simp [hid]

theorem Graph.chat?_eq_none {g : Graph} {chat : Nat} : g.chat? chat = none ↔ ¬ g.HasChat chat := by
  simp [Graph.chat?,Graph.HasChat]

namespace App

/-- What `saveChat` can do. `rows` are the objects it made for the messages. -/
inductive Saved (p : Platform) (a : App) : App → Prop where
  | skipped (g : Graph) (rows : List Message) (hchat : a.vm.chat = none)
      (hnone : lastQuestion a.vm.messages = none)
      (hrows : rows.map Message.content = a.vm.messages.map (MessageItem.content p))
      (hunlinked : ∀ m ∈ rows, m.ofChat = none)
      (hmessages : g.messages = a.moc.graph.messages ++ rows)
      (hchats : g.chats = a.moc.graph.chats) :
      Saved p a { a with moc := { a.moc with graph := g } }
  | deleted (chat : Nat) (g : Graph) (rows : List Message) (hchat : a.vm.chat = some chat)
      (hnone : lastQuestion a.vm.messages = none)
      (hrows : rows.map Message.content = a.vm.messages.map (MessageItem.content p))
      (hunlinked : ∀ m ∈ rows, m.ofChat = none)
      (hmessages : g.messages = a.moc.graph.messages.map (Message.unlink chat) ++ rows)
      (hchats : g.chats = a.moc.graph.chats.filter (fun c => c.objectID ≠ chat)) :
      Saved p a { a with moc := ⟨g,g⟩ }
  | stored (chat : Nat) (g : Graph) (uuids : Nat) (q : MessageItem) (name : Option String)
      (chats : List Chat) (kept rest : List Message)
      (hq : lastQuestion a.vm.messages = some q)
      (hchat : (a.vm.chat = some chat ∧ a.moc.graph.HasChat chat ∧ chats = a.moc.graph.chats) ∨
        (a.vm.chat = none ∧ ¬ a.moc.graph.HasChat chat ∧ ∃ c : Chat, c.objectID = chat ∧
          chats = a.moc.graph.chats ++ [c]))
      (huuids : a.device.uuids ≤ uuids)
      (hkept : kept.map Message.content = (answered a.vm.messages).map (MessageItem.content p))
      (hrest : rest.map Message.content = (unanswered a.vm.messages).map (MessageItem.content p))
      (hunlinked : ∀ m ∈ rest, m.ofChat = none)
      (hmessages : g.messages = a.moc.graph.messages.map (Message.unlink chat) ++
        (kept.map (fun m => { m with ofChat := some chat }) ++ rest))
      (hchats : g.chats = chats.map fun c =>
        if c.objectID = chat then c.update name (q.content p) else c)
      (hname : name = savedName a.vm.chatNameText) :
      Saved p a { a with
        device := Device.note { a.device with uuids }
          (.saveChat chat ((answered a.vm.messages).map (MessageItem.content p)))
        moc := ⟨g,g⟩
        vm := { a.vm with chat := some chat } }
  | detached (chat : Nat) (g : Graph) (rows : List Message) (q : MessageItem)
      (hq : lastQuestion a.vm.messages = some q)
      (hchat : a.vm.chat = some chat) (hgone : ¬ a.moc.graph.HasChat chat)
      (hrows : rows.map Message.content = a.vm.messages.map (MessageItem.content p))
      (hunlinked : ∀ m ∈ rows, m.ofChat = none)
      (hmessages : g.messages = a.moc.graph.messages ++ rows)
      (hchats : g.chats = a.moc.graph.chats) :
      Saved p a { a with
        device := a.device.note
          (.saveChat chat ((answered a.vm.messages).map (MessageItem.content p)))
        moc := ⟨g,g⟩ }

theorem exists_item {p : Platform} {rows : List Message} {items : List MessageItem}
    (h : rows.map Message.content = items.map (MessageItem.content p)) {m : Message}
    (hm : m ∈ rows) : ∃ x ∈ items, m.content = x.content p := by
  have hmem : m.content ∈ items.map (MessageItem.content p) := h ▸ List.mem_map_of_mem hm
  obtain ⟨x,hx,hcontent⟩ := List.mem_map.mp hmem
  exact ⟨x,hx,hcontent.symm⟩

theorem find?_content (p : Platform) {rows : List Message} {items : List MessageItem}
    (h : rows.map Message.content = items.map (MessageItem.content p)) :
    (rows.reverse.find? (fun m => m.content.isMy)).map Message.content =
      (items.reverse.find? MessageItem.isMy).map (MessageItem.content p) := by
  have hfind : (rows.map Message.content).reverse.find? MessageContent.isMy =
      (items.map (MessageItem.content p)).reverse.find? MessageContent.isMy := by rw [h]
  simpa [← List.map_reverse,List.find?_map,Function.comp_def,MessageItem.content] using hfind

theorem getLast?_content (p : Platform) {rows : List Message} {items : List MessageItem}
    (h : rows.map Message.content = items.map (MessageItem.content p)) :
    rows.getLast?.any (fun m => m.content.isMy) = items.getLast?.any MessageItem.isMy := by
  have hlast : (rows.map Message.content).getLast?.any MessageContent.isMy =
      (items.map (MessageItem.content p)).getLast?.any MessageContent.isMy := by rw [h]
  simpa [List.getLast?_map,Option.any_map,Function.comp_def,MessageItem.content] using hlast

theorem rows_split (p : Platform) {rows : List Message} {items : List MessageItem}
    (h : rows.map Message.content = items.map (MessageItem.content p)) :
    ∃ rest, rows =
        (if rows.getLast?.any (fun m => m.content.isMy) then rows.dropLast else rows) ++ rest ∧
      (if rows.getLast?.any (fun m => m.content.isMy) then rows.dropLast else rows).map
        Message.content = (answered items).map (MessageItem.content p) ∧
      rest.map Message.content = (unanswered items).map (MessageItem.content p) := by
  rw [getLast?_content p h]
  unfold answered unanswered
  split
  · rename_i hlast
    rcases List.eq_nil_or_concat rows with rfl | ⟨rs,r,rfl⟩
    · rw [← getLast?_content p h] at hlast
      simp at hlast
    · rcases List.eq_nil_or_concat items with rfl | ⟨is,i,rfl⟩
      · simp at hlast
      · have hboth : rs.map Message.content = is.map (MessageItem.content p) ∧
            r.content = i.content p := by simpa using h
        exact ⟨[r],by simp,by simpa using hboth.1,by simpa using hboth.2⟩
  · exact ⟨[],by simp,h,by simp⟩

theorem saved_saveChat (p : Platform) (a : App) : Saved p a (a.saveChat p) := by
  have hcontent := a.moc.graph.insertMessages_content (a.vm.messages.map (MessageItem.content p))
  have hmessages := a.moc.graph.insertMessages_messages (a.vm.messages.map (MessageItem.content p))
  have hunlinked : ∀ m ∈ (a.moc.graph.insertMessages (a.vm.messages.map (MessageItem.content p))).1,
      m.ofChat = none := fun m hm => Graph.insertMessages_unlinked hm
  have hchats := a.moc.graph.insertMessages_chats (a.vm.messages.map (MessageItem.content p))
  obtain ⟨rest,hrows,hkept,hrest⟩ := rows_split p hcontent
  have hfind := find?_content p hkept
  unfold saveChat
  dsimp only
  rw [hkept]
  generalize hresult : (if (a.moc.graph.insertMessages (a.vm.messages.map
    (MessageItem.content p))).1.getLast?.any (fun m => m.content.isMy) then
      (a.moc.graph.insertMessages (a.vm.messages.map (MessageItem.content p))).1.dropLast else
      (a.moc.graph.insertMessages (a.vm.messages.map (MessageItem.content p))).1) = kept at *
  split
  · rename_i hnone
    have hq : lastQuestion a.vm.messages = none := by
      simpa [hnone,lastQuestion] using hfind.symm
    split
    · rename_i hchat
      exact .skipped _ _ hchat hq hcontent hunlinked hmessages hchats
    · rename_i chat hchat
      refine .deleted chat _ _ hchat hq hcontent hunlinked ?_ ?_
      · exact Graph.deleteChat_inserted chat hmessages hunlinked
      · simp only [Graph.deleteChat,hchats]
  · rename_i last hlast
    obtain ⟨q,hq,hlastq⟩ : ∃ q, lastQuestion a.vm.messages = some q ∧
        q.content p = last.content := by
      rw [hlast] at hfind
      simpa [lastQuestion] using hfind.symm
    have hleft : ∀ m ∈ rest, m.ofChat = none := fun m hm => hunlinked m (by simp [hrows,hm])
    have hhas := Graph.hasChat_congr hchats
    have hmessages' := hmessages.trans (by rw [hrows])
    let name := savedName a.vm.chatNameText
    cases hchat : a.vm.chat with
    | some chat =>
      by_cases hin : a.moc.graph.HasChat chat
      · refine .stored chat _ a.device.uuids q name a.moc.graph.chats kept rest hq
          (.inl ⟨hchat,hin,rfl⟩) (Nat.le_refl _) hkept hrest hleft ?_ ?_ rfl
        · exact Graph.setMessages_inserted hrows hmessages'
            ((Graph.hasChat_setAttributes _ _ _ _ _ _).mpr ((hhas chat).mpr hin))
        · simp only [Graph.setMessages,Graph.setAttributes,hchats,Chat.update,hlastq,name,savedName]
      · have hvm : ({ a.vm with chat := some chat } : AskQuestionViewModel) = a.vm := by
          rw [← hchat]
        have hout := fun h => hin ((hhas chat).mp h)
        simp only [hvm]
        refine .detached chat _ _ q hq hchat hin hcontent hunlinked ?_ ?_
        · rw [Graph.setMessages_missing]
          · exact hmessages
          · exact fun h => hout ((Graph.hasChat_setAttributes _ _ _ _ _ _).mp h)
        · exact (Graph.setAttributes_missing hout _ _ _).trans hchats
    | none =>
      dsimp only
      let inserted := a.moc.graph.insertMessages (a.vm.messages.map (MessageItem.content p))
      let c : Chat := { objectID := inserted.2.nextID, id := some (p.uuid a.device.uuids) }
      refine .stored c.objectID _ (a.device.uuids + 1) q name (a.moc.graph.chats ++ [c]) kept rest
        hq (.inr ⟨hchat,?_,c,rfl,rfl⟩) (Nat.le_succ _) hkept hrest hleft ?_ ?_ rfl
      · exact fun h => Nat.lt_irrefl _ ((hhas _).mpr h).lt
      · refine Graph.setMessages_inserted hrows hmessages'
          ((Graph.hasChat_setAttributes _ _ _ _ _ _).mpr ?_)
        simp [Graph.HasChat,Graph.insertChat]
      · simp only [Graph.setMessages,Graph.setAttributes,Graph.insertChat,hchats,Chat.update,hlastq,
          name,savedName,inserted,c]

theorem resaved {p : Platform} {a b : App} {chat : Nat} (hs : Saved p a b)
    (hvm : a.vm.chat = some chat) (hhas : a.moc.graph.HasChat chat) :
    (lastQuestion a.vm.messages ≠ none ∧ b.moc.store.HasChat chat ∧
      (b.moc.store.linked chat).map Message.content =
        (answered a.vm.messages).map (MessageItem.content p)) ∨
    (lastQuestion a.vm.messages = none ∧ ¬ b.moc.store.HasChat chat) := by
  cases hs with
  | skipped g _ hchat => simp [hvm] at hchat
  | deleted c g _ hchat hnone _ _ _ hchats =>
    have hc : chat = c := by simpa [hvm] using hchat
    exact .inr ⟨hnone,fun h => ((Graph.hasChat_filter hchats).mp h).1 hc⟩
  | detached c g _ q _ hchat hgone =>
    have hc : chat = c := by simpa [hvm] using hchat
    exact absurd (hc ▸ hhas) hgone
  | stored c g uuids q name chats kept rest hq hchat _ hkept _ hunlinked hmessages hchats =>
    rcases hchat with ⟨hchat,-,rfl⟩ | ⟨hchat,-⟩
    · have hc : chat = c := by simpa [hvm] using hchat
      subst hc
      refine .inl ⟨by simp [hq],?_,?_⟩
      · exact (Graph.hasChat_map hchats (update_objectID chat name (q.content p))).mpr hhas
      · rw [(Graph.linked_replaced hmessages hunlinked).1,← hkept,List.map_map]
        rfl
    · simp [hvm] at hchat

theorem Saved.grew {p : Platform} {a b : App} (hs : Saved p a b) :
    Grew (fun e => ∃ chat rows, e = .saveChat chat rows) a.device b.device := by
  cases hs with
  | skipped => exact .of_journal rfl
  | deleted => exact .of_journal rfl
  | stored => exact .one ⟨_,_,rfl⟩ rfl
  | detached => exact .one ⟨_,_,rfl⟩ rfl

def noted (p : Platform) (a : App) (e : Event) : List Entry :=
  (a.step p e).device.journal.drop a.device.journal.length

theorem mem_noted {p : Platform} {a : App} {e : Event} {x : Entry} (hx : x ∈ a.noted p e) :
    (∃ chat rows, x = .saveChat chat rows) ∨ Notes p (a.asking p e) a (a.step p e) x := by
  have hmem {ok : Entry → Prop} (h : Grew ok a.device (a.step p e).device) : ok x := by
    obtain ⟨entries,hok,hjournal⟩ := h
    simp only [noted,hjournal,List.drop_left] at hx
    exact hok x hx
  by_cases he : e = .saveChat
  · subst he
    exact .inl (hmem (saved_saveChat p a).grew)
  · exact .inr (hmem (notes_step p a he))

theorem journal_step (p : Platform) (a : App) (e : Event) :
    (a.step p e).device.journal = a.device.journal ++ a.noted p e := by
  have hgrew {ok : Entry → Prop} (h : Grew ok a.device (a.step p e).device) :
      (a.step p e).device.journal = a.device.journal ++ a.noted p e := by
    obtain ⟨entries,-,hjournal⟩ := h
    simp [noted,hjournal]
  by_cases he : e = .saveChat
  · subst he
    exact hgrew (saved_saveChat p a).grew
  · exact hgrew (notes_step p a he)

end App

end GenieD

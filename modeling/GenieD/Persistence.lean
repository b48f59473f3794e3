import GenieD.Opening
import GenieD.Saving

set_option autoImplicit false

namespace GenieD

open Runs Dialogs App

variable {p : Platform}

namespace App

def Links (p : Platform) (a : App) (rows : List MessageContent) : Prop :=
  ∃ chat, (a.saveChat p).vm.chat = some chat ∧ (a.saveChat p).moc.store.HasChat chat ∧
    ((a.saveChat p).moc.store.linked chat).map Message.content = rows

def TellsLast (p : Platform) (a : App) (rows : List MessageContent) : Prop :=
  ∃ chat row q, (a.saveChat p).vm.chat = some chat ∧
    (a.saveChat p).moc.store.chat? chat = some row ∧
    rows.reverse.find? MessageContent.isMy = some q ∧
    row.lastQuestion = q.text ∧ row.lastQuestionCreated = q.created

end App

theorem lastQuestion_content (p : Platform) (messages : List MessageItem) :
    ((answered messages).map (MessageItem.content p)).reverse.find? MessageContent.isMy =
      (lastQuestion messages).map (MessageItem.content p) := by
  rw [← List.map_reverse,List.find?_map]
  rfl

theorem links_answered {a : App} {rows : List MessageContent} (h : a.Links p rows) :
    lastQuestion a.vm.messages ≠ none ∧
      rows = (answered a.vm.messages).map (MessageItem.content p) ∧ a.TellsLast p rows := by
  obtain ⟨chat,hvm,hhas,hrows⟩ := h
  have hs := saved_saveChat p a
  unfold TellsLast
  generalize a.saveChat p = b at hs hvm hhas hrows ⊢
  cases hs with
  | skipped g _ hchat => simp [hchat] at hvm
  | deleted c g _ hchat _ _ _ _ hchats =>
    have hc : chat = c := by simpa [hchat] using hvm.symm
    exact absurd hc ((Graph.hasChat_filter hchats).mp hhas).1
  | detached c g _ q _ hchat hgone _ _ _ hchats =>
    have hc : c = chat := by simpa [hchat] using hvm
    rw [hc] at hgone
    exact absurd ((Graph.hasChat_congr hchats chat).mp hhas) hgone
  | stored c g uuids q name chats kept rest hq hchat _ hkept _ hunlinked hmessages hchats =>
    have hc : c = chat := by simpa using hvm
    subst hc
    have hlinked := (Graph.linked_replaced hmessages hunlinked).1
    have hlist : rows = (answered a.vm.messages).map (MessageItem.content p) := by
      rw [← hrows,hlinked,List.map_map,← hkept]
      rfl
    refine ⟨by simp [hq],hlist,c,?_⟩
    obtain ⟨row,hrow⟩ : ∃ row, g.chat? c = some row :=
      Option.ne_none_iff_exists'.mp fun hnone => Graph.chat?_eq_none.mp hnone hhas
    obtain ⟨x,-,hx⟩ := Option.map_eq_some_iff.mp ((Graph.chat?_updated hchats).symm.trans hrow)
    refine ⟨row,q.content p,rfl,hrow,?_,by simp [← hx,Chat.update],by simp [← hx,Chat.update]⟩
    rw [hlist,lastQuestion_content,hq]
    rfl

theorem Shows.answered {a : App} {d : Conversation} (h : Shows p a d) :
    answered a.vm.messages = transcript d.exchanges := by
  unfold GenieD.answered
  rw [h.messages,d.ends_asking]
  obtain ⟨es,asked⟩ := d
  cases asked with
  | none => simp
  | some q => simp [Dialog.messages]

theorem lastQuestion_transcript {messages : List MessageItem}
    {es : List (Exchange MessageItem.isMy)} (h : answered messages = transcript es) :
    lastQuestion messages = none ↔ es = [] := by
  unfold lastQuestion
  rw [h]
  rcases List.eq_nil_or_concat es with rfl | ⟨es,e,rfl⟩
  · simp
  · simp [e.asks,e.answers]

/-- The chats of the context during a session: those it found, and at most one
of its own. A session with a chat has a finished exchange. -/
structure Kept (o : Opening p) (a : App) (d : Conversation) : Prop where
  chats : (a.vm.chat = o.chat ∧
      a.moc.graph.chats.map Chat.objectID = o.moc.graph.chats.map Chat.objectID) ∨
    (o.chat = none ∧ ∃ chat, a.vm.chat = some chat ∧
      a.moc.graph.chats.map Chat.objectID = o.moc.graph.chats.map Chat.objectID ++ [chat])
  exchanged : a.vm.chat ≠ none → d.exchanges ≠ []

theorem Kept.hasChat {o : Opening p} {a : App} {d : Conversation} (h : Kept o a d) {chat : Nat}
    (hchat : a.vm.chat = some chat) : a.moc.graph.HasChat chat := by
  unfold Graph.HasChat
  rcases h.chats with ⟨hsame,hids⟩ | ⟨-,c,hc,hids⟩
  · rw [hids]
    exact (o.enumerates chat (hsame ▸ hchat)).1
  · rw [hids]
    have : c = chat := by simpa [hchat] using hc.symm
    simp [this]

theorem Kept.saved {o : Opening p} {a : App} {d : Conversation} (h : Kept o a d)
    (hs : Shows p a d) {c : Conversation} (hgrow : d.exchanges <+: c.exchanges) :
    Kept o (a.saveChat p) c := by
  have hlast := lastQuestion_transcript hs.answered
  have hsaved := saved_saveChat p a
  generalize a.saveChat p = b at hsaved ⊢
  have hlonger (hne : d.exchanges ≠ []) : c.exchanges ≠ [] := by
    rintro hnil
    rw [hnil] at hgrow
    exact hne (List.prefix_nil.mp hgrow)
  cases hsaved with
  | skipped g _ hchat _ _ _ _ hchats =>
    refine ⟨?_,fun hne => absurd hchat hne⟩
    simpa [hchats] using h.chats
  | deleted chat g _ hchat hnone =>
    exact absurd (hlast.mp hnone) (h.exchanged (by simp [hchat]))
  | detached chat g _ q _ hchat hgone => exact absurd (h.hasChat hchat) hgone
  | stored chat g uuids q name chats kept rest hq hchat _ _ _ _ _ hchats =>
    have hne : d.exchanges ≠ [] := fun hnil => by simp [hlast.mpr hnil] at hq
    refine ⟨?_,fun _ => hlonger hne⟩
    have hids : g.chats.map Chat.objectID = chats.map Chat.objectID := by
      rw [hchats,List.map_map]
      exact List.map_congr_left fun x _ => update_objectID chat name (q.content p) x
    simp only [hids]
    rcases hchat with ⟨hvm,-,rfl⟩ | ⟨hvm,-,x,rfl,rfl⟩
    · rcases h.chats with ⟨hsame,hold⟩ | ⟨hnone,y,hy,hold⟩
      · exact .inl ⟨hvm ▸ hsame,hold⟩
      · exact .inr ⟨hnone,y,hvm ▸ hy,hold⟩
    · rcases h.chats with ⟨hsame,hold⟩ | ⟨-,y,hy,-⟩
      · exact .inr ⟨hvm ▸ hsame.symm,x.objectID,rfl,by simp [hold]⟩
      · simp [hvm] at hy

theorem kept_screen (o : Opening p) (ho : o.WellFormed) {es : List (Exchange MessageItem.isMy)}
    (hs : Shows p o.screen ⟨es,none⟩) : Kept o o.screen ⟨es,none⟩ := by
  cases hchat : o.chat with
  | none => exact ⟨.inl (by simp [Opening.screen,openScreen,hchat]),by
      simp [Opening.screen,openScreen,hchat]⟩
  | some chat =>
    refine ⟨.inl (by simp [Opening.screen,openScreen,hchat]),fun _ hnil => ?_⟩
    have hmessages : o.screen.vm.messages = transcript es := by simpa using hs.messages
    have hlast := (ho (by simp [hchat])).2
    have hempty : es = [] := hnil
    simp [hmessages,hempty] at hlast

theorem kept_run {o : Opening p} {a b : App} {es : List Event} {d : Conversation}
    (hrun : SessionRun p a es b) (hs : Shows p a d) (hf : Flagged a) (hk : Kept o a d) :
    ∃ c, Relation.ReflTransGen (Step Amends) d c ∧ Shows p b c ∧ Flagged b ∧ Kept o b c := by
  have hsim : ∀ (a : App) (e : Event) (d : Conversation), a.Allowed e →
      Shows p a d ∧ Flagged a ∧ Kept o a d →
      ∃ c, Relation.ReflTransGen (Step Amends) d c ∧ Shows p (a.step p e) c ∧
        Flagged (a.step p e) ∧ Kept o (a.step p e) c := by
    rintro a e d hok ⟨hs,hf,hk⟩
    obtain ⟨c,hsteps,hs'⟩ := shows_step hok hs hf
    have hgrow := exchanges_grow hsteps
    refine ⟨c,hsteps,hs',flagged_step hok hf hs.quiet,?_⟩
    by_cases he : e = .saveChat
    · subst he
      exact hk.saved hs hgrow
    · obtain ⟨hmoc,hchat,-⟩ := step_keeps_store p a he
      refine ⟨by rw [hmoc,hchat]; exact hk.chats,fun hne hnil => ?_⟩
      rw [hnil] at hgrow
      exact hk.exchanged (hchat ▸ hne) (List.prefix_nil.mp hgrow)
  exact hrun.simulate hsim ⟨hs,hf,hk⟩

/-- What a session has saved it never loses: at most one chat row is made, no
save deletes it, every save links the finished exchanges, and these only grow. -/
theorem saves_grow (o : Opening p) (ho : o.WellFormed) {es : List Event} {a : App}
    (hrun : SessionRun p o.screen es a) :
    (a.moc.graph.chats.map Chat.objectID = o.moc.graph.chats.map Chat.objectID ∨
      ∃ chat, a.moc.graph.chats.map Chat.objectID =
        o.moc.graph.chats.map Chat.objectID ++ [chat]) ∧
    (∀ chat, a.vm.chat = some chat →
      lastQuestion a.vm.messages ≠ none ∧ (a.saveChat p).moc.store.HasChat chat) ∧
    (∀ rows, a.Links p rows →
      rows = (answered a.vm.messages).map (MessageItem.content p) ∧ a.TellsLast p rows) ∧
    ∀ rows fs b rows', a.Links p rows → SessionRun p (a.step p .saveChat) fs b →
      b.Links p rows' → rows <+: rows' := by
  obtain ⟨start,hstart⟩ := shows_screen o ho
  obtain ⟨d,-,hd,hf,hk⟩ := kept_run hrun hstart (flagged_screen o) (kept_screen o ho hstart)
  refine ⟨?_,?_,fun rows h => (links_answered h).2,?_⟩
  · rcases hk.chats with ⟨-,hids⟩ | ⟨-,chat,-,hids⟩
    · exact .inl hids
    · exact .inr ⟨chat,hids⟩
  · intro chat hchat
    have hlast := lastQuestion_transcript hd.answered
    have hq : lastQuestion a.vm.messages ≠ none :=
      fun hnone => hk.exchanged (by simp [hchat]) (hlast.mp hnone)
    rcases resaved (saved_saveChat p a) hchat (hk.hasChat hchat) with ⟨-,hstore,-⟩ | ⟨hnone,-⟩
    · exact ⟨hq,hstore⟩
    · exact absurd hnone hq
  · intro rows fs b rows' hrows hrest hrows'
    obtain ⟨c,hsave,hc⟩ := shows_step (e := .saveChat) trivial hd hf
    obtain ⟨c',hsteps,hc',-⟩ := shows_run hrest hc (flagged_step trivial hf hd.quiet)
    have hgrow := exchanges_grow (hsave.trans hsteps)
    rw [(links_answered hrows).2.1,(links_answered hrows').2.1,hd.answered,hc'.answered]
    exact (transcript_mono hgrow).map _

theorem first_answer_saved :
    let p := Platform.plain Int.ofNat
    let o := Opening.fresh p (.withFreeTokens 3000)
    let a := ((o.screen.step p (.setText "Hello")).step p .onSendAction).step p
      (.complete 0 (.responded (some ⟨["Hi"],⟨some 1,some 5⟩⟩)))
    let rows : List MessageContent := [⟨some "",some "Hello",some 0,true,none,5⟩,
      ⟨some "0",some "Hi",some 1,false,none,1⟩]
    a.Links p rows ∧ a.TellsLast p rows := by
  intro p o a rows
  have hrun : SessionRun p o.screen [.setText "Hello",.onSendAction,
      .complete 0 (.responded (some ⟨["Hi"],⟨some 1,some 5⟩⟩))] a :=
    .cons rfl (.cons rfl (.cons trivial (.nil _)))
  have hlinks : a.Links p rows := ⟨2,by decide,by decide,by decide⟩
  exact ⟨hlinks,((saves_grow o (fun h => absurd rfl h) hrun).2.2.1 rows hlinks).2⟩

end GenieD

import GenieD.Archive

set_option autoImplicit false

namespace GenieD

open Runs App

variable {p : Platform} {a b : App}

/-- Every row of the store belongs to a chat, and the rows of each chat are
those of the list with which it was last saved. -/
def Screen.Tidy (s : Screen) : Prop :=
  (∀ m ∈ s.moc.store.messages, ∃ chat, m.ofChat = some chat ∧ s.moc.store.HasChat chat) ∧
    ∀ chat, s.moc.store.HasChat chat →
      lastSaved s.device.journal chat = some ((s.moc.store.linked chat).map Message.content)

def Graph.NoOrphans (g : Graph) : Prop := ∀ m ∈ g.messages, m.ofChat ≠ none

instance (g : Graph) : Decidable g.NoOrphans := inferInstanceAs (Decidable (∀ m ∈ _, _))

theorem not_tidy {s : Screen} {m : Message} (hm : m ∈ s.moc.store.messages)
    (hnone : m.ofChat = none) : ¬ s.Tidy := by
  rintro ⟨hrows,-⟩
  obtain ⟨chat,hchat,-⟩ := hrows m hm
  simp [hnone] at hchat

theorem tidy_iff {s : Screen} (h : Filed p s.moc s.device.journal) :
    s.Tidy ↔ s.moc.store.NoOrphans := by
  constructor
  · exact fun htidy m hm hnone => not_tidy hm hnone htidy
  · intro hrows
    refine ⟨fun m hm => ?_,fun chat hchat => ?_⟩
    · obtain ⟨chat,hchat⟩ := Option.ne_none_iff_exists'.mp (hrows m hm)
      exact ⟨chat,hchat,s.moc.store.link_mem m hm chat hchat⟩
    · obtain ⟨items,-,hlinked,hlast⟩ := h.archived chat hchat
      rw [hlast,hlinked]

/-- A save that leaves no row behind: it returns before it writes anything, or
no row in the context is without a chat, no question waits on the screen, and
the chat it writes to is there and has no rows yet. -/
def App.SavesCleanly (a : App) : Prop :=
  match lastQuestion a.vm.messages with
  | none => a.vm.chat = none ∨ (a.moc.graph.NoOrphans ∧
      (∀ chat ∈ a.vm.chat, a.moc.graph.linked chat = []) ∧ a.vm.messages = [])
  | some _ => a.moc.graph.NoOrphans ∧ unanswered a.vm.messages = [] ∧
      ∀ chat ∈ a.vm.chat, a.moc.graph.HasChat chat ∧ a.moc.graph.linked chat = []

instance (a : App) : Decidable a.SavesCleanly :=
  match h : lastQuestion a.vm.messages with
  | none => decidable_of_iff (a.vm.chat = none ∨ (a.moc.graph.NoOrphans ∧
      (∀ chat ∈ a.vm.chat, a.moc.graph.linked chat = []) ∧ a.vm.messages = []))
      (by simp [App.SavesCleanly,h])
  | some _ => decidable_of_iff (a.moc.graph.NoOrphans ∧ unanswered a.vm.messages = [] ∧
      ∀ chat ∈ a.vm.chat, a.moc.graph.HasChat chat ∧ a.moc.graph.linked chat = [])
      (by simp [App.SavesCleanly,h])

def Screen.Clean : Screen → Act → Prop
  | .dialog a, .session .saveChat => a.SavesCleanly
  | .dialog a, .leave => a.SavesCleanly
  | .dialog a, .onDeleteChatAction =>
    match a.vm.chat with
    | none => a.SavesCleanly
    | some chat => a.moc.graph.NoOrphans ∧ a.moc.graph.linked chat = [] ∧ a.vm.messages = []
  | _, _ => True

theorem linked_eq_nil (g : Graph) (chat : Nat) :
    g.linked chat = [] ↔ ∀ m ∈ g.messages, m.ofChat ≠ some chat := by
  simp [Graph.linked]

theorem unlink_ne_none (chat : Nat) (m : Message) :
    (m.unlink chat).ofChat ≠ none ↔ m.ofChat ≠ none ∧ m.ofChat ≠ some chat := by
  unfold Message.unlink
  split
  · rename_i h
    simp [h]
  · rename_i h
    simp [h]

theorem noOrphans_replaced {g g' : Graph} {chat : Nat} {kept rest : List Message}
    (hmessages : g'.messages = g.messages.map (Message.unlink chat) ++
      (kept.map (fun m => { m with ofChat := some chat }) ++ rest))
    (hrest : ∀ m ∈ rest, m.ofChat = none) :
    g'.NoOrphans ↔ g.NoOrphans ∧ g.linked chat = [] ∧ rest = [] := by
  rw [linked_eq_nil]
  unfold Graph.NoOrphans
  rw [hmessages]
  constructor
  · intro h
    have hold : ∀ m ∈ g.messages, m.ofChat ≠ none ∧ m.ofChat ≠ some chat := fun m hm =>
      (unlink_ne_none chat m).mp
        (h _ (List.mem_append_left _ (List.mem_map_of_mem hm)))
    refine ⟨fun m hm => (hold m hm).1,fun m hm => (hold m hm).2,?_⟩
    apply List.eq_nil_iff_forall_not_mem.mpr
    intro m hm
    exact h m (by simp [hm]) (hrest m hm)
  · rintro ⟨hlinks,hnew,rfl⟩ m hm
    simp only [List.append_nil,List.mem_append,List.mem_map] at hm
    rcases hm with ⟨x,hx,rfl⟩ | ⟨x,hx,rfl⟩
    · exact (unlink_ne_none chat x).mpr ⟨hlinks x hx,hnew x hx⟩
    · simp

theorem noOrphans_unlinked {g g' : Graph} {chat : Nat} {rest : List Message}
    (hmessages : g'.messages = g.messages.map (Message.unlink chat) ++ rest)
    (hrest : ∀ m ∈ rest, m.ofChat = none) :
    g'.NoOrphans ↔ g.NoOrphans ∧ g.linked chat = [] ∧ rest = [] :=
  @noOrphans_replaced g g' chat [] rest (by simpa using hmessages) hrest

theorem noOrphans_saved (hs : Saved p a b) (hstore : a.vm.chat = none → a.moc.store.NoOrphans) :
    b.moc.store.NoOrphans ↔ a.SavesCleanly := by
  unfold App.SavesCleanly
  cases hs with
  | skipped g rows hchat hnone =>
    simp only [hnone]
    exact ⟨fun _ => .inl hchat,fun _ => hstore hchat⟩
  | deleted chat g rows hchat hnone hrows hunlinked hmessages _ =>
    have hiff := noOrphans_unlinked hmessages hunlinked
    have hempty : rows = [] ↔ a.vm.messages = [] := by
      rw [← List.map_eq_nil_iff (f := Message.content),hrows,List.map_eq_nil_iff]
    simpa [hnone,hchat,hempty] using hiff
  | stored chat g uuids q name chats kept rest hq hchat _ _ hrest hunlinked hmessages _ =>
    have hiff := noOrphans_replaced hmessages hunlinked
    have hempty : rest = [] ↔ unanswered a.vm.messages = [] := by
      rw [← List.map_eq_nil_iff (f := Message.content),hrest,List.map_eq_nil_iff]
    simp only [hq,hiff,hempty]
    rcases hchat with ⟨hvm,hhas,-⟩ | ⟨hvm,hhas,-⟩
    · simp only [hvm,Option.mem_some_iff,forall_eq',hhas,true_and]
      tauto
    · have hnew : a.moc.graph.linked chat = [] := by
        rw [linked_eq_nil]
        exact fun m hm h => hhas (a.moc.graph.link_mem m hm chat h)
      simp [hvm,hnew]
  | detached chat g rows q hq hchat hgone hrows hunlinked hmessages _ =>
    have hne : rows ≠ [] := by
      rintro rfl
      have : a.vm.messages = [] := by simpa using hrows.symm
      simp [this,lastQuestion,answered] at hq
    obtain ⟨m,hm⟩ := List.exists_mem_of_ne_nil rows hne
    simp only [hq]
    constructor
    · exact fun h => absurd (hunlinked m hm) (h m (by simp [hmessages,hm]))
    · exact fun h => absurd (h.2.2 chat hchat).1 hgone

theorem noOrphans_onDeleteChatAction (hstore : a.moc.store.NoOrphans) :
    (a.onDeleteChatAction.leave p).moc.store.NoOrphans ↔
      (Screen.dialog a).Clean .onDeleteChatAction := by
  cases hchat : a.vm.chat with
  | none =>
    have hsame : a.onDeleteChatAction = a := by simp [App.onDeleteChatAction,hchat]
    have hclean : (Screen.dialog a).Clean .onDeleteChatAction ↔ a.SavesCleanly := by
      simp [Screen.Clean,hchat]
    rw [hsame,hclean]
    exact noOrphans_saved (saved_saveChat p a) (fun _ => hstore)
  | some chat =>
    let a' : App := { a with
      moc := ManagedObjectContext.save { a.moc with graph := a.moc.graph.deleteChat chat } }
    have hsaved : (a'.leave p).moc.store.NoOrphans ↔ a'.SavesCleanly :=
      noOrphans_saved (saved_saveChat p a') (fun hnone => by simp [a',hchat] at hnone)
    have hdeleted : a.onDeleteChatAction = a' := by simp [App.onDeleteChatAction,hchat,a']
    have hclean : (Screen.dialog a).Clean .onDeleteChatAction ↔
        a.moc.graph.NoOrphans ∧ a.moc.graph.linked chat = [] ∧ a.vm.messages = [] := by
      simp [Screen.Clean,hchat]
    rw [hdeleted,hsaved,hclean]
    have hmessages :
        a'.moc.graph.messages = a.moc.graph.messages.map (Message.unlink chat) ++ [] := by
      simp [a',ManagedObjectContext.save,Graph.deleteChat]
    have horphans : a'.moc.graph.NoOrphans ↔
        a.moc.graph.NoOrphans ∧ a.moc.graph.linked chat = [] := by
      simpa using noOrphans_unlinked hmessages (by simp)
    have hlinked := (Graph.linked_unlinked hmessages (by simp)).1
    have hgone : ¬ a'.moc.graph.HasChat chat := by
      intro h
      obtain ⟨x,hx,hid⟩ := List.mem_map.mp h
      have := (List.mem_filter.mp hx).2
      simp [hid] at this
    have hvm : a'.vm = a.vm := rfl
    unfold App.SavesCleanly
    rw [hvm]
    cases hq : lastQuestion a.vm.messages with
    | none => simp [hchat,horphans,hlinked,and_assoc]
    | some q =>
      have hne : a.vm.messages ≠ [] := by
        intro hnil
        simp [hnil,lastQuestion,answered] at hq
      simp [hchat,hgone,hne]

theorem tidy_step {s : Screen} {act : Act} (hfiled : Filed p s.moc s.device.journal)
    (hs : s.Tidy) : (s.step p act).Tidy ↔ s.Clean act := by
  rw [tidy_iff (filed_step hfiled)]
  have hstore := (tidy_iff hfiled).mp hs
  cases s with
  | home device moc =>
    cases act with
    | openChat chat allObjects =>
      simp only [Screen.step,Screen.moc,openScreen_moc,Screen.Clean,iff_true]
      exact hstore
    | session | device | leave | onDeleteChatAction | launch => exact iff_of_true hstore trivial
  | dialog a =>
    cases act with
    | session e =>
      by_cases he : e = .saveChat
      · subst he
        exact noOrphans_saved (saved_saveChat p a) (fun _ => hstore)
      · obtain ⟨hmoc,-⟩ := step_keeps_store p a he
        have hclean : (Screen.dialog a).Clean (.session e) := by
          cases e <;> trivial
        simp only [Screen.step,Screen.moc,hmoc,hclean,iff_true]
        exact hstore
    | leave => exact noOrphans_saved (saved_saveChat p a) (fun _ => hstore)
    | onDeleteChatAction => exact noOrphans_onDeleteChatAction hstore
    | launch | device | openChat => exact iff_of_true hstore trivial

/-- The store stays tidy over a run exactly as long as no question waits when a
chat is saved, no chat is saved a second time and no chat with rows is deleted. -/
theorem always_tidy_iff (active : Option Subsciption) (firestore : FirestoreManager)
    {acts : List Act} {s : Screen} (hrun : PhoneRun p (.install active firestore) acts s) :
    Always (Screen.step p) Screen.Tidy (.install active firestore) acts ↔
      Each (Screen.step p) Screen.Clean (.install active firestore) acts := by
  have hstart : (Screen.install active firestore).Tidy :=
    (tidy_iff (p := p) (filed_install active firestore)).mpr (by
      simp [Graph.NoOrphans,Screen.install,Screen.moc,Graph.empty])
  exact hrun.always_iff_each (J := fun s : Screen => Filed p s.moc s.device.journal)
    (fun _ _ _ h _ => filed_step h) (fun _ _ _ => tidy_step) (filed_install active firestore) hstart

theorem first_save_tidy :
    let p := Platform.plain Int.ofNat
    let start := Screen.install none { aikey := some "key" }
    (oneExchange.foldl (Screen.step p) start).moc.store.messages.length = 2 ∧
      Always (Screen.step p) Screen.Tidy start oneExchange := by
  intro p start
  have hallowed : Each (Screen.step p) Screen.Allowed start oneExchange := by decide
  have hclean : Each (Screen.step p) Screen.Clean start oneExchange := by
    have hleave : App.SavesCleanly ((((openScreen p start.device start.moc true none []).step p
      (.setText "Hello")).step p .onSendAction).step p
        (.complete 0 (.responded (some ⟨["Hi"],⟨some 1,some 5⟩⟩)))) := by decide
    exact ⟨trivial,trivial,trivial,trivial,hleave,trivial⟩
  exact ⟨by decide,(always_tidy_iff none _ hallowed.run).mpr hclean⟩

theorem deleted_chat_leaves_rows :
    let p := Platform.plain Int.ofNat
    let start := Screen.install none { aikey := some "key" }
    let rows := (oneExchange.foldl (Screen.step p) start).moc.graph.linked 2
    let acts := oneExchange ++ [.openChat (some 2) rows,.onDeleteChatAction]
    let s := acts.foldl (Screen.step p) start
    PhoneRun p start acts s ∧ s.moc.store.chats = [] ∧
      (∃ m ∈ s.moc.store.messages, m.content.text = some "Hello" ∧ m.ofChat = none) ∧
      ¬ Always (Screen.step p) Screen.Tidy start acts := by
  intro p start rows acts s
  have hallowed : Each (Screen.step p) Screen.Allowed start acts := by decide +kernel
  have horphan : ∃ m ∈ s.moc.store.messages, m.content.text = some "Hello" ∧ m.ofChat = none := by
    decide +kernel
  have huntidy : ¬ Always (Screen.step p) Screen.Tidy start acts := by
    intro h
    obtain ⟨m,hm,-,hnone⟩ := horphan
    exact not_tidy hm hnone h.last
  exact ⟨hallowed.run,by decide +kernel,horphan,huntidy⟩

end GenieD

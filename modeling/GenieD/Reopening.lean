import GenieD.Archive
import GenieD.Sorting

set_option autoImplicit false

namespace GenieD

open Runs App

variable {p : Platform}

def MessageContent.attributes (c : MessageContent) :
    Option String × Option String × Bool × Option Date × Int :=
  (c.id,c.text,c.isMy,c.created,c.usageTokens)

def reopen (p : Platform) (d : Device) (moc : ManagedObjectContext) (chat : Nat)
    (allObjects : List Message) : Screen :=
  (openScreen p d moc true (some chat) allObjects).leave p

/-- The chat is still there, with rows that have the same attributes. -/
def KeepsChat (p : Platform) (d : Device) (moc : ManagedObjectContext) (chat : Nat)
    (allObjects : List Message) : Prop :=
  (reopen p d moc chat allObjects).moc.store.HasChat chat ∧
    (((reopen p d moc chat allObjects).moc.store.linked chat).map
        (fun m => m.content.attributes)).Perm
      ((moc.store.linked chat).map (fun m => m.content.attributes))

def AnsweredLast (rows : List Message) : Prop :=
  ∃ r ∈ rows, r.content.isMy = false ∧ ∀ q ∈ rows, q.content.isMy = true →
    ∀ t ∈ r.content.created, ∀ u ∈ q.content.created, u < t

instance (rows : List Message) : Decidable (AnsweredLast rows) :=
  inferInstanceAs (Decidable (∃ r ∈ rows, _ ∧ ∀ q ∈ rows, _ → ∀ t ∈ _, ∀ u ∈ _, _))

def Message.Complete (m : Message) : Prop :=
  m.content.id.isSome = true ∧ m.content.text.isSome = true ∧ m.content.created.isSome = true

theorem complete_of_content {rows : List Message} {items : List MessageItem}
    (h : rows.map Message.content = items.map (MessageItem.content p)) :
    ∀ m ∈ rows, m.Complete := by
  intro m hm
  obtain ⟨x,-,hx⟩ := exists_item h hm
  unfold Message.Complete
  rw [hx]
  exact ⟨rfl,rfl,rfl⟩

theorem Archived.complete {journal : List Entry} {g : Graph} {chat : Nat}
    (h : Archived p journal g chat) : ∀ m ∈ g.linked chat, m.Complete := by
  obtain ⟨items,-,hrows,-⟩ := h
  exact complete_of_content hrows

theorem Archived.asked {journal : List Entry} {g : Graph} {chat : Nat}
    (h : Archived p journal g chat) : ∃ q ∈ g.linked chat, q.content.isMy = true := by
  obtain ⟨items,hmy,hrows,-⟩ := h
  obtain ⟨item,hitem,hq⟩ := List.any_eq_true.mp hmy
  have hmem : item.content p ∈ (g.linked chat).map Message.content := by
    rw [hrows]
    exact List.mem_map_of_mem hitem
  obtain ⟨m,hm,hcontent⟩ := List.mem_map.mp hmem
  exact ⟨m,hm,by rw [hcontent]; exact hq⟩

def Message.item (p : Platform) (m : Message) : MessageItem := m.content.item p 0

theorem loadMessages_complete (d : Device) {rows : List Message} (h : ∀ m ∈ rows, m.Complete) :
    (d.loadMessages p rows).1 = rows.map (Message.item p) := by
  induction rows generalizing d with
  | nil => rfl
  | cons m rows ih =>
    obtain ⟨-,-,hcreated⟩ := h m List.mem_cons_self
    obtain ⟨t,ht⟩ := Option.isSome_iff_exists.mp hcreated
    simp only [Device.loadMessages,List.map_cons]
    rw [ih _ fun x hx => h x (List.mem_cons_of_mem _ hx)]
    simp [Message.item,MessageContent.item,ht]

theorem Message.Complete.attributes {m : Message} (h : m.Complete) :
    ((m.item p).content p).attributes = m.content.attributes := by
  obtain ⟨hid,htext,hcreated⟩ := h
  obtain ⟨id,hid⟩ := Option.isSome_iff_exists.mp hid
  obtain ⟨text,htext⟩ := Option.isSome_iff_exists.mp htext
  obtain ⟨t,hcreated⟩ := Option.isSome_iff_exists.mp hcreated
  simp [Message.item,MessageContent.item,MessageItem.content,MessageContent.attributes,hid,htext,
    hcreated]

def sortedItems (p : Platform) (rows : List Message) : List MessageItem :=
  (rows.map (Message.item p)).insertionSort (fun x y => x.created ≤ y.created)

theorem mem_sortedItems {rows : List Message} {x : MessageItem} :
    x ∈ sortedItems p rows ↔ ∃ m ∈ rows, m.item p = x := by
  simp [sortedItems,List.mem_insertionSort]

theorem sortedItems_sorted (p : Platform) (rows : List Message) :
    (sortedItems p rows).Pairwise (fun x y => x.created ≤ y.created) :=
  Sorting.pairwise_sorted (k := MessageItem.created) _

theorem opened_messages (d : Device) (moc : ManagedObjectContext) (isDialog : Bool) (chat : Nat)
    {rows : List Message} (h : ∀ m ∈ rows, m.Complete) :
    (openScreen p d moc isDialog (some chat) rows).vm.messages = sortedItems p rows := by
  have hload := loadMessages_complete (p := p) d h
  simp only [openScreen,sortedItems,← hload]

theorem lastQuestion_of_any {messages : List MessageItem}
    (hlast : messages.getLast?.any MessageItem.isMy = false)
    (hany : ∃ q ∈ messages, q.isMy = true) : lastQuestion messages ≠ none := by
  obtain ⟨q,hq,hmy⟩ := hany
  have hall : answered messages = messages := by simp [answered,hlast]
  unfold lastQuestion
  rw [hall]
  intro hnone
  have := List.find?_eq_none.mp hnone q (by simpa using hq)
  exact this hmy

theorem keepsChat_iff {d : Device} {moc : ManagedObjectContext} {chat : Nat}
    {allObjects : List Message} (hfiled : Filed p moc d.journal) (hchat : moc.store.HasChat chat)
    (hperm : allObjects.Perm (moc.graph.linked chat)) :
    KeepsChat p d moc chat allObjects ↔
      (sortedItems p allObjects).getLast?.any MessageItem.isMy = false := by
  have harchived := hfiled.archived chat hchat
  have hperm' : allObjects.Perm (moc.store.linked chat) := hfiled.linked chat ▸ hperm
  have hcomplete : ∀ m ∈ allObjects, m.Complete :=
    fun m hm => harchived.complete m (hperm'.mem_iff.mp hm)
  have hmessages := opened_messages (p := p) d moc true chat hcomplete
  have hsame : ((sortedItems p allObjects).map fun x => (x.content p).attributes).Perm
      ((moc.store.linked chat).map fun m => m.content.attributes) := by
    have hsort : (sortedItems p allObjects).Perm (allObjects.map (Message.item p)) :=
      List.perm_insertionSort _ _
    refine (hsort.map _).trans ?_
    rw [List.map_map]
    have heq : allObjects.map ((fun x => (MessageItem.content p x).attributes) ∘ Message.item p) =
        allObjects.map fun m => m.content.attributes :=
      List.map_congr_left fun m hm => (hcomplete m hm).attributes
    rw [heq]
    exact hperm'.map _
  have hstart := unstarted_openScreen p d moc true (some chat) allObjects
  have hs := saved_saveChat p (openScreen p d moc true (some chat) allObjects)
  have hgraph : (openScreen p d moc true (some chat) allObjects).moc.graph.HasChat chat :=
    (hfiled.hasChat chat).mpr hchat
  have hvm := hstart.chat
  simp only [KeepsChat,reopen,leave,Screen.moc]
  generalize (openScreen p d moc true (some chat) allObjects).saveChat p = b at hs ⊢
  generalize openScreen p d moc true (some chat) allObjects = a at hmessages hs hgraph hvm
  rw [← hmessages] at hsame ⊢
  have hresaved := resaved hs hvm hgraph
  cases hlast : a.vm.messages.getLast?.any MessageItem.isMy with
  | false =>
    simp only [iff_true]
    obtain ⟨q,hq,hmy⟩ := harchived.asked
    have hne : lastQuestion a.vm.messages ≠ none := by
      refine lastQuestion_of_any hlast ⟨q.item p,?_,hmy⟩
      rw [hmessages]
      exact mem_sortedItems.mpr ⟨q,hperm'.mem_iff.mpr hq,rfl⟩
    rcases hresaved with ⟨-,hstore,hlinked⟩ | ⟨hnone,-⟩
    · refine ⟨hstore,?_⟩
      have hall : answered a.vm.messages = a.vm.messages := by simp [answered,hlast]
      have heq := congrArg (List.map MessageContent.attributes) hlinked
      rw [hall,List.map_map,List.map_map] at heq
      exact heq ▸ hsame
    · exact absurd hnone hne
  | true =>
    simp only [Bool.true_eq_false,iff_false]
    rintro ⟨hstore,hkept⟩
    rcases hresaved with ⟨-,-,hlinked⟩ | ⟨-,hgone⟩
    · have hshort := congrArg List.length hlinked
      have hlong := hkept.length_eq.trans hsame.length_eq.symm
      have hne : a.vm.messages ≠ [] := fun hnil => by simp [hnil] at hlast
      have hpos := List.length_pos_iff.mpr hne
      simp only [answered,hlast,if_true,List.length_map,List.length_dropLast] at hshort hlong
      omega
    · exact hgone hstore

def Message.date (m : Message) : Date := m.content.created.getD 0

theorem answeredLast_iff {rows : List Message} (hcomplete : ∀ m ∈ rows, m.Complete) :
    AnsweredLast rows ↔ ∃ r ∈ rows, r.content.isMy = false ∧
      ∀ q ∈ rows, q.content.isMy = true → q.date < r.date := by
  have hdate (m : Message) (hm : m ∈ rows) : m.content.created = some m.date := by
    obtain ⟨t,ht⟩ := Option.isSome_iff_exists.mp (hcomplete m hm).2.2
    simp [Message.date,ht]
  unfold AnsweredLast
  constructor
  · rintro ⟨r,hr,hanswer,h⟩
    exact ⟨r,hr,hanswer,fun q hq hmy => h q hq hmy _ (hdate r hr) _ (hdate q hq)⟩
  · rintro ⟨r,hr,hanswer,h⟩
    refine ⟨r,hr,hanswer,fun q hq hmy t ht u hu => ?_⟩
    have htr : t = r.date := by simpa [hdate r hr] using ht.symm
    have huq : u = q.date := by simpa [hdate q hq] using hu.symm
    rw [htr,huq]
    exact h q hq hmy

theorem sorted_last_iff {rows : List Message} (hcomplete : ∀ m ∈ rows, m.Complete)
    (hasked : ∃ q ∈ rows, q.content.isMy = true) :
    (∀ allObjects : List Message, allObjects.Perm rows →
      (sortedItems p allObjects).getLast?.any MessageItem.isMy = false) ↔ AnsweredLast rows := by
  rw [answeredLast_iff hcomplete]
  constructor
  · intro h
    by_contra hnot
    have hquestions : (rows.filter (fun m => m.content.isMy)).toFinset.Nonempty := by
      obtain ⟨q,hq,hmy⟩ := hasked
      exact ⟨q,by simp [hq,hmy]⟩
    obtain ⟨q,hq,hmax⟩ := Finset.exists_max_image _ Message.date hquestions
    simp only [List.mem_toFinset,List.mem_filter] at hq hmax
    -- the latest question is not earlier than any answer
    have htop : ∀ m ∈ rows, m.date ≤ q.date := by
      intro m hm
      cases hmy : m.content.isMy with
      | true => exact hmax m ⟨hm,hmy⟩
      | false =>
        by_contra hlt
        exact hnot ⟨m,hm,hmy,fun q' hq' hmy' =>
          lt_of_le_of_lt (hmax q' ⟨hq',hmy'⟩) (not_le.mp hlt)⟩
    have hperm : (rows.erase q ++ [q]).Perm rows :=
      List.perm_append_comm.trans (List.perm_cons_erase hq.1).symm
    have hlast : sortedItems p (rows.erase q ++ [q]) =
        sortedItems p (rows.erase q) ++ [q.item p] := by
      unfold sortedItems
      rw [List.map_append,List.map_singleton]
      apply Sorting.insertionSort_concat
      intro x hx
      obtain ⟨m,hm,rfl⟩ := List.mem_map.mp hx
      exact htop m (List.mem_of_mem_erase hm)
    have hend := h _ hperm
    rw [hlast] at hend
    have hmy : (q.item p).isMy = true := hq.2
    simp [hmy] at hend
  · rintro ⟨r,hr,hanswer,hlater⟩ allObjects hperm
    cases hy : (sortedItems p allObjects).getLast? with
    | none => rfl
    | some y =>
      obtain ⟨q,hq,rfl⟩ := mem_sortedItems.mp (List.mem_of_getLast? hy)
      have hle : r.date ≤ q.date :=
        Sorting.le_last (k := MessageItem.created)
          (mem_sortedItems.mpr ⟨r,hperm.mem_iff.mpr hr,rfl⟩) hy
      cases hmy : q.content.isMy with
      | false => exact hmy
      | true => exact absurd hle (not_le.mpr (hlater q (hperm.mem_iff.mp hq) hmy))

/-- In every run of the app, a stored chat survives being re-opened, in whatever
order its rows are listed, exactly if some answer of it is dated later than
every question. -/
theorem reopen_keeps_iff {active : Option Subsciption} {firestore : FirestoreManager}
    {acts : List Act} {d : Device} {moc : ManagedObjectContext} {chat : Nat}
    (hrun : PhoneRun p (.install active firestore) acts (.home d moc))
    (hchat : moc.store.HasChat chat) :
    (∀ allObjects : List Message, allObjects.Perm (moc.graph.linked chat) →
      KeepsChat p d moc chat allObjects) ↔ AnsweredLast (moc.store.linked chat) := by
  have hfiled : Filed p moc d.journal := filed_run hrun
  have harchived := hfiled.archived chat hchat
  rw [← sorted_last_iff (p := p) harchived.complete harchived.asked,hfiled.linked chat]
  exact forall₂_congr fun allObjects hperm =>
    keepsChat_iff hfiled hchat (hfiled.linked chat ▸ hperm)

theorem steady_clock_keeps_chat :
    let p := Platform.plain Int.ofNat
    let s := oneExchange.foldl (Screen.step p) (.install none { aikey := some "key" })
    s.moc.store.HasChat 2 ∧ KeepsChat p s.device s.moc 2 (s.moc.graph.linked 2) := by
  intro p s
  have hallowed : Each (Screen.step p) Screen.Allowed (.install none { aikey := some "key" })
      oneExchange := by decide
  have hchat : s.moc.store.HasChat 2 := by decide
  have hlast : AnsweredLast (s.moc.store.linked 2) := by decide +kernel
  have hhome : s = .home s.device s.moc := rfl
  have hrun : PhoneRun p (.install none { aikey := some "key" }) oneExchange
      (.home s.device s.moc) := hhome ▸ hallowed.run
  exact ⟨hchat,(reopen_keeps_iff hrun hchat).mpr hlast _ (.refl _)⟩

theorem clock_step_loses_chat :
    let p := Platform.plain (fun n => -(n : Int))
    let s := oneExchange.foldl (Screen.step p) (.install none { aikey := some "key" })
    PhoneRun p (.install none { aikey := some "key" }) oneExchange s ∧ s.moc.store.HasChat 2 ∧
      ¬ (reopen p s.device s.moc 2 (s.moc.graph.linked 2)).moc.store.HasChat 2 := by
  intro p s
  have hallowed : Each (Screen.step p) Screen.Allowed (.install none { aikey := some "key" })
      oneExchange := by decide
  exact ⟨hallowed.run,by decide,by decide +kernel⟩

end GenieD

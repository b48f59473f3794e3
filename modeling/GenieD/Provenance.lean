import GenieD.Archive
import GenieD.Frames
import GenieD.Opening

set_option autoImplicit false

namespace GenieD

open Runs App

def Entry.commandIds : Entry → List String
  | .command q r => [q.id,r.id]
  | .sendText _ | .post _ _ | .describeFile _ _ _ | .answer _ | .saveChat _ _ | .reset => []

def isCommand (journal : List Entry) (id : String) : Bool :=
  decide (id ∈ journal.flatMap Entry.commandIds)

theorem isCommand_append (journal entries : List Entry) (id : String) :
    isCommand (journal ++ entries) id = true ↔
      isCommand journal id = true ∨ ∃ e ∈ entries, id ∈ e.commandIds := by
  simp [isCommand]

structure Later (p : Platform) (d d' : Device) : Prop where
  uuids : d.uuids ≤ d'.uuids
  commands : ∀ id, isCommand d'.journal id = true →
    isCommand d.journal id = true ∨ (Spent p d'.uuids id ∧ ¬ Spent p d.uuids id)

variable {p : Platform}

theorem Later.trans {d d' d'' : Device} (h : Later p d d') (h' : Later p d' d'') :
    Later p d d'' where
  uuids := h.uuids.trans h'.uuids
  commands id hid := by
    rcases h'.commands id hid with hid' | ⟨hspent,hnew⟩
    · rcases h.commands id hid' with hold | ⟨hspent,hnew⟩
      · exact .inl hold
      · exact .inr ⟨hspent.mono h'.uuids,hnew⟩
    · exact .inr ⟨hspent,fun hold => hnew (hold.mono h.uuids)⟩

theorem Later.grew {ok : Entry → Prop} {d d' : Device} (huuids : d.uuids ≤ d'.uuids)
    (h : Grew ok d d') (hok : ∀ e, ok e → e.commandIds = []) : Later p d d' := by
  obtain ⟨entries,hall,hjournal⟩ := h
  refine ⟨huuids,fun id hid => .inl ?_⟩
  rw [hjournal,isCommand_append] at hid
  rcases hid with hid | ⟨e,he,hid⟩
  · exact hid
  · simp [hok e (hall e he)] at hid

theorem Later.refl (d : Device) : Later p d d := ⟨Nat.le_refl _,fun _ => .inl⟩

theorem Later.same {d d' : Device} (huuids : d.uuids ≤ d'.uuids) (h : d'.journal = d.journal) :
    Later p d d' := ⟨huuids,fun _ hid => .inl (h ▸ hid)⟩

theorem Handing.commandIds {d : Device} {messages : List MessageItem} {e : Entry}
    (h : Handing d messages e) : e.commandIds = [] := by
  cases h <;> rfl

theorem Later.rechecked {d d' : Device} (h : d.Rechecked d') : Later p d d' :=
  .grew (Nat.le_of_eq h.uuids.symm) (.rechecked h) fun _ he => he ▸ rfl

theorem Later.stepped {d d' : Device} (h : d.Stepped d') : Later p d d' :=
  .grew (Nat.le_of_eq h.uuids.symm) (.stepped h) fun _ he => he ▸ rfl

theorem not_spent (p : Platform) {m n : Nat} (h : m ≤ n) : ¬ Spent p m (p.uuid n) :=
  fun hspent => hspent n h rfl

/-- What is known of a message wherever it is: its id is not drawn again, its
tokens are as the server reports them, and the answer to a command tells. -/
structure Known (p : Platform) (tokens : Int → Prop) (d : Device) (m : MessageItem) : Prop where
  spent : Spent p d.uuids m.id
  tokens : tokens m.usageTokens
  replied : m.isMy = false → isCommand d.journal m.id = true → isTestText m.text = true

variable {tokens : Int → Prop} {d d' : Device} {m : MessageItem}

theorem Known.later (h : Known p tokens d m) (hd : Later p d d') : Known p tokens d' m where
  spent := h.spent.mono hd.uuids
  tokens := h.tokens
  replied hmy hid := by
    rcases hd.commands m.id hid with hid | ⟨-,hnew⟩
    · exact h.replied hmy hid
    · exact absurd h.spent hnew

/-- The commands noted, and all rows, known. -/
structure Stocked (p : Platform) (tokens : Int → Prop) (d : Device) (moc : ManagedObjectContext) :
    Prop where
  commands : ∀ id, isCommand d.journal id = true → Spent p d.uuids id
  rows : ∀ m, m ∈ moc.graph.messages ∨ m ∈ moc.store.messages →
    ∃ item, Known p tokens d item ∧ m.content = item.content p

theorem Stocked.later {moc : ManagedObjectContext} (h : Stocked p tokens d moc)
    (hd : Later p d d') : Stocked p tokens d' moc where
  commands id hid := by
    rcases hd.commands id hid with hid | ⟨hspent,-⟩
    · exact (h.commands id hid).mono hd.uuids
    · exact hspent
  rows m hm := by
    obtain ⟨item,hitem,hcontent⟩ := h.rows m hm
    exact ⟨item,hitem.later hd,hcontent⟩

theorem Stocked.fresh {moc : ManagedObjectContext} {ok : Entry → Prop}
    (h : Stocked p tokens d moc) (huuids : d.uuids < d'.uuids) (hgrew : Grew ok d d')
    (hok : ∀ e, ok e → e.commandIds = []) (hid : m.id = p.uuid d.uuids)
    (htokens : tokens m.usageTokens) : Known p tokens d' m where
  spent := by
    rw [hid]
    exact spent_uuid p huuids
  tokens := htokens
  replied _ hcommand := by
    obtain ⟨entries,hall,hjournal⟩ := hgrew
    rw [hjournal,isCommand_append] at hcommand
    rcases hcommand with hold | ⟨e,he,hmem⟩
    · exact absurd (hid ▸ h.commands _ hold) (not_spent p (Nat.le_refl _))
    · simp [hok e (hall e he)] at hmem

/-- Whatever the screen shows or has in flight is known. -/
structure Supplied (p : Platform) (tokens : Int → Prop) (a : App) : Prop where
  stocked : Stocked p tokens a.device a.moc
  messages : ∀ m ∈ a.vm.messages, Known p tokens a.device m
  flights : ∀ r ∈ a.pending, ∀ m ∈ r.flight.chat, Known p tokens a.device m

variable {a b : App}

theorem Supplied.congr (h : Supplied p tokens a) (hd : Later p a.device b.device)
    (hmoc : b.moc = a.moc) (hmessages : ∀ m ∈ b.vm.messages, m ∈ a.vm.messages)
    (hpending : b.pending = a.pending) : Supplied p tokens b where
  stocked := by
    rw [hmoc]
    exact h.stocked.later hd
  messages m hm := (h.messages m (hmessages m hm)).later hd
  flights r hr m hm := (h.flights r (hpending ▸ hr) m hm).later hd

theorem Supplied.issued (h : Supplied p tokens a) (hzero : tokens 0) (hb : Issued p a b) :
    Supplied p tokens b := by
  have hknown {q : MessageItem} {d : Device} (hq : IsNewQuestion p a.device a.vm.text q)
      (hd : Handed (a.vm.messages ++ [q]) a.device d) :
      Later p a.device d ∧ ∀ m ∈ a.vm.messages ++ [q], Known p tokens d m := by
    have hlt : a.device.uuids < d.uuids := by rw [hd.uuids]; exact Nat.lt_succ_self _
    have hlater : Later p a.device d := .grew hlt.le (.handed hd) fun _ he => he.commandIds
    refine ⟨hlater,fun m hm => ?_⟩
    rcases List.mem_append.mp hm with hold | hnew
    · exact (h.messages m hold).later hlater
    · rw [List.mem_singleton.mp hnew]
      exact h.stocked.fresh hlt (.handed hd) (fun _ he => he.commandIds) hq.id
        (hq.usageTokens ▸ hzero)
  cases hb with
  | waiting q d f text image pdfData hq hd hf =>
    obtain ⟨hlater,hmessages⟩ := hknown hq hd
    refine ⟨h.stocked.later hlater,hmessages,fun r hr m hm => ?_⟩
    rcases List.mem_append.mp hr with hold | hnew
    · exact (h.flights r hold m hm).later hlater
    · rw [List.mem_singleton.mp hnew] at hm
      rcases hf with hnil | hserves
      · simp [hnil] at hm
      · simp only [hserves.chat_eq] at hm
        exact hmessages m (List.mem_filter.mp hm).1
  | failed q d text image pdfData hq hd =>
    obtain ⟨hlater,hmessages⟩ := hknown hq hd
    exact ⟨h.stocked.later hlater,hmessages,fun r hr m hm => (h.flights r hr m hm).later hlater⟩

theorem Supplied.command (h : Supplied p tokens a) (hzero : tokens 0) (hb : Commanded p a b) :
    Supplied p tokens b := by
  cases hb with
  | mk q r temperature reads text hq hr hmy hreply htokens =>
    have hqspent : Spent p (a.device.uuids + 2) q.id := hq.id ▸ spent_uuid p (by omega)
    have hrspent : Spent p (a.device.uuids + 2) r.id := hr ▸ spent_uuid p (by omega)
    have hlater : Later p a.device { a.device with
        temperature, reads, uuids := a.device.uuids + 2
        journal := a.device.journal ++ [.command q r] } := by
      refine ⟨Nat.le_add_right _ 2,fun id hid => ?_⟩
      rw [isCommand_append] at hid
      rcases hid with hid | ⟨e,he,hid⟩
      · exact .inl hid
      · rw [List.mem_singleton.mp he] at hid
        simp only [Entry.commandIds,List.mem_cons,List.not_mem_nil,or_false] at hid
        rcases hid with rfl | rfl
        · exact .inr ⟨hqspent,hq.id ▸ not_spent p (Nat.le_refl _)⟩
        · exact .inr ⟨hrspent,hr ▸ not_spent p (Nat.le_succ _)⟩
    refine ⟨h.stocked.later hlater,fun m hm => ?_,
      fun x hx m hm => (h.flights x hx m hm).later hlater⟩
    simp only [List.mem_append,List.mem_singleton,or_assoc] at hm
    rcases hm with hold | rfl | rfl
    · exact (h.messages m hold).later hlater
    · exact ⟨hqspent,hq.usageTokens ▸ hzero,fun hfalse => by simp [hq.isMy] at hfalse⟩
    · exact ⟨hrspent,htokens ▸ hzero,fun _ _ => hreply⟩

theorem mem_modify {α : Type*} {f : α → α} {i : Nat} {l : List α} {x : α}
    (h : x ∈ l.modify i f) : x ∈ l ∨ ∃ y ∈ l, x = f y := by
  obtain ⟨j,hj⟩ := List.mem_iff_getElem?.mp h
  rw [List.getElem?_modify] at hj
  obtain ⟨y,hy,hx⟩ := Option.map_eq_some_iff.mp hj
  have hmem := List.mem_of_getElem? hy
  split at hx
  · exact .inr ⟨y,hmem,hx.symm⟩
  · exact .inl (hx ▸ hmem)

def Reports (tokens : Int → Prop) (a : App) : Event → Prop
  | .complete index (.responded (some turbo)) =>
    ∀ r chat refreshToken body, a.pending[index]? = some r →
      r.flight = .post chat refreshToken body →
      tokens turbo.toChatResponse.promptTokens ∧ tokens turbo.toChatResponse.completionTokens
  | _ => True

theorem mem_answered {messages : List MessageItem} {m : MessageItem}
    (h : m ∈ answered messages ∨ m ∈ unanswered messages) : m ∈ messages := by
  rw [← answered_append messages]
  exact List.mem_append.mpr h

theorem Saved.rows (hs : Saved p a b) {row : Message}
    (hrow : row ∈ b.moc.graph.messages ∨ row ∈ b.moc.store.messages) :
    (∃ old, (old ∈ a.moc.graph.messages ∨ old ∈ a.moc.store.messages) ∧
      row.content = old.content) ∨ ∃ item ∈ a.vm.messages, row.content = item.content p := by
  have hmade {rows : List Message} {items : List MessageItem}
      (hrows : rows.map Message.content = items.map (MessageItem.content p))
      (hitems : ∀ m ∈ items, m ∈ a.vm.messages) {row : Message} (hrow : row ∈ rows) :
      ∃ item ∈ a.vm.messages, row.content = item.content p := by
    obtain ⟨item,hitem,hcontent⟩ := exists_item hrows hrow
    exact ⟨item,hitems item hitem,hcontent⟩
  have hunlinked {chat : Nat} {row : Message}
      (hrow : row ∈ a.moc.graph.messages.map (Message.unlink chat)) :
      ∃ old, (old ∈ a.moc.graph.messages ∨ old ∈ a.moc.store.messages) ∧
        row.content = old.content := by
    obtain ⟨old,hold,rfl⟩ := List.mem_map.mp hrow
    exact ⟨old,.inl hold,by simp⟩
  cases hs with
  | skipped g rows _ _ hrows _ hmessages _ =>
    simp only [hmessages,List.mem_append] at hrow
    rcases hrow with (hold | hnew) | hold
    · exact .inl ⟨row,.inl hold,rfl⟩
    · exact .inr (hmade hrows (fun _ => id) hnew)
    · exact .inl ⟨row,.inr hold,rfl⟩
  | deleted chat g rows _ _ hrows _ hmessages _ =>
    simp only [hmessages,or_self,List.mem_append] at hrow
    rcases hrow with hold | hnew
    · exact .inl (hunlinked hold)
    · exact .inr (hmade hrows (fun _ => id) hnew)
  | stored chat g uuids q name chats kept rest _ _ _ hkept hrest _ hmessages _ =>
    simp only [hmessages,or_self,List.mem_append] at hrow
    rcases hrow with hold | hnew | hnew
    · exact .inl (hunlinked hold)
    · obtain ⟨m,hm,rfl⟩ := List.mem_map.mp hnew
      have hitem := hmade hkept (fun m hm => mem_answered (.inl hm)) hm
      exact .inr hitem
    · exact .inr (hmade hrest (fun m hm => mem_answered (.inr hm)) hnew)
  | detached chat g rows q _ _ _ hrows _ hmessages _ =>
    simp only [hmessages,or_self,List.mem_append] at hrow
    rcases hrow with hold | hnew
    · exact .inl ⟨row,.inl hold,rfl⟩
    · exact .inr (hmade hrows (fun _ => id) hnew)

theorem Later.saved (hs : Saved p a b) : Later p a.device b.device := by
  refine .grew ?_ hs.grew ?_
  · cases hs with
    | skipped => exact Nat.le_refl _
    | deleted => exact Nat.le_refl _
    | stored chat g uuids q name chats kept rest _ _ huuids => exact huuids
    | detached => exact Nat.le_refl _
  · rintro _ ⟨chat,rows,rfl⟩
    rfl

theorem Stocked.saved (h : Supplied p tokens a) (hs : Saved p a b) :
    Stocked p tokens b.device b.moc := by
  have hlater := Later.saved hs
  refine ⟨(h.stocked.later hlater).commands,fun row hrow => ?_⟩
  rcases Saved.rows hs hrow with ⟨old,hold,hcontent⟩ | ⟨item,hitem,hcontent⟩
  · obtain ⟨item,hitem,hold⟩ := h.stocked.rows old hold
    exact ⟨item,hitem.later hlater,hcontent.trans hold⟩
  · exact ⟨item,(h.messages item hitem).later hlater,hcontent⟩

theorem Later.probed (hd : Probed d d') : Later p d d' := by
  obtain ⟨reads,uuids,hle,rfl⟩ := hd
  exact .same hle rfl

theorem Later.refreshed {chat : List MessageItem} (hd : Refreshed chat d d') : Later p d d' := by
  refine .grew ?_ (.refreshed hd) fun _ he => he ▸ rfl
  obtain ⟨firestore,entries,-,rfl⟩ := hd
  exact Nat.le_refl _

theorem Supplied.effect (h : Supplied p tokens a) (hzero : tokens 0) (hb : Effect p a b) :
    Supplied p tokens b := by
  have hrest {index : Nat} {r : Request} (hr : r ∈ a.pending.eraseIdx index) : r ∈ a.pending :=
    List.mem_of_mem_eraseIdx hr
  cases hb with
  | probed d hd => exact h.congr (.probed hd) rfl (fun _ => id) rfl
  | rechecked d hd => exact h.congr (.rechecked hd) rfl (fun _ => id) rfl
  | redrawn vm hvm => exact h.congr (.refl a.device) rfl hvm.messages rfl
  | commanded b hb => exact h.command hzero hb
  | issued b hb => exact h.issued hzero hb
  | taken index r d _ hd =>
    have hlater : Later p a.device d := .refreshed hd
    exact ⟨h.stocked.later hlater,fun m hm => (h.messages m hm).later hlater,
      fun x hx m hm => (h.flights x (hrest hx) m hm).later hlater⟩
  | continued index r d f hr hd hf =>
    have hlater : Later p a.device d := .refreshed hd
    refine ⟨h.stocked.later hlater,fun m hm => (h.messages m hm).later hlater,
      fun x hx m hm => Known.later ?_ hlater⟩
    rcases List.mem_append.mp hx with hold | hnew
    · exact h.flights x (hrest hold) m hm
    · rw [List.mem_singleton.mp hnew] at hm
      exact h.flights r (List.mem_of_getElem? hr) m (hf ▸ hm)
  | saved =>
    have hs := saved_saveChat p a
    have hlater := Later.saved hs
    have hstocked := Stocked.saved h hs
    obtain ⟨chat,moc,uuids,journal,-,hsave⟩ := saveChat_frame p a
    rw [hsave] at hlater hstocked ⊢
    exact ⟨hstocked,fun m hm => (h.messages m hm).later hlater,
      fun r hr m hm => (h.flights r hr m hm).later hlater⟩

theorem Supplied.answered (h : Supplied p tokens a) {response : ChatResponse}
    (htokens : tokens response.promptTokens ∧ tokens response.completionTokens)
    (questionId : String) :
    Supplied p tokens (handleSendTextResponse p a (some response) questionId) := by
  let c := handleSendTextResponse p a (some response) questionId
  have hgrew : Grew (fun e => ∃ m, e = .answer m) a.device c.device := .one ⟨_,rfl⟩ rfl
  have hok : ∀ e : Entry, (∃ m, e = .answer m) → e.commandIds = [] := by
    rintro _ ⟨m,rfl⟩
    rfl
  have hlater : Later p a.device c.device := .grew (Nat.le_succ _) hgrew hok
  refine ⟨h.stocked.later hlater,fun m hm => ?_,
    fun x hx m hm => (h.flights x hx m hm).later hlater⟩
  rcases List.mem_append.mp hm with hold | hnew
  · rcases mem_modify hold with hold | ⟨x,hx,rfl⟩
    · exact (h.messages m hold).later hlater
    · have hx := (h.messages x hx).later hlater
      exact ⟨hx.spent,htokens.1,hx.replied⟩
  · rw [List.mem_singleton.mp hnew]
    exact h.stocked.fresh (Nat.lt_succ_self _) hgrew hok rfl htokens.2

theorem reported {e : Event} {response : ChatResponse} (hzero : tokens 0)
    (hreports : Reports tokens a e) (h : Brings a e response) :
    tokens response.promptTokens ∧ tokens response.completionTokens := by
  cases h with
  | described => exact ⟨hzero,hzero⟩
  | responded index r chat refreshToken body turbo hr hflight =>
    exact hreports r chat refreshToken body hr hflight

theorem supplied_step {e : Event} (h : Supplied p tokens a) (hzero : tokens 0)
    (hreports : Reports tokens a e) : Supplied p tokens (a.step p e) := by
  by_cases he : ∃ d, e = .device d
  · obtain ⟨d,rfl⟩ := he
    exact h.congr (.stepped (a.device.stepped_step p d)) rfl (fun _ => id) rfl
  · exact frame_step (R := fun a b => Supplied p tokens a → Supplied p tokens b) (fun _ => id)
      (fun h h' => h' ∘ h) (fun hb h => h.effect hzero hb)
      (fun c response questionId hbrings h => h.answered (reported hzero hreports hbrings) questionId)
      (not_exists.mp he) h

theorem Known.loaded {item : MessageItem} (h : Known p tokens d item) (now : Date) :
    Known p tokens d ((item.content p).item p now) := ⟨h.spent,h.tokens,h.replied⟩

def Screen.Supplied (p : Platform) (tokens : Int → Prop) : Screen → Prop
  | .home device moc => Stocked p tokens device moc
  | .dialog a => GenieD.Supplied p tokens a

theorem Screen.Supplied.stocked {s : Screen} (h : s.Supplied p tokens) :
    Stocked p tokens s.device s.moc := by
  cases s with
  | home device moc => exact h
  | dialog a => exact GenieD.Supplied.stocked h

theorem supplied_openScreen {moc : ManagedObjectContext} (h : Stocked p tokens d moc)
    {chat : Option Nat} {allObjects : List Message}
    (hobjects : ∀ c ∈ chat, allObjects.Perm (moc.graph.linked c)) :
    Supplied p tokens (openScreen p d moc true chat allObjects) := by
  have hstart := unstarted_openScreen p d moc true chat allObjects
  obtain ⟨reads,hdevice⟩ := hstart.device
  have hlater : Later p d (openScreen p d moc true chat allObjects).device := by
    rw [hdevice]
    exact .same (Nat.le_refl _) rfl
  refine ⟨by rw [openScreen_moc]; exact h.later hlater,fun m hm => ?_,by simp [hstart.pending]⟩
  cases chat with
  | none => simp [openScreen] at hm
  | some c =>
    simp only [openScreen,List.mem_insertionSort] at hm
    obtain ⟨row,hrow,now,rfl⟩ := mem_loadMessages hm
    have hmem := (List.mem_filter.mp ((hobjects c rfl).mem_iff.mp hrow)).1
    obtain ⟨item,hitem,hcontent⟩ := h.rows row (.inl hmem)
    rw [hcontent]
    exact (hitem.loaded now).later hlater

theorem supplied_onDeleteChatAction (h : Supplied p tokens a) :
    Supplied p tokens a.onDeleteChatAction := by
  unfold App.onDeleteChatAction
  split
  · exact h
  · rename_i chat _
    refine ⟨⟨h.stocked.commands,fun row hrow => ?_⟩,h.messages,h.flights⟩
    have hrow : row ∈ a.moc.graph.messages.map (Message.unlink chat) := hrow.elim id id
    obtain ⟨old,hold,rfl⟩ := List.mem_map.mp hrow
    obtain ⟨item,hitem,hcontent⟩ := h.stocked.rows old (.inl hold)
    exact ⟨item,hitem,by simpa using hcontent⟩

theorem supplied_screen_step {s : Screen} {act : Act} (hzero : tokens 0)
    (hok : s.Allowed act ∧ s.During (Reports tokens) act) (h : s.Supplied p tokens) :
    (s.step p act).Supplied p tokens := by
  have hlaunch : (s.launch p).Supplied p tokens := by
    have hlater : Later p s.device (s.launch p).device := .same (Nat.le_refl _) rfl
    have hstocked := h.stocked.later hlater
    exact ⟨hstocked.commands,fun row hrow => hstocked.rows row (.inr (hrow.elim id id))⟩
  cases s with
  | home device moc =>
    cases act with
    | device e =>
      exact Stocked.later h (.stepped (device.stepped_step p e))
    | openChat chat allObjects => exact supplied_openScreen h fun c hc => (hok.1 c hc).2
    | launch => exact hlaunch
    | session | leave | onDeleteChatAction => exact h
  | dialog a =>
    cases act with
    | session e => exact supplied_step h hzero hok.2
    | leave => exact Stocked.saved h (saved_saveChat p a)
    | onDeleteChatAction =>
      exact Stocked.saved (supplied_onDeleteChatAction h) (saved_saveChat p _)
    | launch => exact hlaunch
    | device | openChat => exact h

theorem supplied_install (active : Option Subsciption) (firestore : FirestoreManager) :
    (Screen.install active firestore).Supplied p tokens :=
  ⟨by simp [isCommand],by simp [Graph.empty]⟩

theorem supplied_run {ok : Screen → Act → Prop} (hzero : tokens 0)
    (hok : ∀ s act, ok s act → s.Allowed act ∧ s.During (Reports tokens) act)
    {active : Option Subsciption} {firestore : FirestoreManager} {acts : List Act} {s : Screen}
    (hrun : Run (Screen.step p) ok (.install active firestore) acts s) : s.Supplied p tokens :=
  hrun.invariant (I := fun s : Screen => s.Supplied p tokens)
    (fun s act h => supplied_screen_step hzero (hok s act h)) (supplied_install active firestore)

theorem reports_true (s : Screen) (act : Act) : s.During (Reports (fun _ => True)) act := by
  unfold Screen.During
  split
  · unfold Reports
    split <;> simp
  · trivial

theorem supplied_phoneRun {active : Option Subsciption} {firestore : FirestoreManager}
    {acts : List Act} {s : Screen} (hrun : PhoneRun p (.install active firestore) acts s) :
    s.Supplied p (fun _ => True) :=
  supplied_run trivial (fun s act hok => ⟨hok,reports_true s act⟩) hrun

/-- Every dialog that a run of the app opens is the start of a session. -/
theorem exists_opening {active : Option Subsciption} {firestore : FirestoreManager}
    {acts : List Act} {moc : ManagedObjectContext} {chat : Option Nat} {allObjects : List Message}
    (hrun : PhoneRun p (.install active firestore) acts (.home d moc))
    (hok : (Screen.home d moc).Allowed (.openChat chat allObjects)) :
    ∃ o : Opening p, (Screen.home d moc).step p (.openChat chat allObjects) = .dialog o.screen := by
  have hstocked : Stocked p (fun _ => True) d moc := supplied_phoneRun hrun
  have hspent : ∀ m ∈ moc.graph.messages, Spent p d.uuids (m.content.id.getD "") := by
    intro m hm
    obtain ⟨item,hitem,hcontent⟩ := hstocked.rows m (.inl hm)
    rw [hcontent]
    exact hitem.spent
  exact ⟨⟨⟨d,moc,hspent⟩,chat,allObjects,hok⟩,rfl⟩

end GenieD

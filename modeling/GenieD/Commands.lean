import GenieD.Provenance

set_option autoImplicit false

namespace GenieD

open Runs App

def Entry.sentText : Entry → Option (List MessageItem)
  | .sendText chat => some chat
  | .command _ _ | .post _ _ | .describeFile _ _ _ | .answer _ | .saveChat _ _ | .reset => none

def App.handed (p : Platform) (a : App) (e : Event) : List (List MessageItem) :=
  (a.noted p e).filterMap Entry.sentText

/-- What is handed over is the session's messages less the exchanges that
commands appended, and the newest question is its last element. -/
def App.HandsExactly (p : Platform) (a : App) (e : Event) : Prop :=
  ∀ chat ∈ a.handed p e,
    chat = (a.step p e).vm.messages.filter
        (fun m => !isCommand (a.step p e).device.journal m.id) ∧
      (a.step p e).vm.messages.getLast?.any MessageItem.isMy = true ∧
      chat.getLast? = (a.step p e).vm.messages.getLast?

/-- Where a question is handed over, its text and the ordinary messages above
it contain none of the phrases, and the commands above it one of them. -/
def App.PhrasesTell (p : Platform) (a : App) (e : Event) : Prop :=
  a.handed p e ≠ [] →
    isTestText (a.asking p e).text = false ∧
    ∀ m ∈ (a.asking p e).messages,
      (isCommand a.device.journal m.id = false → isTestText m.text = false) ∧
      (isCommand a.device.journal m.id = true → m.isMy = true → isTestText m.text = true)

variable {p : Platform} {a : App} {e : Event}

theorem mem_restored {vm : AskQuestionViewModel} {m : MessageItem}
    (h : m ∈ (vm.restored p).messages) : m ∈ vm.messages := by
  unfold AskQuestionViewModel.restored at h
  split at h
  · exact h
  · rename_i q _
    obtain ⟨t,ht⟩ := setImage_eq p ({ vm with
      isAnswerError := false, messages := vm.messages.dropLast }.setText q.text) q.image
    rw [ht] at h
    exact List.mem_of_mem_dropLast h

theorem mem_asking {m : MessageItem} (h : m ∈ (a.asking p e).messages) : m ∈ a.vm.messages := by
  unfold App.asking at h
  split at h
  · exact mem_restored h
  · split at h
    · exact mem_restored h
    · exact h
  · exact h

/-- A question that is handed over has just been appended, and no command was
handled in the same step. -/
structure Handover (p : Platform) (a : App) (e : Event) (chat : List MessageItem)
    (q : MessageItem) : Prop where
  messages : (a.step p e).vm.messages = (a.asking p e).messages ++ [q]
  text : q.text = (a.asking p e).text
  isMy : q.isMy = true
  unspent : ¬ Spent p a.device.uuids q.id
  chat : chat = testFiltered ((a.asking p e).messages ++ [q])
  commands : ∀ id, isCommand (a.step p e).device.journal id = isCommand a.device.journal id

theorem mem_handed {chat : List MessageItem} (h : chat ∈ a.handed p e) :
    .sendText chat ∈ a.noted p e := by
  obtain ⟨x,hx,hsent⟩ := List.mem_filterMap.mp h
  cases x with
  | sendText chat' => exact Option.some.inj hsent ▸ hx
  | command | post | describeFile | answer | saveChat | reset => cases hsent

theorem handover_of_mem {chat : List MessageItem} (h : chat ∈ a.handed p e) :
    ∃ q, Handover p a e chat q := by
  obtain ⟨q,hmessages,htext,hmy,hunspent,hchat⟩ : ∃ q,
      (a.step p e).vm.messages = (a.asking p e).messages ++ [q] ∧
      q.text = (a.asking p e).text ∧ q.isMy = true ∧ ¬ Spent p a.device.uuids q.id ∧
      chat = testFiltered (a.step p e).vm.messages := by
    rcases mem_noted (mem_handed h) with ⟨_,_,hsave⟩ | hnotes
    · contradiction
    · cases hnotes with
      | sendText q n hmessages htext hmy hid hn =>
        exact ⟨q,hmessages,htext,hmy,hid ▸ not_spent p hn,rfl⟩
  refine ⟨q,hmessages,htext,hmy,hunspent,hmessages ▸ hchat,fun id => ?_⟩
  rw [Bool.eq_iff_iff,journal_step,isCommand_append]
  refine ⟨fun hid => hid.resolve_right ?_,.inl⟩
  rintro ⟨x,hx,hid⟩
  rcases mem_noted hx with ⟨_,_,rfl⟩ | hnotes
  · simp [Entry.commandIds] at hid
  · cases hnotes with
    | command q' r hcommand hr =>
      -- a command ends with its answer, and here the question comes last
      rw [hmessages] at hcommand
      have : q = r := by simpa using congrArg List.getLast? hcommand
      simp [this,hr] at hmy
    | reset | answer | describeFile | sendText | post => simp [Entry.commandIds] at hid

theorem filter_agree {α : Type*} {f g : α → Bool} {l : List α} (h : l.filter f = l.filter g)
    {x : α} (hx : x ∈ l) : f x = g x := by
  have hiff : x ∈ l.filter f ↔ x ∈ l.filter g := by rw [h]
  simpa only [List.mem_filter,hx,true_and,← Bool.eq_iff_iff] using hiff

theorem Handover.exact_iff {chat : List MessageItem} {q : MessageItem}
    (h : Handover p a e chat q) (hs : Supplied p (fun _ => True) a) :
    (chat = (a.step p e).vm.messages.filter
        (fun m => !isCommand (a.step p e).device.journal m.id) ∧
      (a.step p e).vm.messages.getLast?.any MessageItem.isMy = true ∧
      chat.getLast? = (a.step p e).vm.messages.getLast?) ↔
    isTestText (a.asking p e).text = false ∧
    ∀ m ∈ (a.asking p e).messages,
      (isCommand a.device.journal m.id = false → isTestText m.text = false) ∧
      (isCommand a.device.journal m.id = true → m.isMy = true → isTestText m.text = true) := by
  have hnew : isCommand a.device.journal q.id = false := by
    rw [Bool.eq_false_iff]
    exact fun hid => h.unspent (hs.stocked.commands q.id hid)
  have hreplied (m : MessageItem) (hm : m ∈ (a.asking p e).messages) (hmy : m.isMy = false)
      (hid : isCommand a.device.journal m.id = true) : isTestText m.text = true :=
    (hs.messages m (mem_asking hm)).replied hmy hid
  simp only [h.messages,h.commands,h.chat,testFiltered]
  constructor
  · rintro ⟨hfilter,-⟩
    refine ⟨?_,fun m hm => ?_⟩
    · simpa [hnew,h.text] using filter_agree hfilter (x := q) (by simp)
    · have := filter_agree hfilter (x := m) (by simp [hm])
      constructor
      · intro hid
        simpa [hid] using this
      · intro hid _
        simpa [hid] using this
  · rintro ⟨htext,hall⟩
    have hq : isTestText q.text = false := h.text ▸ htext
    refine ⟨List.filter_congr fun m hm => ?_,by simp [h.isMy],by simp [hq]⟩
    rcases List.mem_append.mp hm with hm | hm
    · cases hid : isCommand a.device.journal m.id with
      | false => rw [(hall m hm).1 hid]
      | true =>
        cases hmy : m.isMy with
        | false => rw [hreplied m hm hmy hid]
        | true => rw [(hall m hm).2 hid hmy]
    · rw [List.mem_singleton.mp hm,hq,hnew]

theorem handsExactly_iff (hs : Supplied p (fun _ => True) a) :
    a.HandsExactly p e ↔ a.PhrasesTell p e := by
  constructor
  · intro hexact hne
    obtain ⟨chat,hchat⟩ := List.exists_mem_of_ne_nil _ hne
    obtain ⟨q,hq⟩ := handover_of_mem hchat
    exact (hq.exact_iff hs).mp (hexact chat hchat)
  · intro htell chat hchat
    obtain ⟨q,hq⟩ := handover_of_mem hchat
    exact (hq.exact_iff hs).mpr (htell (List.ne_nil_of_mem hchat))

instance (p : Platform) (a : App) (e : Event) : Decidable (a.HandsExactly p e) :=
  inferInstanceAs (Decidable (∀ chat ∈ a.handed p e, _ ∧ _ ∧ _))

instance (p : Platform) (a : App) (e : Event) : Decidable (a.PhrasesTell p e) :=
  inferInstanceAs (Decidable (a.handed p e ≠ [] → _ ∧ ∀ m ∈ _, _ ∧ _))

/-- Requests leave out exactly the commands as long as the phrases tell which
messages these are. -/
theorem commands_left_out_iff (active : Option Subsciption) (firestore : FirestoreManager)
    {acts : List Act} {s : Screen} (hrun : PhoneRun p (.install active firestore) acts s) :
    Each (Screen.step p) (Screen.During (HandsExactly p)) (.install active firestore) acts ↔
      Each (Screen.step p) (Screen.During (PhrasesTell p)) (.install active firestore) acts := by
  refine hrun.each_iff_each (J := fun s : Screen => s.Supplied p (fun _ => True))
    (fun s act hok hs _ => supplied_screen_step trivial ⟨hok,reports_true s act⟩ hs) ?_
    (supplied_install active firestore)
  intro s act _ hs
  refine Screen.during_congr ?_
  rintro a e rfl rfl
  exact handsExactly_iff hs

def sendAll (texts : List String) : List Act :=
  .openChat none [] :: texts.flatMap (fun text => [.session (.setText text),.session .onSendAction])

def Screen.handedTexts (s : Screen) : List (List String) :=
  (s.device.journal.filterMap Entry.sentText).map (fun chat => chat.map MessageItem.text)

theorem command_left_out :
    let p := Platform.plain Int.ofNat
    let start := Screen.install none { aikey := some "key" }
    let acts := sendAll ["Test Leo. Change temp to 1","Hello"]
    (acts.foldl (Screen.step p) start).handedTexts = [["Hello"]] ∧
      Each (Screen.step p) (Screen.During (HandsExactly p)) start acts := by
  intro p start acts
  have hallowed : Each (Screen.step p) Screen.Allowed start acts := by decide +kernel
  have htell : Each (Screen.step p) (Screen.During (PhrasesTell p)) start acts := by decide +kernel
  exact ⟨by decide +kernel,(commands_left_out_iff none _ hallowed.run).mpr htell⟩

/-- In lower case a command is recognised and then posted with the next
question; an ordinary question with a phrase in it is left out itself. -/
theorem phrases_mislead :
    let p := Platform.plain Int.ofNat
    let start := Screen.install none { aikey := some "key" }
    let lower := sendAll ["test leo. change temp to 1","Hello"]
    let ordinary := sendAll ["Why does it say Temperature is set to 21?"]
    PhoneRun p start lower (lower.foldl (Screen.step p) start) ∧
      (lower.foldl (Screen.step p) start).handedTexts = [["test leo. change temp to 1","Hello"]] ∧
      ¬ Each (Screen.step p) (Screen.During (HandsExactly p)) start lower ∧
    PhoneRun p start ordinary (ordinary.foldl (Screen.step p) start) ∧
      (ordinary.foldl (Screen.step p) start).handedTexts = [[]] ∧
      ¬ Each (Screen.step p) (Screen.During (HandsExactly p)) start ordinary := by
  intro p start lower ordinary
  have hlower : Each (Screen.step p) Screen.Allowed start lower := by decide +kernel
  have hordinary : Each (Screen.step p) Screen.Allowed start ordinary := by decide +kernel
  exact ⟨hlower.run,by decide +kernel,by decide +kernel,hordinary.run,by decide +kernel,
    by decide +kernel⟩

end GenieD

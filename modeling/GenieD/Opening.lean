import GenieD.Conversation

set_option autoImplicit false

namespace GenieD

open Runs Dialogs App

/-- A device and its store while no dialog is open. The ids that `UUID()` has
still to return are not in use. -/
structure World (p : Platform) where
  device : Device
  moc : ManagedObjectContext
  spent : ∀ m ∈ moc.graph.messages, Spent p device.uuids (m.content.id.getD "")

/-- The start of a dialog session: on no chat, or on one of the context with its
rows in the order in which the unordered set happens to give them. -/
structure Opening (p : Platform) extends World p where
  chat : Option Nat
  allObjects : List Message
  enumerates : ∀ c ∈ chat, moc.graph.HasChat c ∧ allObjects.Perm (moc.graph.linked c)

variable {p : Platform}

namespace Opening

def screen (o : Opening p) : App := openScreen p o.device o.moc true o.chat o.allObjects

def WellFormed (o : Opening p) : Prop :=
  o.chat ≠ none → Alternating true (o.screen.vm.messages.map MessageItem.isMy) ∧
    o.screen.vm.messages.getLast?.any (fun m => !m.isMy) = true

end Opening

theorem spent_openScreen (o : Opening p) (isDialog : Bool) :
    ∀ m ∈ (openScreen p o.device o.moc isDialog o.chat o.allObjects).vm.messages,
      Spent p (openScreen p o.device o.moc isDialog o.chat o.allObjects).device.uuids m.id := by
  intro m hm
  cases hchat : o.chat with
  | none => simp [openScreen,hchat] at hm
  | some c =>
    obtain ⟨reads,hreads⟩ := loadMessages_device (p := p) o.device o.allObjects
    simp only [openScreen,hchat,List.mem_insertionSort,hreads] at hm ⊢
    obtain ⟨row,hrow,now,rfl⟩ := mem_loadMessages hm
    obtain ⟨-,hperm⟩ := o.enumerates c hchat
    exact o.spent row (List.mem_filter.mp (hperm.mem_iff.mp hrow)).1

theorem shows_screen (o : Opening p) (ho : o.WellFormed) :
    ∃ es, Shows p o.screen ⟨es,none⟩ := by
  have hmessages : ∃ es : List (Exchange MessageItem.isMy),
      o.screen.vm.messages = transcript es := by
    cases hchat : o.chat with
    | none => exact ⟨[],by simp [Opening.screen,openScreen,hchat]⟩
    | some c =>
      obtain ⟨halt,hlast⟩ := ho (by simp [hchat])
      refine exists_transcript halt ?_
      cases hl : o.screen.vm.messages.getLast? with
      | none => rfl
      | some m => simpa [hl] using hlast
  obtain ⟨es,hes⟩ := hmessages
  refine ⟨es,?_⟩
  have hstart : Unstarted o.device true o.chat o.screen := unstarted_openScreen ..
  exact {
    isDialog := hstart.isDialog
    messages := by simpa using hes
    isLoading := hstart.isLoading
    isAnswerError := hstart.isAnswerError
    pending := by simp [isWaiting,hstart.pending]
    silent := by simp
    sendable := by simp
    spent := spent_openScreen o true
    distinct := by simp }

theorem flagged_screen (o : Opening p) : Flagged o.screen := by
  have hstart : Unstarted o.device true o.chat o.screen := unstarted_openScreen ..
  exact .of_false hstart.unflagged

/-- Whatever the user and the network do, at most one question is open, it is
the last message, and the flags tell what has become of it. -/
theorem session_invariant (o : Opening p) (ho : o.WellFormed) {es : List Event} {a : App}
    (hrun : SessionRun p o.screen es a) :
    a.pending.length = (if a.vm.isLoading then 1 else 0) ∧
    ¬ (a.vm.isLoading = true ∧ a.vm.isAnswerError = true) ∧
    Alternating true (a.vm.messages.map MessageItem.isMy) ∧
    (a.vm.messages.getLast?.any MessageItem.isMy = true ↔
      a.vm.isLoading = true ∨ a.vm.isAnswerError = true) := by
  obtain ⟨start,hstart⟩ := shows_screen o ho
  obtain ⟨d,-,hd,-⟩ := shows_run hrun hstart (flagged_screen o)
  have hpending : a.pending.length = (a.pending.map Request.questionId).length := by simp
  rw [hpending,hd.pending,hd.isLoading,hd.isAnswerError,hd.messages]
  refine ⟨?_,?_,d.alternating,?_⟩
  · cases hasked : d.asked with
    | none => simp [isWaiting,hasked]
    | some q =>
      simp only [isWaiting,hasked,Option.any_some,decide_eq_true_eq]
      split <;> rfl
  · cases hasked : d.asked <;> simp +contextual [isWaiting,hasFailed,hasked]
  · rw [d.ends_asking]
    cases hasked : d.asked with
    | none => simp [isWaiting,hasFailed,hasked]
    | some q =>
      obtain ⟨q,f⟩ := q
      cases f <;> simp [isWaiting,hasFailed,hasked]

def Opening.fresh (p : Platform) (device : Device) : Opening p where
  device
  moc := {}
  spent := by simp [Graph.empty]
  chat := none
  allObjects := []
  enumerates := by simp

theorem first_question_waits :
    let p := Platform.plain Int.ofNat
    let o := Opening.fresh p (.withFreeTokens 3000)
    let a := (o.screen.step p (.setText "Hello")).step p .onSendAction
    a.vm.isLoading = true ∧ a.pending.length = (if a.vm.isLoading then 1 else 0) := by
  intro p o a
  have hrun : SessionRun p o.screen [.setText "Hello",.onSendAction] a :=
    .cons rfl (.cons rfl (.nil _))
  exact ⟨by decide,(session_invariant o (fun h => absurd rfl h) hrun).1⟩

end GenieD

import GenieD.Session

set_option autoImplicit false

namespace GenieD

open Runs

/-- The app on one device: the home screens, or one dialog on top of them. -/
inductive Screen where
  | home (device : Device) (moc : ManagedObjectContext)
  | dialog (a : App)

inductive Act where
  | session (e : Event)
  | device (e : DeviceEvent)
  | openChat (chat : Option Nat) (allObjects : List Message)
  | leave
  | onDeleteChatAction
  | launch

/-- The view disappears: one more save. A request still in flight has lost its
view model, so that its completion does nothing. -/
def App.leave (p : Platform) (a : App) : Screen :=
  let a := a.saveChat p
  .home a.device a.moc

def App.onDeleteChatAction (a : App) : App :=
  match a.vm.chat with
  | none => a
  | some chat =>
    { a with moc := ManagedObjectContext.save { a.moc with graph := a.moc.graph.deleteChat chat } }

theorem App.device_onDeleteChatAction (a : App) : a.onDeleteChatAction.device = a.device := by
  unfold App.onDeleteChatAction
  split <;> rfl

namespace Screen

def device : Screen → Device
  | home device _ => device
  | dialog a => a.device

def moc : Screen → ManagedObjectContext
  | home _ moc => moc
  | dialog a => a.moc

/-- A new process. What the context had not saved is lost. -/
def launch (p : Platform) (s : Screen) : Screen :=
  .home (Device.launch { s.device with reads := s.device.reads + 1 } (p.clock s.device.reads))
    { graph := s.moc.store, store := s.moc.store }

def step (p : Platform) (s : Screen) (act : Act) : Screen :=
  match s, act with
  | .home device moc, .device e => .home (device.step p e) moc
  | .home device moc, .openChat chat allObjects =>
    .dialog (openScreen p device moc true chat allObjects)
  | .dialog a, .session e => .dialog (a.step p e)
  | .dialog a, .leave => a.leave p
  | .dialog a, .onDeleteChatAction => a.onDeleteChatAction.leave p
  | s, .launch => s.launch p
  | s, _ => s

/-- Leaving and deleting are not within reach under the paywall, and only an
opened chat has a button to delete it. -/
def Allowed : Screen → Act → Prop
  | .home _ _, .device _ => True
  | .home _ moc, .openChat chat allObjects =>
    ∀ c ∈ chat, moc.graph.HasChat c ∧ allObjects.Perm (moc.graph.linked c)
  | .dialog a, .session e => a.Allowed e
  | .dialog a, .leave => a.vm.showBuyPro = false
  | .dialog a, .onDeleteChatAction =>
    a.vm.showBuyPro = false ∧ a.vm.showDeleteChatButton = true
  | _, .launch => True
  | _, _ => False

instance (s : Screen) (act : Act) : Decidable (s.Allowed act) :=
  match s, act with
  | .home _ _, .device _ => isTrue trivial
  | .home _ moc, .openChat chat allObjects => inferInstanceAs (Decidable
      (∀ c ∈ chat, moc.graph.HasChat c ∧ allObjects.Perm (moc.graph.linked c)))
  | .home _ _, .launch => isTrue trivial
  | .dialog a, .session e => inferInstanceAs (Decidable (a.Allowed e))
  | .dialog _, .leave => inferInstanceAs (Decidable (_ = _))
  | .dialog _, .onDeleteChatAction => inferInstanceAs (Decidable (_ ∧ _))
  | .dialog _, .launch => isTrue trivial
  | .home _ _, .session _ | .home _ _, .leave | .home _ _, .onDeleteChatAction
  | .dialog _, .device _ | .dialog _, .openChat _ _ => isFalse id

def During (P : App → Event → Prop) : Screen → Act → Prop
  | .dialog a, .session e => P a e
  | _, _ => True

instance (P : App → Event → Prop) [∀ a e, Decidable (P a e)] (s : Screen) (act : Act) :
    Decidable (s.During P act) :=
  match s, act with
  | .dialog a, .session e => inferInstanceAs (Decidable (P a e))
  | .home _ _, _ | .dialog _, .device _ | .dialog _, .openChat _ _ | .dialog _, .leave
  | .dialog _, .onDeleteChatAction | .dialog _, .launch => isTrue trivial

theorem During.imp {P Q : App → Event → Prop} {s : Screen} {act : Act} (h : s.During P act)
    (himp : ∀ a e, s = .dialog a → act = .session e → P a e → Q a e) : s.During Q act := by
  cases s with
  | home device moc => trivial
  | dialog a =>
    cases act with
    | session e => exact himp a e rfl rfl h
    | device | openChat | leave | onDeleteChatAction | launch => trivial

theorem during_congr {P Q : App → Event → Prop} {s : Screen} {act : Act}
    (h : ∀ a e, s = .dialog a → act = .session e → (P a e ↔ Q a e)) :
    s.During P act ↔ s.During Q act :=
  ⟨fun hP => hP.imp fun a e hs he => (h a e hs he).mp,
    fun hQ => hQ.imp fun a e hs he => (h a e hs he).mpr⟩

def install (active : Option Subsciption) (firestore : FirestoreManager) : Screen :=
  .home
    { activeSubscription := active
      firestore
      defaults := { activeSubscription := active.map some } }
    {}

end Screen

abbrev PhoneRun (p : Platform) := Run (Screen.step p) Screen.Allowed

def oneExchange : List Act :=
  [.openChat none [],.session (.setText "Hello"),.session .onSendAction,
    .session (.complete 0 (.responded (some ⟨["Hi"],⟨some 1,some 5⟩⟩))),.leave]

end GenieD

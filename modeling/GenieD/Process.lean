import GenieD.Front
import GenieD.Transactions

set_option autoImplicit false

namespace GenieD

open Runs Sieve App

/-- The app on one device: its screens, and the store behind them. They share
the device, which is the one of the screens. `ended` holds the verifications
that came to an end since the installation. -/
structure Process where
  screen : Screen
  store : Store
  ended : List Completion := []

inductive ProcessEvent where
  | act (act : Act)
  | store (e : StoreEvent)
  | launch (appStoreReceiptData : Option Data)

def Act.verification? : Act → Option (Issuer × VerifyReceiptResult)
  | .device (.verified issuer result) => some (issuer,result)
  | .session (.device (.verified issuer result)) => some (issuer,result)
  | _ => none

def Act.isLaunch : Act → Bool
  | .launch => true
  | .session _ | .device _ | .openChat _ _ | .leave | .onDeleteChatAction => false

def ProcessEvent.act? : ProcessEvent → Option Act
  | .act a => some a
  | .store _ => none
  | .launch _ => some .launch

def StoreEvent.now? : StoreEvent → Option Date
  | .refreshCallback now => some now
  | .validated _ now _ => some now
  | .openPaywall | .onViewDidAppear _ | .select _ _ _ | .onContinueAction _ | .openSettings
  | .onRestorePurchases _ | .products _ _ | .updatedTransactions _ | .restoreEnded _ | .receipt _
  | .refreshEnded _ _ => none

namespace Process

def storeStep (p : Platform) (s : Process) (e : StoreEvent) : Process :=
  let store := { s.store with device := s.screen.device, completions := [] }.step p e
  let device := { store.device with reads := store.device.reads + store.completions.length }
  { screen := s.screen.setDevice device, store, ended := s.ended ++ store.completions }

def launch (p : Platform) (s : Process) (appStoreReceiptData : Option Data) : Process :=
  let screen := s.screen.launch p
  { s with screen, store := .launch screen.device appStoreReceiptData }

def step (p : Platform) (s : Process) : ProcessEvent → Process
  | .act act => { s with screen := s.screen.step p act }
  | .store e => s.storeStep p e
  | .launch appStoreReceiptData => s.launch p appStoreReceiptData

def Allowed (p : Platform) (s : Process) : ProcessEvent → Prop
  | .act act => s.screen.Allowed act ∧ act.verification? = none ∧ act.isLaunch = false
  | .store e => ∀ now ∈ e.now?, now = p.clock s.screen.device.reads
  | .launch _ => True

instance (p : Platform) (s : Process) (e : ProcessEvent) : Decidable (s.Allowed p e) :=
  match e with
  | .act act => inferInstanceAs (Decidable (s.screen.Allowed act ∧ _))
  | .store e => inferInstanceAs (Decidable (∀ now ∈ e.now?, now = _))
  | .launch _ => isTrue trivial

def install (active : Option Subsciption) (firestore : FirestoreManager)
    (appStoreReceiptData : Option Data) : Process :=
  let screen := Screen.install active firestore
  { screen, store := .launch screen.device appStoreReceiptData }

end Process

abbrev ProcessRun (p : Platform) := Run (Process.step p) (Process.Allowed p)

namespace Store

variable (p : Platform) (s : Store)

theorem completions_purchaseResult (caller : Caller) (result : TransactionResult) :
    (s.purchaseResult p caller result).completions = s.completions := by
  cases result <;> rfl

theorem completions_completeTransaction (purchase : Purchase) :
    (s.completeTransaction purchase).completions = s.completions := by
  unfold completeTransaction
  split <;> rfl

theorem completions_queueCall (call : QueueCall Caller) :
    (s.queueCall p call).completions = s.completions := by
  cases call with
  | finishTransaction transaction => rfl
  | payment caller result => exact s.completions_purchaseResult p caller result
  | complete purchases =>
    exact foldl_keeps (fun s purchase => s.completions_completeTransaction purchase) s purchases

theorem completions_productsHandler (result : RetrieveResults) (handler : ProductsHandler) :
    (productsHandler p result s handler).completions = s.completions := by
  have hretrieved : (s.productsRetrieved result).completions = s.completions := by
    unfold productsRetrieved
    split <;> rfl
  cases handler with
  | launch => exact hretrieved
  | fetchSubscriptions paywall => exact hretrieved
  | purchaseProduct caller =>
    simp only [productsHandler,productFound]
    split <;> rfl

theorem completions_restoreResults (caller : Caller) (results : List TransactionResult) :
    (s.restoreResults p caller results).completions = s.completions := by
  unfold restoreResults
  dsimp only
  split
  · rfl
  · split <;> rfl

theorem completions_receiptVerified (now : Date) (completion : Verification)
    (result : VerifyReceiptResult) :
    (s.receiptVerified p now completion result).completions =
      s.completions ++ [⟨completion.issuer,now,result⟩] := by
  unfold receiptVerified
  cases completion with
  | completeTransactions => rfl
  | purchase caller | restore caller =>
    dsimp only
    split <;> rfl

theorem completions_verificatorCalled (now : Date)
    (o : InAppReceiptVerificator Verification × Option (Verification × VerifyReceiptResult)) :
    (s.verificatorCalled p now o).completions = s.completions ∨
      ∃ c : Completion, c.now = now ∧
        (s.verificatorCalled p now o).completions = s.completions ++ [c] := by
  unfold verificatorCalled
  split
  · exact .inl rfl
  · exact .inr ⟨_,rfl,completions_receiptVerified p _ now _ _⟩

theorem completions_step (e : StoreEvent) :
    (s.step p e).completions = s.completions ∨
      ∃ c : Completion, e.now? = some c.now ∧
        (s.step p e).completions = s.completions ++ [c] := by
  have hcalled (now : Date)
      (o : InAppReceiptVerificator Verification × Option (Verification × VerifyReceiptResult))
      (hnow : e.now? = some now) :
      (s.verificatorCalled p now o).completions = s.completions ∨
        ∃ c : Completion, e.now? = some c.now ∧
          (s.verificatorCalled p now o).completions = s.completions ++ [c] := by
    rcases s.completions_verificatorCalled p now o with hsame | ⟨c,rfl,hc⟩
    · exact .inl hsame
    · exact .inr ⟨c,hnow,hc⟩
  cases e with
  | openPaywall | select _ _ _ | openSettings | receipt _ | refreshEnded _ _ => exact .inl rfl
  | onViewDidAppear paywall =>
    simp only [step,onViewDidAppear]
    split <;> exact .inl rfl
  | onContinueAction paywall =>
    simp only [step,onContinueAction]
    split
    · exact .inl rfl
    · split <;> exact .inl rfl
  | onRestorePurchases settings =>
    simp only [step,onRestorePurchases]
    split <;> exact .inl rfl
  | products productIds result =>
    exact .inl (foldl_keeps (fun s handler => s.completions_productsHandler p result handler) _ _)
  | updatedTransactions transactions =>
    exact .inl (foldl_keeps (fun s call => s.completions_queueCall p call) _ _)
  | restoreEnded error =>
    simp only [step]
    split
    · exact .inl rfl
    · exact .inl (completions_restoreResults p _ _ _)
  | refreshCallback now => exact hcalled now _ rfl
  | validated index now response => exact hcalled now _ rfl

end Store

section Reads

variable (d : Device) (reads : Nat) (now : Date)

theorem considerProduct_reads (receipt : ReceiptInfo) (product : BuyProProduct) :
    { d with reads }.considerProduct now receipt product =
      { d.considerProduct now receipt product with reads } := by
  unfold Device.considerProduct
  split
  · dsimp only
    split <;> rfl
  · rfl
  · rfl

theorem updateSubscriptionsWithReceipt_reads (products : List BuyProProduct)
    (receipt : ReceiptInfo) :
    { d with reads }.updateSubscriptionsWithReceipt now products receipt =
      { d.updateSubscriptionsWithReceipt now products receipt with reads } := by
  unfold Device.updateSubscriptionsWithReceipt
  induction products generalizing d with
  | nil => rfl
  | cons product products ih => rw [List.foldl_cons,considerProduct_reads,ih,List.foldl_cons]

theorem verifyPurchases_reads (result : VerifyReceiptResult) :
    { d with reads }.verifyPurchases now result = { d.verifyPurchases now result with reads } := by
  cases result with
  | error => rfl
  | success receipt =>
    exact updateSubscriptionsWithReceipt_reads (d.setActiveSubscription none) reads now _ receipt

theorem verified_reads (issuer : Issuer) (result : VerifyReceiptResult) :
    { d with reads }.verified issuer now result = { d.verified issuer now result with reads } := by
  cases issuer with
  | completeTransactions | restore => exact verifyPurchases_reads d reads now result
  | purchase =>
    simp only [Device.verified,verifyPurchases_reads]
    split
    · rename_i hsubscribed
      rw [if_pos (by exact hsubscribed)]
      rfl
    · rename_i hsubscribed
      rw [if_neg (by exact hsubscribed)]

end Reads

def Screen.deviceAct : Screen → DeviceEvent → Act
  | .home _ _, e => .device e
  | .dialog _, e => .session (.device e)

namespace Screen

variable (p : Platform) (s : Screen) (e : DeviceEvent)

theorem step_deviceAct : s.step p (s.deviceAct e) = s.setDevice (s.device.step p e) := by
  cases s <;> rfl

theorem allowed_deviceAct : s.Allowed (s.deviceAct e) := by
  cases s <;> trivial

theorem verification_deviceAct (issuer : Issuer) (result : VerifyReceiptResult) :
    (s.deviceAct (.verified issuer result)).verification? = some (issuer,result) := by
  cases s <;> rfl

theorem setDevice_self : s.setDevice s.device = s := by
  cases s <;> rfl

end Screen

namespace Process

variable {p : Platform} {s : Process}

/-- An event of the store is nothing to the screens, or the end of a verification. -/
theorem storeStep_cases {e : StoreEvent} (h : s.Allowed p (.store e)) :
    ((s.storeStep p e).screen = s.screen ∧ (s.storeStep p e).ended = s.ended) ∨
      ∃ c : Completion, (s.storeStep p e).screen =
          s.screen.step p (s.screen.deviceAct (.verified c.issuer c.result)) ∧
        (s.storeStep p e).ended = s.ended ++ [c] ∧
        (s.storeStep p e).screen.device.activeSubscription = c.verdict ∧
        (s.storeStep p e).screen.device.persistedSubscription = c.verdict := by
  have hbefore : Store.Verified s.screen.device
      { s.store with device := s.screen.device, completions := [] } := rfl
  have hverified := hbefore.step p e
  unfold Store.Verified at hverified
  rcases Store.completions_step p { s.store with device := s.screen.device, completions := [] } e
    with hnone | ⟨c,hnow,hc⟩
  · left
    simp only [storeStep,hverified,hnone]
    exact ⟨s.screen.setDevice_self,List.append_nil _⟩
  · right
    have hread : c.now = p.clock s.screen.device.reads := h c.now hnow
    have hreads : (Completion.apply s.screen.device c).reads = s.screen.device.reads := by
      have hsame := congrArg Device.reads
        (verified_reads s.screen.device s.screen.device.reads c.now c.issuer c.result)
      exact hsame
    simp only [List.nil_append] at hc
    obtain ⟨hactive,hpersisted⟩ := apply_verdict s.screen.device c
    refine ⟨c,?_,?_,?_,?_⟩
    · simp only [storeStep,hverified,hc,List.foldl_cons,List.foldl_nil,List.length_singleton]
      rw [Screen.step_deviceAct,hreads]
      simp only [Device.step,← hread,verified_reads]
      rfl
    · simp only [storeStep,hc]
    · simp only [storeStep,hverified,hc,Screen.device_setDevice]
      exact hactive
    · simp only [storeStep,hverified,hc,Screen.device_setDevice]
      exact hpersisted

theorem accounted {es : List ProcessEvent} {s' : Process} (h : ProcessRun p s es s')
    (hs : s.store.queue.Ready ∧ s.store.Accounted) :
    s'.store.queue.Ready ∧ s'.store.Accounted := by
  refine h.invariant (I := fun s => s.store.queue.Ready ∧ s.store.Accounted) (fun s e _ hs => ?_) hs
  cases e with
  | act a => exact hs
  | store e =>
    have hready : { s.store with device := s.screen.device, completions := [] }.queue.Ready := hs.1
    exact ⟨Store.ready_step p hready e,Store.accounted_step p hready hs.2 e⟩
  | launch receipt => exact ⟨Store.ready_launch _ _,Store.accounted_launch _ _⟩

theorem refines {es : List ProcessEvent} {s' : Process} (h : ProcessRun p s es s') :
    ∃ acts cs, PhoneRun p s.screen acts s'.screen ∧
      acts.filter (fun act => act.verification?.isNone) = es.filterMap ProcessEvent.act? ∧
      s'.ended = s.ended ++ cs ∧
      acts.filterMap Act.verification? = cs.map fun c => (c.issuer,c.result) := by
  induction h with
  | nil s => exact ⟨[],[],.nil _,rfl,(List.append_nil _).symm,rfl⟩
  | @cons s t e es allowed _ ih =>
    obtain ⟨acts,cs,hrun,hacts,hended,hverified⟩ := ih
    cases e with
    | act a =>
      obtain ⟨hallowed,hnone,-⟩ := allowed
      refine ⟨a :: acts,cs,.cons hallowed hrun,?_,hended,?_⟩
      · simp [hnone,hacts,ProcessEvent.act?]
      · simp [hnone,hverified]
    | store e =>
      rcases storeStep_cases allowed with ⟨hscreen,hsame⟩ | ⟨c,hscreen,hc,-,-⟩
      · simp only [step,hscreen,hsame] at hrun hended
        exact ⟨acts,cs,hrun,hacts,hended,hverified⟩
      · simp only [step,hscreen,hc] at hrun hended
        refine ⟨_ :: acts,c :: cs,.cons (s.screen.allowed_deviceAct _) hrun,?_,?_,?_⟩
        · rw [List.filter_cons_of_neg (by simp [Screen.verification_deviceAct]),
            List.filterMap_cons_none rfl]
          exact hacts
        · rw [hended,List.append_assoc,List.singleton_append]
        · simp [Screen.verification_deviceAct,hverified]
    | launch receipt =>
      have hlaunch : s.screen.step p .launch = s.screen.launch p := by cases s.screen <;> rfl
      have hallowed : s.screen.Allowed .launch := by cases s.screen <;> trivial
      refine ⟨.launch :: acts,cs,.cons hallowed ?_,?_,hended,?_⟩
      · rw [hlaunch]
        exact hrun
      · rw [List.filter_cons_of_pos rfl,hacts]
        rfl
      · rw [List.filterMap_cons_none rfl]
        exact hverified

end Process

/-- Under any interleaving with purchases, restores and relaunches the screens go
through a run of their own, in which the verifications that ended in the store
take the place of the events of the store; and the calls of the running process
are each in one place. -/
theorem process_refines_phone {p : Platform} {active : Option Subsciption}
    {firestore : FirestoreManager} {appStoreReceiptData : Option Data} {es : List ProcessEvent}
    {s : Process} (h : ProcessRun p (.install active firestore appStoreReceiptData) es s) :
    (∃ acts, PhoneRun p (.install active firestore) acts s.screen ∧
      acts.filter (fun act => act.verification?.isNone) = es.filterMap ProcessEvent.act? ∧
      acts.filterMap Act.verification? = s.ended.map fun c => (c.issuer,c.result)) ∧
    s.store.waiting + s.store.lost + ↑(s.store.dropped.map Caller.call) + ↑s.store.ended =
      Multiset.range s.store.calls := by
  obtain ⟨acts,cs,hrun,hacts,hended,hverified⟩ := Process.refines h
  have haccounted := (Process.accounted h ⟨Store.ready_launch _ _,Store.accounted_launch _ _⟩).2
  refine ⟨⟨acts,hrun,hacts,?_⟩,?_⟩
  · rw [hverified,hended]
    rfl
  · rw [← Store.places_eq]
    exact haccounted

def boughtUnderway : List ProcessEvent :=
  [.act (.openChat none []),.act (.session (.setText "Hello")),.act (.session .onSendAction),
    .store .openPaywall,.store (.onContinueAction 0),
    .store (.products {"com.nisos.gpt.advanced"}
      { retrievedProducts := [⟨"com.nisos.gpt.advanced","9.99",some "$",none,none⟩] }),
    .store (.updatedTransactions [⟨1,"com.nisos.gpt.advanced",.purchased,none⟩]),
    .store (.validated 0 0 (.receiptInfo (some 0)
      ⟨some [{ productId := some "com.nisos.gpt.advanced", expirationDate := some 9 }],none⟩)),
    .act (.session .closePaywall)]

theorem boughtUnderway_refines :
    let p := Platform.plain Int.ofNat
    let start := Process.install none { freeRequests := 0, aikey := some "key" } (some [])
    let s := boughtUnderway.foldl (Process.step p) start
    Each (Process.step p) (Process.Allowed p) start boughtUnderway ∧
      (∃ acts, PhoneRun p start.screen acts s.screen ∧
        acts.filter (fun act => act.verification?.isNone) =
          boughtUnderway.filterMap ProcessEvent.act? ∧
        acts.filterMap Act.verification? = s.ended.map fun c => (c.issuer,c.result)) ∧
      s.ended.length = 1 ∧ s.screen.device.journal.countP Entry.isNetwork = 2 := by
  intro p start s
  have heach : Each (Process.step p) (Process.Allowed p) start boughtUnderway := by decide
  have hended : s.ended.length = 1 := by decide
  have hjournal : s.screen.device.journal.countP Entry.isNetwork = 2 := by decide
  exact ⟨heach,(process_refines_phone heach.run).1,hended,hjournal⟩

structure Unsold (d d' : Device) : Prop where
  active : d'.activeSubscription = d.activeSubscription
  stored : d'.defaults.activeSubscription = d.defaults.activeSubscription

namespace Unsold

variable {p : Platform} {a b : App} {d d' d'' : Device}

theorem refl (d : Device) : Unsold d d := ⟨rfl,rfl⟩

theorem trans (h : Unsold d d') (h' : Unsold d' d'') : Unsold d d'' :=
  ⟨h'.active.trans h.active,h'.stored.trans h.stored⟩

theorem rechecked (h : d.Rechecked d') : Unsold d d' := by
  cases h <;> exact ⟨rfl,rfl⟩

theorem probed (h : Probed d d') : Unsold d d' := by
  obtain ⟨reads,uuids,-,rfl⟩ := h
  exact ⟨rfl,rfl⟩

theorem noted {ok : Entry → Prop} (h : Noted ok d d') : Unsold d d' := by
  obtain ⟨entries,-,rfl⟩ := h
  exact ⟨rfl,rfl⟩

theorem saved (p : Platform) (a : App) : Unsold a.device (a.saveChat p).device := by
  obtain ⟨chat,moc,uuids,journal,-,hsave⟩ := saveChat_frame p a
  rw [hsave]
  exact ⟨rfl,rfl⟩

theorem effect (h : Effect p a b) : Unsold a.device b.device := by
  have hrefreshed {chat : List MessageItem} {d : Device} (hd : Refreshed chat a.device d) :
      Unsold a.device d := by
    obtain ⟨firestore,hnoted⟩ := hd
    have hread : Unsold a.device { a.device with firestore } := ⟨rfl,rfl⟩
    exact hread.trans (noted hnoted)
  cases h with
  | probed d hd => exact probed hd
  | rechecked d hd => exact rechecked hd
  | redrawn => exact .refl _
  | commanded b hb =>
    cases hb
    exact ⟨rfl,rfl⟩
  | issued b hb =>
    obtain ⟨d,hd,hd'⟩ := hb.noted
    exact (probed hd).trans (noted hd')
  | taken index r d _ hd => exact hrefreshed hd
  | continued index r d f _ hd => exact hrefreshed hd
  | saved => exact saved p a

theorem deviceStep (p : Platform) (d : Device) {e : DeviceEvent}
    (he : (Act.device e).verification? = none) : Unsold d (d.step p e) := by
  cases e with
  | getAccessQuestionsCount => exact rechecked (Device.rechecked_getAccessQuestionsCount p d)
  | serverTime ts => exact ⟨rfl,rfl⟩
  | fetchSystem snapshot => exact ⟨rfl,rfl⟩
  | verified issuer result => cases he

theorem appStep (p : Platform) (a : App) {e : Event} (he : (Act.session e).verification? = none) :
    Unsold a.device (a.step p e).device := by
  by_cases hdevice : ∃ d, e = .device d
  · obtain ⟨d,rfl⟩ := hdevice
    refine deviceStep p a.device ?_
    cases d with
    | verified issuer result => cases he
    | getAccessQuestionsCount | serverTime | fetchSystem => rfl
  · exact frame_step (R := fun a b => Unsold a.device b.device) (fun a => .refl a.device) .trans
      .effect (fun _ _ _ _ => ⟨rfl,rfl⟩) (not_exists.mp hdevice)

theorem screenStep (p : Platform) (s : Screen) {act : Act} (hact : act.verification? = none)
    (hlaunch : act.isLaunch = false) : Unsold s.device (s.step p act).device := by
  have hacted := s.acted_step p act
  generalize (s.step p act).device = d at hacted ⊢
  cases hacted with
  | same => exact .refl _
  | opened => exact ⟨rfl,rfl⟩
  | device e => exact deviceStep p s.device hact
  | session a e ha =>
    rw [← ha]
    exact appStep p a hact
  | saved act a ha =>
    rw [← ha]
    exact saved p a
  | launch => cases hlaunch

end Unsold

/-- `UserDefaults` holds the verdict of the last verification, and memory the same
unless it had expired when a process was launched. -/
structure Process.Decided (p : Platform) (active : Option Subsciption) (s : Process) : Prop where
  stored : s.screen.device.persistedSubscription = s.ended.getLast?.elim active Completion.verdict
  active : s.screen.device.activeSubscription = s.screen.device.persistedSubscription ∨
    ∃ read, s.screen.device.activeSubscription = s.screen.device.storedSubscription (p.clock read)

theorem Process.decided_step {p : Platform} {active : Option Subsciption} {s : Process}
    (h : s.Decided p active) {e : ProcessEvent} (he : s.Allowed p e) :
    (s.step p e).Decided p active := by
  have hkept (s' : Process) (hended : s'.ended = s.ended)
      (hdevice : Unsold s.screen.device s'.screen.device) : s'.Decided p active := by
    have hstored : s'.screen.device.persistedSubscription =
        s.screen.device.persistedSubscription := congrArg Option.join hdevice.stored
    refine ⟨?_,?_⟩
    · rw [hstored,hended]
      exact h.stored
    · simp only [Device.storedSubscription,hstored,hdevice.active]
      exact h.active
  cases e with
  | act a => exact hkept _ rfl (.screenStep p s.screen he.2.1 he.2.2)
  | store e =>
    rcases storeStep_cases he with ⟨hscreen,hsame⟩ | ⟨c,-,hc,hactive,hpersisted⟩
    · exact hkept _ hsame (by rw [step,hscreen]; exact .refl _)
    · refine ⟨?_,.inl (hactive.trans hpersisted.symm)⟩
      rw [step,hc,List.getLast?_concat]
      exact hpersisted
  | launch receipt => exact ⟨h.stored,.inr ⟨s.screen.device.reads,rfl⟩⟩

/-- What gates the questions is what the App Store said last, over all processes. -/
theorem process_decided {p : Platform} {active : Option Subsciption}
    {firestore : FirestoreManager} {appStoreReceiptData : Option Data} {es : List ProcessEvent}
    {s : Process} (h : ProcessRun p (.install active firestore appStoreReceiptData) es s) :
    let last := s.ended.getLast?.elim active Completion.verdict
    s.screen.device.persistedSubscription = last ∧
      (s.screen.device.activeSubscription = last ∨ ∃ read, s.screen.device.activeSubscription =
        last.filter fun decoded => decoded.expirationDate > p.clock read) := by
  have hinstall : (Process.install active firestore appStoreReceiptData).Decided p active :=
    ⟨by cases active <;> rfl,.inl (by cases active <;> rfl)⟩
  have hdecided := h.invariant (I := Process.Decided p active)
    (fun _ _ he hs => Process.decided_step hs he) hinstall
  refine ⟨hdecided.stored,?_⟩
  rw [← hdecided.stored]
  exact hdecided.active

theorem boughtUnderway_decided :
    let p := Platform.plain Int.ofNat
    let start := Process.install none { freeRequests := 0, aikey := some "key" } (some [])
    let es := boughtUnderway ++ [.launch none]
    let s := es.foldl (Process.step p) start
    Each (Process.step p) (Process.Allowed p) start es ∧
      s.screen.device.persistedSubscription = some ⟨.advancedYear,9⟩ ∧
      s.screen.device.activeSubscription = some ⟨.advancedYear,9⟩ ∧
      s.ended.getLast?.elim none Completion.verdict = some ⟨.advancedYear,9⟩ := by
  intro p start es s
  have heach : Each (Process.step p) (Process.Allowed p) start es := by decide
  have hlast : s.ended.getLast?.elim none Completion.verdict = some ⟨.advancedYear,9⟩ := by decide
  have hactive : s.screen.device.activeSubscription = some ⟨.advancedYear,9⟩ := by decide
  have hstored := (process_decided heach.run).1
  exact ⟨heach,hstored.trans hlast,hactive,hlast⟩

end GenieD

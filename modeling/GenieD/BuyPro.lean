import GenieD.Device
import GenieD.Runs

set_option autoImplicit false

namespace GenieD

open Runs

/-- An entry of `latest_receipt_info`. `parses` says that `ReceiptItem` finds
the keys it requires. -/
structure ReceiptEntry where
  productId : Option String
  cancelled : Bool := false
  parses : Bool := true
  expirationDate : Option Date
  deriving DecidableEq, Repr

structure ReceiptInfo where
  latestReceiptInfo : Option (List ReceiptEntry)
  requestDate : Option Date := none
  deriving DecidableEq, Repr

inductive VerifySubscriptionResult where
  | purchased (expiryDate : Date)
  | expired (expiryDate : Date)
  | notPurchased
  deriving DecidableEq, Repr

def verifySubscription (now : Date) (productId : String) (receipt : ReceiptInfo) :
    VerifySubscriptionResult :=
  let receiptsInfo := (receipt.latestReceiptInfo.getD []).filter
    (fun entry => entry.productId = some productId)
  let nonCancelledReceiptsInfo := receiptsInfo.filter (fun entry => !entry.cancelled)
  if nonCancelledReceiptsInfo.length = 0 then .notPurchased
  else
    let receiptDate := receipt.requestDate.getD now
    let receiptItems := nonCancelledReceiptsInfo.filter ReceiptEntry.parses
    let sortedExpiryDates :=
      (receiptItems.filterMap ReceiptEntry.expirationDate).insertionSort (· ≥ ·)
    match sortedExpiryDates.head? with
    | none => .notPurchased
    | some expiryDate =>
      if expiryDate > receiptDate then .purchased expiryDate else .expired expiryDate

def allProducts : List BuyProProduct := [⟨.advancedWeek⟩,⟨.advancedYear⟩]

inductive VerifyReceiptResult where
  | success (receipt : ReceiptInfo)
  | error
  deriving DecidableEq, Repr

inductive Issuer where
  | completeTransactions | purchase | restore
  deriving DecidableEq, Repr

namespace Device

def setActiveSubscription (d : Device) (newValue : Option Subsciption) : Device :=
  { d with
    activeSubscription := newValue
    defaults := { d.defaults with activeSubscription := some newValue } }

/-- What the observer last wrote, before the getter looks at the date. -/
def persistedSubscription (d : Device) : Option Subsciption := d.defaults.activeSubscription.join

/-- The getter `LocalStorage.activeSubscription`. -/
def storedSubscription (d : Device) (now : Date) : Option Subsciption :=
  d.persistedSubscription.filter (fun decoded => decoded.expirationDate > now)

def considerProduct (now : Date) (receipt : ReceiptInfo) (d : Device) (product : BuyProProduct) :
    Device :=
  match verifySubscription now product.id receipt with
  | .purchased expiryDate =>
    let currentSub : Subsciption := ⟨product.period,expiryDate⟩
    if d.activeSubscription.all (fun active => active.priority < currentSub.priority)
    then d.setActiveSubscription (some currentSub) else d
  | .expired _ => d
  | .notPurchased => d

def updateSubscriptionsWithReceipt (d : Device) (now : Date) (products : List BuyProProduct)
    (receipt : ReceiptInfo) : Device :=
  products.foldl (considerProduct now receipt) d

def verifyPurchases (d : Device) (now : Date) (result : VerifyReceiptResult) : Device :=
  let d := d.setActiveSubscription none
  match result with
  | .success receipt => d.updateSubscriptionsWithReceipt now allProducts receipt
  | .error => d

/-- `verifyPurchases` with what its caller does afterwards. -/
def verified (d : Device) (issuer : Issuer) (now : Date) (result : VerifyReceiptResult) : Device :=
  let d := d.verifyPurchases now result
  match issuer with
  | .purchase => if d.subscribed then d.resetAccessQuestionCount else d
  | .completeTransactions | .restore => d

def launch (d : Device) (now : Date) : Device :=
  { d with
    activeSubscription := d.storedSubscription now
    firestore := {}
    timeDifference := none
    accessQuestionsCount := d.storedAccessQuestionsCount
    temperature := none }

end Device

def bought (now : Date) (receipt : ReceiptInfo) (product : BuyProProduct) : Option Subsciption :=
  match verifySubscription now product.id receipt with
  | .purchased expiryDate => some ⟨product.period,expiryDate⟩
  | .expired _ => none
  | .notPurchased => none

def firstBought (now : Date) (receipt : ReceiptInfo) : Option Subsciption :=
  allProducts.findSome? (bought now receipt)

theorem considerProduct_active (now : Date) (receipt : ReceiptInfo) (d : Device)
    (product : BuyProProduct) :
    (d.considerProduct now receipt product).activeSubscription =
      match bought now receipt product with
      | none => d.activeSubscription
      | some s =>
        if d.activeSubscription.all (fun active => active.priority < s.priority)
        then some s else d.activeSubscription := by
  unfold Device.considerProduct bought
  cases verifySubscription now product.id receipt with
  | purchased expiryDate => simp only; split <;> rfl
  | expired expiryDate => rfl
  | notPurchased => rfl

theorem bought_priority {now : Date} {receipt : ReceiptInfo} {product : BuyProProduct}
    {s : Subsciption} (hmem : product ∈ allProducts) (h : bought now receipt product = some s) :
    s.priority = 2 := by
  unfold bought at h
  split at h
  · cases h
    simp only [allProducts,List.mem_cons,List.not_mem_nil,or_false] at hmem
    rcases hmem with rfl | rfl <;> rfl
  · contradiction
  · contradiction

theorem verifyPurchases_active (d : Device) (now : Date) (receipt : ReceiptInfo) :
    (d.verifyPurchases now (.success receipt)).activeSubscription = firstBought now receipt := by
  simp only [Device.verifyPurchases,Device.updateSubscriptionsWithReceipt,firstBought,allProducts,
    List.foldl_cons,List.foldl_nil,List.findSome?_cons,List.findSome?_nil,considerProduct_active]
  cases hw : bought now receipt ⟨.advancedWeek⟩ with
  | none => cases bought now receipt ⟨.advancedYear⟩ <;> simp [Device.setActiveSubscription]
  | some week =>
    cases hy : bought now receipt ⟨.advancedYear⟩ with
    | none => simp [Device.setActiveSubscription]
    | some year =>
      have hpw := bought_priority (by simp [allProducts]) hw
      have hpy := bought_priority (by simp [allProducts]) hy
      simp [Device.setActiveSubscription,hpw,hpy]

theorem considerProduct_persisted (now : Date) (receipt : ReceiptInfo) (d : Device)
    (product : BuyProProduct) (h : d.persistedSubscription = d.activeSubscription) :
    (d.considerProduct now receipt product).persistedSubscription =
      (d.considerProduct now receipt product).activeSubscription := by
  unfold Device.considerProduct
  split
  · dsimp only
    split
    · rfl
    · exact h
  · exact h
  · exact h

theorem update_persisted (now : Date) (receipt : ReceiptInfo) (products : List BuyProProduct)
    (d : Device) (h : d.persistedSubscription = d.activeSubscription) :
    (d.updateSubscriptionsWithReceipt now products receipt).persistedSubscription =
      (d.updateSubscriptionsWithReceipt now products receipt).activeSubscription := by
  unfold Device.updateSubscriptionsWithReceipt
  induction products generalizing d with
  | nil => exact h
  | cons product products ih => exact ih _ (considerProduct_persisted now receipt d product h)

theorem verifyPurchases_persisted (d : Device) (now : Date) (result : VerifyReceiptResult) :
    (d.verifyPurchases now result).persistedSubscription =
      (d.verifyPurchases now result).activeSubscription := by
  cases result with
  | success receipt => exact update_persisted now receipt allProducts _ rfl
  | error => rfl

structure Completion where
  issuer : Issuer
  now : Date
  result : VerifyReceiptResult
  deriving DecidableEq, Repr

def Completion.apply (d : Device) (c : Completion) : Device := d.verified c.issuer c.now c.result

theorem verified_active (d : Device) (issuer : Issuer) (now : Date) (result : VerifyReceiptResult) :
    (d.verified issuer now result).activeSubscription =
      (d.verifyPurchases now result).activeSubscription := by
  cases issuer with
  | completeTransactions => rfl
  | restore => rfl
  | purchase =>
    simp only [Device.verified]
    split <;> rfl

theorem verified_persisted (d : Device) (issuer : Issuer) (now : Date)
    (result : VerifyReceiptResult) :
    (d.verified issuer now result).persistedSubscription =
      (d.verifyPurchases now result).activeSubscription := by
  rw [← verifyPurchases_persisted]
  cases issuer with
  | completeTransactions => rfl
  | restore => rfl
  | purchase =>
    simp only [Device.verified]
    split <;> rfl

def lastSuccess (cs : List Completion) : Option (Date × ReceiptInfo) :=
  cs.reverse.findSome? fun c =>
    match c.result with
    | .success receipt => some (c.now,receipt)
    | .error => none

/-- What a sequence of completions should leave: the verdict of the last
successful one, and `initial` if none succeeded. -/
def determined (initial : Option Subsciption) (cs : List Completion) : Option Subsciption :=
  match lastSuccess cs with
  | none => initial
  | some (now,receipt) => firstBought now receipt

def KeepsVerdict (d : Device) (cs : List Completion) : Prop :=
  (cs.foldl Completion.apply d).activeSubscription = determined d.activeSubscription cs ∧
    (cs.foldl Completion.apply d).persistedSubscription = determined d.persistedSubscription cs

/-- The last successful receipt shows no product as purchased; without one, no
subscription was held or stored to begin with. -/
def NothingToLose (d : Device) (cs : List Completion) : Prop :=
  match lastSuccess cs with
  | none => d.activeSubscription = none ∧ d.persistedSubscription = none
  | some (now,receipt) => ∀ product ∈ allProducts, ∀ expiryDate,
      verifySubscription now product.id receipt ≠ .purchased expiryDate

theorem firstBought_eq_none {now : Date} {receipt : ReceiptInfo} :
    firstBought now receipt = none ↔ ∀ product ∈ allProducts, ∀ expiryDate,
      verifySubscription now product.id receipt ≠ .purchased expiryDate := by
  simp only [firstBought,List.findSome?_eq_none_iff]
  refine forall₂_congr fun product _ => ?_
  unfold bought
  cases verifySubscription now product.id receipt <;> simp

theorem nothingToLose_iff (d : Device) (cs : List Completion) :
    NothingToLose d cs ↔ determined d.activeSubscription cs = none ∧
      determined d.persistedSubscription cs = none := by
  unfold NothingToLose determined
  cases lastSuccess cs with
  | none => rfl
  | some verdict => simp [firstBought_eq_none]

theorem lastSuccess_concat (cs : List Completion) (c : Completion) :
    lastSuccess (cs ++ [c]) =
      match c.result with
      | .success receipt => some (c.now,receipt)
      | .error => lastSuccess cs := by
  cases h : c.result <;> simp [lastSuccess,h]

/-- Verdicts are kept exactly if the last completion succeeded or there was
nothing to lose. -/
theorem keepsVerdict_iff (d : Device) (cs : List Completion) :
    KeepsVerdict d cs ↔
      (∀ c ∈ cs.getLast?, c.result ≠ .error) ∨ NothingToLose d cs := by
  rw [nothingToLose_iff]
  rcases List.eq_nil_or_concat cs with rfl | ⟨cs,c,rfl⟩
  · simp [KeepsVerdict,determined,lastSuccess]
  · simp only [KeepsVerdict,determined,List.concat_eq_append,List.foldl_append,List.foldl_cons,
      List.foldl_nil,List.getLast?_append,List.getLast?_singleton,Option.some_or,Option.mem_def,
      Option.some.injEq,forall_eq',Completion.apply,verified_active,verified_persisted,
      lastSuccess_concat]
    cases hc : c.result with
    | success receipt => simp [verifyPurchases_active]
    | error =>
      have hnil (d : Device) : (d.verifyPurchases c.now .error).activeSubscription = none := rfl
      simp only [hnil,ne_eq,not_true_eq_false,false_or]
      exact ⟨fun h => ⟨h.1.symm,h.2.symm⟩,fun h => ⟨h.1.symm,h.2.symm⟩⟩

/-- A subscriber goes offline: one failed check clears memory and store. -/
theorem error_clears_subscription :
    ¬ KeepsVerdict (Device.setActiveSubscription {} (some ⟨.advancedYear,100⟩))
      [⟨.completeTransactions,0,.error⟩] := by
  unfold KeepsVerdict
  decide

structure Clocked where
  device : Device
  now : Date

inductive ServiceEvent where
  | launch
  | tick (now : Date)
  | verified (issuer : Issuer) (result : VerifyReceiptResult)

def Clocked.step (s : Clocked) : ServiceEvent → Clocked
  | .launch => { s with device := s.device.launch s.now }
  | .tick now => { s with now }
  | .verified issuer result => { s with device := s.device.verified issuer s.now result }

def Unexpired (s : Clocked) : Prop :=
  s.device.maxQuestionsPerDay = none →
    ∃ active, s.device.activeSubscription = some active ∧ s.now < active.expirationDate

/-- The clock does not pass the expiry of the pro or advanced subscription in
memory, and a receipt's first purchased product has not run out by the device's
own clock. -/
def StillPaid (s : Clocked) : ServiceEvent → Prop
  | .launch => True
  | .tick now => ∀ active, s.device.activeSubscription = some active → active.access ≠ .lite →
      now < active.expirationDate
  | .verified _ .error => True
  | .verified _ (.success receipt) => ∀ active, allProducts.findSome? (bought s.now receipt) =
      some active → s.now < active.expirationDate

theorem maxQuestionsPerDay_eq_none {d : Device} :
    d.maxQuestionsPerDay = none ↔
      ∃ active, d.activeSubscription = some active ∧ active.access ≠ .lite := by
  unfold Device.maxQuestionsPerDay Device.access
  cases d.activeSubscription with
  | none => simp
  | some active => cases h : active.access <;> simp [h]

theorem unexpired_iff (s : Clocked) :
    Unexpired s ↔ ∀ active, s.device.activeSubscription = some active → active.access ≠ .lite →
      s.now < active.expirationDate := by
  unfold Unexpired
  rw [maxQuestionsPerDay_eq_none]
  constructor
  · intro h active hactive haccess
    obtain ⟨other,hother,hlt⟩ := h ⟨active,hactive,haccess⟩
    rw [hactive] at hother
    cases hother
    exact hlt
  · rintro h ⟨active,hactive,haccess⟩
    exact ⟨active,hactive,h active hactive haccess⟩

theorem bought_access {now : Date} {receipt : ReceiptInfo} {active : Subsciption}
    (h : firstBought now receipt = some active) : active.access ≠ .lite := by
  obtain ⟨product,hmem,hbought⟩ := List.exists_of_findSome?_eq_some h
  have hp := bought_priority hmem hbought
  unfold Subsciption.priority at hp
  unfold Subsciption.access
  cases hperiod : active.period <;> simp_all

theorem unexpired_step (s : Clocked) (e : ServiceEvent) : Unexpired (s.step e) ↔ StillPaid s e := by
  rw [unexpired_iff]
  cases e with
  | launch =>
    simp only [Clocked.step,Device.launch,Device.storedSubscription,StillPaid,iff_true]
    intro active hactive _
    simpa using (Option.filter_eq_some_iff.mp hactive).2
  | tick now => rfl
  | verified issuer result =>
    simp only [Clocked.step,verified_active]
    cases result with
    | error => simp [Device.verifyPurchases,Device.setActiveSubscription,StillPaid]
    | success receipt =>
      simp only [verifyPurchases_active,StillPaid]
      exact ⟨fun h active hb => h active hb (bought_access hb),fun h active hb _ => h active hb⟩

/-- From any launch on, premium stays within its expiry throughout a run exactly
if every step of the run is still paid for. -/
theorem always_unexpired_iff (d : Device) (now : Date) (es : List ServiceEvent) :
    Always Clocked.step Unexpired ⟨d.launch now,now⟩ es ↔
      Each Clocked.step StillPaid ⟨d.launch now,now⟩ es :=
  always_iff_each (fun s e _ => unexpired_step s e)
    ((unexpired_step ⟨d,now⟩ .launch).mpr trivial) es

theorem premium_outlives_expiry :
    ¬ Always Clocked.step Unexpired ⟨Device.launch {} 0,0⟩
      [.verified .purchase (.success
        ⟨some [⟨some "com.nisos.gpt.advanced.week",false,true,some 10⟩],some 0⟩),.tick 20] := by
  rintro ⟨-,-,hlate⟩
  have h := (unexpired_iff _).mp hlate ⟨.advancedWeek,10⟩ (by decide) (by decide)
  exact absurd h (by decide)

end GenieD

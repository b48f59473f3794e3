import GenieD.Calls

set_option autoImplicit false

namespace GenieD

open Sieve Runs

def delivered (transactions : List SKPaymentTransaction) :
    Multiset SKPaymentTransaction × Multiset SKPaymentTransaction :=
  (↑(transactions.filter SKPaymentTransaction.isNotPurchasing),
    ↑(transactions.filter SKPaymentTransaction.isPaid))

theorem delivered_append (ts ts' : List SKPaymentTransaction) :
    delivered (ts ++ ts') = delivered ts + delivered ts' := by
  simp only [delivered,List.filter_append,← Multiset.coe_add,Prod.mk_add_mk]

theorem sum_filter {α : Type} (P : α → Bool) (xs : List α) :
    (xs.map fun x => if P x = true then ({x} : Multiset α) else 0).sum = ↑(xs.filter P) := by
  induction xs with
  | nil => rfl
  | cons x xs ih =>
    rw [List.map_cons,List.sum_cons,ih]
    cases hx : P x with
    | true =>
      rw [List.filter_cons_of_pos hx,if_pos rfl,Multiset.singleton_add,Multiset.cons_coe]
    | false => simp [hx]

theorem sum_pair {α M N : Type} [AddCommMonoid M] [AddCommMonoid N] (f : α → M) (g : α → N)
    (xs : List α) : (xs.map fun x => (f x,g x)).sum = ((xs.map f).sum,(xs.map g).sum) := by
  induction xs with
  | nil => rfl
  | cons x xs ih => simp only [List.map_cons,List.sum_cons,ih,Prod.mk_add_mk]

def StoreEvent.transactions : StoreEvent → List SKPaymentTransaction
  | .updatedTransactions transactions => transactions
  | _ => []

namespace Store

/-- Paid transactions of a restore that has not come to its end. -/
def restoring (s : Store) : List SKPaymentTransaction :=
  s.queue.restoredPurchases.filterMap TransactionResult.restoredTransaction

def ledger (s : Store) : Multiset SKPaymentTransaction × Multiset SKPaymentTransaction :=
  (↑s.finished,↑s.handedOver + ↑s.reported + ↑s.restoring)

variable (p : Platform) (s : Store)

theorem ledger_purchaseResult (caller : Caller) (result : TransactionResult) :
    (s.purchaseResult p caller result).ledger =
      s.ledger + (0,QueueCall.handedOver (.payment caller result)) := by
  cases result with
  | purchased purchase =>
    refine Prod.ext (add_zero _).symm ?_
    simp only [purchaseResult,verifyPurchases,ledger,restoring,QueueCall.handedOver,Prod.snd_add,
      ← Multiset.coe_add,Multiset.coe_singleton]
    abel
  | failed error => exact (add_zero _).symm
  | restored purchase => exact (add_zero _).symm

theorem ledger_completeTransaction (purchase : Purchase) :
    (s.completeTransaction purchase).ledger = s.ledger +
      (QueueCall.finished (κ := Caller) (.complete [purchase]),
        QueueCall.handedOver (κ := Caller) (.complete [purchase])) := by
  have hpaid (h : purchase.transaction.isPaid = true) :
      { s with
        finished := s.finished ++
          if purchase.needsFinishTransaction then [purchase.transaction] else []
        handedOver := s.handedOver ++ [purchase.transaction] }.ledger = s.ledger +
      (QueueCall.finished (κ := Caller) (.complete [purchase]),
        QueueCall.handedOver (κ := Caller) (.complete [purchase])) := by
    refine Prod.ext ?_ ?_
    · simp only [ledger,QueueCall.finished,← Multiset.coe_add,Prod.fst_add]
      cases hneeds : purchase.needsFinishTransaction <;> simp [h,hneeds]
    · simp only [ledger,restoring,QueueCall.handedOver,← Multiset.coe_add,Prod.snd_add,
        List.map_cons,List.map_nil,List.filter_cons_of_pos h,List.filter_nil]
      abel
  have hrest (h : purchase.transaction.isPaid = false) : s.ledger = s.ledger +
      (QueueCall.finished (κ := Caller) (.complete [purchase]),
        QueueCall.handedOver (κ := Caller) (.complete [purchase])) := by
    simp [QueueCall.finished,QueueCall.handedOver,h]
  unfold completeTransaction
  cases hstate : purchase.transaction.transactionState with
  | purchased | restored => exact hpaid (by simp [SKPaymentTransaction.isPaid,hstate])
  | failed | purchasing | deferred => exact hrest (by simp [SKPaymentTransaction.isPaid,hstate])

theorem complete_sum (purchases : List Purchase) :
    (purchases.map fun purchase => (QueueCall.finished (κ := Caller) (.complete [purchase]),
        QueueCall.handedOver (κ := Caller) (.complete [purchase]))).sum =
      (QueueCall.finished (κ := Caller) (.complete purchases),
        QueueCall.handedOver (κ := Caller) (.complete purchases)) := by
  induction purchases with
  | nil => rfl
  | cons purchase purchases ih =>
    rw [List.map_cons,List.sum_cons,ih]
    refine Prod.ext ?_ ?_
    · simp only [Prod.fst_add,QueueCall.finished,Multiset.coe_add]
      rw [← List.map_append,← List.filter_append,List.singleton_append]
    · simp only [Prod.snd_add,QueueCall.handedOver,Multiset.coe_add]
      rw [← List.filter_append,← List.map_append,List.singleton_append]

theorem ledger_queueCall (call : QueueCall Caller) :
    (s.queueCall p call).ledger = s.ledger + (call.finished,call.handedOver) := by
  cases call with
  | finishTransaction transaction =>
    refine Prod.ext ?_ (add_zero _).symm
    simp only [queueCall,ledger,QueueCall.finished,Prod.fst_add,← Multiset.coe_add,
      Multiset.coe_singleton]
  | payment caller result => exact ledger_purchaseResult p s caller result
  | complete purchases =>
    rw [queueCall,foldl_carries ledger_completeTransaction,complete_sum]

theorem ledger_updated {s : Store} (h : s.queue.Ready)
    (transactions : List SKPaymentTransaction) :
    (s.step p (.updatedTransactions transactions)).ledger =
      s.ledger + delivered transactions := by
  have hfinished := balance_finished.updatedTransactions h transactions
  have hpaid := balance_handedOver.updatedTransactions h transactions
  simp only [Pi.zero_apply,zero_add,sum_filter] at hfinished hpaid
  simp only [step]
  rw [foldl_carries (ledger_queueCall p)]
  rw [sum_pair]
  refine Prod.ext ?_ ?_
  · simp only [ledger,delivered,Prod.fst_add,hfinished]
  · simp only [ledger,restoring,delivered,Prod.snd_add]
    rw [add_assoc,hpaid]
    abel

theorem ledger_productsHandler (result : RetrieveResults) (handler : ProductsHandler) :
    (productsHandler p result s handler).ledger = s.ledger := by
  have hretrieved : (s.productsRetrieved result).ledger = s.ledger := by
    unfold productsRetrieved
    split <;> rfl
  cases handler with
  | launch => exact hretrieved
  | fetchSubscriptions paywall => exact hretrieved
  | purchaseProduct caller =>
    simp only [productsHandler,productFound]
    split <;> rfl

theorem ledger_restoreResults (caller : Caller) (results : List TransactionResult) :
    (s.restoreResults p caller results).ledger =
      s.ledger + ((0 : Multiset SKPaymentTransaction),
        (↑(results.filterMap TransactionResult.restoredTransaction) :
          Multiset SKPaymentTransaction)) := by
  have hreported : { s with
      reported := s.reported ++ (results.filterMap TransactionResult.restoredTransaction) }.ledger =
      s.ledger + ((0 : Multiset SKPaymentTransaction),
        (↑(results.filterMap TransactionResult.restoredTransaction) :
          Multiset SKPaymentTransaction)) := by
    refine Prod.ext (add_zero _).symm ?_
    simp only [ledger,restoring,Prod.snd_add,← Multiset.coe_add]
    abel
  unfold restoreResults
  dsimp only
  split
  · exact hreported
  · split <;> exact hreported

theorem ledger_restoreEnded (error : Option SKError) :
    (s.step p (.restoreEnded error)).ledger = s.ledger := by
  simp only [step,PaymentQueueController.restoreEnded]
  cases s.queue.restorePurchases with
  | none => rfl
  | some restorePurchases =>
    have hfailed : (error.map TransactionResult.failed).toList.filterMap
        TransactionResult.restoredTransaction = [] := by
      cases error <;> rfl
    dsimp only
    rw [ledger_restoreResults,List.filterMap_append,hfailed,List.append_nil]
    refine Prod.ext (add_zero _) ?_
    simp [ledger,restoring]

theorem ledger_verificatorCalled (now : Date)
    (o : InAppReceiptVerificator Verification × Option (Verification × VerifyReceiptResult)) :
    (s.verificatorCalled p now o).ledger = s.ledger := by
  unfold verificatorCalled
  split
  · rfl
  · rename_i completion result _
    unfold receiptVerified
    cases completion with
    | completeTransactions => rfl
    | purchase caller | restore caller =>
      dsimp only
      split <;> rfl

theorem ledger_step {s : Store} (h : s.queue.Ready) (e : StoreEvent) :
    (s.step p e).ledger = s.ledger + delivered e.transactions := by
  cases e with
  | updatedTransactions transactions => exact ledger_updated p h transactions
  | openPaywall | select _ _ _ | openSettings | receipt _ | refreshEnded _ _ =>
    exact (add_zero _).symm
  | onViewDidAppear paywall =>
    refine Eq.trans ?_ (add_zero _).symm
    simp only [step,onViewDidAppear]
    split <;> rfl
  | onContinueAction paywall =>
    refine Eq.trans ?_ (add_zero _).symm
    simp only [step,onContinueAction]
    split
    · rfl
    · split <;> rfl
  | onRestorePurchases settings =>
    refine Eq.trans ?_ (add_zero _).symm
    simp only [step,onRestorePurchases,PaymentQueueController.restore]
    split
    · unfold ledger restoring
      dsimp only
      split <;> rfl
    · rfl
  | products productIds result =>
    refine Eq.trans ?_ (add_zero _).symm
    exact foldl_keeps (fun s => ledger_productsHandler p s result) _ _
  | restoreEnded error => exact (ledger_restoreEnded p s error).trans (add_zero _).symm
  | refreshCallback now => exact (ledger_verificatorCalled p s now _).trans (add_zero _).symm
  | validated index now response =>
    exact (ledger_verificatorCalled p s now _).trans (add_zero _).symm

theorem ledger_launch (d : Device) (appStoreReceiptData : Option Data) :
    (launch d appStoreReceiptData).ledger = 0 := rfl

theorem ledger_run (d : Device) (appStoreReceiptData : Option Data) (es : List StoreEvent) :
    (es.foldl (step p) (launch d appStoreReceiptData)).ledger =
      delivered (es.flatMap StoreEvent.transactions) := by
  have hfrom (s : Store) (h : s.queue.Ready) : (es.foldl (step p) s).ledger =
      s.ledger + delivered (es.flatMap StoreEvent.transactions) := by
    induction es generalizing s with
    | nil => exact (add_zero _).symm
    | cons e es ih =>
      rw [List.foldl_cons,ih _ (ready_step p h e),ledger_step p h,List.flatMap_cons,
        delivered_append,add_assoc]
  rw [hfrom _ (ready_launch d appStoreReceiptData),ledger_launch,zero_add]

end Store

/-- Whatever the order in which payments, restores and other transactions come:
each transaction that was bought, restored, failed or deferred was finished once and
none that is being purchased, and each paid one is at one place: `verifyPurchases` was called for it, a restore
that ended has reported it, or it waits for the end of the restore. -/
theorem each_transaction_settled_once (p : Platform) (d : Device)
    (appStoreReceiptData : Option Data) (es : List StoreEvent) :
    let s := es.foldl (Store.step p) (.launch d appStoreReceiptData)
    let ts := es.flatMap StoreEvent.transactions
    s.finished.Perm (ts.filter SKPaymentTransaction.isNotPurchasing) ∧
      (s.handedOver ++ s.reported ++ s.restoring).Perm
        (ts.filter SKPaymentTransaction.isPaid) := by
  intro s ts
  have hledger := Store.ledger_run p d appStoreReceiptData es
  refine ⟨Multiset.coe_eq_coe.mp (congrArg Prod.fst hledger),Multiset.coe_eq_coe.mp ?_⟩
  rw [← Multiset.coe_add,← Multiset.coe_add]
  exact congrArg Prod.snd hledger

def Completion.verdict (c : Completion) : Option Subsciption :=
  match c.result with
  | .success receipt => firstBought c.now receipt
  | .error => none

theorem apply_verdict (d : Device) (c : Completion) :
    (c.apply d).activeSubscription = c.verdict ∧ (c.apply d).persistedSubscription = c.verdict := by
  have hverdict : (d.verifyPurchases c.now c.result).activeSubscription = c.verdict := by
    unfold Completion.verdict
    cases hresult : c.result with
    | success receipt => exact verifyPurchases_active d c.now receipt
    | error => rfl
  exact ⟨(verified_active d c.issuer c.now c.result).trans hverdict,
    (verified_persisted d c.issuer c.now c.result).trans hverdict⟩

namespace Store

def Verified (d : Device) (s : Store) : Prop := s.device = s.completions.foldl Completion.apply d

variable {d : Device} {s : Store} (p : Platform)

theorem Verified.receiptVerified (h : s.Verified d) (now : Date) (completion : Verification)
    (result : VerifyReceiptResult) :
    (s.receiptVerified p now completion result).Verified d := by
  have hnext : Verified d { s with
      device := s.device.verified completion.issuer now result
      completions := s.completions ++ [⟨completion.issuer,now,result⟩] } := by
    simp only [Verified] at h ⊢
    rw [List.foldl_append,← h]
    rfl
  unfold Store.receiptVerified
  cases completion with
  | completeTransactions => exact hnext
  | purchase caller | restore caller =>
    dsimp only
    split <;> exact hnext

theorem Verified.queueCall (h : s.Verified d) (call : QueueCall Caller) :
    (s.queueCall p call).Verified d := by
  cases call with
  | finishTransaction transaction => exact h
  | payment caller result => cases result <;> exact h
  | complete purchases =>
    refine foldl_invariant (I := Verified d) (fun s purchase hs => ?_) h purchases
    unfold completeTransaction
    split <;> exact hs

theorem Verified.productsHandler (h : s.Verified d) (result : RetrieveResults)
    (handler : ProductsHandler) : (productsHandler p result s handler).Verified d := by
  have hretrieved : (s.productsRetrieved result).Verified d := by
    unfold productsRetrieved
    split <;> exact h
  cases handler with
  | launch => exact hretrieved
  | fetchSubscriptions paywall => exact hretrieved
  | purchaseProduct caller =>
    simp only [Store.productsHandler,productFound]
    split <;> exact h

theorem Verified.restoreResults (h : s.Verified d) (caller : Caller)
    (results : List TransactionResult) : (s.restoreResults p caller results).Verified d := by
  unfold Store.restoreResults
  dsimp only
  split
  · exact h
  · split <;> exact h

theorem Verified.verificatorCalled (h : s.Verified d) (now : Date)
    (o : InAppReceiptVerificator Verification × Option (Verification × VerifyReceiptResult)) :
    (s.verificatorCalled p now o).Verified d := by
  unfold Store.verificatorCalled
  split
  · exact h
  · exact Verified.receiptVerified (s := { s with verificator := o.1 }) p h now _ _

theorem Verified.step (h : s.Verified d) (e : StoreEvent) : (s.step p e).Verified d := by
  cases e with
  | openPaywall | select _ _ _ | openSettings | receipt _ | refreshEnded _ _ => exact h
  | onViewDidAppear paywall =>
    simp only [Store.step,onViewDidAppear]
    split <;> exact h
  | onContinueAction paywall =>
    simp only [Store.step,onContinueAction]
    split
    · exact h
    · split <;> exact h
  | onRestorePurchases settings =>
    simp only [Store.step,onRestorePurchases]
    split <;> exact h
  | products productIds result =>
    refine foldl_invariant (I := Verified d) (fun s handler hs => hs.productsHandler p result
      handler) ?_ _
    exact h
  | updatedTransactions transactions =>
    refine foldl_invariant (I := Verified d) (fun s call hs => hs.queueCall p call) ?_ _
    exact h
  | restoreEnded error =>
    simp only [Store.step]
    split
    · exact h
    · rename_i queue caller results _
      exact Verified.restoreResults (s := { s with queue }) p h caller results
  | refreshCallback now => exact h.verificatorCalled p now _
  | validated index now response => exact h.verificatorCalled p now _

end Store

/-- What `BuyProService` does to the device is what the verifications do that
have ended, in the order of their ends: memory and `UserDefaults` hold the
verdict of the last one. -/
theorem subscription_is_last_verdict (p : Platform) (d : Device)
    (appStoreReceiptData : Option Data) (es : List StoreEvent) :
    let s := es.foldl (Store.step p) (.launch d appStoreReceiptData)
    s.device = s.completions.foldl Completion.apply d ∧
      ∀ c, s.completions.getLast? = some c →
        s.device.activeSubscription = c.verdict ∧ s.device.persistedSubscription = c.verdict := by
  intro s
  have hlaunch : (Store.launch d appStoreReceiptData).Verified d := rfl
  have hdevice : s.device = s.completions.foldl Completion.apply d :=
    foldl_invariant (I := Store.Verified d) (fun _ e hs => hs.step p e) hlaunch es
  refine ⟨hdevice,fun c hlast => ?_⟩
  obtain ⟨cs,hcs⟩ := List.getLast?_eq_some_iff.mp hlast
  rw [hdevice,hcs,List.foldl_append]
  exact apply_verdict _ c

end GenieD

import GenieD.Purchasing

set_option autoImplicit false

namespace GenieD

open Sieve Runs

section Weights

variable {M : Type} [AddCommMonoid M]

def ProductsHandler.weight (w : Caller → M) (f : Nat → M) : ProductsHandler → M
  | .launch => 0
  | .fetchSubscriptions paywall => f paywall
  | .purchaseProduct caller => w caller

def Verification.weight (w r : Caller → M) : Verification → M
  | .completeTransactions => 0
  | .purchase caller => w caller
  | .restore caller => r caller

/-- What waits in the products requests, the payments, the restoring and the
verifications, summed up with weights: `w` for purchases, `r` for restores and
`f` for the paywalls that fetch products. -/
def Store.held (w r : Caller → M) (f : Nat → M) (s : Store) : M :=
  (s.productsInfo.handlers.map (ProductsHandler.weight w f)).sum +
    (s.queue.payments.map fun payment => w payment.callback).sum +
    (s.queue.restorePurchases.toList.map fun restore => r restore.callback).sum +
    (s.verificator.uncalled.map (Verification.weight w r)).sum

namespace Store

variable (w r : Caller → M) (f : Nat → M)

@[simp] theorem held_completePurchase (p : Platform) (s : Store) (caller : Caller) (success : Bool)
    (error : String) : (s.completePurchase p caller success error).held w r f = s.held w r f := rfl

@[simp] theorem held_completeRestore (s : Store) (caller : Caller) (message : String)
    (success : Bool) : (s.completeRestore caller message success).held w r f = s.held w r f := rfl

theorem held_verifyPurchases (s : Store) (completion : Verification) :
    (s.verifyPurchases completion).held w r f = s.held w r f + completion.weight w r := by
  simp only [held,verifyPurchases,InAppReceiptVerificator.uncalled_verifyReceipt,
    Multiset.map_add,Multiset.sum_add,Multiset.map_singleton,Multiset.sum_singleton]
  abel

theorem held_retrieve (s : Store) (productIds : Finset String) (completion : ProductsHandler) :
    { s with
      productsInfo := s.productsInfo.retrieveProductsInfo productIds completion }.held w r f =
      s.held w r f + completion.weight w f := by
  have hperm := ((ProductsInfoController.handlers_retrieve productIds completion
    s.productsInfo).map (ProductsHandler.weight w f)).sum_eq
  rw [List.map_cons,List.sum_cons] at hperm
  simp only [held,hperm]
  abel

theorem held_startPayment (s : Store) (payment : Payment Caller) :
    { s with queue := s.queue.startPayment payment }.held w r f =
      s.held w r f + w payment.callback := by
  simp only [held,PaymentQueueController.startPayment,List.map_append,List.map_cons,List.map_nil,
    List.sum_append,List.sum_singleton]
  abel

theorem held_answered (s : Store) (productIds : Finset String) :
    { s with productsInfo := (s.productsInfo.answered productIds).2 }.held w r f +
        ((s.productsInfo.answered productIds).1.map (ProductsHandler.weight w f)).sum =
      s.held w r f := by
  have hperm := ((ProductsInfoController.handlers_answered productIds
    s.productsInfo).map (ProductsHandler.weight w f)).sum_eq
  rw [List.map_append,List.sum_append] at hperm
  simp only [held,← hperm]
  abel

theorem held_updated {s : Store} (h : s.queue.Ready)
    (transactions : List SKPaymentTransaction) :
    { s with queue := (s.queue.updatedTransactions transactions).1 }.held w r f +
        ((s.queue.updatedTransactions transactions).2.1.map (QueueCall.weight w)).sum =
      s.held w r f := by
  have hbalance := (balance_callbacks w).updatedTransactions h transactions
  have hkept : (s.queue.updatedTransactions transactions).1.restorePurchases =
      s.queue.restorePurchases := PaymentQueueController.updatedTransactions_kept transactions
  have hzero : (transactions.map (0 : SKPaymentTransaction → M)).sum = 0 :=
    List.sum_eq_zero (by simp)
  simp only [Pi.zero_apply,add_zero,hzero] at hbalance
  simp only [held,hkept,← hbalance]
  abel

theorem held_verificator (s : Store)
    (o : InAppReceiptVerificator Verification × Option (Verification × VerifyReceiptResult))
    (h : o.1.uncalled + InAppReceiptVerificator.called o.2 = s.verificator.uncalled) :
    { s with verificator := o.1 }.held w r f +
        ((InAppReceiptVerificator.called o.2).map (Verification.weight w r)).sum =
      s.held w r f := by
  simp only [held,← h,Multiset.map_add,Multiset.sum_add]
  abel

end Store

end Weights

def Caller.number (caller : Caller) : Multiset Nat := {caller.call}

/-- Everywhere a call of `purchase` or `restore` can be: waiting, released with
the request for its receipt, dropped or ended. -/
def Store.places (s : Store) : Multiset Nat :=
  s.held Caller.number Caller.number 0 + ↑(s.dropped.map Caller.call) +
    ↑(s.outcomes.map fun outcome => outcome.caller.call)

namespace Store

variable (p : Platform) (s : Store)

theorem places_held {s s' : Store} {m : Multiset Nat}
    (h : s'.held Caller.number Caller.number 0 = s.held Caller.number Caller.number 0 + m)
    (hdropped : s'.dropped = s.dropped) (houtcomes : s'.outcomes = s.outcomes) :
    s'.places = s.places + m := by
  simp only [places,h,hdropped,houtcomes]
  abel

theorem places_same {s s' : Store}
    (h : s'.held Caller.number Caller.number 0 = s.held Caller.number Caller.number 0)
    (hdropped : s'.dropped = s.dropped) (houtcomes : s'.outcomes = s.outcomes) :
    s'.places = s.places := by
  rw [places,h,hdropped,houtcomes,places]

theorem places_completePurchase (caller : Caller) (success : Bool) (error : String) :
    (s.completePurchase p caller success error).places = s.places + caller.number := by
  simp only [places,held_completePurchase]
  simp only [completePurchase,List.map_append,List.map_cons,List.map_nil,← Multiset.coe_add,
    Multiset.coe_singleton,Caller.number]
  abel

theorem places_completeRestore (caller : Caller) (message : String) (success : Bool) :
    (s.completeRestore caller message success).places = s.places + caller.number := by
  simp only [places,held_completeRestore]
  simp only [completeRestore,List.map_append,List.map_cons,List.map_nil,← Multiset.coe_add,
    Multiset.coe_singleton,Caller.number]
  abel

theorem places_verifyPurchases (completion : Verification) :
    (s.verifyPurchases completion).places =
      s.places + completion.weight Caller.number Caller.number :=
  places_held (held_verifyPurchases _ _ _ s completion) rfl rfl

theorem places_receiptVerified (now : Date) (completion : Verification)
    (result : VerifyReceiptResult) :
    (s.receiptVerified p now completion result).places =
      s.places + completion.weight Caller.number Caller.number := by
  unfold receiptVerified
  cases completion with
  | completeTransactions => exact (add_zero _).symm
  | purchase caller =>
    dsimp only
    split <;> rw [places_completePurchase] <;> rfl
  | restore caller =>
    dsimp only
    split <;> rw [places_completeRestore] <;> rfl

theorem places_purchaseResult (caller : Caller) (result : TransactionResult) :
    (s.purchaseResult p caller result).places = s.places + caller.number := by
  cases result with
  | purchased purchase =>
    simp only [purchaseResult]
    rw [places_verifyPurchases]
    rfl
  | failed error => exact places_completePurchase p s caller false _
  | restored purchase => exact places_completePurchase p s caller false _

theorem places_completeTransaction (purchase : Purchase) :
    (s.completeTransaction purchase).places = s.places + 0 := by
  unfold completeTransaction
  split
  · rw [places_verifyPurchases]
    rfl
  · rw [places_verifyPurchases]
    rfl
  all_goals exact (add_zero _).symm

theorem places_queueCall (call : QueueCall Caller) :
    (s.queueCall p call).places = s.places + call.weight Caller.number := by
  cases call with
  | finishTransaction transaction => exact (add_zero _).symm
  | payment caller result => exact places_purchaseResult p s caller result
  | complete purchases =>
    rw [queueCall,foldl_carries (fun s purchase => places_completeTransaction s purchase)]
    simp [QueueCall.weight]

theorem places_productFound (caller : Caller) (result : RetrieveResults) :
    (s.productFound p caller result).places = s.places + caller.number := by
  unfold productFound
  split
  · exact places_held (held_startPayment _ _ _ s _) rfl rfl
  all_goals exact places_completePurchase p s caller false _

theorem places_productsHandler (result : RetrieveResults) (handler : ProductsHandler) :
    (productsHandler p result s handler).places =
      s.places + handler.weight Caller.number 0 := by
  have hretrieved : (s.productsRetrieved result).places = s.places := by
    unfold productsRetrieved
    split <;> rfl
  cases handler with
  | launch => simpa [productsHandler,ProductsHandler.weight] using hretrieved
  | fetchSubscriptions paywall =>
    refine Eq.trans ?_ (add_zero _).symm
    exact hretrieved
  | purchaseProduct caller => exact places_productFound p s caller result

structure Kept (s s' : Store) : Prop where
  queue : s'.queue = s.queue
  productsInfo : s'.productsInfo = s.productsInfo
  allProducts : s'.allProducts = s.allProducts
  calls : s'.calls = s.calls
  dropped : s'.dropped = s.dropped

theorem Kept.trans {s s' s'' : Store} (h : Kept s s') (h' : Kept s' s'') : Kept s s'' :=
  ⟨h'.queue.trans h.queue,h'.productsInfo.trans h.productsInfo,h'.allProducts.trans h.allProducts,
    h'.calls.trans h.calls,h'.dropped.trans h.dropped⟩

theorem Kept.foldl {α : Type} {g : Store → α → Store} (h : ∀ s x, Kept s (g s x)) (s : Store)
    (xs : List α) : Kept s (xs.foldl g s) := by
  induction xs generalizing s with
  | nil => exact ⟨rfl,rfl,rfl,rfl,rfl⟩
  | cons x xs ih => exact (h s x).trans (ih _)

theorem kept_receiptVerified (now : Date) (completion : Verification)
    (result : VerifyReceiptResult) : Kept s (s.receiptVerified p now completion result) := by
  unfold receiptVerified
  cases completion with
  | completeTransactions => exact ⟨rfl,rfl,rfl,rfl,rfl⟩
  | purchase caller | restore caller =>
    dsimp only
    split <;> exact ⟨rfl,rfl,rfl,rfl,rfl⟩

theorem kept_queueCall (call : QueueCall Caller) : Kept s (s.queueCall p call) := by
  cases call with
  | finishTransaction transaction => exact ⟨rfl,rfl,rfl,rfl,rfl⟩
  | payment caller result => cases result <;> exact ⟨rfl,rfl,rfl,rfl,rfl⟩
  | complete purchases =>
    refine Kept.foldl (fun s purchase => ?_) s purchases
    unfold completeTransaction
    split <;> exact ⟨rfl,rfl,rfl,rfl,rfl⟩

theorem kept_restoreResults (caller : Caller) (results : List TransactionResult) :
    Kept s (s.restoreResults p caller results) := by
  unfold restoreResults
  dsimp only
  split
  · exact ⟨rfl,rfl,rfl,rfl,rfl⟩
  · split <;> exact ⟨rfl,rfl,rfl,rfl,rfl⟩

theorem kept_verificatorCalled (now : Date)
    (o : InAppReceiptVerificator Verification × Option (Verification × VerifyReceiptResult)) :
    Kept s (s.verificatorCalled p now o) := by
  unfold verificatorCalled
  split
  · exact ⟨rfl,rfl,rfl,rfl,rfl⟩
  · rename_i completion result ho
    obtain ⟨hq,hi,ha,hc,hd⟩ := kept_receiptVerified p { s with verificator := o.1 } now completion
      result
    exact ⟨hq,hi,ha,hc,hd⟩

theorem productsHandler_calls (result : RetrieveResults) (handler : ProductsHandler) :
    (productsHandler p result s handler).calls = s.calls := by
  have hretrieved : (s.productsRetrieved result).calls = s.calls := by
    unfold productsRetrieved
    split <;> rfl
  cases handler with
  | launch => exact hretrieved
  | fetchSubscriptions paywall => exact hretrieved
  | purchaseProduct caller =>
    simp only [productsHandler,productFound]
    split <;> rfl

theorem ready_productsHandler (result : RetrieveResults) {s : Store} (h : s.queue.Ready)
    (handler : ProductsHandler) : (productsHandler p result s handler).queue.Ready := by
  have hretrieved : (s.productsRetrieved result).queue = s.queue := by
    unfold productsRetrieved
    split <;> rfl
  cases handler with
  | launch => exact hretrieved ▸ h
  | fetchSubscriptions paywall => exact hretrieved ▸ h
  | purchaseProduct caller =>
    simp only [productsHandler,productFound]
    split
    · refine ⟨h.registered,?_,h.restore⟩
      intro payment hmem
      rcases List.mem_append.mp hmem with hmem | hmem
      · exact h.payments payment hmem
      · rw [List.mem_singleton.mp hmem]
    all_goals exact h

theorem ready_launch (d : Device) (appStoreReceiptData : Option Data) :
    (launch d appStoreReceiptData).queue.Ready :=
  ⟨rfl,by simp [launch,retrieveProductInfo,PaymentQueueController.complete,Atomic],
    by simp [launch,retrieveProductInfo,PaymentQueueController.complete]⟩

theorem ready_step {s : Store} (h : s.queue.Ready) (e : StoreEvent) :
    (s.step p e).queue.Ready := by
  cases e with
  | openPaywall | select _ _ _ | openSettings | receipt _ | refreshEnded _ _ => exact h
  | onViewDidAppear paywall =>
    simp only [step,onViewDidAppear]
    split <;> exact h
  | onContinueAction paywall =>
    simp only [step,onContinueAction]
    split
    · exact h
    · split <;> exact h
  | onRestorePurchases settings =>
    simp only [step,onRestorePurchases,PaymentQueueController.restore]
    split
    · dsimp only
      split
      · exact h
      · exact ⟨h.registered,h.payments,fun r hr => by cases hr; rfl⟩
    · exact h
  | products productIds result =>
    refine foldl_invariant (I := fun s : Store => s.queue.Ready)
      (fun s handler hs => ready_productsHandler p result hs handler) ?_ _
    exact h
  | updatedTransactions transactions =>
    simp only [step]
    rw [(Kept.foldl (kept_queueCall p) _ _).queue]
    exact h.updated transactions
  | restoreEnded error =>
    simp only [step,PaymentQueueController.restoreEnded]
    cases s.queue.restorePurchases with
    | none => exact h
    | some restorePurchases =>
      dsimp only
      rw [(kept_restoreResults p _ _ _).queue]
      exact ⟨h.registered,h.payments,by simp⟩
  | refreshCallback now =>
    simp only [step]
    rw [(kept_verificatorCalled p s now _).queue]
    exact h
  | validated index now response =>
    simp only [step]
    rw [(kept_verificatorCalled p s now _).queue]
    exact h

def Accounted (s : Store) : Prop := s.places = Multiset.range s.calls

theorem Accounted.next {s s' : Store} (h : s.Accounted) (hcalls : s'.calls = s.calls + 1)
    (hplaces : s'.places = s.places + {s.calls}) : s'.Accounted := by
  rw [Accounted,hplaces,hcalls,h,Multiset.range_succ,add_comm,Multiset.singleton_add]

theorem Accounted.same {s s' : Store} (h : s.Accounted) (hcalls : s'.calls = s.calls)
    (hplaces : s'.places = s.places) : s'.Accounted := by
  rw [Accounted,hplaces,hcalls]
  exact h

theorem places_restoreResults (caller : Caller) (results : List TransactionResult) :
    (s.restoreResults p caller results).places = s.places + caller.number := by
  unfold restoreResults
  dsimp only
  split
  · exact places_completeRestore _ caller _ _
  · split
    · exact places_verifyPurchases _ (.restore caller)
    · exact places_completeRestore _ caller _ _

theorem places_verificatorCalled (now : Date)
    (o : InAppReceiptVerificator Verification × Option (Verification × VerifyReceiptResult))
    (h : o.1.uncalled + InAppReceiptVerificator.called o.2 = s.verificator.uncalled) :
    (s.verificatorCalled p now o).places = s.places := by
  have hheld := held_verificator Caller.number Caller.number 0 s o h
  unfold verificatorCalled
  cases ho : o.2 with
  | none =>
    rw [ho] at hheld
    exact places_same (by simpa [InAppReceiptVerificator.called] using hheld) rfl rfl
  | some called =>
    rw [ho] at hheld
    dsimp only
    rw [places_receiptVerified]
    have hsum : s.held Caller.number Caller.number 0 =
        { s with verificator := o.1 }.held Caller.number Caller.number 0 +
          called.1.weight Caller.number Caller.number := by
      simpa [InAppReceiptVerificator.called] using hheld.symm
    exact (places_held hsum rfl rfl).symm

theorem places_onRestorePurchases {settings : Nat} (h : settings < s.settings.length) :
    (s.onRestorePurchases settings).places = s.places + {s.calls} := by
  simp only [onRestorePurchases,if_pos h,PaymentQueueController.restore]
  cases hr : s.queue.restorePurchases with
  | none =>
    simp [places,held,hr,Caller.number]
    abel
  | some restorePurchases =>
    simp [places,held,hr,← Multiset.coe_add]
    abel

theorem accounted_step {s : Store} (hready : s.queue.Ready) (h : s.Accounted) (e : StoreEvent) :
    (s.step p e).Accounted := by
  cases e with
  | openPaywall | select _ _ _ | openSettings | receipt _ => exact h.same rfl rfl
  | refreshEnded request success =>
    refine h.same rfl ?_
    refine places_same ?_ rfl rfl
    simp [step,held,InAppReceiptVerificator.uncalled_requestEnded]
  | onViewDidAppear paywall =>
    simp only [step,onViewDidAppear]
    split
    · exact h
    · refine h.same rfl ((places_held (held_retrieve _ _ _ _ _ _) rfl rfl).trans (add_zero _))
  | onContinueAction paywall =>
    simp only [step,onContinueAction]
    split
    · exact h
    · split
      · exact h
      · exact h.next rfl (places_held (held_retrieve _ _ _ _ _ _) rfl rfl)
  | onRestorePurchases settings =>
    by_cases hsettings : settings < s.settings.length
    · refine h.next ?_ (places_onRestorePurchases s hsettings)
      simp [step,onRestorePurchases,hsettings]
    · simpa [step,onRestorePurchases,hsettings] using h
  | products productIds result =>
    refine h.same (foldl_keeps (fun s => productsHandler_calls p s result) _ _) ?_
    simp only [step]
    rw [foldl_carries fun s handler => places_productsHandler p s result handler]
    exact (places_held (held_answered _ _ _ s productIds).symm rfl rfl).symm
  | updatedTransactions transactions =>
    refine h.same (Kept.foldl (kept_queueCall p) _ _).calls ?_
    simp only [step]
    rw [foldl_carries (places_queueCall p)]
    exact (places_held (held_updated _ _ _ hready transactions).symm rfl rfl).symm
  | restoreEnded error =>
    simp only [step,PaymentQueueController.restoreEnded]
    cases hr : s.queue.restorePurchases with
    | none => exact h
    | some restorePurchases =>
      dsimp only
      refine h.same (kept_restoreResults p _ _ _).calls ?_
      rw [places_restoreResults]
      have hsum : s.held Caller.number Caller.number 0 =
          { s with
            queue := { s.queue with
              restoredPurchases := [], restorePurchases := none } }.held Caller.number
                Caller.number 0 + restorePurchases.callback.number := by
        simp only [held,hr,Option.toList,List.map_cons,List.map_nil,List.sum_singleton,
          List.sum_nil]
        abel
      exact (places_held hsum rfl rfl).symm
  | refreshCallback now =>
    exact h.same (kept_verificatorCalled p s now _).calls
      (places_verificatorCalled p s now _ s.verificator.uncalled_performCallback)
  | validated index now response =>
    exact h.same (kept_verificatorCalled p s now _).calls
      (places_verificatorCalled p s now _ (s.verificator.uncalled_validated index response))

def waiting (s : Store) : Multiset Nat :=
  (s.productsInfo.handlers.map (ProductsHandler.weight Caller.number 0)).sum +
    (s.queue.payments.map fun payment => payment.callback.number).sum +
    (s.queue.restorePurchases.toList.map fun restore => restore.callback.number).sum +
    (s.verificator.pending.map (Verification.weight Caller.number Caller.number)).sum

def lost (s : Store) : Multiset Nat :=
  (s.verificator.released.map (Verification.weight Caller.number Caller.number)).sum

def ended (s : Store) : List Nat := s.outcomes.map fun outcome => outcome.caller.call

theorem places_eq : s.places = s.waiting + s.lost + ↑(s.dropped.map Caller.call) + ↑s.ended := by
  simp only [places,held,waiting,lost,ended,InAppReceiptVerificator.uncalled,Multiset.map_add,
    Multiset.sum_add,Multiset.map_coe,Multiset.sum_coe]
  abel

theorem accounted_launch (d : Device) (appStoreReceiptData : Option Data) :
    (launch d appStoreReceiptData).Accounted := by
  simp [Accounted,places,held,launch,retrieveProductInfo,PaymentQueueController.complete,
    ProductsInfoController.retrieveProductsInfo,ProductsInfoController.handlers,
    ProductsHandler.weight,InAppReceiptVerificator.uncalled,InAppReceiptVerificator.pending]

theorem accounted_run (d : Device) (appStoreReceiptData : Option Data) (es : List StoreEvent) :
    (es.foldl (step p) (launch d appStoreReceiptData)).Accounted :=
  ((each_true (step p) _ es).run.invariant (I := fun s => s.queue.Ready ∧ s.Accounted)
    (fun _ e _ h => ⟨ready_step p h.1 e,accounted_step p h.1 h.2 e⟩)
    ⟨ready_launch d appStoreReceiptData,accounted_launch d appStoreReceiptData⟩).2

end Store

/-- However transactions, answers and taps follow each other, each call of
`purchase` and `restore` is at one place, its completion has run at most once,
and the completion of a restore that was dropped never runs. -/
theorem each_call_in_one_place (p : Platform) (d : Device) (appStoreReceiptData : Option Data)
    (es : List StoreEvent) :
    let s := es.foldl (Store.step p) (.launch d appStoreReceiptData)
    s.waiting + s.lost + ↑(s.dropped.map Caller.call) + ↑s.ended = Multiset.range s.calls ∧
      s.ended.Nodup ∧ ∀ caller ∈ s.dropped, caller.call ∉ s.ended := by
  intro s
  have hsum : s.waiting + s.lost + ↑(s.dropped.map Caller.call) + ↑s.ended =
      Multiset.range s.calls := by
    rw [← s.places_eq]
    exact Store.accounted_run p d appStoreReceiptData es
  have hnodup : (s.waiting + s.lost + ↑(s.dropped.map Caller.call) + ↑s.ended).Nodup := by
    rw [hsum]
    exact Multiset.nodup_range s.calls
  rw [Multiset.nodup_add] at hnodup
  obtain ⟨-,hended,hdisjoint⟩ := hnodup
  refine ⟨hsum,Multiset.coe_nodup.mp hended,fun caller hcaller hmem => ?_⟩
  refine Multiset.disjoint_left.mp hdisjoint ?_ (Multiset.mem_coe.mpr hmem)
  exact Multiset.mem_add.mpr (.inr (Multiset.mem_coe.mpr (List.mem_map_of_mem hcaller)))

/-- One tap more, both paid, no receipt: the second request for it releases the
first one, and with that the completion of the first purchase. -/
example :
    let p := Platform.plain Int.ofNat
    let year : SKPaymentTransaction := ⟨1,"com.nisos.gpt.advanced",.purchased,none⟩
    let es : List StoreEvent := [.openPaywall,.onContinueAction 0,.onContinueAction 0,
      .products {"com.nisos.gpt.advanced"}
        { retrievedProducts := [⟨"com.nisos.gpt.advanced","9.99",some "$",none,none⟩] },
      .updatedTransactions [year],.updatedTransactions [year]]
    let s := es.foldl (Store.step p) (.launch {} none)
    s.lost = {0} ∧ s.waiting = {1} := by decide

structure InAppReceiptVerificator.OnDisk {κ : Type} (v : InAppReceiptVerificator κ) : Prop where
  receipt : v.appStoreReceiptData ≠ none
  started : v.started = []
  posted : v.posted = []
  released : v.released = []

namespace InAppReceiptVerificator.OnDisk

variable {κ : Type} {v : InAppReceiptVerificator κ}

theorem verifyReceipt (h : v.OnDisk) (completion : κ) : (v.verifyReceipt completion).OnDisk := by
  obtain ⟨receiptData,hdata⟩ := Option.ne_none_iff_exists'.mp h.receipt
  simp only [InAppReceiptVerificator.verifyReceipt,hdata]
  exact ⟨h.receipt,h.started,h.posted,h.released⟩

theorem requestEnded (h : v.OnDisk) (request : Nat) (success : Bool) :
    (v.requestEnded request success).OnDisk := by
  simpa [InAppReceiptVerificator.requestEnded,h.started] using h

theorem performCallback (h : v.OnDisk) : v.performCallback.1.OnDisk := by
  simpa [InAppReceiptVerificator.performCallback,h.posted] using h

theorem validated (h : v.OnDisk) (index : Nat) (response : ValidatorResponse) :
    (v.validated index response).1.OnDisk := by
  unfold InAppReceiptVerificator.validated
  split
  · exact h
  · split <;> exact ⟨h.receipt,h.started,h.posted,h.released⟩

end InAppReceiptVerificator.OnDisk

namespace Store

section Verificator

variable {P : InAppReceiptVerificator Verification → Prop}
  (hP : ∀ v completion, P v → P (v.verifyReceipt completion)) (p : Platform) {s : Store}
  (h : P s.verificator)

include hP h

theorem verificator_queueCall (call : QueueCall Caller) : P (s.queueCall p call).verificator := by
  cases call with
  | finishTransaction transaction => exact h
  | payment caller result =>
    cases result with
    | purchased purchase => exact hP _ _ h
    | restored purchase => exact h
    | failed error => exact h
  | complete purchases =>
    refine foldl_invariant (I := fun s : Store => P s.verificator) (fun s purchase hs => ?_) h
      purchases
    unfold completeTransaction
    split
    · exact hP _ _ hs
    · exact hP _ _ hs
    all_goals exact hs

theorem verificator_restoreResults (caller : Caller) (results : List TransactionResult) :
    P (s.restoreResults p caller results).verificator := by
  unfold restoreResults
  dsimp only
  split
  · exact h
  · split
    · exact hP _ _ h
    · exact h

end Verificator

theorem verificator_productsHandler (p : Platform) (result : RetrieveResults) (s : Store)
    (handler : ProductsHandler) :
    (productsHandler p result s handler).verificator = s.verificator := by
  have hretrieved : (s.productsRetrieved result).verificator = s.verificator := by
    unfold productsRetrieved
    split <;> rfl
  cases handler with
  | launch => exact hretrieved
  | fetchSubscriptions paywall => exact hretrieved
  | purchaseProduct caller =>
    simp only [productsHandler,productFound]
    split <;> rfl

theorem verificator_verificatorCalled (p : Platform) (s : Store) (now : Date)
    (o : InAppReceiptVerificator Verification × Option (Verification × VerifyReceiptResult)) :
    (s.verificatorCalled p now o).verificator = o.1 := by
  unfold verificatorCalled
  split
  · rfl
  · rename_i completion result _
    unfold receiptVerified
    cases completion with
    | completeTransactions => rfl
    | purchase caller | restore caller =>
      dsimp only
      split <;> rfl

theorem onDisk_step (p : Platform) {s : Store} (h : s.verificator.OnDisk) {e : StoreEvent}
    (he : e ≠ .receipt none) : (s.step p e).verificator.OnDisk := by
  have hP (v : InAppReceiptVerificator Verification) (completion : Verification) :
      v.OnDisk → (v.verifyReceipt completion).OnDisk := fun h => h.verifyReceipt completion
  cases e with
  | openPaywall | select _ _ _ | openSettings => exact h
  | onViewDidAppear paywall =>
    simp only [step,onViewDidAppear]
    split <;> exact h
  | onContinueAction paywall =>
    simp only [step,onContinueAction]
    split
    · exact h
    · split <;> exact h
  | onRestorePurchases settings =>
    simp only [step,onRestorePurchases]
    split <;> exact h
  | products productIds result =>
    simp only [step]
    rw [foldl_keeps (verificator_productsHandler p result)]
    exact h
  | updatedTransactions transactions =>
    refine foldl_invariant (I := fun s : Store => s.verificator.OnDisk)
      (fun s call hs => verificator_queueCall hP p hs call) ?_ _
    exact h
  | restoreEnded error =>
    simp only [step]
    split
    · exact h
    · rename_i queue caller results _
      exact verificator_restoreResults hP p (s := { s with queue }) h caller results
  | receipt appStoreReceiptData =>
    refine ⟨?_,h.started,h.posted,h.released⟩
    rintro rfl
    exact he rfl
  | refreshEnded request success => exact h.requestEnded request success
  | refreshCallback now =>
    simp only [step]
    rw [verificator_verificatorCalled]
    exact h.performCallback
  | validated index now response =>
    simp only [step]
    rw [verificator_verificatorCalled]
    exact h.validated index response

end Store

/-- With the receipt on disk no completion is lost: when nothing is under way
any more, each call was dropped or has ended. -/
theorem no_call_lost_with_receipt (p : Platform) (d : Device) (receiptData : Data)
    {es : List StoreEvent} (h : ∀ e ∈ es, e ≠ .receipt none) :
    let s := es.foldl (Store.step p) (.launch d (some receiptData))
    s.lost = 0 ∧ (s.waiting = 0 →
      (↑(s.dropped.map Caller.call) + ↑s.ended : Multiset Nat) = Multiset.range s.calls) := by
  intro s
  have hlaunch : (Store.launch d (some receiptData)).verificator.OnDisk :=
    ⟨by simp [Store.launch,Store.retrieveProductInfo],rfl,rfl,rfl⟩
  have hdisk : s.verificator.OnDisk := (each_of_forall h).run.invariant
    (I := fun s : Store => s.verificator.OnDisk)
    (fun _ _ he hs => Store.onDisk_step p hs he) hlaunch
  have hlost : s.lost = 0 := by simp [Store.lost,hdisk.released]
  have hsum : s.places = Multiset.range s.calls := Store.accounted_run p d (some receiptData) es
  refine ⟨hlost,fun hwaiting => ?_⟩
  rw [s.places_eq,hlost,hwaiting] at hsum
  simpa using hsum

theorem offline_purchase_ended :
    let p := Platform.plain Int.ofNat
    let es : List StoreEvent := [.openPaywall,.onContinueAction 0,
      .products {"com.nisos.gpt.advanced"}
        { retrievedProducts := [⟨"com.nisos.gpt.advanced","9.99",some "$",none,none⟩] },
      .updatedTransactions [⟨1,"com.nisos.gpt.advanced",.purchased,none⟩],
      .validated 0 0 .networkError]
    let s := es.foldl (Store.step p) (.launch {} (some []))
    (∀ e ∈ es, e ≠ .receipt none) ∧ s.lost = 0 ∧ s.waiting = 0 ∧
      (↑(s.dropped.map Caller.call) + ↑s.ended : Multiset Nat) = Multiset.range s.calls ∧
      s.ended = [0] := by
  intro p es s
  have hes : ∀ e ∈ es, e ≠ .receipt none := by simp [es]
  have hwaiting : s.waiting = 0 := by decide
  have hall := no_call_lost_with_receipt p {} [] hes
  exact ⟨hes,hall.1,hwaiting,hall.2 hwaiting,by decide⟩

end GenieD

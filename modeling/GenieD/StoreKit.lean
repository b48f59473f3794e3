import GenieD.Sieve

set_option autoImplicit false

namespace GenieD

open Sieve

inductive TransactionState where
  | purchasing | purchased | failed | restored | deferred
  deriving DecidableEq, Repr

inductive ErrorCode where
  | unknown | clientInvalid | paymentCancelled | paymentInvalid | paymentNotAllowed
  | storeProductNotAvailable | cloudServicePermissionDenied | cloudServiceNetworkConnectionFailed
  | cloudServiceRevoked | privacyAcknowledgementRequired | unauthorizedRequestData
  | invalidOfferIdentifier | invalidSignature | missingOfferParams | invalidOfferPrice
  | other (rawValue : Int)
  deriving DecidableEq, Repr

structure SKError where
  code : ErrorCode
  localizedDescription : String
  deriving DecidableEq, Repr

/-- A transaction as the queue reports it; `identity` stands for the object. -/
structure SKPaymentTransaction where
  identity : Nat
  productIdentifier : String
  transactionState : TransactionState
  error : Option SKError := none
  deriving DecidableEq, Repr

structure Purchase where
  productId : String
  transaction : SKPaymentTransaction
  needsFinishTransaction : Bool
  deriving DecidableEq, Repr

inductive TransactionResult where
  | purchased (purchase : Purchase)
  | restored (purchase : Purchase)
  | failed (error : SKError)
  deriving DecidableEq, Repr

structure Payment (κ : Type) where
  productIdentifier : String
  atomically : Bool := true
  callback : κ
  deriving DecidableEq, Repr

structure RestorePurchases (ρ : Type) where
  atomically : Bool := true
  callback : ρ
  deriving DecidableEq, Repr

structure CompleteTransactions where
  atomically : Bool := true
  deriving DecidableEq, Repr

inductive QueueCall (κ : Type) where
  | finishTransaction (transaction : SKPaymentTransaction)
  | payment (callback : κ) (result : TransactionResult)
  | complete (purchases : List Purchase)
  deriving DecidableEq, Repr

/-- `PaymentQueueController` with the state of its three controllers. -/
structure PaymentQueueController (κ ρ : Type) where
  payments : List (Payment κ) := []
  restorePurchases : Option (RestorePurchases ρ) := none
  restoredPurchases : List TransactionResult := []
  completeTransactions : Option CompleteTransactions := none
  deriving DecidableEq, Repr

namespace PaymentsController

variable {κ : Type}

/-- `Payment ==` compares product identifiers only. -/
def findPaymentIndex (payments : List (Payment κ)) (identifier : String) : Option Nat :=
  (payments.find? fun payment => payment.productIdentifier = identifier).bind fun payment =>
    payments.findIdx? fun other => other.productIdentifier = payment.productIdentifier

def transactionError (error : Option SKError) : SKError := error.getD ⟨.unknown,"Unknown error"⟩

def purchased (transaction : SKPaymentTransaction) (payment : Payment κ) : List (QueueCall κ) :=
  .payment payment.callback
      (.purchased ⟨transaction.productIdentifier,transaction,!payment.atomically⟩) ::
    if payment.atomically then [.finishTransaction transaction] else []

def processTransaction (payments : List (Payment κ)) (transaction : SKPaymentTransaction) :
    Option (List (Payment κ) × List (QueueCall κ)) :=
  match findPaymentIndex payments transaction.productIdentifier with
  | none => none
  | some paymentIndex =>
    match payments[paymentIndex]? with
    | none => none
    | some payment =>
      match transaction.transactionState with
      | .purchased | .restored =>
        some (payments.eraseIdx paymentIndex,purchased transaction payment)
      | .failed =>
        some (payments.eraseIdx paymentIndex,
          [.payment payment.callback (.failed (transactionError transaction.error)),
            .finishTransaction transaction])
      | .purchasing | .deferred => none

def processTransactions (payments : List (Payment κ)) (transactions : List SKPaymentTransaction) :
    List (Payment κ) × List (QueueCall κ) × List SKPaymentTransaction :=
  sift processTransaction payments transactions

end PaymentsController

namespace RestorePurchasesController

variable {κ : Type}

def processTransaction (atomically : Bool) (restoredPurchases : List TransactionResult)
    (transaction : SKPaymentTransaction) :
    Option (List TransactionResult × List (QueueCall κ)) :=
  if transaction.transactionState = .restored then
    some (restoredPurchases ++
        [.restored ⟨transaction.productIdentifier,transaction,!atomically⟩],
      if atomically then [.finishTransaction transaction] else [])
  else none

end RestorePurchasesController

namespace CompleteTransactionsController

variable {κ : Type}

def processTransaction (atomically : Bool) (purchases : List Purchase)
    (transaction : SKPaymentTransaction) : Option (List Purchase × List (QueueCall κ)) :=
  if transaction.transactionState ≠ .purchasing then
    let willFinishTransaction := atomically || transaction.transactionState = .failed
    some (purchases ++ [⟨transaction.productIdentifier,transaction,!willFinishTransaction⟩],
      if willFinishTransaction then [.finishTransaction transaction] else [])
  else none

end CompleteTransactionsController

namespace PaymentQueueController

variable {κ ρ : Type}

def startPayment (queue : PaymentQueueController κ ρ) (payment : Payment κ) :
    PaymentQueueController κ ρ :=
  { queue with payments := queue.payments ++ [payment] }

/-- A request while another one is under way is dropped with its callback. -/
def restore (queue : PaymentQueueController κ ρ) (restorePurchases : RestorePurchases ρ) :
    PaymentQueueController κ ρ :=
  if queue.restorePurchases.isSome then queue
  else { queue with restorePurchases := some restorePurchases }

def complete (queue : PaymentQueueController κ ρ) (completeTransactions : CompleteTransactions) :
    PaymentQueueController κ ρ :=
  { queue with completeTransactions := queue.completeTransactions.or (some completeTransactions) }

def processRestore (queue : PaymentQueueController κ ρ)
    (transactions : List SKPaymentTransaction) :
    PaymentQueueController κ ρ × List (QueueCall κ) × List SKPaymentTransaction :=
  match queue.restorePurchases with
  | none => (queue,[],transactions)
  | some restorePurchases =>
    let r := sift (RestorePurchasesController.processTransaction restorePurchases.atomically)
      queue.restoredPurchases transactions
    ({ queue with restoredPurchases := r.1 },r.2.1,r.2.2)

def processComplete (queue : PaymentQueueController κ ρ)
    (transactions : List SKPaymentTransaction) : List (QueueCall κ) × List SKPaymentTransaction :=
  match queue.completeTransactions with
  | none => ([],transactions)
  | some completeTransactions =>
    let r := sift (CompleteTransactionsController.processTransaction
      completeTransactions.atomically) [] transactions
    (r.2.1 ++ (if r.1 = [] then [] else [.complete r.1]),r.2.2)

/-- `paymentQueue(_:updatedTransactions:)`: the new state, the calls made on the
way and the transactions that nobody handled. -/
def updatedTransactions (queue : PaymentQueueController κ ρ)
    (transactions : List SKPaymentTransaction) :
    PaymentQueueController κ ρ × List (QueueCall κ) × List SKPaymentTransaction :=
  if transactions.any (fun transaction => transaction.transactionState ≠ .purchasing) then
    let paid := PaymentsController.processTransactions queue.payments transactions
    let restored := { queue with payments := paid.1 }.processRestore paid.2.2
    let completed := restored.1.processComplete restored.2.2
    (restored.1,paid.2.1 ++ restored.2.1 ++ completed.1,completed.2)
  else (queue,[],transactions)

def restoreEnded (queue : PaymentQueueController κ ρ) (error : Option SKError) :
    PaymentQueueController κ ρ × Option (ρ × List TransactionResult) :=
  match queue.restorePurchases with
  | none => (queue,none)
  | some restorePurchases =>
    ({ queue with restoredPurchases := [], restorePurchases := none },
      some (restorePurchases.callback,
        queue.restoredPurchases ++ (error.map TransactionResult.failed).toList))

end PaymentQueueController

theorem findPaymentIndex_some {κ : Type} {payments : List (Payment κ)} {identifier : String}
    {i : Nat} (h : PaymentsController.findPaymentIndex payments identifier = some i) :
    ∃ payment, payments[i]? = some payment ∧ payment.productIdentifier = identifier := by
  obtain ⟨found,hfound,hidx⟩ := Option.bind_eq_some_iff.mp h
  have hid : found.productIdentifier = identifier := by simpa using List.find?_some hfound
  obtain ⟨hlt,hp,-⟩ := List.findIdx?_eq_some_iff_getElem.mp hidx
  exact ⟨payments[i],List.getElem?_eq_getElem hlt,by simpa [hid] using hp⟩

theorem payment_taken {κ : Type} {payments payments' : List (Payment κ)}
    {transaction : SKPaymentTransaction} {out : List (QueueCall κ)}
    (h : PaymentsController.processTransaction payments transaction = some (payments',out)) :
    ∃ i payment, payments[i]? = some payment ∧ payments' = payments.eraseIdx i ∧
      payment.productIdentifier = transaction.productIdentifier ∧
      (((transaction.transactionState = .purchased ∨ transaction.transactionState = .restored) ∧
        out = PaymentsController.purchased transaction payment) ∨
      transaction.transactionState = .failed ∧
        out = [.payment payment.callback
            (.failed (PaymentsController.transactionError transaction.error)),
          .finishTransaction transaction]) := by
  unfold PaymentsController.processTransaction at h
  split at h
  · contradiction
  · rename_i i hi
    obtain ⟨payment,hget,hid⟩ := findPaymentIndex_some hi
    rw [hget] at h
    refine ⟨i,payment,hget,?_⟩
    cases hstate : transaction.transactionState <;> simp [hstate] at h <;> simp [h,hid]

theorem restore_taken {κ : Type} {atomically : Bool} {results results' : List TransactionResult}
    {transaction : SKPaymentTransaction} {out : List (QueueCall κ)}
    (h : RestorePurchasesController.processTransaction atomically results transaction =
      some (results',out)) :
    transaction.transactionState = .restored ∧
      results' = results ++ [.restored ⟨transaction.productIdentifier,transaction,!atomically⟩] ∧
      out = if atomically then [.finishTransaction transaction] else [] := by
  unfold RestorePurchasesController.processTransaction at h
  split at h
  · rename_i hstate
    cases h
    exact ⟨hstate,rfl,rfl⟩
  · contradiction

theorem complete_taken {κ : Type} {purchases purchases' : List Purchase}
    {transaction : SKPaymentTransaction} {out : List (QueueCall κ)}
    (h : CompleteTransactionsController.processTransaction true purchases transaction =
      some (purchases',out)) :
    transaction.transactionState ≠ .purchasing ∧
      purchases' = purchases ++ [⟨transaction.productIdentifier,transaction,false⟩] ∧
      out = [.finishTransaction transaction] := by
  unfold CompleteTransactionsController.processTransaction at h
  split at h
  · rename_i hstate
    simp only [Bool.true_or,if_true,Bool.not_true,Option.some.injEq,Prod.mk.injEq] at h
    exact ⟨hstate,h.1.symm,h.2.symm⟩
  · contradiction

theorem complete_passed {κ : Type} (atomically : Bool) (purchases : List Purchase)
    (transaction : SKPaymentTransaction) :
    CompleteTransactionsController.processTransaction (κ := κ) atomically purchases transaction =
      none ↔ decide (transaction.transactionState = .purchasing) = true := by
  unfold CompleteTransactionsController.processTransaction
  split <;> simp_all

/-- Every payment is to be finished as soon as it is paid. -/
def Atomic {κ : Type} (payments : List (Payment κ)) : Prop :=
  ∀ payment ∈ payments, payment.atomically = true

theorem Atomic.taken {κ : Type} {payments payments' : List (Payment κ)}
    {transaction : SKPaymentTransaction} {out : List (QueueCall κ)} (h : Atomic payments)
    (htaken : PaymentsController.processTransaction payments transaction =
      some (payments',out)) : Atomic payments' := by
  obtain ⟨i,payment,-,rfl,-⟩ := payment_taken htaken
  exact fun payment hmem => h payment (List.mem_of_mem_eraseIdx hmem)

namespace PaymentQueueController

variable {κ ρ : Type}

structure Ready (queue : PaymentQueueController κ ρ) : Prop where
  registered : queue.completeTransactions = some ⟨true⟩
  payments : Atomic queue.payments
  restore : ∀ restorePurchases ∈ queue.restorePurchases, restorePurchases.atomically = true

variable {queue : PaymentQueueController κ ρ}

variable (queue) in
theorem processRestore_kept (transactions : List SKPaymentTransaction) :
    (queue.processRestore transactions).1.payments = queue.payments ∧
      (queue.processRestore transactions).1.restorePurchases = queue.restorePurchases ∧
      (queue.processRestore transactions).1.completeTransactions =
        queue.completeTransactions := by
  unfold processRestore
  split <;> exact ⟨rfl,rfl,rfl⟩

theorem updatedTransactions_kept (transactions : List SKPaymentTransaction) :
    (queue.updatedTransactions transactions).1.restorePurchases = queue.restorePurchases := by
  unfold updatedTransactions
  split
  · exact (processRestore_kept _ _).2.1
  · rfl

theorem Ready.updated (h : queue.Ready) (transactions : List SKPaymentTransaction) :
    (queue.updatedTransactions transactions).1.Ready := by
  unfold updatedTransactions
  split
  · obtain ⟨hpayments,hrestore,hcomplete⟩ := processRestore_kept { queue with
      payments := (PaymentsController.processTransactions queue.payments transactions).1 }
      (PaymentsController.processTransactions queue.payments transactions).2.2
    refine ⟨by rw [hcomplete]; exact h.registered,?_,by rw [hrestore]; exact h.restore⟩
    rw [hpayments]
    exact sift_invariant (fun _ _ _ _ => Atomic.taken) h.payments transactions
  · exact h

/-- A quantity that each controller keeps when it takes a transaction and that a
transaction in progress does not carry. -/
structure Balance {M : Type} [AddCommMonoid M] (pay : List (Payment κ) → M)
    (rest : List TransactionResult → M) (comp : List Purchase → M) (emit : QueueCall κ → M)
    (carry : SKPaymentTransaction → M) : Prop where
  paid : ∀ payments transaction payments' out, Atomic payments →
    PaymentsController.processTransaction payments transaction = some (payments',out) →
    pay payments' + (out.map emit).sum = pay payments + carry transaction
  restored : ∀ results transaction results' out,
    RestorePurchasesController.processTransaction true results transaction = some (results',out) →
    rest results' + (out.map emit).sum = rest results + carry transaction
  completed : ∀ purchases transaction purchases' out,
    CompleteTransactionsController.processTransaction true purchases transaction =
      some (purchases',out) →
    comp purchases' + (out.map emit).sum = comp purchases + carry transaction
  nothing : comp [] = 0
  called : ∀ purchases, emit (.complete purchases) = comp purchases
  idle : ∀ transaction : SKPaymentTransaction,
    transaction.transactionState = .purchasing → carry transaction = 0

section Balance

variable {M : Type} [AddCommMonoid M] {pay : List (Payment κ) → M}
  {rest : List TransactionResult → M} {comp : List Purchase → M} {emit : QueueCall κ → M}
  {carry : SKPaymentTransaction → M}

theorem Balance.sum_idle (b : Balance pay rest comp emit carry)
    {transactions : List SKPaymentTransaction}
    (h : ∀ t ∈ transactions, t.transactionState = .purchasing) :
    (transactions.map carry).sum = 0 := by
  refine List.sum_eq_zero fun m hm => ?_
  obtain ⟨t,ht,rfl⟩ := List.mem_map.mp hm
  exact b.idle t (h t ht)

theorem Balance.processRestore (b : Balance pay rest comp emit carry)
    (h : ∀ restorePurchases ∈ queue.restorePurchases, restorePurchases.atomically = true)
    (transactions : List SKPaymentTransaction) :
    rest (queue.processRestore transactions).1.restoredPurchases +
        ((queue.processRestore transactions).2.1.map emit).sum +
        ((queue.processRestore transactions).2.2.map carry).sum =
      rest queue.restoredPurchases + (transactions.map carry).sum := by
  unfold PaymentQueueController.processRestore
  cases hr : queue.restorePurchases with
  | none => simp
  | some restorePurchases =>
    have hatomically := h restorePurchases hr
    simp only [hatomically]
    exact sift_balance (I := fun _ => True) (fun _ _ _ _ _ _ => trivial)
      (fun results t results' out _ => b.restored results t results' out) trivial transactions

theorem Balance.processComplete (b : Balance pay rest comp emit carry)
    (h : queue.completeTransactions = some ⟨true⟩) (transactions : List SKPaymentTransaction) :
    ((queue.processComplete transactions).1.map emit).sum = (transactions.map carry).sum := by
  unfold PaymentQueueController.processComplete
  simp only [h]
  have hsum := sift_balance (I := fun _ => True) (fun _ _ _ _ _ _ => trivial)
    (fun purchases t purchases' out _ => b.completed purchases t purchases' out) trivial
    (s := []) transactions
  rw [sift_passed_on (complete_passed true),b.nothing,zero_add,
    b.sum_idle (by simp),add_zero] at hsum
  rw [List.map_append,List.sum_append,← hsum,add_comm]
  congr 1
  split
  · rename_i hnil
    simp [hnil,b.nothing]
  · simp [b.called]

variable (queue) in
theorem Balance.processOthers (b : Balance pay rest comp emit carry)
    (hcomplete : queue.completeTransactions = some ⟨true⟩)
    (hrestore : ∀ restorePurchases ∈ queue.restorePurchases, restorePurchases.atomically = true)
    (transactions : List SKPaymentTransaction) :
    rest (queue.processRestore transactions).1.restoredPurchases +
        (((queue.processRestore transactions).2.1 ++ ((queue.processRestore transactions).1
          |>.processComplete (queue.processRestore transactions).2.2).1).map emit).sum =
      rest queue.restoredPurchases + (transactions.map carry).sum := by
  rw [← b.processRestore hrestore,List.map_append,List.sum_append,
    b.processComplete ((processRestore_kept queue transactions).2.2.trans hcomplete),add_assoc]

theorem Balance.updatedTransactions (b : Balance pay rest comp emit carry) (h : queue.Ready)
    (transactions : List SKPaymentTransaction) :
    pay (queue.updatedTransactions transactions).1.payments +
        rest (queue.updatedTransactions transactions).1.restoredPurchases +
        ((queue.updatedTransactions transactions).2.1.map emit).sum =
      pay queue.payments + rest queue.restoredPurchases + (transactions.map carry).sum := by
  unfold PaymentQueueController.updatedTransactions
  split
  · have hpaid := sift_balance (fun _ _ _ _ => Atomic.taken) b.paid h.payments transactions
    have hothers := b.processOthers { queue with
      payments := (PaymentsController.processTransactions queue.payments transactions).1 }
      h.registered h.restore
      (PaymentsController.processTransactions queue.payments transactions).2.2
    dsimp only
    rw [(processRestore_kept _ _).1,List.append_assoc,List.map_append,List.sum_append,
      add_add_add_comm,hothers,add_left_comm]
    exact (congrArg _ hpaid).trans (by rw [← add_assoc,add_comm (rest _)])
  · rename_i hall
    have hidle : ∀ t ∈ transactions, t.transactionState = .purchasing := by simpa using hall
    simp [b.sum_idle hidle]

end Balance

end PaymentQueueController

section Accounts

variable {κ ρ : Type}

def QueueCall.weight {M : Type} [AddCommMonoid M] (w : κ → M) : QueueCall κ → M
  | .payment callback _ => w callback
  | .finishTransaction _ | .complete _ => 0

def SKPaymentTransaction.isPaid (transaction : SKPaymentTransaction) : Bool :=
  transaction.transactionState = .purchased || transaction.transactionState = .restored

def SKPaymentTransaction.isNotPurchasing (transaction : SKPaymentTransaction) : Bool :=
  transaction.transactionState ≠ .purchasing

/-- The app finishes a paid transaction that was handed over unfinished. -/
def QueueCall.finished : QueueCall κ → Multiset SKPaymentTransaction
  | .finishTransaction transaction => {transaction}
  | .payment _ _ => 0
  | .complete purchases => ↑((purchases.filter fun purchase =>
      purchase.transaction.isPaid && purchase.needsFinishTransaction).map Purchase.transaction)

def QueueCall.handedOver : QueueCall κ → Multiset SKPaymentTransaction
  | .payment _ (.purchased purchase) => {purchase.transaction}
  | .payment _ (.restored _) | .payment _ (.failed _) => 0
  | .complete purchases => ↑((purchases.map Purchase.transaction).filter (·.isPaid))
  | .finishTransaction _ => 0

def TransactionResult.restoredTransaction : TransactionResult → Option SKPaymentTransaction
  | .restored purchase => some purchase.transaction
  | .purchased _ | .failed _ => none

theorem erased_callback {M : Type} [AddCommMonoid M] (w : κ → M) {payments : List (Payment κ)}
    {i : Nat} {payment : Payment κ} (h : payments[i]? = some payment) :
    ((payments.eraseIdx i).map fun p => w p.callback).sum + w payment.callback =
      (payments.map fun p => w p.callback).sum := by
  obtain ⟨hi,rfl⟩ := List.getElem?_eq_some_iff.mp h
  have hperm := (List.getElem_cons_eraseIdx_perm hi).map fun p => w p.callback
  rw [← hperm.sum_eq,List.map_cons,List.sum_cons,add_comm]

theorem balance_callbacks {M : Type} [AddCommMonoid M] (w : κ → M) :
    PaymentQueueController.Balance (fun payments : List (Payment κ) =>
      (payments.map fun p => w p.callback).sum) 0 0 (QueueCall.weight w) 0 where
  paid := by
    intro payments transaction payments' out hatomic htaken
    obtain ⟨i,payment,hget,rfl,-,h⟩ := payment_taken htaken
    have hcallbacks : (out.map (QueueCall.weight w)).sum = w payment.callback := by
      rcases h with ⟨-,rfl⟩ | ⟨-,rfl⟩
      · simp only [PaymentsController.purchased]
        split <;> simp [QueueCall.weight]
      · simp [QueueCall.weight]
    rw [hcallbacks]
    simpa using erased_callback w hget
  restored := by
    intro results transaction results' out htaken
    obtain ⟨-,-,rfl⟩ := restore_taken htaken
    simp [QueueCall.weight]
  completed := by
    intro purchases transaction purchases' out htaken
    obtain ⟨-,-,rfl⟩ := complete_taken htaken
    simp [QueueCall.weight]
  nothing := rfl
  called := fun _ => rfl
  idle := fun _ _ => rfl

theorem balance_finished :
    PaymentQueueController.Balance (κ := κ) 0 0
      (fun purchases => QueueCall.finished (κ := κ) (.complete purchases)) QueueCall.finished
      (fun transaction => if transaction.isNotPurchasing then {transaction} else 0) where
  paid := by
    intro payments transaction payments' out hatomic htaken
    obtain ⟨i,payment,hget,rfl,-,h⟩ := payment_taken htaken
    have hpayment := hatomic payment (List.mem_of_getElem? hget)
    rcases h with ⟨hstate | hstate,rfl⟩ | ⟨hstate,rfl⟩ <;>
      simp [PaymentsController.purchased,QueueCall.finished,SKPaymentTransaction.isNotPurchasing,hpayment,
        hstate]
  restored := by
    intro results transaction results' out htaken
    obtain ⟨hstate,-,rfl⟩ := restore_taken htaken
    simp [QueueCall.finished,SKPaymentTransaction.isNotPurchasing,hstate]
  completed := by
    intro purchases transaction purchases' out htaken
    obtain ⟨hstate,rfl,rfl⟩ := complete_taken htaken
    simp [QueueCall.finished,SKPaymentTransaction.isNotPurchasing,hstate]
  nothing := rfl
  called := fun _ => rfl
  idle := by
    intro transaction hstate
    simp [SKPaymentTransaction.isNotPurchasing,hstate]

theorem balance_handedOver :
    PaymentQueueController.Balance (κ := κ) 0
      (fun results => (↑(results.filterMap TransactionResult.restoredTransaction) :
        Multiset SKPaymentTransaction))
      (fun purchases => ↑((purchases.map Purchase.transaction).filter (·.isPaid)))
      QueueCall.handedOver
      (fun transaction => if transaction.isPaid then {transaction} else 0) where
  paid := by
    intro payments transaction payments' out hatomic htaken
    obtain ⟨i,payment,hget,rfl,-,h⟩ := payment_taken htaken
    have hpayment := hatomic payment (List.mem_of_getElem? hget)
    rcases h with ⟨hstate | hstate,rfl⟩ | ⟨hstate,rfl⟩ <;>
      simp [PaymentsController.purchased,QueueCall.handedOver,SKPaymentTransaction.isPaid,hpayment,
        hstate]
  restored := by
    intro results transaction results' out htaken
    obtain ⟨hstate,rfl,rfl⟩ := restore_taken htaken
    simp [QueueCall.handedOver,SKPaymentTransaction.isPaid,TransactionResult.restoredTransaction,
      hstate,← Multiset.coe_add]
  completed := by
    intro purchases transaction purchases' out htaken
    obtain ⟨-,rfl,rfl⟩ := complete_taken htaken
    rw [List.map_append,List.filter_append,← Multiset.coe_add]
    cases hpaid : transaction.isPaid <;> simp [QueueCall.handedOver,hpaid]
  nothing := rfl
  called := fun _ => rfl
  idle := by
    intro transaction hstate
    simp [SKPaymentTransaction.isPaid,hstate]

end Accounts

end GenieD

import GenieD.Receipts

set_option autoImplicit false

namespace GenieD

inductive SubscriptionPeriod where
  | week | year
  deriving DecidableEq, Repr

structure StoreProduct where
  product : BuyProProduct
  skProduct : Option SKProduct := none
  deriving DecidableEq, Repr

def StoreProduct.priceWithCurrency (p : StoreProduct) : Option String :=
  match p.skProduct with
  | none => none
  | some product =>
    match product.currencySymbol, product.currencyCode with
    | some currencySymbol, _ => some (currencySymbol ++ product.price)
    | none, some currencyCode => some (currencyCode ++ product.price)
    | none, none => product.localizedPrice

structure PaywallViewModel where
  selectedAccess : BuyProAccess := .advanced
  selectedPeriod : SubscriptionPeriod := .year
  isLoading : Bool := false
  showingAlert : Bool := false
  alertMessage : String := ""
  deriving DecidableEq, Repr

structure SettingsViewModel where
  isLoading : Bool := false
  showingAlert : Bool := false
  alertMessage : String := ""
  deriving DecidableEq, Repr

/-- A call of `purchase` or `restore`, numbered, with the view model behind its completion. -/
structure Caller where
  call : Nat
  viewModel : Nat
  deriving DecidableEq, Repr

/-- The completions given to `retrieveProductsInfo`: the one of the launch does
nothing more, that of `fetchSubscriptions` ends the loading of a paywall. -/
inductive ProductsHandler where
  | launch
  | fetchSubscriptions (paywall : Nat)
  | purchaseProduct (caller : Caller)
  deriving DecidableEq, Repr

inductive Verification where
  | completeTransactions
  | purchase (caller : Caller)
  | restore (caller : Caller)
  deriving DecidableEq, Repr

def Verification.issuer : Verification → Issuer
  | .completeTransactions => .completeTransactions
  | .purchase _ => .purchase
  | .restore _ => .restore

structure CallOutcome where
  caller : Caller
  success : Bool
  message : String
  deriving DecidableEq, Repr

/-- `BuyProService` over `SwiftyStoreKit`, with the view models that use it.
`calls` numbers the calls of `purchase` and `restore`. The fields after it are
what an observer writes down: calls that ended or were dropped, transactions
that were finished, given to `verifyPurchases` or reported as restored, and the
verifications that came to an end. The code reads none of them. -/
structure Store where
  device : Device := {}
  allProducts : List StoreProduct := GenieD.allProducts.map fun product => { product }
  productsInfo : ProductsInfoController ProductsHandler := []
  queue : PaymentQueueController Caller Caller := {}
  verificator : InAppReceiptVerificator Verification := {}
  paywalls : List PaywallViewModel := []
  settings : List SettingsViewModel := []
  calls : Nat := 0
  outcomes : List CallOutcome := []
  dropped : List Caller := []
  finished : List SKPaymentTransaction := []
  handedOver : List SKPaymentTransaction := []
  reported : List SKPaymentTransaction := []
  completions : List Completion := []

def PaywallViewModel.purchaseEnded (p : Platform) (success : Bool) (error : String)
    (vm : PaywallViewModel) : PaywallViewModel :=
  let vm := { vm with isLoading := false }
  if success then
    { vm with alertMessage := p.localized "Subscription purchased", showingAlert := true }
  else if error.isEmpty then vm
  else { vm with alertMessage := error, showingAlert := true }

def SettingsViewModel.restoreEnded (message : String) (vm : SettingsViewModel) :
    SettingsViewModel :=
  { vm with isLoading := false, alertMessage := message, showingAlert := true }

def purchaseError (p : Platform) (error : SKError) : String :=
  match error.code with
  | .unknown => p.localized
      "Sorry, the purchase is unavailable for an unknown reason. Please try again later"
  | .clientInvalid => p.localized
      "The purchase cannot be completed. Please, change your account or device"
  | .paymentCancelled => ""
  | .paymentInvalid => p.localized ("Your purchase was declined. Please, check the payment " ++
      "details and make sure there are enough funds in your account")
  | .paymentNotAllowed => p.localized ("The purchase is not available for the selected payment " ++
      "method. Please, make sure your payment method allows you to make online purchases")
  | .storeProductNotAvailable => p.localized
      "This product is not available in your region. Please, change the store and try again"
  | .cloudServicePermissionDenied => p.localized
      "Access to cloud service information is not allowed"
  | .cloudServiceNetworkConnectionFailed => p.localized ("The purchase cannot be completed " ++
      "because your device is not connected to the Internet. Please, try again later with a " ++
      "stable internet connection")
  | .cloudServiceRevoked => p.localized "Sorry, an error has occurred"
  | .privacyAcknowledgementRequired => p.localized ("The purchase cannot be completed because " ++
      "you have not accepted the terms of use of the AppStore. Please, confirm your consent in " ++
      "the settings and then return to the purchase")
  | .unauthorizedRequestData => p.localized "An error has occurred. Please, try again later"
  | .invalidOfferIdentifier => p.localized "The promotional offer is invalid or expired"
  | .invalidSignature => p.localized
      "Sorry, an error has occurred when applying the promo code. Please, try again later"
  | .missingOfferParams => p.localized
      "Sorry, an error has occurred when applying the promo offer. Please, try again later"
  | .invalidOfferPrice => p.localized
      "Sorry, your purchase cannot be completed. Please, try again later"
  | .other _ => error.localizedDescription

namespace Store

def productsPriceInfo (s : Store) : Option (List (Period × String)) :=
  let result := s.allProducts.filterMap fun product =>
    product.priceWithCurrency.map fun price => (product.product.period,price)
  if result.length = s.allProducts.length then some result else none

def isProductsReady (s : Store) : Bool := s.productsPriceInfo.isSome

def completePurchase (p : Platform) (s : Store) (caller : Caller) (success : Bool)
    (error : String) : Store :=
  { s with
    paywalls := s.paywalls.modify caller.viewModel (.purchaseEnded p success error)
    outcomes := s.outcomes ++ [⟨caller,success,error⟩] }

def completeRestore (s : Store) (caller : Caller) (message : String) (success : Bool) : Store :=
  { s with
    settings := s.settings.modify caller.viewModel (.restoreEnded message)
    outcomes := s.outcomes ++ [⟨caller,success,message⟩] }

def verifyPurchases (s : Store) (completion : Verification) : Store :=
  { s with verificator := s.verificator.verifyReceipt completion }

def receiptVerified (p : Platform) (s : Store) (now : Date) (completion : Verification)
    (result : VerifyReceiptResult) : Store :=
  let s := { s with
    device := s.device.verified completion.issuer now result
    completions := s.completions ++ [⟨completion.issuer,now,result⟩] }
  match completion with
  | .completeTransactions => s
  | .purchase caller =>
    if s.device.subscribed then s.completePurchase p caller true ""
    else s.completePurchase p caller false (p.localized "Unknown error. Please contact support")
  | .restore caller =>
    if s.device.subscribed then
      s.completeRestore caller (p.localized "Restored Successfully") true
    else s.completeRestore caller (p.localized "Nothing to Restore") true

def purchaseResult (p : Platform) (s : Store) (caller : Caller) : TransactionResult → Store
  | .purchased purchase =>
    { s with handedOver := s.handedOver ++ [purchase.transaction] }.verifyPurchases
      (.purchase caller)
  | .failed error => s.completePurchase p caller false (purchaseError p error)
  | .restored purchase => s.completePurchase p caller false (purchaseError p ⟨.unknown,
      "Cannot restore product " ++ purchase.productId ++ " from purchase path"⟩)

def completeTransaction (s : Store) (purchase : Purchase) : Store :=
  match purchase.transaction.transactionState with
  | .purchased | .restored =>
    { s with
      finished := s.finished ++
        if purchase.needsFinishTransaction then [purchase.transaction] else []
      handedOver := s.handedOver ++ [purchase.transaction] }.verifyPurchases .completeTransactions
  | .failed | .purchasing | .deferred => s

def queueCall (p : Platform) (s : Store) : QueueCall Caller → Store
  | .finishTransaction transaction => { s with finished := s.finished ++ [transaction] }
  | .payment caller result => s.purchaseResult p caller result
  | .complete purchases => purchases.foldl completeTransaction s

def productsRetrieved (s : Store) (result : RetrieveResults) : Store :=
  match result.error with
  | some _ => s
  | none =>
    { s with
      allProducts := s.allProducts.map (fun product =>
        { product with
          skProduct := result.retrievedProducts.find? (fun skProduct =>
            skProduct.productIdentifier = product.product.id) }) }

def productFound (p : Platform) (s : Store) (caller : Caller) (result : RetrieveResults) : Store :=
  match result.retrievedProducts.head?, result.error, result.invalidProductIDs.head? with
  | some product, _, _ =>
    { s with
      queue := s.queue.startPayment
        { productIdentifier := product.productIdentifier, callback := caller } }
  | none, some error, _ => s.completePurchase p caller false (purchaseError p error)
  | none, none, some invalidProductId => s.completePurchase p caller false
      (purchaseError p ⟨.paymentInvalid,"Invalid product id: " ++ invalidProductId⟩)
  | none, none, none => s.completePurchase p caller false (purchaseError p ⟨.unknown,""⟩)

def productsHandler (p : Platform) (result : RetrieveResults) (s : Store) :
    ProductsHandler → Store
  | .launch => s.productsRetrieved result
  | .fetchSubscriptions paywall =>
    let s := s.productsRetrieved result
    { s with paywalls := s.paywalls.modify paywall (fun vm => { vm with isLoading := false }) }
  | .purchaseProduct caller => s.productFound p caller result

def retrieveProductInfo (s : Store) (completion : ProductsHandler) : Store :=
  { s with
    productsInfo := s.productsInfo.retrieveProductsInfo
      (s.allProducts.map fun product => product.product.id).toFinset completion }

def purchase (s : Store) (product : BuyProProduct) (caller : Caller) : Store :=
  { s with
    productsInfo := s.productsInfo.retrieveProductsInfo {product.id} (.purchaseProduct caller) }

def productForPeriod (s : Store) (vm : PaywallViewModel) (period : SubscriptionPeriod) :
    Option BuyProProduct :=
  let wanted : Period := match vm.selectedAccess, period with
    | .lite, .week => .liteWeek
    | .lite, .year => .liteYear
    | .pro, .week => .proWeek
    | .pro, .year => .proYear
    | .advanced, .week => .advancedWeek
    | .advanced, .year => .advancedYear
  (s.allProducts.find? fun product => product.product.period = wanted).map StoreProduct.product

def onViewDidAppear (s : Store) (paywall : Nat) : Store :=
  if s.isProductsReady then s
  else { s with paywalls := s.paywalls.modify paywall (fun vm => { vm with isLoading := true }) }
    |>.retrieveProductInfo (.fetchSubscriptions paywall)

def onContinueAction (s : Store) (paywall : Nat) : Store :=
  match s.paywalls[paywall]? with
  | none => s
  | some vm =>
    match s.productForPeriod vm vm.selectedPeriod with
    | none => s
    | some product =>
      { s with
        paywalls := s.paywalls.modify paywall (fun vm => { vm with isLoading := true })
        calls := s.calls + 1 }.purchase product ⟨s.calls,paywall⟩

def onRestorePurchases (s : Store) (settings : Nat) : Store :=
  if settings < s.settings.length then
    { s with
      settings := s.settings.modify settings (fun vm => { vm with isLoading := true })
      calls := s.calls + 1
      dropped := s.dropped ++ if s.queue.restorePurchases.isSome then [⟨s.calls,settings⟩] else []
      queue := s.queue.restore { callback := ⟨s.calls,settings⟩ } }
  else s

/-- `processRestoreResults`, and the completion of `restorePurchases` in `restore`. -/
def restoreResults (p : Platform) (s : Store) (caller : Caller) (results : List TransactionResult) :
    Store :=
  let restoredPurchases := results.filterMap TransactionResult.restoredTransaction
  let restoreFailedPurchases := results.filter fun result => result.restoredTransaction.isNone
  let s := { s with reported := s.reported ++ restoredPurchases }
  if restoreFailedPurchases.length > 0 then
    s.completeRestore caller (p.localized "Restore failed") false
  else if restoredPurchases.length > 0 then s.verifyPurchases (.restore caller)
  else s.completeRestore caller (p.localized "Nothing to Restore") true

def launch (d : Device) (appStoreReceiptData : Option Data) : Store :=
  { device := d
    queue := PaymentQueueController.complete {} {}
    verificator := { appStoreReceiptData } : Store }.retrieveProductInfo .launch

end Store

/-- What users and the App Store do. `receipt` is a change of the receipt file;
an answer to a request that is not in flight does not happen. -/
inductive StoreEvent where
  | openPaywall
  | onViewDidAppear (paywall : Nat)
  | select (paywall : Nat) (access : BuyProAccess) (period : SubscriptionPeriod)
  | onContinueAction (paywall : Nat)
  | openSettings
  | onRestorePurchases (settings : Nat)
  | products (productIds : Finset String) (result : RetrieveResults)
  | updatedTransactions (transactions : List SKPaymentTransaction)
  | restoreEnded (error : Option SKError)
  | receipt (appStoreReceiptData : Option Data)
  | refreshEnded (request : Nat) (success : Bool)
  | refreshCallback (now : Date)
  | validated (index : Nat) (now : Date) (response : ValidatorResponse)

namespace Store

def verificatorCalled (p : Platform) (s : Store) (now : Date)
    (r : InAppReceiptVerificator Verification × Option (Verification × VerifyReceiptResult)) :
    Store :=
  match r.2 with
  | none => { s with verificator := r.1 }
  | some (completion,result) =>
    { s with verificator := r.1 }.receiptVerified p now completion result

def step (p : Platform) (s : Store) : StoreEvent → Store
  | .openPaywall => { s with paywalls := s.paywalls ++ [{}] }
  | .onViewDidAppear paywall => s.onViewDidAppear paywall
  | .select paywall access period =>
    { s with
      paywalls := s.paywalls.modify paywall (fun vm =>
        { vm with selectedAccess := access, selectedPeriod := period }) }
  | .onContinueAction paywall => s.onContinueAction paywall
  | .openSettings => { s with settings := s.settings ++ [{}] }
  | .onRestorePurchases settings => s.onRestorePurchases settings
  | .products productIds result =>
    let r := s.productsInfo.answered productIds
    r.1.foldl (productsHandler p result) { s with productsInfo := r.2 }
  | .updatedTransactions transactions =>
    let r := s.queue.updatedTransactions transactions
    r.2.1.foldl (queueCall p) { s with queue := r.1 }
  | .restoreEnded error =>
    match s.queue.restoreEnded error with
    | (queue,none) => { s with queue }
    | (queue,some (caller,results)) => { s with queue }.restoreResults p caller results
  | .receipt appStoreReceiptData =>
    { s with verificator := { s.verificator with appStoreReceiptData } }
  | .refreshEnded request success =>
    { s with verificator := s.verificator.requestEnded request success }
  | .refreshCallback now => s.verificatorCalled p now s.verificator.performCallback
  | .validated index now response =>
    s.verificatorCalled p now (s.verificator.validated index response)

end Store

end GenieD

import GenieD.Loading

set_option autoImplicit false

namespace GenieD

open Sieve

namespace ProductsInfoController

variable {η : Type} {productIds : Finset String} {queries : ProductsInfoController η}

theorem mem_retrieve {completion : η} {query : InAppProductQuery η}
    (h : query ∈ queries.retrieveProductsInfo productIds completion) :
    query ∈ queries ∨ query.productIds = productIds ∧
      ∀ handler ∈ query.completionHandlers, handler = completion ∨
        ∃ query' ∈ queries, query'.productIds = productIds ∧
          handler ∈ query'.completionHandlers := by
  induction queries with
  | nil =>
    cases List.mem_singleton.mp h
    exact .inr ⟨rfl,fun handler hmem => .inl (List.mem_singleton.mp hmem)⟩
  | cons first queries ih =>
    unfold retrieveProductsInfo at h
    split at h
    · rename_i hfirst
      rcases List.mem_cons.mp h with rfl | hmem
      · refine .inr ⟨rfl,fun handler hmem => ?_⟩
        rcases List.mem_append.mp hmem with hmem | hmem
        · exact .inr ⟨first,List.mem_cons_self,hfirst,hmem⟩
        · exact .inl (List.mem_singleton.mp hmem)
      · exact .inl (List.mem_cons_of_mem _ hmem)
    · rcases List.mem_cons.mp h with rfl | hmem
      · exact .inl List.mem_cons_self
      · rcases ih hmem with hold | ⟨hids,hhandlers⟩
        · exact .inl (List.mem_cons_of_mem _ hold)
        · refine .inr ⟨hids,fun handler hmem => ?_⟩
          rcases hhandlers handler hmem with heq | ⟨query',hquery',hrest⟩
          · exact .inl heq
          · exact .inr ⟨query',List.mem_cons_of_mem _ hquery',hrest⟩

theorem mem_answered {query : InAppProductQuery η} (h : query ∈ (answered productIds queries).2) :
    query ∈ queries := by
  induction queries with
  | nil => exact h
  | cons first queries ih =>
    unfold answered at h
    split at h
    · exact List.mem_cons_of_mem _ h
    · rcases List.mem_cons.mp h with rfl | hmem
      · exact List.mem_cons_self
      · exact List.mem_cons_of_mem _ (ih hmem)

theorem handler_answered {handler : η} (h : handler ∈ (answered productIds queries).1) :
    ∃ query ∈ queries, query.productIds = productIds ∧ handler ∈ query.completionHandlers := by
  induction queries with
  | nil => cases h
  | cons first queries ih =>
    unfold answered at h
    split at h
    · rename_i hfirst
      exact ⟨first,List.mem_cons_self,hfirst,h⟩
    · obtain ⟨query,hquery,hrest⟩ := ih h
      exact ⟨query,List.mem_cons_of_mem _ hquery,hrest⟩

theorem not_mem_keys_answered (h : (keys queries).Nodup) :
    productIds ∉ keys (answered productIds queries).2 := by
  induction queries with
  | nil => exact List.not_mem_nil
  | cons first queries ih =>
    obtain ⟨hfirst,hrest⟩ := List.nodup_cons.mp h
    unfold answered
    split
    · rename_i heq
      exact heq ▸ hfirst
    · rename_i hne
      rintro hmem
      rcases List.mem_cons.mp hmem with heq | hmem
      · exact hne heq.symm
      · exact ih hrest hmem

theorem answered_absent (h : productIds ∉ keys queries) :
    answered productIds queries = ([],queries) := by
  induction queries with
  | nil => rfl
  | cons first queries ih =>
    obtain ⟨hne,hrest⟩ := List.ne_and_not_mem_of_not_mem_cons h
    unfold answered
    rw [if_neg hne.symm,ih hrest]

theorem nodup_retrieve (h : (keys queries).Nodup) (completion : η) :
    (keys (queries.retrieveProductsInfo productIds completion)).Nodup := by
  rw [keys_retrieve]
  split
  · exact h
  · rename_i hmem
    exact List.nodup_append.mpr ⟨h,List.nodup_singleton _,by
      intro key hkey key' hkey' heq
      rw [List.mem_singleton.mp hkey'] at heq
      exact hmem (heq ▸ hkey)⟩

end ProductsInfoController

def allIds : Finset String := (allProducts.map BuyProProduct.id).toFinset

def ProductsHandler.isPurchase : ProductsHandler → Bool
  | .purchaseProduct _ => true
  | .launch | .fetchSubscriptions _ => false

/-- A request in flight is for all products or for one of them, and those who
wait for it want to buy exactly in the second case. -/
def Proper (query : InAppProductQuery ProductsHandler) : Prop :=
  (query.productIds = allIds ∨ ∃ product ∈ allProducts, query.productIds = {product.id}) ∧
    ∀ handler ∈ query.completionHandlers, handler.isPurchase = decide (query.productIds ≠ allIds)

structure Store.Catalogued (s : Store) : Prop where
  products : s.allProducts.map StoreProduct.product = GenieD.allProducts
  nodup : (ProductsInfoController.keys s.productsInfo).Nodup
  proper : ∀ query ∈ s.productsInfo, Proper query
  ready : s.isProductsReady = true → allIds ∉ ProductsInfoController.keys s.productsInfo

theorem allIds_ne {product : BuyProProduct} (h : product ∈ allProducts) :
    allIds ≠ {product.id} := by
  simp only [allProducts,List.mem_cons,List.not_mem_nil,or_false] at h
  rcases h with rfl | rfl <;> decide

namespace Store

variable {s s' : Store} (p : Platform)

theorem isProductsReady_same (h : s'.allProducts = s.allProducts) :
    s'.isProductsReady = s.isProductsReady := by
  simp [isProductsReady,productsPriceInfo,h]

theorem Catalogued.same (h : s.Catalogued) (hinfo : s'.productsInfo = s.productsInfo)
    (hproducts : s'.allProducts = s.allProducts) : s'.Catalogued := by
  refine ⟨hproducts ▸ h.products,hinfo ▸ h.nodup,hinfo ▸ h.proper,fun hready => ?_⟩
  rw [isProductsReady_same hproducts] at hready
  exact hinfo ▸ h.ready hready

theorem Catalogued.retrieve (h : s.Catalogued) (productIds : Finset String)
    (completion : ProductsHandler) (hproper : Proper ⟨productIds,[completion]⟩)
    (hready : s.isProductsReady = true → productIds ≠ allIds)
    (hinfo : s'.productsInfo = s.productsInfo.retrieveProductsInfo productIds completion)
    (hproducts : s'.allProducts = s.allProducts) : s'.Catalogued := by
  refine ⟨hproducts ▸ h.products,?_,?_,?_⟩
  · rw [hinfo]
    exact ProductsInfoController.nodup_retrieve h.nodup completion
  · intro query hquery
    rw [hinfo] at hquery
    rcases ProductsInfoController.mem_retrieve hquery with hold | ⟨hids,hhandlers⟩
    · exact h.proper query hold
    · refine ⟨hids ▸ hproper.1,fun handler hmem => ?_⟩
      rw [hids]
      rcases hhandlers handler hmem with rfl | ⟨query',hquery',hids',hmem'⟩
      · exact hproper.2 handler List.mem_cons_self
      · rw [← hids']
        exact (h.proper query' hquery').2 handler hmem'
  · intro hr
    rw [isProductsReady_same hproducts] at hr
    rw [hinfo,ProductsInfoController.keys_retrieve]
    split
    · exact h.ready hr
    · simp only [List.mem_append,List.mem_singleton,not_or]
      exact ⟨h.ready hr,(hready hr).symm⟩

theorem productsHandler_productsInfo (result : RetrieveResults) (s : Store)
    (handler : ProductsHandler) :
    (productsHandler p result s handler).productsInfo = s.productsInfo := by
  have hretrieved : (s.productsRetrieved result).productsInfo = s.productsInfo := by
    unfold productsRetrieved
    split <;> rfl
  cases handler with
  | launch => exact hretrieved
  | fetchSubscriptions paywall => exact hretrieved
  | purchaseProduct caller =>
    simp only [productsHandler,productFound]
    split <;> rfl

theorem productsHandler_products (result : RetrieveResults) (s : Store)
    (handler : ProductsHandler) :
    (productsHandler p result s handler).allProducts.map StoreProduct.product =
      s.allProducts.map StoreProduct.product := by
  have hretrieved : (s.productsRetrieved result).allProducts.map StoreProduct.product =
      s.allProducts.map StoreProduct.product := by
    unfold productsRetrieved
    split
    · rfl
    · simp
  cases handler with
  | launch => exact hretrieved
  | fetchSubscriptions paywall => exact hretrieved
  | purchaseProduct caller =>
    simp only [productsHandler,productFound]
    split <;> rfl

theorem productsHandlers_purchases (result : RetrieveResults) {handlers : List ProductsHandler}
    (h : ∀ handler ∈ handlers, handler.isPurchase = true) (s : Store) :
    (handlers.foldl (productsHandler p result) s).allProducts = s.allProducts := by
  induction handlers generalizing s with
  | nil => rfl
  | cons handler handlers ih =>
    rw [List.foldl_cons,ih fun handler' hmem => h handler' (List.mem_cons_of_mem _ hmem)]
    cases handler with
    | launch => exact absurd (h _ List.mem_cons_self) (by decide)
    | fetchSubscriptions paywall =>
      exact absurd (h _ List.mem_cons_self) (by simp [ProductsHandler.isPurchase])
    | purchaseProduct caller =>
      simp only [productsHandler,productFound]
      split <;> rfl

theorem answered_purchases (h : s.Catalogued) {productIds : Finset String}
    (hids : productIds ≠ allIds) :
    ∀ handler ∈ (s.productsInfo.answered productIds).1, handler.isPurchase = true := by
  intro handler hmem
  obtain ⟨query,hquery,heq,hhandler⟩ := ProductsInfoController.handler_answered hmem
  rw [(h.proper query hquery).2 handler hhandler,heq]
  exact decide_eq_true hids

theorem catalogued_products (h : s.Catalogued) (productIds : Finset String)
    (result : RetrieveResults) : (s.step p (.products productIds result)).Catalogued := by
  have hinfo : (s.step p (.products productIds result)).productsInfo =
      (s.productsInfo.answered productIds).2 :=
    foldl_keeps (productsHandler_productsInfo p result) _ _
  refine ⟨?_,?_,?_,?_⟩
  · refine Eq.trans ?_ h.products
    exact foldl_keeps (g := fun s : Store => s.allProducts.map StoreProduct.product)
      (productsHandler_products p result) _ _
  · rw [hinfo]
    exact h.nodup.sublist (ProductsInfoController.keys_answered_sublist productIds s.productsInfo)
  · intro query hquery
    rw [hinfo] at hquery
    exact h.proper query (ProductsInfoController.mem_answered hquery)
  · intro hready
    rw [hinfo]
    by_cases hids : productIds = allIds
    · rw [← hids]
      exact ProductsInfoController.not_mem_keys_answered h.nodup
    · have hsame : (s.step p (.products productIds result)).allProducts = s.allProducts :=
        productsHandlers_purchases p result (answered_purchases h hids) _
      rw [isProductsReady_same hsame] at hready
      exact fun hmem => h.ready hready
        ((ProductsInfoController.keys_answered_sublist productIds s.productsInfo).subset hmem)

theorem catalogued_launch (d : Device) (appStoreReceiptData : Option Data) :
    (launch d appStoreReceiptData).Catalogued := by
  have hstart : Catalogued { device := d } :=
    ⟨rfl,List.nodup_nil,by simp,by simp [ProductsInfoController.keys]⟩
  refine hstart.retrieve allIds .launch
    ⟨.inl rfl,by simp [ProductsHandler.isPurchase]⟩ ?_ rfl rfl
  intro hready
  simp [isProductsReady,productsPriceInfo,StoreProduct.priceWithCurrency,GenieD.allProducts]
    at hready

theorem catalogued_step (h : s.Catalogued) (e : StoreEvent) : (s.step p e).Catalogued := by
  cases e with
  | openPaywall | select _ _ _ | openSettings | receipt _ | refreshEnded _ _ =>
    exact h.same rfl rfl
  | onViewDidAppear paywall =>
    simp only [step,onViewDidAppear]
    split
    · exact h
    · rename_i hready
      have hids : (s.allProducts.map fun product => product.product.id).toFinset = allIds := by
        rw [allIds,← h.products,List.map_map]
        rfl
      refine h.retrieve allIds (.fetchSubscriptions paywall)
        ⟨.inl rfl,by simp [ProductsHandler.isPurchase]⟩ (fun hr => absurd hr hready) ?_ rfl
      rw [← hids]
      rfl
  | onContinueAction paywall =>
    simp only [step,onContinueAction]
    split
    · exact h
    · split
      · exact h
      · rename_i vm _ product hproduct
        have hmem : product ∈ GenieD.allProducts := by
          rw [← h.products]
          obtain ⟨found,hfound,rfl⟩ := Option.map_eq_some_iff.mp hproduct
          exact List.mem_map_of_mem (List.mem_of_find?_eq_some hfound)
        exact h.retrieve {product.id} _ ⟨.inr ⟨product,hmem,rfl⟩,by
          simp [ProductsHandler.isPurchase,(allIds_ne hmem).symm]⟩
          (fun _ => (allIds_ne hmem).symm) rfl rfl
  | onRestorePurchases settings =>
    simp only [step,onRestorePurchases]
    split
    · exact h.same rfl rfl
    · exact h
  | products productIds result => exact catalogued_products p h productIds result
  | updatedTransactions transactions =>
    have hkept := Kept.foldl (kept_queueCall p)
      { s with queue := (s.queue.updatedTransactions transactions).1 }
      (s.queue.updatedTransactions transactions).2.1
    exact h.same hkept.productsInfo hkept.allProducts
  | restoreEnded error =>
    simp only [step]
    split
    · exact h.same rfl rfl
    · rename_i queue caller results _
      have hkept := kept_restoreResults p { s with queue } caller results
      exact h.same hkept.productsInfo hkept.allProducts
  | refreshCallback now =>
    have hkept := kept_verificatorCalled p s now s.verificator.performCallback
    exact h.same hkept.productsInfo hkept.allProducts
  | validated index now response =>
    have hkept := kept_verificatorCalled p s now (s.verificator.validated index response)
    exact h.same hkept.productsInfo hkept.allProducts

theorem allProducts_step (s : Store) {e : StoreEvent}
    (he : ∀ ids result, e ≠ .products ids result) :
    (s.step p e).allProducts = s.allProducts := by
  cases e with
  | openPaywall | select _ _ _ | openSettings | receipt _ | refreshEnded _ _ => rfl
  | products productIds result => exact absurd rfl (he productIds result)
  | onViewDidAppear paywall =>
    simp only [step,onViewDidAppear]
    split <;> rfl
  | onContinueAction paywall =>
    simp only [step,onContinueAction]
    split
    · rfl
    · split <;> rfl
  | onRestorePurchases settings =>
    simp only [step,onRestorePurchases]
    split <;> rfl
  | updatedTransactions transactions =>
    exact (Kept.foldl (kept_queueCall p) _ _).allProducts
  | restoreEnded error =>
    simp only [step]
    split
    · rfl
    · exact (kept_restoreResults p _ _ _).allProducts
  | refreshCallback now => exact (kept_verificatorCalled p s now _).allProducts
  | validated index now response => exact (kept_verificatorCalled p s now _).allProducts

/-- With all prices there, no answer for all products is to come any more. -/
theorem Catalogued.settled (h : s.Catalogued) (hready : s.isProductsReady = true)
    (e : StoreEvent) : (s.step p e).allProducts = s.allProducts := by
  by_cases he : ∀ ids result, e ≠ .products ids result
  · exact allProducts_step p s he
  · push Not at he
    obtain ⟨productIds,result,rfl⟩ := he
    by_cases hids : productIds = allIds
    · have habsent := ProductsInfoController.answered_absent (h.ready hready)
      simp only [step,hids,habsent,List.foldl_nil]
    · exact productsHandlers_purchases p result (answered_purchases h hids) _

theorem catalogued_run (d : Device) (appStoreReceiptData : Option Data) (es : List StoreEvent) :
    (es.foldl (step p) (launch d appStoreReceiptData)).Catalogued :=
  foldl_invariant (I := Catalogued) (fun _ e hs => catalogued_step p hs e)
    (catalogued_launch d appStoreReceiptData) es

theorem Catalogued.productForPeriod (h : s.Catalogued) (vm : PaywallViewModel)
    (period : SubscriptionPeriod) :
    (s.productForPeriod vm period).isSome = decide (vm.selectedAccess = .advanced) := by
  have hfind (wanted : Period) :
      (s.allProducts.find? fun product => product.product.period = wanted).map
        StoreProduct.product = GenieD.allProducts.find? fun product => product.period = wanted := by
    rw [← h.products,List.find?_map]
    rfl
  unfold Store.productForPeriod
  rw [hfind]
  cases vm.selectedAccess <;> cases period <;> decide

end Store

/-- Between the taps of all paywalls and the answers of the store: never two
requests for the same products, so at most three at once, and only for products
of the app; and a purchase begins exactly if the paywall has the advanced access
selected. -/
theorem product_requests_shared (p : Platform) (d : Device) (appStoreReceiptData : Option Data)
    (es : List StoreEvent) :
    let s := es.foldl (Store.step p) (.launch d appStoreReceiptData)
    let keys := ProductsInfoController.keys s.productsInfo
    keys.Nodup ∧ keys.length ≤ 3 ∧
      (∀ key ∈ keys, key = allIds ∨ ∃ product ∈ allProducts, key = {product.id}) ∧
      ∀ i vm, s.paywalls[i]? = some vm →
        ((s.step p (.onContinueAction i)).calls = s.calls + 1 ↔ vm.selectedAccess = .advanced) := by
  intro s keys
  have h : s.Catalogued := Store.catalogued_run p d appStoreReceiptData es
  have hknown : ∀ key ∈ keys, key = allIds ∨ ∃ product ∈ allProducts, key = {product.id} := by
    intro key hkey
    obtain ⟨query,hquery,rfl⟩ := List.mem_map.mp hkey
    exact (h.proper query hquery).1
  refine ⟨h.nodup,?_,hknown,?_⟩
  · have hsub : keys ⊆ allIds :: allProducts.map fun product => {product.id} := by
      intro key hkey
      rcases hknown key hkey with rfl | ⟨product,hmem,rfl⟩
      · exact List.mem_cons_self
      · exact List.mem_cons_of_mem _ (List.mem_map_of_mem hmem)
    exact (List.subperm_of_subset h.nodup hsub).length_le
  · intro i vm hvm
    have hproduct := h.productForPeriod vm vm.selectedPeriod
    simp only [Store.step,Store.onContinueAction,hvm]
    cases hfind : s.productForPeriod vm vm.selectedPeriod with
    | none =>
      rw [hfind] at hproduct
      simpa using hproduct.symm
    | some product =>
      rw [hfind] at hproduct
      simpa [Store.purchase] using hproduct.symm

/-- Once all prices are there they stay, whatever the store answers later. -/
theorem prices_stay (p : Platform) (d : Device) (appStoreReceiptData : Option Data)
    (es later : List StoreEvent) :
    let s := es.foldl (Store.step p) (.launch d appStoreReceiptData)
    s.isProductsReady = true →
      (later.foldl (Store.step p) s).productsPriceInfo = s.productsPriceInfo := by
  intro s hready
  have hinv : (later.foldl (Store.step p) s).Catalogued ∧
      (later.foldl (Store.step p) s).allProducts = s.allProducts := by
    refine foldl_invariant (I := fun t : Store => t.Catalogued ∧ t.allProducts = s.allProducts)
      (fun t e ht => ?_) ⟨Store.catalogued_run p d appStoreReceiptData es,rfl⟩ later
    have hready' : t.isProductsReady = true := (Store.isProductsReady_same ht.2).trans hready
    exact ⟨Store.catalogued_step p ht.1 e,(ht.1.settled p hready' e).trans ht.2⟩
  unfold Store.productsPriceInfo
  rw [hinv.2]

theorem later_answer_ignored :
    let p := Platform.plain Int.ofNat
    let priced (id : String) : SKProduct := ⟨id,"9.99",some "$",none,none⟩
    let es : List StoreEvent := [.products allIds { retrievedProducts :=
      [priced "com.nisos.gpt.advanced",priced "com.nisos.gpt.advanced.week"] },.openPaywall]
    let later : List StoreEvent := [.onViewDidAppear 0,.onContinueAction 0,
      .products {"com.nisos.gpt.advanced"} {},.products allIds {}]
    let s := es.foldl (Store.step p) (.launch {} none)
    s.isProductsReady = true ∧
      (later.foldl (Store.step p) s).productsPriceInfo = s.productsPriceInfo ∧
      s.productsPriceInfo = some [(.advancedWeek,"$9.99"),(.advancedYear,"$9.99")] := by
  intro p priced es later s
  have hready : s.isProductsReady = true := by decide
  exact ⟨hready,prices_stay p {} none es later hready,by decide⟩

end GenieD

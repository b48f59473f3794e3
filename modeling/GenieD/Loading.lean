import GenieD.Transactions

set_option autoImplicit false

namespace GenieD

open Sieve

inductive ViewModel where
  | paywall (i : Nat)
  | settings (i : Nat)
  deriving DecidableEq, Repr

namespace ViewModel

def one (o o' : ViewModel) : Nat := if o = o' then 1 else 0

def purchase (o : ViewModel) (caller : Caller) : Nat := o.one (.paywall caller.viewModel)

def restore (o : ViewModel) (caller : Caller) : Nat := o.one (.settings caller.viewModel)

def fetch (o : ViewModel) (i : Nat) : Nat := o.one (.paywall i)

end ViewModel

namespace Store

def isLoading (s : Store) : ViewModel → Bool
  | .paywall i => s.paywalls[i]?.any PaywallViewModel.isLoading
  | .settings i => s.settings[i]?.any SettingsViewModel.isLoading

/-- How many things a view model waits for, those that will never come included. -/
def awaited (s : Store) (o : ViewModel) : Nat :=
  s.held o.purchase o.restore o.fetch + (s.dropped.map o.restore).sum

/-- If the view model is loading afterwards then it was before, and waits for
that much more. -/
def Turns (o : ViewModel) (m : Nat) (s s' : Store) : Prop :=
  s'.isLoading o = true → s.isLoading o = true ∧ s'.awaited o = s.awaited o + m

variable {o : ViewModel} {s s' s'' : Store} {m n : Nat} (p : Platform)

theorem Turns.trans (h : Turns o m s s') (h' : Turns o n s' s'') : Turns o (m + n) s s'' := by
  intro hloading
  obtain ⟨hloading',hsum'⟩ := h' hloading
  obtain ⟨hloading,hsum⟩ := h hloading'
  exact ⟨hloading,by omega⟩

theorem Turns.foldl {α : Type} {g : Store → α → Store} {w : α → Nat}
    (h : ∀ s x, Turns o (w x) s (g s x)) (s : Store) (xs : List α) :
    Turns o (xs.map w).sum s (xs.foldl g s) := by
  induction xs generalizing s with
  | nil => exact fun hloading => ⟨hloading,rfl⟩
  | cons x xs ih => exact (h s x).trans (ih _)

theorem turns_of (hloading : s'.isLoading o = s.isLoading o)
    (hheld : s'.held o.purchase o.restore o.fetch = s.held o.purchase o.restore o.fetch + m)
    (hdropped : s'.dropped = s.dropped) : Turns o m s s' := by
  intro h
  refine ⟨hloading ▸ h,?_⟩
  simp only [awaited,hheld,hdropped]
  omega

theorem isLoading_modify {i : Nat} {f : PaywallViewModel → PaywallViewModel}
    (h : o ≠ .paywall i) : { s with paywalls := s.paywalls.modify i f }.isLoading o =
      s.isLoading o := by
  cases o with
  | settings j => rfl
  | paywall j =>
    have hij : i ≠ j := fun hij => h (by rw [hij])
    simp [isLoading,hij]

theorem isLoading_modify_settings {i : Nat} {f : SettingsViewModel → SettingsViewModel}
    (h : o ≠ .settings i) : { s with settings := s.settings.modify i f }.isLoading o =
      s.isLoading o := by
  cases o with
  | paywall j => rfl
  | settings j =>
    have hij : i ≠ j := fun hij => h (by rw [hij])
    simp [isLoading,hij]

theorem purchaseEnded_isLoading (success : Bool) (error : String) (vm : PaywallViewModel) :
    (vm.purchaseEnded p success error).isLoading = false := by
  unfold PaywallViewModel.purchaseEnded
  dsimp only
  split
  · rfl
  · split <;> rfl

theorem turns_completePurchase (s : Store) (caller : Caller) (success : Bool) (error : String) :
    Turns o (o.purchase caller) s (s.completePurchase p caller success error) := by
  by_cases howner : o = .paywall caller.viewModel
  · intro hloading
    subst howner
    cases hvm : s.paywalls[caller.viewModel]? <;>
      simp [isLoading,completePurchase,hvm,purchaseEnded_isLoading] at hloading
  · refine turns_of (isLoading_modify howner) ?_ rfl
    simp [ViewModel.purchase,ViewModel.one,howner]

theorem turns_completeRestore (s : Store) (caller : Caller) (message : String) (success : Bool) :
    Turns o (o.restore caller) s (s.completeRestore caller message success) := by
  by_cases howner : o = .settings caller.viewModel
  · intro hloading
    subst howner
    cases hvm : s.settings[caller.viewModel]? <;>
      simp [isLoading,completeRestore,hvm,SettingsViewModel.restoreEnded] at hloading
  · refine turns_of (isLoading_modify_settings howner) ?_ rfl
    simp [ViewModel.restore,ViewModel.one,howner]

theorem isLoading_same (hpaywalls : s'.paywalls = s.paywalls) (hsettings : s'.settings = s.settings)
    (o : ViewModel) : s'.isLoading o = s.isLoading o := by
  cases o with
  | paywall i => simp [isLoading,hpaywalls]
  | settings i => simp [isLoading,hsettings]

theorem turns_receiptVerified (s : Store) (now : Date) (completion : Verification)
    (result : VerifyReceiptResult) :
    Turns o (completion.weight o.purchase o.restore) s
      (s.receiptVerified p now completion result) := by
  have hverified (d : Device) (cs : List Completion) (m : Nat) (s' : Store) :
      Turns o m { s with device := d, completions := cs } s' → Turns o m s s' := by
    intro h hloading
    obtain ⟨hloading,hsum⟩ := h hloading
    exact ⟨(isLoading_same rfl rfl o).symm.trans hloading,hsum⟩
  unfold receiptVerified
  cases completion with
  | completeTransactions => exact turns_of (isLoading_same rfl rfl o) rfl rfl
  | purchase caller =>
    dsimp only
    split <;> exact hverified _ _ _ _ (turns_completePurchase p _ caller _ _)
  | restore caller =>
    dsimp only
    split <;> exact hverified _ _ _ _ (turns_completeRestore _ caller _ _)

theorem turns_purchaseResult (s : Store) (caller : Caller) (result : TransactionResult) :
    Turns o (o.purchase caller) s (s.purchaseResult p caller result) := by
  cases result with
  | purchased purchase =>
    exact turns_of (isLoading_same rfl rfl o) (held_verifyPurchases _ _ _ _ (.purchase caller)) rfl
  | failed error => exact turns_completePurchase p s caller _ _
  | restored purchase => exact turns_completePurchase p s caller _ _

theorem turns_completeTransaction (s : Store) (purchase : Purchase) :
    Turns o 0 s (s.completeTransaction purchase) := by
  unfold completeTransaction
  split
  · exact turns_of (isLoading_same rfl rfl o) (held_verifyPurchases _ _ _ _ _) rfl
  · exact turns_of (isLoading_same rfl rfl o) (held_verifyPurchases _ _ _ _ _) rfl
  all_goals exact fun hloading => ⟨hloading,rfl⟩

theorem turns_queueCall (s : Store) (call : QueueCall Caller) :
    Turns o (call.weight o.purchase) s (s.queueCall p call) := by
  cases call with
  | finishTransaction transaction => exact turns_of (isLoading_same rfl rfl o) rfl rfl
  | payment caller result => exact turns_purchaseResult p s caller result
  | complete purchases =>
    simpa [QueueCall.weight,queueCall] using Turns.foldl (o := o) (w := fun _ => 0)
      turns_completeTransaction s purchases

theorem turns_productsHandler (result : RetrieveResults) (s : Store) (handler : ProductsHandler) :
    Turns o (handler.weight o.purchase o.fetch) s (productsHandler p result s handler) := by
  have hretrieved : Turns o 0 s (s.productsRetrieved result) := by
    unfold productsRetrieved
    split
    · exact fun hloading => ⟨hloading,rfl⟩
    · exact turns_of (isLoading_same rfl rfl o) rfl rfl
  cases handler with
  | launch => exact hretrieved
  | fetchSubscriptions paywall =>
    by_cases howner : o = .paywall paywall
    · intro hloading
      subst howner
      simp only [productsHandler,isLoading] at hloading
      cases hvm : (s.productsRetrieved result).paywalls[paywall]? <;> simp [hvm] at hloading
    · intro hloading
      have hweight :
          ProductsHandler.weight o.purchase o.fetch (.fetchSubscriptions paywall) = 0 := by
        simp [ProductsHandler.weight,ViewModel.fetch,ViewModel.one,howner]
      rw [hweight]
      refine hretrieved ?_
      rwa [productsHandler,isLoading_modify howner] at hloading
  | purchaseProduct caller =>
    simp only [productsHandler,productFound]
    split
    · exact turns_of (isLoading_same rfl rfl o) (held_startPayment _ _ _ s _) rfl
    all_goals exact turns_completePurchase p s caller _ _

theorem turns_restoreResults (s : Store) (caller : Caller) (results : List TransactionResult) :
    Turns o (o.restore caller) s (s.restoreResults p caller results) := by
  unfold restoreResults
  dsimp only
  split
  · exact turns_completeRestore { s with reported := _ } caller _ _
  · split
    · exact turns_of (isLoading_same rfl rfl o) (held_verifyPurchases _ _ _ _ (.restore caller)) rfl
    · exact turns_completeRestore { s with reported := _ } caller _ _

/-- A view model is loading only while it waits for something. -/
def Spins (o : ViewModel) (s : Store) : Prop := s.isLoading o = true → 0 < s.awaited o

theorem Spins.turned (hs : s.Spins o) (h : Turns o m s s') : s'.Spins o := by
  intro hloading
  obtain ⟨hloading,hsum⟩ := h hloading
  have hpos := hs hloading
  omega

theorem Turns.after {s₀ : Store} (h : Turns o m s₀ s') (hloading : s₀.isLoading o = s.isLoading o)
    (hheld : s₀.held o.purchase o.restore o.fetch + m = s.held o.purchase o.restore o.fetch)
    (hdropped : s₀.dropped = s.dropped) : Turns o 0 s s' := by
  intro hl
  obtain ⟨hl₀,hsum⟩ := h hl
  refine ⟨hloading ▸ hl₀,?_⟩
  simp only [awaited,hdropped] at hsum ⊢
  omega

theorem spins_retrieve {i : Nat} {w : ProductsHandler} {f : PaywallViewModel → PaywallViewModel}
    (hs : s.Spins o) (hw : o = .paywall i → 0 < w.weight o.purchase o.fetch)
    (hloading : s'.isLoading o = { s with paywalls := s.paywalls.modify i f }.isLoading o)
    (hheld : s'.held o.purchase o.restore o.fetch =
      s.held o.purchase o.restore o.fetch + w.weight o.purchase o.fetch)
    (hdropped : s'.dropped = s.dropped) : s'.Spins o := by
  intro hl
  simp only [awaited,hheld,hdropped]
  by_cases howner : o = .paywall i
  · have := hw howner
    omega
  · rw [hloading,isLoading_modify howner] at hl
    have := hs hl
    simp only [awaited] at this
    omega

theorem turns_verificatorCalled (s : Store) (now : Date)
    (r : InAppReceiptVerificator Verification × Option (Verification × VerifyReceiptResult))
    (h : r.1.uncalled + InAppReceiptVerificator.called r.2 = s.verificator.uncalled) :
    Turns o 0 s (s.verificatorCalled p now r) := by
  have hheld := held_verificator o.purchase o.restore o.fetch s r h
  unfold verificatorCalled
  cases hr : r.2 with
  | none =>
    rw [hr] at hheld
    exact turns_of (isLoading_same rfl rfl o)
      (by simpa [InAppReceiptVerificator.called] using hheld) rfl
  | some called =>
    rw [hr] at hheld
    refine Turns.after (turns_receiptVerified p { s with verificator := r.1 } now _ _)
      (isLoading_same rfl rfl o) ?_ rfl
    simpa [InAppReceiptVerificator.called] using hheld

theorem spins_onRestorePurchases (hs : s.Spins o) (i : Nat) :
    (s.onRestorePurchases i).Spins o := by
  unfold onRestorePurchases
  split
  · rename_i hi
    intro hl
    have hsum : (s.onRestorePurchases i).awaited o =
        s.awaited o + o.restore ⟨s.calls,i⟩ := by
      simp only [onRestorePurchases,if_pos hi,PaymentQueueController.restore,awaited]
      cases hr : s.queue.restorePurchases with
      | none =>
        simp [held,hr]
        omega
      | some restorePurchases =>
        simp [held,hr]
        omega
    rw [onRestorePurchases,if_pos hi] at hsum
    rw [hsum]
    by_cases howner : o = .settings i
    · simp [ViewModel.restore,ViewModel.one,howner]
    · have hloading : s.isLoading o = true := by
        rw [← hl,← isLoading_modify_settings (s := s) howner]
        exact (isLoading_same rfl rfl o)
      have := hs hloading
      omega
  · exact hs

theorem spins_step {s : Store} (hready : s.queue.Ready) (h : s.Spins o) (e : StoreEvent) :
    (s.step p e).Spins o := by
  cases e with
  | openPaywall =>
    refine h.turned (m := 0) fun hl => ⟨?_,rfl⟩
    cases o with
    | settings j => exact hl
    | paywall j =>
      simp only [step,isLoading,List.getElem?_append] at hl ⊢
      split at hl
      · exact hl
      · cases hj : j - s.paywalls.length <;> simp [hj] at hl
  | openSettings =>
    refine h.turned (m := 0) fun hl => ⟨?_,rfl⟩
    cases o with
    | paywall j => exact hl
    | settings j =>
      simp only [step,isLoading,List.getElem?_append] at hl ⊢
      split at hl
      · exact hl
      · cases hj : j - s.settings.length <;> simp [hj] at hl
  | select paywall access period =>
    refine h.turned (turns_of (m := 0) ?_ rfl rfl)
    cases o with
    | settings j => rfl
    | paywall j =>
      simp only [step,isLoading,List.getElem?_modify]
      cases s.paywalls[j]? with
      | none => rfl
      | some vm => by_cases hj : paywall = j <;> simp [hj]
  | receipt _ => exact h.turned (turns_of (m := 0) (isLoading_same rfl rfl o) rfl rfl)
  | refreshEnded request success =>
    refine h.turned (turns_of (m := 0) (isLoading_same rfl rfl o) ?_ rfl)
    simp [step,held,InAppReceiptVerificator.uncalled_requestEnded]
  | onViewDidAppear paywall =>
    simp only [step,onViewDidAppear]
    split
    · exact h
    · refine spins_retrieve (w := .fetchSubscriptions paywall) h ?_
        (isLoading_same rfl rfl o) (held_retrieve _ _ _ _ _ _) rfl
      intro howner
      simp [ProductsHandler.weight,ViewModel.fetch,ViewModel.one,howner]
  | onContinueAction paywall =>
    simp only [step,onContinueAction]
    split
    · exact h
    · split
      · exact h
      · refine spins_retrieve (w := .purchaseProduct ⟨s.calls,paywall⟩) h ?_
          (isLoading_same rfl rfl o) (held_retrieve _ _ _ _ _ _) rfl
        intro howner
        simp [ProductsHandler.weight,ViewModel.purchase,ViewModel.one,howner]
  | onRestorePurchases settings => exact spins_onRestorePurchases h settings
  | products productIds result =>
    refine h.turned (m := 0) ?_
    exact Turns.after (Turns.foldl (turns_productsHandler p result) _ _)
      (isLoading_same rfl rfl o) (held_answered _ _ _ s productIds) rfl
  | updatedTransactions transactions =>
    refine h.turned (m := 0) ?_
    exact Turns.after (Turns.foldl (turns_queueCall p) _ _)
      (isLoading_same rfl rfl o) (held_updated _ _ _ hready transactions) rfl
  | restoreEnded error =>
    simp only [step,PaymentQueueController.restoreEnded]
    cases hr : s.queue.restorePurchases with
    | none => exact h
    | some restorePurchases =>
      refine h.turned (m := 0) ?_
      refine Turns.after (turns_restoreResults p _ _ _) (isLoading_same rfl rfl o) ?_ rfl
      simp only [held,hr,Option.toList,List.map_cons,List.map_nil,List.sum_singleton,
        List.sum_nil]
      omega
  | refreshCallback now =>
    exact h.turned (turns_verificatorCalled p s now _ s.verificator.uncalled_performCallback)
  | validated index now response =>
    exact h.turned (turns_verificatorCalled p s now _
      (s.verificator.uncalled_validated index response))

/-- What a loading view model is still to hear of: a request for products, a
payment, the end of a restore or a verification. A completion that was released
with the request for a receipt, or dropped with its restore, never comes. -/
def Expects (s : Store) : ViewModel → Prop
  | .paywall i => .fetchSubscriptions i ∈ s.productsInfo.handlers ∨
      ∃ caller : Caller, caller.viewModel = i ∧
        (.purchaseProduct caller ∈ s.productsInfo.handlers ∨
          (∃ payment ∈ s.queue.payments, payment.callback = caller) ∨
          .purchase caller ∈ s.verificator.uncalled)
  | .settings i => ∃ caller : Caller, caller.viewModel = i ∧
      ((∃ restore ∈ s.queue.restorePurchases, restore.callback = caller) ∨
        .restore caller ∈ s.verificator.uncalled ∨ caller ∈ s.dropped)

theorem exists_of_sum_pos {α : Type} {w : α → Nat} {xs : Multiset α} (h : 0 < (xs.map w).sum) :
    ∃ x ∈ xs, 0 < w x := by
  by_contra hnone
  push Not at hnone
  have hzero : (xs.map w).sum = 0 := by
    refine Multiset.sum_eq_zero fun n hn => ?_
    obtain ⟨x,hx,rfl⟩ := Multiset.mem_map.mp hn
    exact Nat.le_zero.mp (hnone x hx)
  omega

theorem one_pos {o o' : ViewModel} (h : 0 < o.one o') : o = o' := by
  by_contra hne
  simp [ViewModel.one,hne] at h

theorem expects_of_awaited (h : 0 < s.awaited o) : s.Expects o := by
  have hsome : 0 < ((↑s.productsInfo.handlers : Multiset ProductsHandler).map
        (ProductsHandler.weight o.purchase o.fetch)).sum ∨
      0 < ((↑s.queue.payments : Multiset (Payment Caller)).map
        fun payment => o.purchase payment.callback).sum ∨
      0 < ((↑s.queue.restorePurchases.toList : Multiset (RestorePurchases Caller)).map
        fun restore => o.restore restore.callback).sum ∨
      0 < (s.verificator.uncalled.map (Verification.weight o.purchase o.restore)).sum ∨
      0 < ((↑s.dropped : Multiset Caller).map o.restore).sum := by
    simp only [Multiset.map_coe,Multiset.sum_coe]
    simp only [awaited,held] at h
    omega
  rcases hsome with h | h | h | h | h <;> obtain ⟨x,hx,hpos⟩ := exists_of_sum_pos h
  · cases x with
    | launch => simp [ProductsHandler.weight] at hpos
    | fetchSubscriptions i =>
      cases one_pos hpos
      exact .inl hx
    | purchaseProduct caller =>
      cases one_pos hpos
      exact .inr ⟨caller,rfl,.inl hx⟩
  · cases one_pos hpos
    exact .inr ⟨x.callback,rfl,.inr (.inl ⟨x,hx,rfl⟩)⟩
  · cases one_pos hpos
    exact ⟨x.callback,rfl,.inl ⟨x,by simpa using hx,rfl⟩⟩
  · cases x with
    | completeTransactions => simp [Verification.weight] at hpos
    | purchase caller =>
      cases one_pos hpos
      exact .inr ⟨caller,rfl,.inr (.inr hx)⟩
    | restore caller =>
      cases one_pos hpos
      exact ⟨caller,rfl,.inr (.inl hx)⟩
  · cases one_pos hpos
    exact ⟨x,rfl,.inr (.inr hx)⟩

end Store

/-- In every run a paywall or the settings are loading only as long as they
expect something. -/
theorem loading_expects (p : Platform) (d : Device) (appStoreReceiptData : Option Data)
    (es : List StoreEvent) (o : ViewModel) :
    let s := es.foldl (Store.step p) (.launch d appStoreReceiptData)
    s.isLoading o = true → s.Expects o := by
  intro s hloading
  have hlaunch : (Store.launch d appStoreReceiptData).Spins o := by
    intro h
    cases o <;> simp [Store.launch,Store.retrieveProductInfo,Store.isLoading] at h
  have hrun : s.queue.Ready ∧ s.Spins o :=
    foldl_invariant (I := fun s : Store => s.queue.Ready ∧ s.Spins o)
      (fun s e hs => ⟨Store.ready_step p hs.1 e,Store.spins_step p hs.1 hs.2 e⟩)
      ⟨Store.ready_launch d appStoreReceiptData,hlaunch⟩ es
  exact Store.expects_of_awaited (hrun.2 hloading)

/-- Two settings ask to restore, the first is told; the second one is still
loading though nothing is under way. -/
theorem dropped_restore_loading :
    let p := Platform.plain Int.ofNat
    let es : List StoreEvent := [.openSettings,.onRestorePurchases 0,.openSettings,
      .onRestorePurchases 1,.restoreEnded none]
    let s := es.foldl (Store.step p) (.launch {} none)
    s.waiting = 0 ∧ s.isLoading (.settings 0) = false ∧ s.isLoading (.settings 1) = true ∧
      s.Expects (.settings 1) := by
  intro p es s
  have hloading : s.isLoading (.settings 1) = true := by decide
  exact ⟨by decide,by decide,hloading,loading_expects p {} none es (.settings 1) hloading⟩

end GenieD

import GenieD.BuyPro
import GenieD.StoreKit

set_option autoImplicit false

namespace GenieD

structure SKProduct where
  productIdentifier : String
  price : String
  currencySymbol : Option String
  currencyCode : Option String
  localizedPrice : Option String
  deriving DecidableEq, Repr

structure RetrieveResults where
  retrievedProducts : List SKProduct := []
  invalidProductIDs : List String := []
  error : Option SKError := none
  deriving DecidableEq, Repr

structure InAppProductQuery (η : Type) where
  productIds : Finset String
  completionHandlers : List η

/-- `inflightRequests` of a `ProductsInfoController`, a dictionary by `productIds`. -/
abbrev ProductsInfoController (η : Type) := List (InAppProductQuery η)

namespace ProductsInfoController

variable {η : Type}

def retrieveProductsInfo (productIds : Finset String) (completion : η) :
    ProductsInfoController η → ProductsInfoController η
  | [] => [⟨productIds,[completion]⟩]
  | query :: queries =>
    if query.productIds = productIds then
      ⟨productIds,query.completionHandlers ++ [completion]⟩ :: queries
    else query :: retrieveProductsInfo productIds completion queries

/-- The handlers that an answer is given to, and the requests still in flight. -/
def answered (productIds : Finset String) :
    ProductsInfoController η → List η × ProductsInfoController η
  | [] => ([],[])
  | query :: queries =>
    if query.productIds = productIds then (query.completionHandlers,queries)
    else
      let r := answered productIds queries
      (r.1,query :: r.2)

def keys (queries : ProductsInfoController η) : List (Finset String) :=
  queries.map InAppProductQuery.productIds

def handlers (queries : ProductsInfoController η) : List η :=
  queries.flatMap InAppProductQuery.completionHandlers

variable (productIds : Finset String) (completion : η) (queries : ProductsInfoController η)

theorem handlers_retrieve :
    (handlers (queries.retrieveProductsInfo productIds completion)).Perm
      (completion :: handlers queries) := by
  induction queries with
  | nil => simp [retrieveProductsInfo,handlers]
  | cons query queries ih =>
    unfold retrieveProductsInfo
    split
    · simp only [handlers,List.flatMap_cons,List.append_assoc,List.singleton_append]
      exact List.perm_middle
    · simp only [handlers,List.flatMap_cons] at ih ⊢
      exact (ih.append_left _).trans List.perm_middle

theorem handlers_answered :
    ((answered productIds queries).1 ++ handlers (answered productIds queries).2).Perm
      (handlers queries) := by
  induction queries with
  | nil => simp [answered,handlers]
  | cons query queries ih =>
    unfold answered
    split
    · simp [handlers]
    · simp only [handlers,List.flatMap_cons] at ih ⊢
      exact (List.perm_append_comm_assoc _ _ _).trans (ih.append_left _)

theorem keys_retrieve :
    keys (queries.retrieveProductsInfo productIds completion) =
      if productIds ∈ keys queries then keys queries else keys queries ++ [productIds] := by
  induction queries with
  | nil => rfl
  | cons query queries ih =>
    unfold retrieveProductsInfo
    by_cases hquery : query.productIds = productIds
    · simp [keys,hquery]
    · simp only [if_neg hquery]
      have hkeys (rest : ProductsInfoController η) :
          keys (query :: rest) = query.productIds :: keys rest := rfl
      rw [hkeys,hkeys,ih]
      by_cases hmem : productIds ∈ keys queries
      · simp [hmem]
      · simp [hmem,Ne.symm hquery]

theorem keys_answered_sublist :
    (keys (answered productIds queries).2).Sublist (keys queries) := by
  induction queries with
  | nil => exact .slnil
  | cons query queries ih =>
    unfold answered
    split
    · exact List.sublist_cons_self _ _
    · exact ih.cons_cons _

end ProductsInfoController

inductive VerifyReceiptURLType where
  | production | sandbox
  deriving DecidableEq, Repr

/-- What `verifyReceipt` of the App Store comes back with. `status` is none if
the answer has no number under that key. -/
inductive ValidatorResponse where
  | networkError
  | noRemoteData
  | jsonDecodeError
  | receiptInfo (status : Option Int) (receipt : ReceiptInfo)
  deriving DecidableEq, Repr

/-- None sends the receipt once more, to the sandbox. -/
def AppleReceiptValidator.result : ValidatorResponse → Option VerifyReceiptResult
  | .networkError | .noRemoteData | .jsonDecodeError => some .error
  | .receiptInfo none _ => some .error
  | .receiptInfo (some status) receipt =>
    if status = 21007 then none
    else if status = 0 then some (.success receipt)
    else some .error

structure Validation (κ : Type) where
  receiptData : Data
  service : VerifyReceiptURLType := .production
  completion : κ
  deriving DecidableEq, Repr

/-- `receiptRefreshRequest` holds the only reference to a request that waits for
the store: `started` are those still referenced, `released` the completions of
those that were not answered before they lost it. A request that was answered is
kept by the block that it `posted` to the main queue. -/
structure InAppReceiptVerificator (κ : Type) where
  appStoreReceiptData : Option Data := none
  receiptRefreshRequest : Option Nat := none
  requests : Nat := 0
  started : List (Nat × κ) := []
  posted : List (Nat × κ × Bool) := []
  validating : List (Validation κ) := []
  released : List κ := []
  deriving DecidableEq, Repr

namespace InAppReceiptVerificator

variable {κ : Type}

def setReceiptRefreshRequest (v : InAppReceiptVerificator κ) (request : Option Nat) :
    InAppReceiptVerificator κ :=
  { v with
    receiptRefreshRequest := request
    started := v.started.filter (fun r => some r.1 = request)
    released := v.released ++ (v.started.filter (fun r => ¬ some r.1 = request)).map Prod.snd }

def verify (v : InAppReceiptVerificator κ) (receiptData : Data) (completion : κ) :
    InAppReceiptVerificator κ :=
  { v with validating := v.validating ++ [{ receiptData, completion }] }

def verifyReceipt (v : InAppReceiptVerificator κ) (completion : κ) : InAppReceiptVerificator κ :=
  match v.appStoreReceiptData with
  | some receiptData => v.verify receiptData completion
  | none =>
    { v with
      requests := v.requests + 1
      started := v.started ++ [(v.requests,completion)] }.setReceiptRefreshRequest
        (some v.requests)

def requestEnded (v : InAppReceiptVerificator κ) (request : Nat) (success : Bool) :
    InAppReceiptVerificator κ :=
  match v.started.find? (fun r => r.1 = request) with
  | none => v
  | some (_,completion) =>
    { v with
      started := v.started.eraseP (fun r => r.1 = request)
      posted := v.posted ++ [(request,completion,success)] }

def performCallback (v : InAppReceiptVerificator κ) :
    InAppReceiptVerificator κ × Option (κ × VerifyReceiptResult) :=
  match v.posted with
  | [] => (v,none)
  | (_,completion,success) :: rest =>
    let v := { v with posted := rest }.setReceiptRefreshRequest none
    match success, v.appStoreReceiptData with
    | true, some receiptData => (v.verify receiptData completion,none)
    | true, none | false, _ => (v,some (completion,.error))

def validated (v : InAppReceiptVerificator κ) (index : Nat) (response : ValidatorResponse) :
    InAppReceiptVerificator κ × Option (κ × VerifyReceiptResult) :=
  match v.validating[index]? with
  | none => (v,none)
  | some validation =>
    match AppleReceiptValidator.result response with
    | none =>
      ({ v with validating := v.validating.set index { validation with service := .sandbox } },none)
    | some result =>
      ({ v with validating := v.validating.eraseIdx index },some (validation.completion,result))

def pending (v : InAppReceiptVerificator κ) : Multiset κ :=
  ↑(v.started.map Prod.snd) + ↑(v.posted.map (·.2.1)) + ↑(v.validating.map Validation.completion)

def uncalled (v : InAppReceiptVerificator κ) : Multiset κ := v.pending + ↑v.released

def called : Option (κ × VerifyReceiptResult) → Multiset κ
  | none => 0
  | some (completion,_) => {completion}

variable (v : InAppReceiptVerificator κ)

theorem uncalled_setReceiptRefreshRequest (request : Option Nat) :
    (v.setReceiptRefreshRequest request).uncalled = v.uncalled := by
  have hsplit := (List.filter_append_perm (fun r => decide (some r.1 = request)) v.started).map
    Prod.snd
  rw [List.map_append] at hsplit
  have hcoe : (↑((v.started.filter fun r => decide (some r.1 = request)).map Prod.snd) :
      Multiset κ) + ↑((v.started.filter fun r => !decide (some r.1 = request)).map Prod.snd) =
      ↑(v.started.map Prod.snd) := by
    rw [Multiset.coe_add]
    exact Multiset.coe_eq_coe.mpr hsplit
  simp only [uncalled,pending,setReceiptRefreshRequest,← Multiset.coe_add,decide_not]
  rw [← hcoe]
  abel

theorem uncalled_verify (receiptData : Data) (completion : κ) :
    (v.verify receiptData completion).uncalled = v.uncalled + {completion} := by
  simp only [uncalled,pending,verify,List.map_append,List.map_cons,List.map_nil,
    ← Multiset.coe_add,Multiset.coe_singleton]
  abel

theorem uncalled_verifyReceipt (completion : κ) :
    (v.verifyReceipt completion).uncalled = v.uncalled + {completion} := by
  unfold verifyReceipt
  split
  · exact v.uncalled_verify _ completion
  · rw [uncalled_setReceiptRefreshRequest]
    simp only [uncalled,pending,List.map_append,List.map_cons,List.map_nil,← Multiset.coe_add,
      Multiset.coe_singleton]
    abel

theorem uncalled_requestEnded (request : Nat) (success : Bool) :
    (v.requestEnded request success).uncalled = v.uncalled := by
  unfold requestEnded
  split
  · rfl
  · rename_i r completion hfind
    obtain ⟨hr,before,after,hstarted,hbefore⟩ := List.find?_eq_some_iff_append.mp hfind
    have herase : v.started.eraseP (fun r => r.1 = request) = before ++ after := by
      rw [hstarted,List.eraseP_append_right _ (by simpa using hbefore)]
      simp only [decide_eq_true_eq] at hr
      simp [hr]
    have hcoe : (↑(v.started.map Prod.snd) : Multiset κ) =
        {completion} + ↑((before ++ after).map Prod.snd) := by
      rw [hstarted,Multiset.singleton_add,Multiset.cons_coe]
      simp
    simp only [uncalled,pending,herase,hcoe,List.map_append,List.map_cons,
      List.map_nil,← Multiset.coe_add,Multiset.coe_singleton]
    abel

theorem uncalled_performCallback :
    v.performCallback.1.uncalled + called v.performCallback.2 = v.uncalled := by
  unfold performCallback
  split
  · simp [called]
  · rename_i r completion success rest hposted
    dsimp only
    have hrest : (({ v with posted := rest } : InAppReceiptVerificator κ).setReceiptRefreshRequest
        none).uncalled + {completion} = v.uncalled := by
      rw [uncalled_setReceiptRefreshRequest]
      simp only [uncalled,pending,hposted,List.map_cons,← Multiset.cons_coe,
        ← Multiset.singleton_add]
      abel
    split
    · rw [uncalled_verify,← hrest]
      simp [called]
    · exact hrest
    · exact hrest

theorem uncalled_validated (index : Nat) (response : ValidatorResponse) :
    (v.validated index response).1.uncalled + called (v.validated index response).2 =
      v.uncalled := by
  unfold validated
  split
  · simp [called]
  · rename_i validation hget
    obtain ⟨hindex,rfl⟩ := List.getElem?_eq_some_iff.mp hget
    split
    · have hset : (v.validating.set index { v.validating[index] with service := .sandbox }).map
          Validation.completion = v.validating.map Validation.completion := by
        rw [List.map_set]
        refine List.ext_getElem (by simp) fun i hi hi' => ?_
        rw [List.getElem_set]
        split
        · rename_i heq
          simp [heq]
        · rfl
      simp [called,uncalled,pending,hset]
    · have hperm := (List.getElem_cons_eraseIdx_perm hindex).map Validation.completion
      rw [List.map_cons] at hperm
      simp only [uncalled,pending,called,← Multiset.coe_eq_coe.mpr hperm,← Multiset.cons_coe,
        ← Multiset.singleton_add]
      abel

end InAppReceiptVerificator

end GenieD

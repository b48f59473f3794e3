import GenieD.BuyPro

set_option autoImplicit false

namespace GenieD

def purchases (now : Date) (receipt : ReceiptInfo) (products : List BuyProProduct) :
    List Subsciption := products.filterMap (bought now receipt)

def Device.verifyProducts (d : Device) (now : Date) (receipt : ReceiptInfo)
    (products : List BuyProProduct) : Device :=
  (d.setActiveSubscription none).updateSubscriptionsWithReceipt now products receipt

theorem verifyPurchases_success (d : Device) (now : Date) (receipt : ReceiptInfo) :
    d.verifyPurchases now (.success receipt) = d.verifyProducts now receipt allProducts := rfl

section

variable (now : Date) (receipt : ReceiptInfo)

/-- The comparison is strict: of several with one priority the first stays. -/
theorem update_active (d : Device) (products : List BuyProProduct) :
    (d.updateSubscriptionsWithReceipt now products receipt).activeSubscription =
      (purchases now receipt products).foldl
        (List.argAux fun s t => t.priority < s.priority) d.activeSubscription := by
  unfold Device.updateSubscriptionsWithReceipt purchases
  induction products generalizing d with
  | nil => rfl
  | cons product products ih =>
    rw [List.foldl_cons,ih,considerProduct_active]
    cases hb : bought now receipt product with
    | none => simp [hb]
    | some s =>
      simp only [List.filterMap_cons,hb,List.foldl_cons]
      congr 1
      cases hactive : d.activeSubscription with
      | none => rfl
      | some active => simp [List.argAux]

theorem verifyProducts_active (d : Device) (products : List BuyProProduct) :
    (d.verifyProducts now receipt products).activeSubscription =
      (purchases now receipt products).argmax Subsciption.priority :=
  update_active now receipt _ products

theorem verifyProducts_persisted (d : Device) (products : List BuyProProduct) :
    (d.verifyProducts now receipt products).persistedSubscription =
      (purchases now receipt products).argmax Subsciption.priority := by
  rw [← verifyProducts_active now receipt d]
  exact update_persisted now receipt products _ rfl

end

def IsTop (purchased : List Subsciption) (s : Subsciption) : Prop :=
  s ∈ purchased ∧ ∀ t ∈ purchased, t.priority ≤ s.priority

variable {now : Date} {receipt : ReceiptInfo} {d : Device} {products : List BuyProProduct}

theorem isTop_argmax {purchased : List Subsciption} {s : Subsciption}
    (h : s ∈ purchased.argmax Subsciption.priority) : IsTop purchased s :=
  ⟨List.argmax_mem h,fun _ ht => List.le_of_mem_argmax ht h⟩

theorem IsTop.perm {purchased purchased' : List Subsciption} {s : Subsciption}
    (h : IsTop purchased s) (hperm : purchased.Perm purchased') : IsTop purchased' s :=
  ⟨hperm.mem_iff.mp h.1,fun t ht => h.2 t (hperm.mem_iff.mpr ht)⟩

theorem IsTop.argmax_cons {purchased : List Subsciption} {s : Subsciption}
    (h : IsTop (s :: purchased) s) :
    (s :: purchased).argmax Subsciption.priority = some s := by
  rw [List.argmax_cons]
  cases hc : purchased.argmax Subsciption.priority with
  | none => rfl
  | some t =>
    have hle := h.2 t (List.mem_cons_of_mem s (List.argmax_mem hc))
    simp only
    rw [if_neg (Int.not_lt.mpr hle)]

/-- After a receipt was verified with the products in this order: there is a
subscription exactly if a product is purchased, it has the highest priority and
among those the latest expiry, and a new launch finds it until then. -/
structure Best (now : Date) (receipt : ReceiptInfo) (d : Device) (products : List BuyProProduct) :
    Prop where
  bought : d.activeSubscription ≠ none ↔ ∃ product ∈ products, ∃ expiryDate,
    verifySubscription now product.id receipt = .purchased expiryDate
  priority : ∀ s ∈ d.activeSubscription, IsTop (purchases now receipt products) s
  latest : ∀ s ∈ d.activeSubscription, ∀ t, IsTop (purchases now receipt products) t →
    t.expirationDate ≤ s.expirationDate
  relaunched : ∀ t, IsTop (purchases now receipt products) t → ∀ later < t.expirationDate,
    (d.launch later).activeSubscription ≠ none

def BestWins (d : Device) (now : Date) (receipt : ReceiptInfo) (products : List BuyProProduct) :
    Prop :=
  ∀ order : List BuyProProduct, order.Perm products →
    Best now receipt (d.verifyProducts now receipt order) products ∧
    (d.verifyProducts now receipt order).activeSubscription =
      (d.verifyProducts now receipt products).activeSubscription

/-- No two products that the receipt shows as purchased share the highest priority. -/
def Unrivalled (now : Date) (receipt : ReceiptInfo) (products : List BuyProProduct) : Prop :=
  ∀ s t, IsTop (purchases now receipt products) s → IsTop (purchases now receipt products) t →
    s = t

theorem purchases_perm {order : List BuyProProduct} (h : order.Perm products) :
    (purchases now receipt order).Perm (purchases now receipt products) := h.filterMap _

theorem purchases_eq_nil :
    purchases now receipt products = [] ↔ ¬ ∃ product ∈ products, ∃ expiryDate,
      verifySubscription now product.id receipt = .purchased expiryDate := by
  simp only [purchases,List.filterMap_eq_nil_iff,not_exists,not_and]
  refine forall₂_congr fun product _ => ?_
  unfold bought
  cases verifySubscription now product.id receipt <;> simp

theorem unrivalled_argmax (h : Unrivalled now receipt products) {order : List BuyProProduct}
    (hperm : order.Perm products) :
    (purchases now receipt order).argmax Subsciption.priority =
      (purchases now receipt products).argmax Subsciption.priority := by
  have hsame : (purchases now receipt order).Perm (purchases now receipt products) :=
    purchases_perm hperm
  cases ho : (purchases now receipt order).argmax Subsciption.priority with
  | none =>
    rw [List.argmax_eq_none.mp ho] at hsame
    rw [List.nil_perm.mp hsame]
    rfl
  | some s =>
    have hs := (isTop_argmax ho).perm hsame
    cases hp : (purchases now receipt products).argmax Subsciption.priority with
    | none => exact absurd (List.argmax_eq_none.mp hp) (List.ne_nil_of_mem hs.1)
    | some t => rw [h s t hs (isTop_argmax hp)]

theorem unrivalled_best (h : Unrivalled now receipt products) {order : List BuyProProduct}
    (hperm : order.Perm products) :
    Best now receipt (d.verifyProducts now receipt order) products := by
  have hactive := verifyProducts_active now receipt d order
  have hpersisted := verifyProducts_persisted now receipt d order
  rw [unrivalled_argmax h hperm] at hactive hpersisted
  refine ⟨?_,?_,?_,?_⟩
  · rw [hactive,ne_eq,List.argmax_eq_none,purchases_eq_nil,not_not]
  · intro s hs
    exact isTop_argmax (hactive ▸ hs)
  · intro s hs t ht
    rw [h t s ht (isTop_argmax (hactive ▸ hs))]
  · intro t ht later hlater
    obtain ⟨s,hs⟩ : ∃ s, (purchases now receipt products).argmax Subsciption.priority = some s := by
      rw [← Option.ne_none_iff_exists',ne_eq,List.argmax_eq_none]
      exact List.ne_nil_of_mem ht.1
    have hst : s = t := h s t (isTop_argmax hs) ht
    simp [Device.launch,Device.storedSubscription,hpersisted,hs,hst,hlater]

theorem argmax_swap {product : BuyProProduct} {s : Subsciption} (hmem : product ∈ products)
    (hb : bought now receipt product = some s) (hs : IsTop (purchases now receipt products) s) :
    ∃ order : List BuyProProduct, order.Perm products ∧
      (d.verifyProducts now receipt order).activeSubscription = some s := by
  have hperm := (List.perm_cons_erase hmem).symm
  refine ⟨_,hperm,?_⟩
  have hfirst : purchases now receipt (product :: products.erase product) =
      s :: purchases now receipt (products.erase product) := by
    simp [purchases,hb]
  have htop := hs.perm (purchases_perm hperm).symm
  rw [verifyProducts_active,hfirst]
  rw [hfirst] at htop
  exact htop.argmax_cons

theorem best_subscription_iff (d : Device) (now : Date) (receipt : ReceiptInfo)
    (products : List BuyProProduct) :
    BestWins d now receipt products ↔ Unrivalled now receipt products := by
  constructor
  · intro hwins
    have hsame (s : Subsciption) (hs : IsTop (purchases now receipt products) s) :
        some s = (d.verifyProducts now receipt products).activeSubscription := by
      obtain ⟨product,hmem,hb⟩ := List.mem_filterMap.mp hs.1
      obtain ⟨order,hperm,hactive⟩ := @argmax_swap now receipt d products product s hmem hb hs
      exact hactive.symm.trans (hwins order hperm).2
    intro s t hs ht
    exact Option.some.inj ((hsame s hs).trans (hsame t ht).symm)
  · intro h order hperm
    refine ⟨unrivalled_best h hperm,?_⟩
    rw [verifyProducts_active,verifyProducts_active,unrivalled_argmax h hperm]

/-- The weekly plan still runs when the yearly one has been bought: the weekly
one stays, and a launch after its end finds no subscription. -/
theorem weekly_hides_yearly :
    let receipt : ReceiptInfo := ⟨some [⟨some "com.nisos.gpt.advanced.week",false,true,some 10⟩,
      ⟨some "com.nisos.gpt.advanced",false,true,some 100⟩],some 0⟩
    let d := Device.verifyPurchases {} 0 (.success receipt)
    d.activeSubscription = some ⟨.advancedWeek,10⟩ ∧ (d.launch 50).activeSubscription = none ∧
      ¬ BestWins {} 0 receipt allProducts := by
  intro receipt d
  have hlaunch : (d.launch 50).activeSubscription = none := by decide
  refine ⟨by decide,hlaunch,fun hwins => ?_⟩
  have hyear : IsTop (purchases 0 receipt allProducts) ⟨.advancedYear,100⟩ := by
    unfold IsTop
    decide
  exact (hwins allProducts (.refl _)).1.relaunched _ hyear 50 (by decide) hlaunch

end GenieD

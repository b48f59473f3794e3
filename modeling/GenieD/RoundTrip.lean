import GenieD.Persistence
import GenieD.Reopening

set_option autoImplicit false

namespace GenieD

open App

variable {p : Platform}

def MessageItem.attributes (m : MessageItem) : String × String × Bool × Date × Int :=
  (m.id,m.text,m.isMy,m.created,m.usageTokens)

theorem item_attributes {m : Message} {x : MessageItem} (h : m.content = x.content p) :
    (m.item p).attributes = x.attributes := by
  simp [Message.item,MessageContent.item,MessageItem.attributes,MessageItem.content,h]

theorem items_attributes {rows : List Message} {items : List MessageItem}
    (h : rows.map Message.content = items.map (MessageItem.content p)) :
    rows.map (fun m => (m.item p).attributes) = items.map MessageItem.attributes := by
  induction rows generalizing items with
  | nil => simpa using h
  | cons m rows ih =>
    cases items with
    | nil => simp at h
    | cons x items =>
      simp only [List.map_cons,List.cons.injEq] at h ⊢
      exact ⟨item_attributes h.1,ih h.2⟩

theorem sortedItems_attributes (rows : List Message) :
    (sortedItems p rows).map MessageItem.attributes =
      (rows.map (fun m => (m.item p).attributes)).insertionSort
        (fun x y => x.2.2.2.1 ≤ y.2.2.2.1) := by
  unfold sortedItems
  rw [List.map_insertionSort _ (fun x y => x.2.2.2.1 ≤ y.2.2.2.1) MessageItem.attributes,
    List.map_map]
  · rfl
  · exact fun _ _ _ _ => Iff.rfl

/-- The rows of a chat that is opened right after a save, or after a launch. -/
theorem saved_rows {a : App} {chat : Nat} (hchat : (a.saveChat p).vm.chat = some chat)
    (hstored : (a.saveChat p).moc.store.HasChat chat) :
    ((a.saveChat p).moc.store.linked chat).map Message.content =
      (answered a.vm.messages).map (MessageItem.content p) :=
  (links_answered ⟨chat,hchat,hstored,rfl⟩).2.1

theorem sorted_eq_iff {rows : List Message} {items : List MessageItem}
    (h : rows.map Message.content = items.map (MessageItem.content p))
    (hids : (items.map MessageItem.id).Nodup) :
    (∀ allObjects : List Message, allObjects.Perm rows →
        (sortedItems p allObjects).map MessageItem.attributes =
          items.map MessageItem.attributes) ↔
      items.Pairwise (fun x y => x.created < y.created) := by
  have hattributes := items_attributes h
  have hincreasing : items.Pairwise (fun x y => x.created < y.created) ↔
      (items.map MessageItem.attributes).Pairwise (fun x y => x.2.2.2.1 < y.2.2.2.1) := by
    rw [List.pairwise_map]
    rfl
  have hnodup : (items.map MessageItem.attributes).Nodup := by
    refine List.Nodup.of_map Prod.fst ?_
    rw [List.map_map]
    exact hids
  rw [hincreasing]
  constructor
  · intro hall
    have hreverse := hall rows.reverse (List.reverse_perm rows)
    rw [sortedItems_attributes,List.map_reverse,hattributes] at hreverse
    exact Sorting.increasing_of_sort_reverse hnodup hreverse
  · intro hstrict allObjects hperm
    rw [sortedItems_attributes]
    refine Sorting.sort_eq_of_increasing hstrict ?_
    rw [← hattributes]
    exact hperm.map _

/-- A chat comes back as it was saved, however its rows are listed, exactly if
its dates increase, and it always comes back sorted by date. -/
theorem round_trip_iff {a : App} {chat : Nat} (d : Device) {moc : ManagedObjectContext}
    (isDialog : Bool) (hchat : (a.saveChat p).vm.chat = some chat)
    (hstored : (a.saveChat p).moc.store.HasChat chat)
    (hmoc : moc.graph.linked chat = (a.saveChat p).moc.store.linked chat)
    (hids : ((answered a.vm.messages).map MessageItem.id).Nodup) :
    let saved := answered a.vm.messages
    let loaded := fun allObjects : List Message =>
      (openScreen p d moc isDialog (some chat) allObjects).vm.messages
    ((a.saveChat p).moc.store.linked chat).map Message.content =
        saved.map (MessageItem.content p) ∧
      ((∀ allObjects : List Message, allObjects.Perm (moc.graph.linked chat) →
          (loaded allObjects).map MessageItem.attributes = saved.map MessageItem.attributes) ↔
        saved.Pairwise (fun x y => x.created < y.created)) ∧
      ∀ allObjects : List Message, allObjects.Perm (moc.graph.linked chat) →
        ((loaded allObjects).map MessageItem.attributes).Perm
            (saved.map MessageItem.attributes) ∧
          (loaded allObjects).Pairwise (fun x y => x.created ≤ y.created) := by
  intro saved loaded
  have hrows := saved_rows hchat hstored
  rw [hmoc]
  have hloaded (allObjects : List Message)
      (hperm : allObjects.Perm ((a.saveChat p).moc.store.linked chat)) :
      loaded allObjects = sortedItems p allObjects :=
    opened_messages d moc isDialog chat
      fun m hm => complete_of_content hrows m (hperm.mem_iff.mp hm)
  refine ⟨hrows,?_,?_⟩
  · rw [← sorted_eq_iff hrows hids]
    exact forall₂_congr fun allObjects hperm => by rw [hloaded allObjects hperm]
  · intro allObjects hperm
    rw [hloaded allObjects hperm]
    refine ⟨?_,sortedItems_sorted p allObjects⟩
    rw [sortedItems_attributes,← items_attributes hrows]
    exact (List.perm_insertionSort _ _).trans (hperm.map _)

theorem exchange_comes_back :
    let p := Platform.plain Int.ofNat
    let a := ((Opening.fresh p (.withFreeTokens 3000)).screen.step p (.setText "Hello")).step p
      .onSendAction |>.step p (.complete 0 (.responded (some ⟨["Hi"],⟨some 1,some 5⟩⟩)))
    let b := a.saveChat p
    ((openScreen p b.device b.moc true (some 2) (b.moc.graph.linked 2).reverse).vm.messages.map
      MessageItem.attributes) = [("","Hello",true,0,5),("0","Hi",false,1,1)] := by
  intro p a
  have hchat : (a.saveChat p).vm.chat = some 2 := by decide
  have hstored : (a.saveChat p).moc.store.HasChat 2 := by decide
  have hmoc : (a.saveChat p).moc.graph.linked 2 = (a.saveChat p).moc.store.linked 2 := by
    decide +kernel
  have hids : ((answered a.vm.messages).map MessageItem.id).Nodup := by decide
  have hiff := (round_trip_iff (a.saveChat p).device true hchat hstored hmoc hids).2.1
  have hback := hiff.mpr (by decide) _ (List.reverse_perm _)
  exact hback.trans (by decide)

end GenieD

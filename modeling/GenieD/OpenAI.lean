import GenieD.Device
import GenieD.Window

set_option autoImplicit false

namespace GenieD

open Window

def Device.maxTokens (d : Device) : Int :=
  match d.access with
  | none => d.firestore.freeTokens
  | some .lite => d.firestore.liteTokens
  | some .pro | some .advanced => d.firestore.proTokens

def addTokens : Int := 50
def modelMaxTokens : Int := 4097

/-- `Int(Double(maxTokens) * 0.5)` rounds toward zero. From 2^53 on the product
is rounded too, but no sum of tokens comes near such a reserve. -/
def availableTokens (maxTokens : Int) : Int := modelMaxTokens - maxTokens.tdiv 2 - addTokens

/-- The loop over `chat.reversed()`, with its two variables. -/
def windowLoop (available : Int) :
    List MessageItem → List PostedMessage → Int → List PostedMessage × Int
  | [], messages, sumTokens => (messages,sumTokens)
  | item :: rest, messages, sumTokens =>
    if sumTokens + item.usageTokens > available then (messages,sumTokens)
    else windowLoop available rest (item.posted :: messages) (sumTokens + item.usageTokens)

def Device.turboBody (d : Device) (chat : List MessageItem) : TurboBody :=
  let maxTokens := d.maxTokens
  let (messages,sumTokens) := windowLoop (availableTokens maxTokens) chat.reverse [] 0
  { messages
    maxTokens := min maxTokens (modelMaxTokens - addTokens - sumTokens)
    temperature := d.temperature }

inductive Flight where
  | describe (data : Data) (fileType : FileType) (text : String)
  | fetchSystem (chat : List MessageItem)
  | post (chat : List MessageItem) (refreshToken : Bool) (body : TurboBody)
  deriving DecidableEq, Repr

/-- `checkRefreshKeyAndRestartBlock`; none means that it calls `completion(nil)` at once. -/
def checkRefreshKeyAndRestart (chat : List MessageItem) (refreshToken : Bool) : Option Flight :=
  if refreshToken then some (.fetchSystem chat) else none

def Device.sendTurbo (d : Device) (chat : List MessageItem) (refreshToken : Bool) : Option Flight :=
  if chat.isEmpty then none
  else if d.firestore.aikey = none then checkRefreshKeyAndRestart chat refreshToken
  else some (.post chat refreshToken (d.turboBody chat))

/-- What the loop leaves behind: the messages it kept, oldest first, and their sum. -/
theorem windowLoop_eq (available : Int) (items : List MessageItem) (messages : List PostedMessage)
    (sumTokens : Int) :
    windowLoop available items messages sumTokens =
      (((upTo MessageItem.usageTokens available sumTokens items).reverse.map MessageItem.posted) ++
        messages,
        sumTokens + total MessageItem.usageTokens
          (upTo MessageItem.usageTokens available sumTokens items)) := by
  induction items generalizing messages sumTokens with
  | nil => simp [windowLoop,upTo]
  | cons item rest ih =>
    by_cases h : available < sumTokens + item.usageTokens
    · simp [windowLoop,upTo,h]
    · simp [windowLoop,upTo,h,ih,Int.add_assoc]

def Device.window (d : Device) (chat : List MessageItem) : List MessageItem :=
  recent MessageItem.usageTokens (availableTokens d.maxTokens) chat

theorem turboBody_messages (d : Device) (chat : List MessageItem) :
    (d.turboBody chat).messages = (d.window chat).map MessageItem.posted := by
  simp [Device.turboBody,windowLoop_eq,Device.window,recent]

theorem turboBody_maxTokens (d : Device) (chat : List MessageItem) :
    (d.turboBody chat).maxTokens =
      min d.maxTokens (4047 - total MessageItem.usageTokens (d.window chat)) := by
  simp [Device.turboBody,windowLoop_eq,Device.window,recent,modelMaxTokens,addTokens]

theorem window_cut (d : Device) (chat : List MessageItem) :
    Cut MessageItem.usageTokens (availableTokens d.maxTokens) chat (d.window chat) :=
  recent_cut _ _ _

theorem window_last {d : Device} (history : List MessageItem) {question : MessageItem}
    (hzero : question.usageTokens = 0) (havail : 0 ≤ availableTokens d.maxTokens) :
    ∃ older, d.window (history ++ [question]) = older ++ [question] ∧
      total MessageItem.usageTokens (d.window (history ++ [question])) ≤
        availableTokens d.maxTokens := by
  have hkeep : ¬ availableTokens d.maxTokens < question.usageTokens := by omega
  have hw := recent_concat MessageItem.usageTokens (availableTokens d.maxTokens) history question
  rw [if_neg hkeep] at hw
  refine ⟨_,hw,?_⟩
  exact (window_cut d _).fits _ List.suffix_rfl (by simp [Device.window,hw])

theorem window_empty {d : Device} (history : List MessageItem) {question : MessageItem}
    (hzero : question.usageTokens = 0) (havail : availableTokens d.maxTokens < 0) :
    d.window (history ++ [question]) = [] := by
  rw [Device.window,recent_concat,if_pos (by omega)]

def Reaches (question : MessageItem) (body : TurboBody) : Prop :=
  body.messages ≠ [] ∧ body.messages.getLast? = some ⟨.user,question.text⟩ ∧ 1 ≤ body.maxTokens

/-- Where a reading of the chat from its newest message has to stop at the
budget, it has spent the budget to the last token. -/
def SpendsExactly (chat : List MessageItem) (budget : Int) : Prop :=
  ∃ w, Cut MessageItem.usageTokens budget chat w ∧ total MessageItem.usageTokens w = budget

/-- The newest question reaches the model exactly if the limit is between 2 and
8095, or is 1 and the recorded history does not fill the window exactly. -/
theorem posted_reaches_iff (d : Device) (history : List MessageItem) (question : MessageItem)
    (refreshToken : Bool) (body : TurboBody) (hmy : question.isMy = true)
    (hzero : question.usageTokens = 0)
    (hfree : 1 ≤ d.firestore.freeTokens) (hlite : 1 ≤ d.firestore.liteTokens)
    (hpro : 1 ≤ d.firestore.proTokens)
    (hpost : d.sendTurbo (history ++ [question]) refreshToken =
      some (.post (history ++ [question]) refreshToken body)) :
    Reaches question body ↔
      (2 ≤ d.maxTokens ∧ d.maxTokens ≤ 8095) ∨
        (d.maxTokens = 1 ∧ ¬ SpendsExactly (history ++ [question]) 4047) := by
  have hbody : body = d.turboBody (history ++ [question]) := by
    unfold Device.sendTurbo at hpost
    split at hpost
    · contradiction
    · split at hpost
      · simp only [checkRefreshKeyAndRestart] at hpost
        split at hpost <;> simp at hpost
      · simpa using hpost.symm
  have hm : 1 ≤ d.maxTokens := by
    unfold Device.maxTokens
    split <;> assumption
  subst hbody
  have hhalf : d.maxTokens.tdiv 2 = d.maxTokens / 2 := Int.tdiv_eq_ediv_of_nonneg (by omega)
  have havail : availableTokens d.maxTokens = 4047 - d.maxTokens / 2 := by
    simp only [availableTokens,modelMaxTokens,addTokens,hhalf]; omega
  by_cases hbig : 8096 ≤ d.maxTokens
  · -- the reserve alone exceeds the window: the loop stops before its first element
    have hempty := window_empty (d := d) history hzero (by omega)
    simp only [Reaches,turboBody_messages,hempty,List.map_nil,ne_eq,not_true_eq_false,false_and,
      false_iff]
    omega
  · obtain ⟨older,hw,hle⟩ := window_last (d := d) history hzero (by omega)
    have hreach : Reaches question (d.turboBody (history ++ [question])) ↔
        total MessageItem.usageTokens (d.window (history ++ [question])) ≤ 4046 := by
      simp only [Reaches,turboBody_messages,turboBody_maxTokens]
      rw [hw]
      simp only [List.map_append,List.map_singleton,MessageItem.posted,hmy,if_true,
        List.getLast?_concat,ne_eq,List.append_eq_nil_iff,List.cons_ne_self,and_false,
        not_false_eq_true,true_and,le_min_iff]
      omega
    rw [hreach]
    by_cases hone : d.maxTokens = 1
    · have hcut := window_cut d (history ++ [question])
      rw [havail,hone] at hcut
      have hspends : SpendsExactly (history ++ [question]) 4047 ↔
          total MessageItem.usageTokens (d.window (history ++ [question])) = 4047 := by
        constructor
        · rintro ⟨w,hcw,htotal⟩
          rw [hcut.unique hcw]
          exact htotal
        · exact fun h => ⟨_,hcut,h⟩
      rw [hspends]
      omega
    · omega

def Device.withFreeTokens (freeTokens : Int) : Device :=
  { firestore := { aikey := some "key", freeTokens } }

def helloQuestion : MessageItem := { id := "1", text := "Hello", isMy := true, created := 0 }

theorem default_limit_reaches :
    Reaches helloQuestion ((Device.withFreeTokens 3000).turboBody ([] ++ [helloQuestion])) :=
  (posted_reaches_iff (.withFreeTokens 3000) [] helloQuestion true _
    rfl rfl (by decide) (by decide) (by decide) rfl).mpr (.inl (by decide))

theorem limit_8096_posts_nothing :
    (Device.withFreeTokens 8096).sendTurbo [helloQuestion] true =
        some (.post [helloQuestion] true ⟨[],4047,none⟩) ∧
      ¬ Reaches helloQuestion ⟨[],4047,none⟩ := by
  refine ⟨by decide,?_⟩
  simp [Reaches]

theorem window_longest (d : Device) {chat : List MessageItem}
    (hpos : ∀ m ∈ chat, 0 ≤ m.usageTokens) :
    Longest MessageItem.usageTokens (availableTokens d.maxTokens) chat (d.window chat) :=
  recent_longest _ hpos

/-- What is posted is the longest end of the chat within the budget, and
`max_tokens` stays between the reserve and the limit. -/
theorem longest_context_posted (d : Device) {chat : List MessageItem} (refreshToken : Bool)
    (hkey : d.firestore.aikey ≠ none) (hchat : chat ≠ [])
    (hpos : ∀ m ∈ chat, 0 ≤ m.usageTokens) (hlimit : 0 ≤ d.maxTokens) :
    ∃ body w, d.sendTurbo chat refreshToken = some (.post chat refreshToken body) ∧
      Longest MessageItem.usageTokens (4097 - d.maxTokens / 2 - 50) chat w ∧
      (4097 - d.maxTokens / 2 - 50 < 0 → w = []) ∧
      body.messages = w.map (fun m => ⟨if m.isMy then .user else .assistant,m.text⟩) ∧
      min (d.maxTokens / 2) 4047 ≤ body.maxTokens ∧ body.maxTokens ≤ d.maxTokens ∧
      total MessageItem.usageTokens w + body.maxTokens + 50 ≤ 4097 ∧ 0 ≤ body.maxTokens := by
  have hhalf : d.maxTokens.tdiv 2 = d.maxTokens / 2 := Int.tdiv_eq_ediv_of_nonneg hlimit
  have havail : availableTokens d.maxTokens = 4097 - d.maxTokens / 2 - 50 := by
    simp only [availableTokens,modelMaxTokens,addTokens,hhalf]
  have hlongest := window_longest d hpos
  have hnonneg : 0 ≤ total MessageItem.usageTokens (d.window chat) :=
    total_nonneg fun m hm => hpos m (hlongest.suffix.mem hm)
  have hempty (hneg : availableTokens d.maxTokens < 0) : d.window chat = [] := by
    rcases hlongest.fits with hnil | hfits
    · exact hnil
    · omega
  have hfits : total MessageItem.usageTokens (d.window chat) ≤
      max 0 (availableTokens d.maxTokens) := by
    rcases hlongest.fits with hnil | hfits
    · simp [hnil]
    · omega
  have hpost : d.sendTurbo chat refreshToken =
      some (.post chat refreshToken (d.turboBody chat)) := by
    simp [Device.sendTurbo,hchat,hkey]
  rw [havail] at hlongest hempty hfits
  have hreserve : min (d.maxTokens / 2) 4047 ≤ (d.turboBody chat).maxTokens := by
    rw [turboBody_maxTokens]
    by_cases hneg : 4097 - d.maxTokens / 2 - 50 < 0
    · rw [hempty hneg,total_nil]
      omega
    · omega
  refine ⟨_,_,hpost,hlongest,hempty,turboBody_messages d chat,hreserve,?_,?_,?_⟩
  · rw [turboBody_maxTokens]
    omega
  · rw [turboBody_maxTokens]
    omega
  · omega

theorem hello_posted_whole :
    ∃ body w, (Device.withFreeTokens 3000).sendTurbo [helloQuestion] true =
        some (.post [helloQuestion] true body) ∧
      Longest MessageItem.usageTokens 2547 [helloQuestion] w ∧
      body.messages = w.map (fun m => ⟨if m.isMy then .user else .assistant,m.text⟩) := by
  obtain ⟨body,w,hpost,hlongest,-,hmessages,-⟩ :=
    @longest_context_posted (.withFreeTokens 3000) [helloQuestion] true (by decide) (by decide)
      (by decide) (by decide)
  exact ⟨body,w,hpost,hlongest,hmessages⟩

end GenieD

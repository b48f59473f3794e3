import GenieD.Provenance

set_option autoImplicit false

namespace GenieD

open Runs App Window

def MessageItem.trueCost (cost : PostedMessage → Nat) (m : MessageItem) : Int := cost m.posted

/-- The body has the longest end of the chat that fits by its true cost, and
leaves the model enough of its window for the answer. -/
def PostsLongest (cost : PostedMessage → Nat) (limit : Int) (chat : List MessageItem)
    (body : TurboBody) : Prop :=
  ∃ w ∈ chat.tails, Longest (MessageItem.trueCost cost) (availableTokens limit) chat w ∧
    total (MessageItem.trueCost cost) w ≤ availableTokens limit ∧
    body.messages = w.map MessageItem.posted ∧
    total (MessageItem.trueCost cost) w + body.maxTokens ≤ modelMaxTokens

/-- The recorded tokens tell of every end of the chat whether it fits, and for
the longest that does they are not too low for the answer. -/
def RecordsTell (cost : PostedMessage → Nat) (limit : Int) (chat : List MessageItem) : Prop :=
  0 ≤ availableTokens limit ∧
  (∀ v ∈ chat.tails, total MessageItem.usageTokens v ≤ availableTokens limit ↔
    total (MessageItem.trueCost cost) v ≤ availableTokens limit) ∧
  ∀ w ∈ chat.tails, Longest (MessageItem.trueCost cost) (availableTokens limit) chat w →
    total (MessageItem.trueCost cost) w + limit ≤ modelMaxTokens ∨
      total (MessageItem.trueCost cost) w ≤ total MessageItem.usageTokens w + addTokens

instance (cost : PostedMessage → Nat) (limit : Int) (chat : List MessageItem) (body : TurboBody) :
    Decidable (PostsLongest cost limit chat body) :=
  inferInstanceAs (Decidable (∃ w ∈ chat.tails, _))

instance (cost : PostedMessage → Nat) (limit : Int) (chat : List MessageItem) :
    Decidable (RecordsTell cost limit chat) :=
  inferInstanceAs (Decidable (_ ∧ (∀ v ∈ chat.tails, _) ∧ ∀ w ∈ chat.tails, _))

variable {cost : PostedMessage → Nat} {chat : List MessageItem}

theorem trueCost_nonneg (cost : PostedMessage → Nat) (m : MessageItem) : 0 ≤ m.trueCost cost :=
  Int.natCast_nonneg _

theorem postsLongest_iff (d : Device) (hpos : ∀ m ∈ chat, 0 ≤ m.usageTokens) :
    PostsLongest cost d.maxTokens chat (d.turboBody chat) ↔ RecordsTell cost d.maxTokens chat := by
  have hwindow := window_longest d hpos
  have htrue : ∀ m ∈ chat, 0 ≤ m.trueCost cost := fun m _ => trueCost_nonneg cost m
  simp only [PostsLongest,RecordsTell,turboBody_messages,turboBody_maxTokens,List.mem_tails,
    modelMaxTokens,addTokens]
  constructor
  · rintro ⟨w,hsuffix,hw,hle,hmessages,hroom⟩
    have hlen : (d.window chat).length = w.length := by simpa using congrArg List.length hmessages
    have heq : d.window chat = w :=
      (List.suffix_of_suffix_length_le hwindow.suffix hsuffix hlen.le).eq_of_length hlen
    rw [heq] at hwindow hroom
    have hbudget : 0 ≤ availableTokens d.maxTokens :=
      (total_nonneg fun m _ => trueCost_nonneg cost m).trans hle
    refine ⟨hbudget,fun v hv => ?_,fun w' _ hw' => ?_⟩
    · rw [hwindow.fits_iff hpos (hwindow.total_le hbudget) hv,hw.fits_iff htrue hle hv]
    · rw [hw'.unique hw]
      omega
  · rintro ⟨hbudget,hagree,hroom⟩
    have hw : Longest (MessageItem.trueCost cost) (availableTokens d.maxTokens) chat
        (d.window chat) := hwindow.agree hagree
    refine ⟨_,hw.suffix,hw,hw.total_le hbudget,rfl,?_⟩
    have := hroom _ hw.suffix hw
    omega

def Flight.Counted (cost : PostedMessage → Nat) (response : ChatResponse) : Flight → Prop
  | .post _ _ body =>
    response.promptTokens = ((body.messages.map cost).sum : Nat) ∧
    response.completionTokens = cost ⟨.assistant,response.output⟩
  | .describe _ _ _ | .fetchSystem _ => True

def Honest (cost : PostedMessage → Nat) (a : App) : Event → Prop
  | .complete index (.responded (some turbo)) =>
    ∀ r ∈ a.pending[index]?, r.flight.Counted cost turbo.toChatResponse
  | _ => True

def Entry.posted : Entry → Option (List MessageItem × TurboBody)
  | .post chat body => some (chat,body)
  | .command _ _ | .sendText _ | .describeFile _ _ _ | .answer _ | .saveChat _ _ | .reset => none

def App.posted (p : Platform) (a : App) (e : Event) : List (List MessageItem × TurboBody) :=
  (a.noted p e).filterMap Entry.posted

def App.PostsLongest (p : Platform) (cost : PostedMessage → Nat) (a : App) (e : Event) : Prop :=
  ∀ x ∈ a.posted p e, GenieD.PostsLongest cost (a.step p e).device.maxTokens x.1 x.2

def App.RecordsTell (p : Platform) (cost : PostedMessage → Nat) (a : App) (e : Event) : Prop :=
  ∀ x ∈ a.posted p e, GenieD.RecordsTell cost (a.step p e).device.maxTokens x.1

variable {p : Platform} {a : App} {e : Event}

theorem Honest.reports (h : Honest cost a e) : Reports (0 ≤ ·) a e := by
  unfold Reports
  split
  · intro r chat refreshToken body hr hflight
    have hcounts := h r hr
    rw [hflight] at hcounts
    rw [hcounts.1,hcounts.2]
    exact ⟨Int.natCast_nonneg _,Int.natCast_nonneg _⟩
  · trivial

theorem posted_cases (h : Supplied p (0 ≤ ·) a) (hreports : Reports (0 ≤ ·) a e)
    {x : List MessageItem × TurboBody} (hx : x ∈ a.posted p e) :
    x.2 = (a.step p e).device.turboBody x.1 ∧ ∀ m ∈ x.1, 0 ≤ m.usageTokens := by
  obtain ⟨y,hy,hposted⟩ := List.mem_filterMap.mp hx
  rcases mem_noted hy with ⟨_,_,rfl⟩ | hnotes
  · cases hposted
  · cases hnotes with
    | post chat hchat =>
      cases hposted
      refine ⟨rfl,fun m hm => ?_⟩
      rcases hchat with rfl | ⟨r,hr,rfl⟩
      · have hafter := supplied_step h (Int.le_refl 0) hreports
        exact (hafter.messages m (List.mem_filter.mp hm).1).tokens
      · exact (h.flights r hr m hm).tokens
    | reset | command | answer | describeFile | sendText => cases hposted

theorem app_postsLongest_iff (h : Supplied p (0 ≤ ·) a) (hhonest : Honest cost a e) :
    a.PostsLongest p cost e ↔ a.RecordsTell p cost e := by
  refine forall₂_congr fun x hx => ?_
  obtain ⟨hbody,hpos⟩ := posted_cases h hhonest.reports hx
  rw [hbody]
  exact postsLongest_iff _ hpos

instance (cost : PostedMessage → Nat) (response : ChatResponse) (f : Flight) :
    Decidable (f.Counted cost response) :=
  match f with
  | .post _ _ _ => inferInstanceAs (Decidable (_ ∧ _))
  | .describe _ _ _ | .fetchSystem _ => isTrue trivial

instance (cost : PostedMessage → Nat) (a : App) (e : Event) : Decidable (Honest cost a e) :=
  match e with
  | .complete index (.responded (some turbo)) => inferInstanceAs (Decidable
      (∀ r ∈ a.pending[index]?, r.flight.Counted cost turbo.toChatResponse))
  | .complete _ (.responded none) | .complete _ (.described _) | .complete _ (.fetched _)
  | .setText _ | .setImage _ | .setPdfData _ | .setChatNameText _ | .onSendAction
  | .onFinishTyping | .onTryAgainAction | .closePaywall | .upgrade | .saveChat
  | .device _ => isTrue trivial

instance (p : Platform) (cost : PostedMessage → Nat) (a : App) (e : Event) :
    Decidable (a.PostsLongest p cost e) :=
  inferInstanceAs (Decidable (∀ x ∈ a.posted p e, _))

instance (p : Platform) (cost : PostedMessage → Nat) (a : App) (e : Event) :
    Decidable (a.RecordsTell p cost e) :=
  inferInstanceAs (Decidable (∀ x ∈ a.posted p e, _))

def HonestlyAllowed (cost : PostedMessage → Nat) (s : Screen) (act : Act) : Prop :=
  s.Allowed act ∧ s.During (Honest cost) act

instance (cost : PostedMessage → Nat) (s : Screen) (act : Act) :
    Decidable (HonestlyAllowed cost s act) := inferInstanceAs (Decidable (_ ∧ _))

/-- With a server that counts right, the context is the longest that fits
exactly as long as the recorded tokens tell what fits. -/
theorem context_longest_iff (cost : PostedMessage → Nat) (active : Option Subsciption)
    (firestore : FirestoreManager) {acts : List Act} {s : Screen}
    (hrun : Run (Screen.step p) (HonestlyAllowed cost) (.install active firestore) acts s) :
    Each (Screen.step p) (Screen.During (App.PostsLongest p cost)) (.install active firestore)
        acts ↔
      Each (Screen.step p) (Screen.During (App.RecordsTell p cost)) (.install active firestore)
        acts := by
  refine hrun.each_iff_each (J := fun s : Screen => s.Supplied p (0 ≤ ·))
    (fun s act hok hs _ => supplied_screen_step (Int.le_refl 0)
      ⟨hok.1,hok.2.imp fun _ _ _ _ => Honest.reports⟩ hs) ?_
    (supplied_install active firestore)
  intro s act hok hs
  refine Screen.during_congr ?_
  rintro a e rfl rfl
  exact app_postsLongest_iff hs hok.2

def Screen.bodies (s : Screen) : List (List String × Int) :=
  (s.device.journal.filterMap Entry.posted).map
    (fun x => (x.2.messages.map PostedMessage.content,x.2.maxTokens))

theorem first_context_longest :
    let p := Platform.plain Int.ofNat
    let start := Screen.install none { aikey := some "key" }
    let cost := fun m : PostedMessage => if m.content = "Hello" then 5 else 1
    (oneExchange.foldl (Screen.step p) start).bodies = [(["Hello"],3000)] ∧
      Each (Screen.step p) (Screen.During (App.PostsLongest p cost)) start oneExchange := by
  intro p start cost
  have hallowed : Each (Screen.step p) (HonestlyAllowed cost) start oneExchange := by
    decide +kernel
  have htell : Each (Screen.step p) (Screen.During (App.RecordsTell p cost)) start oneExchange := by
    decide +kernel
  exact ⟨by decide +kernel,(context_longest_iff cost none _ hallowed.run).mpr htell⟩

def threeQuestions : List Act :=
  [.openChat none [],.session (.setText "One"),.session .onSendAction,
    .session (.complete 0 (.responded (some ⟨["A"],⟨some 600,some 600⟩⟩))),
    .session .onFinishTyping,.session (.setText "Two"),.session .onSendAction,
    .session (.complete 0 (.responded (some ⟨["B"],⟨some 600,some 1800⟩⟩))),
    .session .onFinishTyping,.session (.setText "Three"),.session .onSendAction]

/-- The second request asks for 2847 tokens after 1800 of the 4097, and the third
leaves out the answer "A", though with it the true total is 2400. -/
theorem recorded_tokens_drift :
    let p := Platform.plain Int.ofNat
    let start := Screen.install none { aikey := some "key" }
    let cost := fun _ : PostedMessage => 600
    let s := threeQuestions.foldl (Screen.step p) start
    Run (Screen.step p) (HonestlyAllowed cost) start threeQuestions s ∧
      s.bodies = [(["One"],3000),(["One","A","Two"],2847),(["Two","B","Three"],1647)] ∧
      2400 ≤ availableTokens s.device.maxTokens ∧
      ¬ Each (Screen.step p) (Screen.During (App.PostsLongest p cost)) start threeQuestions := by
  intro p start cost s
  have hallowed : Each (Screen.step p) (HonestlyAllowed cost) start threeQuestions := by
    decide +kernel
  exact ⟨hallowed.run,by decide +kernel,by decide +kernel,by decide +kernel⟩

end GenieD

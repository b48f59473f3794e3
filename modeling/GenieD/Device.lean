import GenieD.CoreData

set_option autoImplicit false

namespace GenieD

structure FirestoreManager where
  aikey : Option String := none
  freeRequests : Int := 3
  liteRequests : Int := 10
  freeTokens : Int := 3000
  liteTokens : Int := 300
  proTokens : Int := 3000
  deriving DecidableEq, Repr

/-- A document of the `system` collection: `GPT`, `DAYLIMIT` or any other, with
those of its fields that have the expected type. -/
inductive SystemDocument where
  | gpt (key : Option String)
  | dayLimit (freeRequests freeTokens liteRequests liteTokens proTokens : Option Int)
  | other
  deriving DecidableEq, Repr

def FirestoreManager.install (f : FirestoreManager) : SystemDocument → FirestoreManager
  | .gpt key => { f with aikey := key.or f.aikey }
  | .dayLimit freeRequests freeTokens liteRequests liteTokens proTokens =>
    { f with
      freeRequests := freeRequests.getD f.freeRequests
      freeTokens := freeTokens.getD f.freeTokens
      liteRequests := liteRequests.getD f.liteRequests
      liteTokens := liteTokens.getD f.liteTokens
      proTokens := proTokens.getD f.proTokens }
  | .other => f

def FirestoreManager.fetchSystem (f : FirestoreManager) :
    Option (List SystemDocument) → FirestoreManager
  | none => f
  | some documents => documents.foldl FirestoreManager.install f

/-- `activeSubscription` holds the JSON written under its key: none if the key
is absent, `some none` if it reads `null`. -/
structure UserDefaults where
  activeSubscription : Option (Option Subsciption) := none
  accessQuestionsCount : Nat := 0
  resetQuestionCounterTimestamp : Option Date := none
  questionsCountForReview : Nat := 0
  deriving DecidableEq, Repr

structure KeychainStorage where
  accessQuestionsCount : Option Nat := none
  resetQuestionCounterTimestamp : Option Date := none
  deriving DecidableEq, Repr

/-- What an outside observer of a run can write down. The code reads none of it. -/
inductive Entry where
  | command (question answer : MessageItem)
  | sendText (chat : List MessageItem)
  | post (chat : List MessageItem) (body : TurboBody)
  | describeFile (data : Data) (fileType : FileType) (text : String)
  | answer (message : MessageItem)
  | saveChat (chat : Nat) (rows : List MessageContent)
  | reset
  deriving DecidableEq, Repr

/-- The shared services and stores of one device. `reads` and `uuids` count the
calls of `Date()` and `UUID()` so far; the counter of questions is only ever set
to zero or raised by one, so it is a `Nat`. -/
structure Device where
  activeSubscription : Option Subsciption := none
  firestore : FirestoreManager := {}
  timeDifference : Option TimeInterval := none
  accessQuestionsCount : Nat := 0
  temperature : Option Double := none
  defaults : UserDefaults := {}
  keychain : KeychainStorage := {}
  reads : Nat := 0
  uuids : Nat := 0
  journal : List Entry := []
  deriving DecidableEq, Repr

namespace Device

def note (d : Device) (e : Entry) : Device := { d with journal := d.journal ++ [e] }

def access (d : Device) : Option BuyProAccess := d.activeSubscription.map Subsciption.access

def subscribed (d : Device) : Bool := d.activeSubscription.isSome

def maxQuestionsPerDay (d : Device) : Option Int :=
  match d.access with
  | none => some d.firestore.freeRequests
  | some .lite => some d.firestore.liteRequests
  | some .pro | some .advanced => none

def resetQuestionCounterTimestamp (d : Device) : Option Date :=
  d.keychain.resetQuestionCounterTimestamp.or d.defaults.resetQuestionCounterTimestamp

def setResetQuestionCounterTimestamp (d : Device) (newValue : Option Date) : Device :=
  { d with
    keychain := { d.keychain with resetQuestionCounterTimestamp := newValue }
    defaults := { d.defaults with resetQuestionCounterTimestamp := newValue } }

def storedAccessQuestionsCount (d : Device) : Nat :=
  match d.keychain.accessQuestionsCount with
  | some keychainData => max keychainData d.defaults.accessQuestionsCount
  | none => d.defaults.accessQuestionsCount

def setAccessQuestionsCount (d : Device) (value : Nat) : Device :=
  { d with
    accessQuestionsCount := value
    keychain := { d.keychain with accessQuestionsCount := some value }
    defaults := { d.defaults with accessQuestionsCount := value } }

theorem stored_setAccessQuestionsCount (d : Device) (value : Nat) :
    (d.setAccessQuestionsCount value).storedAccessQuestionsCount = value := by
  simp [setAccessQuestionsCount,storedAccessQuestionsCount]

def questionsCountIncrement (d : Device) : Device :=
  d.setAccessQuestionsCount (d.accessQuestionsCount + 1)

def resetAccessQuestionCount (d : Device) : Device := (d.setAccessQuestionsCount 0).note .reset

def getAccessQuestionsCount (p : Platform) (d : Device) : Nat × Device :=
  let d' :=
    match d.timeDifference with
    | none => d
    | some timeDifference =>
      if d.access = none ∨ d.access = some .lite then
        let tsNow := p.clock d.reads - timeDifference
        let d := { d with reads := d.reads + 1 }
        if d.resetQuestionCounterTimestamp = none ∨
            d.resetQuestionCounterTimestamp.map p.day ≠ some (p.day tsNow) then
          (d.setResetQuestionCounterTimestamp (some tsNow)).resetAccessQuestionCount
        else d
      else d
  (d'.accessQuestionsCount,d')

def isSendMessageLocked (p : Platform) (d : Device) : Bool × Device :=
  match d.maxQuestionsPerDay with
  | none => (false,d)
  | some maxQuestions =>
    let (usedCount,d') := d.getAccessQuestionsCount p
    (decide (maxQuestions ≤ usedCount),d')

def newMessage (p : Platform) (d : Device) (text : String) (isMy : Bool)
    (image : Option UIImage := none) (usageTokens : Int := 0) : MessageItem × Device :=
  (⟨p.uuid d.uuids,text,isMy,image,p.clock d.reads,usageTokens⟩,
    { d with reads := d.reads + 1, uuids := d.uuids + 1 })

inductive Rechecked (d : Device) : Device → Prop where
  | kept (n : Nat) : Rechecked d { d with reads := n }
  | reset (n : Nat) (ts : Date) : Rechecked d
      (({ d with reads := n }.setResetQuestionCounterTimestamp (some ts)).resetAccessQuestionCount)

theorem rechecked_getAccessQuestionsCount (p : Platform) (d : Device) :
    Rechecked d (d.getAccessQuestionsCount p).2 := by
  unfold getAccessQuestionsCount
  split
  · exact .kept d.reads
  · dsimp only
    split
    · split
      · exact .reset _ _
      · exact .kept _
    · exact .kept d.reads

theorem rechecked_isSendMessageLocked (p : Platform) (d : Device) :
    Rechecked d (d.isSendMessageLocked p).2 := by
  unfold isSendMessageLocked
  cases d.maxQuestionsPerDay with
  | none => exact .kept d.reads
  | some maxQuestions => exact rechecked_getAccessQuestionsCount p d

section Rechecked

variable {d d' : Device} (h : Rechecked d d')

include h

theorem Rechecked.activeSubscription : d'.activeSubscription = d.activeSubscription := by
  cases h <;> rfl

theorem Rechecked.firestore : d'.firestore = d.firestore := by cases h <;> rfl

theorem Rechecked.uuids : d'.uuids = d.uuids := by cases h <;> rfl

theorem Rechecked.temperature : d'.temperature = d.temperature := by cases h <;> rfl

theorem Rechecked.maxQuestionsPerDay : d'.maxQuestionsPerDay = d.maxQuestionsPerDay := by
  cases h <;> rfl

theorem Rechecked.count_le : d'.accessQuestionsCount ≤ d.accessQuestionsCount := by
  cases h with
  | kept n => exact Nat.le_refl _
  | reset n ts => exact Nat.zero_le _

end Rechecked

def HasQuota (d : Device) : Prop :=
  ∀ maxQuestions, d.maxQuestionsPerDay = some maxQuestions →
    (d.accessQuestionsCount : Int) < maxQuestions

theorem hasQuota_of_unlocked {p : Platform} {d : Device}
    (h : (d.isSendMessageLocked p).1 = false) : HasQuota (d.isSendMessageLocked p).2 := by
  intro maxQuestions hmax
  rw [(rechecked_isSendMessageLocked p d).maxQuestionsPerDay] at hmax
  simp only [isSendMessageLocked,hmax] at h ⊢
  simpa [getAccessQuestionsCount] using h

/-- A second look cannot lock what the first left open: a reset only lowers the count. -/
theorem HasQuota.unlocked {p : Platform} {d : Device} (h : HasQuota d) :
    (d.isSendMessageLocked p).1 = false := by
  cases hmax : d.maxQuestionsPerDay with
  | none => simp [isSendMessageLocked,hmax]
  | some maxQuestions =>
    have hlt := h maxQuestions hmax
    have hle := (rechecked_getAccessQuestionsCount p d).count_le
    have hcount : (d.getAccessQuestionsCount p).1 =
        (d.getAccessQuestionsCount p).2.accessQuestionsCount := rfl
    simp only [isSendMessageLocked,hmax,decide_eq_false_iff_not,Int.not_le]
    omega

end Device

end GenieD

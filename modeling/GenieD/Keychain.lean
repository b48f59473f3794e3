import GenieD.Device
import GenieD.Multipart
import GenieD.Sieve

set_option autoImplicit false

namespace GenieD

inductive OSStatus where
  | noErr
  | duplicateItem
  | itemNotFound
  | invalidEncoding
  deriving DecidableEq, Repr

structure KeychainItem where
  account : String
  synchronizable : Bool
  valueData : Data
  deriving DecidableEq, Repr

/-- A query with `kSecAttrSynchronizableAny` or without the attribute; without it
only items match that stay on the device. -/
structure SecQuery where
  account : String
  synchronizableAny : Bool
  deriving DecidableEq, Repr

def SecQuery.matches (query : SecQuery) (item : KeychainItem) : Bool :=
  decide (item.account = query.account) && (query.synchronizableAny || !item.synchronizable)

def secItemAdd (item : KeychainItem) (items : List KeychainItem) : OSStatus × List KeychainItem :=
  if items.any (fun i => i.account = item.account ∧ i.synchronizable = item.synchronizable) then
    (.duplicateItem,items)
  else (.noErr,items ++ [item])

def secItemDelete (query : SecQuery) (items : List KeychainItem) : OSStatus × List KeychainItem :=
  if items.any query.matches then (.noErr,items.filter (fun i => !query.matches i))
  else (.itemNotFound,items)

def secItemCopyMatching (query : SecQuery) (items : List KeychainItem) : OSStatus × Option Data :=
  match items.find? query.matches with
  | some item => (.noErr,some item.valueData)
  | none => (.itemNotFound,none)

/-- The object of the library and the keychain of the device. -/
structure KeychainSwift where
  keyPrefix : String := ""
  synchronizable : Bool := false
  lastResultCode : OSStatus := .noErr
  items : List KeychainItem := []
  deriving DecidableEq, Repr

namespace KeychainSwift

def keyWithPrefix (k : KeychainSwift) (key : String) : String := k.keyPrefix ++ key

/-- `addSynchronizableIfRequired` for getting and deleting. -/
def query (k : KeychainSwift) (key : String) : SecQuery := ⟨k.keyWithPrefix key,k.synchronizable⟩

def deleteNoLock (k : KeychainSwift) (key : String) : Bool × KeychainSwift :=
  let (lastResultCode,items) := secItemDelete (k.query key) k.items
  (decide (lastResultCode = .noErr),{ k with lastResultCode, items })

def delete (k : KeychainSwift) (key : String) : Bool × KeychainSwift := k.deleteNoLock key

def setData (k : KeychainSwift) (value : Data) (key : String) : Bool × KeychainSwift :=
  let k := (k.deleteNoLock key).2
  let (lastResultCode,items) :=
    secItemAdd ⟨k.keyWithPrefix key,k.synchronizable,value⟩ k.items
  (decide (lastResultCode = .noErr),{ k with lastResultCode, items })

def set (k : KeychainSwift) (value key : String) : Bool × KeychainSwift :=
  k.setData (utf8 value) key

def getData (k : KeychainSwift) (key : String) : Option Data × KeychainSwift :=
  let (lastResultCode,result) := secItemCopyMatching (k.query key) k.items
  (result,{ k with lastResultCode })

def get (k : KeychainSwift) (key : String) : Option String × KeychainSwift :=
  match k.getData key with
  | (none,k) => (none,k)
  | (some data,k) =>
    match MultipartForm.readText data with
    | some currentString => (some currentString,k)
    | none => (none,{ k with lastResultCode := .invalidEncoding })

end KeychainSwift

structure TextCodec (α : Type) where
  encode : α → String
  decode : String → Option α
  decode_encode : ∀ a, decode (encode a) = some a
  decode_empty : decode "" = none

namespace Text

def digits (cs : List Char) : Option Nat :=
  if cs ≠ [] ∧ cs.all Char.isDigit then some (Nat.ofDigitChars 10 cs 0) else none

def decimal (text : String) : Option Int :=
  match text.toList with
  | '-' :: cs => (digits cs).map fun n => -(n : Int)
  | '+' :: cs => (digits cs).map fun n => (n : Int)
  | cs => (digits cs).map fun n => (n : Int)

/-- `Int(_:)`, nil also for what 64 bits do not hold. -/
def int (text : String) : Option Int64 :=
  (decimal text).bind fun n =>
    if h : Int64.minValue.toInt ≤ n ∧ n ≤ Int64.maxValue.toInt then
      some (Int64.ofIntLE n h.1 h.2)
    else none

theorem digits_repr (n : Nat) : digits (Nat.repr n).toList = some n := by
  have hall : (Nat.toDigits 10 n).all Char.isDigit = true := by
    rw [List.all_eq_true]
    exact fun c hc => Nat.isDigit_of_mem_toDigits (by decide) (by decide) hc
  have hne : Nat.toDigits 10 n ≠ [] := by simp
  rw [digits,Nat.toList_repr,if_pos ⟨hne,hall⟩,Nat.ofDigitChars_ten_toDigits]

theorem decimal_repr (value : Int) : decimal (toString value) = some value := by
  cases value with
  | ofNat n =>
    have hdigit : ∀ c ∈ (Nat.repr n).toList, c.isDigit = true := by
      intro c hc
      rw [Nat.toList_repr] at hc
      exact Nat.isDigit_of_mem_toDigits (by decide) (by decide) hc
    have htext : (toString (Int.ofNat n)).toList = (Nat.repr n).toList := rfl
    unfold decimal
    split
    · rename_i cs hcs
      have hminus := hdigit '-' (by rw [← htext,hcs]; exact List.mem_cons_self)
      simp [Char.isDigit] at hminus
    · rename_i cs hcs
      have hplus := hdigit '+' (by rw [← htext,hcs]; exact List.mem_cons_self)
      simp [Char.isDigit] at hplus
    · rw [htext,digits_repr]
      rfl
  | negSucc n =>
    have htext : (toString (Int.negSucc n)).toList = '-' :: (Nat.repr (n + 1)).toList := by
      simp [toString,Int.repr]
    unfold decimal
    rw [htext]
    simp only [digits_repr]
    rfl

theorem int_repr (value : Int64) : int (toString value.toInt) = some value := by
  have hrange : Int64.minValue.toInt ≤ value.toInt ∧ value.toInt ≤ Int64.maxValue.toInt :=
    ⟨value.minValue_le_toInt,value.toInt_le⟩
  rw [int,decimal_repr,Option.bind_some,dif_pos hrange,Int64.ofIntLE_toInt]

end Text

def intCodec : TextCodec Int64 where
  encode value := toString value.toInt
  decode := Text.int
  decode_encode := Text.int_repr
  decode_empty := by decide

namespace KeychainStorage

variable {α : Type}

def read (codec : TextCodec α) (key : String) (k : KeychainSwift) : Option α × KeychainSwift :=
  let (text,k) := { k with synchronizable := true }.get key
  (codec.decode (text.getD ""),k)

def write (codec : TextCodec α) (key : String) (value : α) (k : KeychainSwift) : KeychainSwift :=
  ({ k with synchronizable := true }.set (codec.encode value) key).2

def accessQuestionsCountKey : String := "accessQuestionsCountKey"

def resetQuestionCounterTimestampKey : String := "resetQuestionCounterTimestampKey"

def getAccessQuestionsCount (k : KeychainSwift) : Option Int64 × KeychainSwift :=
  read intCodec accessQuestionsCountKey k

def setAccessQuestionsCount (newValue : Option Int64) (k : KeychainSwift) : KeychainSwift :=
  match newValue with
  | some value => write intCodec accessQuestionsCountKey value k
  | none => k

/-- The codec stands for `Double(_:)` and the description of a `Double`. -/
def getResetQuestionCounterTimestamp (timestamp : TextCodec Date) (k : KeychainSwift) :
    Option Date × KeychainSwift :=
  read timestamp resetQuestionCounterTimestampKey k

/-- Unlike the others this one deletes, and with the flag as it happens to be. -/
def setResetQuestionCounterTimestamp (timestamp : TextCodec Date) (newValue : Option Date)
    (k : KeychainSwift) : KeychainSwift :=
  match newValue with
  | some value => write timestamp resetQuestionCounterTimestampKey value k
  | none => (k.delete resetQuestionCounterTimestampKey).2

end KeychainStorage

/-- The accesses of the app to the two values; a count is one that `Int` holds. -/
inductive KeychainAccess where
  | getCount
  | setCount (newValue : Option (Fin (2 ^ 63)))
  | getTimestamp
  | setTimestamp (newValue : Option Date)
  deriving DecidableEq, Repr

inductive KeychainReading where
  | count (value : Option Int)
  | timestamp (value : Option Date)
  deriving DecidableEq, Repr

def KeychainSwift.access (timestamp : TextCodec Date) (k : KeychainSwift) :
    KeychainAccess → List KeychainReading × KeychainSwift
  | .getCount =>
    let (value,k) := KeychainStorage.getAccessQuestionsCount k
    ([.count (value.map Int64.toInt)],k)
  | .setCount newValue =>
    ([],KeychainStorage.setAccessQuestionsCount (newValue.map fun n => Int64.ofNat n) k)
  | .getTimestamp =>
    let (value,k) := KeychainStorage.getResetQuestionCounterTimestamp timestamp k
    ([.timestamp value],k)
  | .setTimestamp newValue =>
    ([],KeychainStorage.setResetQuestionCounterTimestamp timestamp newValue k)

def KeychainStorage.access (c : KeychainStorage) :
    KeychainAccess → List KeychainReading × KeychainStorage
  | .getCount => ([.count (c.accessQuestionsCount.map Int.ofNat)],c)
  | .setCount newValue =>
    ([],{ c with accessQuestionsCount := (newValue.map Fin.val).or c.accessQuestionsCount })
  | .getTimestamp => ([.timestamp c.resetQuestionCounterTimestamp],c)
  | .setTimestamp newValue => ([],{ c with resetQuestionCounterTimestamp := newValue })

def accesses {σ : Type} (access : σ → KeychainAccess → List KeychainReading × σ) (s : σ) :
    List KeychainAccess → List KeychainReading × σ
  | [] => ([],s)
  | a :: as =>
    let (readings,s) := access s a
    let (rest,s) := accesses access s as
    (readings ++ rest,s)

namespace KeychainSwift

variable {α : Type} {k : KeychainSwift}

def itemText (item : KeychainItem) : Option String := MultipartForm.readText item.valueData

def stored (codec : TextCodec α) (key : String) (items : List KeychainItem) : Option α :=
  ((items.find? fun item => item.account = key).bind itemText).bind codec.decode

theorem matches_any (key : String) (item : KeychainItem) :
    SecQuery.matches ⟨key,true⟩ item = decide (item.account = key) := by
  simp [SecQuery.matches]

theorem secItemDelete_items (query : SecQuery) (items : List KeychainItem) :
    (secItemDelete query items).2 = items.filter (fun i => !query.matches i) := by
  unfold secItemDelete
  split
  · rfl
  · rename_i hnone
    rw [List.filter_eq_self.mpr]
    intro item hitem
    simp only [List.any_eq_true,not_exists,not_and,Bool.not_eq_true] at hnone
    simp [hnone item hitem]

theorem get_text (hstart : k.keyPrefix = "") (hany : k.synchronizable = true) (key : String) :
    (k.get key).1 = (k.items.find? fun item => item.account = key).bind itemText := by
  have hquery : k.query key = ⟨key,true⟩ := by simp [query,keyWithPrefix,hstart,hany]
  have hfind : k.items.find? (k.query key).matches =
      k.items.find? fun item => item.account = key := by
    rw [hquery]
    exact congrFun (congrArg List.find? (funext (matches_any key))) k.items
  unfold get getData secItemCopyMatching
  rw [hfind]
  cases hitem : k.items.find? fun item => decide (item.account = key) with
  | none => rfl
  | some item =>
    simp only [Option.bind_some,itemText]
    cases MultipartForm.readText item.valueData <;> rfl

theorem get_frame (k : KeychainSwift) (key : String) :
    ∃ lastResultCode, (k.get key).2 = { k with lastResultCode } := by
  have hdata : ∃ lastResultCode, (k.getData key).2 = { k with lastResultCode } := ⟨_,rfl⟩
  obtain ⟨code,hcode⟩ := hdata
  unfold get
  split
  · rename_i h
    rw [h] at hcode
    exact ⟨code,hcode⟩
  · rename_i h
    rw [h] at hcode
    split
    · exact ⟨code,hcode⟩
    · dsimp only at hcode
      subst hcode
      exact ⟨_,rfl⟩

theorem delete_items (hstart : k.keyPrefix = "") (hany : k.synchronizable = true)
    (key : String) :
    (k.deleteNoLock key).2.items = k.items.filter (fun item => item.account ≠ key) := by
  have hquery : k.query key = ⟨key,true⟩ := by simp [query,keyWithPrefix,hstart,hany]
  have hitems : (k.deleteNoLock key).2.items = (secItemDelete (k.query key) k.items).2 := rfl
  rw [hitems,secItemDelete_items,hquery]
  refine List.filter_congr fun item _ => ?_
  simp [matches_any]

theorem set_items (hstart : k.keyPrefix = "") (hany : k.synchronizable = true)
    (value key : String) :
    (k.set value key).2.items =
      k.items.filter (fun item => item.account ≠ key) ++ [⟨key,true,utf8 value⟩] := by
  have hadd : (k.set value key).2.items =
      (secItemAdd ⟨key,true,utf8 value⟩ (k.deleteNoLock key).2.items).2 := by
    have hkey : (k.deleteNoLock key).2.keyWithPrefix key = key := by
      simp [keyWithPrefix,deleteNoLock,hstart]
    have hsync : (k.deleteNoLock key).2.synchronizable = true := hany
    simp only [set,setData,hkey,hsync]
  have hfree : ¬ (k.items.filter (fun item => item.account ≠ key)).any
      (fun item => item.account = key ∧ item.synchronizable = true) = true := by
    rw [List.any_eq_true]
    rintro ⟨item,hitem,hsame⟩
    have hother := (List.mem_filter.mp hitem).2
    simp only [decide_eq_true_eq] at hother hsame
    exact hother hsame.1
  rw [hadd,secItemAdd,delete_items hstart hany,if_neg hfree]

theorem find?_removed (items : List KeychainItem) (key key' : String) :
    (items.filter (fun i => i.account ≠ key)).find? (fun i => i.account = key') =
      if key' = key then none else items.find? fun i => i.account = key' := by
  rw [List.find?_filter]
  by_cases hkey : key' = key
  · subst hkey
    rw [if_pos rfl,List.find?_eq_none]
    intro i _
    simp
  · rw [if_neg hkey]
    refine congrFun (congrArg List.find? (funext fun i => ?_)) items
    by_cases hi : i.account = key'
    · simp [hi,hkey]
    · simp [hi]

theorem find?_replaced (items : List KeychainItem) (key : String) (value : Data) (key' : String) :
    (items.filter (fun i => i.account ≠ key) ++ [KeychainItem.mk key true value]).find?
        (fun i => i.account = key') =
      if key' = key then some ⟨key,true,value⟩ else items.find? fun i => i.account = key' := by
  rw [List.find?_append,find?_removed]
  by_cases hkey : key' = key
  · simp [hkey]
  · simp [hkey,Ne.symm hkey]

theorem stored_replaced (codec : TextCodec α) (items : List KeychainItem) (key : String)
    (value : α) :
    stored codec key (items.filter (fun i => i.account ≠ key) ++
      [⟨key,true,utf8 (codec.encode value)⟩]) = some value := by
  rw [stored,find?_replaced,if_pos rfl]
  simp [itemText,codec.decode_encode]

theorem stored_other (codec : TextCodec α) (items : List KeychainItem) {key key' : String}
    (hne : key' ≠ key) (value : String) :
    stored codec key' (items.filter (fun i => i.account ≠ key) ++ [⟨key,true,utf8 value⟩]) =
      stored codec key' items := by
  rw [stored,find?_replaced,if_neg hne]
  rfl

/-- The keychain reads as a pair of variables, and queries find synchronized items. -/
structure Reads (timestamp : TextCodec Date) (k : KeychainSwift) (c : KeychainStorage) : Prop where
  plain : k.keyPrefix = ""
  any : k.synchronizable = true
  count : (stored intCodec KeychainStorage.accessQuestionsCountKey k.items).map Int64.toInt =
    c.accessQuestionsCount.map Int.ofNat
  timestamp : stored timestamp KeychainStorage.resetQuestionCounterTimestampKey k.items =
    c.resetQuestionCounterTimestamp

def foreign (items : List KeychainItem) : List KeychainItem :=
  items.filter fun item => item.account ≠ KeychainStorage.accessQuestionsCountKey ∧
    item.account ≠ KeychainStorage.resetQuestionCounterTimestampKey

theorem stored_removed (codec : TextCodec α) (items : List KeychainItem) (key key' : String) :
    stored codec key' (items.filter fun i => i.account ≠ key) =
      if key' = key then none else stored codec key' items := by
  rw [stored,find?_removed]
  by_cases hkey : key' = key
  · simp [hkey]
  · simp [hkey,stored]

theorem read_stored (codec : TextCodec α) (key : String) (hstart : k.keyPrefix = "") :
    (KeychainStorage.read codec key k).1 = stored codec key k.items ∧
      ∃ lastResultCode, (KeychainStorage.read codec key k).2 =
        { k with synchronizable := true, lastResultCode } := by
  refine ⟨?_,get_frame _ key⟩
  have htext : (KeychainStorage.read codec key k).1 =
      codec.decode (({ k with synchronizable := true }.get key).1.getD "") := rfl
  rw [htext,get_text (k := { k with synchronizable := true }) hstart rfl,stored]
  cases (k.items.find? fun item => item.account = key).bind itemText with
  | none => exact codec.decode_empty
  | some text => rfl

theorem foreign_removed {key : String} (items : List KeychainItem)
    (hkey : key = KeychainStorage.accessQuestionsCountKey ∨
      key = KeychainStorage.resetQuestionCounterTimestampKey) :
    foreign (items.filter fun i => i.account ≠ key) = foreign items := by
  unfold foreign
  rw [List.filter_filter]
  refine List.filter_congr fun item _ => ?_
  rcases hkey with rfl | rfl
  · by_cases h : item.account = KeychainStorage.accessQuestionsCountKey
    · simp [h]
    · simp [h]
  · by_cases h : item.account = KeychainStorage.resetQuestionCounterTimestampKey
    · simp [h]
    · simp [h]

theorem foreign_replaced {key : String} (items : List KeychainItem)
    (hkey : key = KeychainStorage.accessQuestionsCountKey ∨
      key = KeychainStorage.resetQuestionCounterTimestampKey) (value : Data) :
    foreign (items.filter (fun i => i.account ≠ key) ++ [⟨key,true,value⟩]) = foreign items := by
  have hitem : foreign [⟨key,true,value⟩] = [] := by
    rcases hkey with rfl | rfl
    · simp [foreign]
    · simp [foreign]
  have hrest := foreign_removed items hkey
  unfold foreign at hitem hrest ⊢
  rw [List.filter_append,hrest,hitem,List.append_nil]

variable {timestamp : TextCodec Date} {c : KeychainStorage}

/-- One access reads the same on both sides, leaves them alike and other accounts alone. -/
structure Mirrored (timestamp : TextCodec Date) (k : KeychainSwift) (c : KeychainStorage)
    (a : KeychainAccess) : Prop where
  reading : (k.access timestamp a).1 = (c.access a).1
  reads : Reads timestamp (k.access timestamp a).2 (c.access a).2
  foreign : foreign (k.access timestamp a).2.items = foreign k.items

theorem keys_ne : KeychainStorage.resetQuestionCounterTimestampKey ≠
    KeychainStorage.accessQuestionsCountKey := by decide

theorem Reads.getCount (h : Reads timestamp k c) : Mirrored timestamp k c .getCount := by
  obtain ⟨hvalue,code,hk⟩ := read_stored intCodec KeychainStorage.accessQuestionsCountKey h.plain
  have hread : k.access timestamp .getCount =
      ([.count ((KeychainStorage.read intCodec
          KeychainStorage.accessQuestionsCountKey k).1.map Int64.toInt)],
        (KeychainStorage.read intCodec KeychainStorage.accessQuestionsCountKey k).2) := rfl
  constructor
  · rw [hread,hvalue,h.count]
    rfl
  · rw [hread,hk]
    exact ⟨h.plain,rfl,h.count,h.timestamp⟩
  · rw [hread,hk]

theorem Reads.setCount (h : Reads timestamp k c) (newValue : Option (Fin (2 ^ 63))) :
    Mirrored timestamp k c (.setCount newValue) := by
  cases newValue with
  | none => exact ⟨rfl,⟨h.plain,h.any,h.count,h.timestamp⟩,rfl⟩
  | some value =>
    have hitems := set_items (k := { k with synchronizable := true }) h.plain rfl
      (intCodec.encode (Int64.ofNat value)) KeychainStorage.accessQuestionsCountKey
    have hvalue : (Int64.ofNat value).toInt = value.val := Int64.toInt_ofNat_of_lt value.isLt
    refine ⟨rfl,⟨h.plain,rfl,?_,?_⟩,?_⟩
    · have hread := (congrArg _ hitems).trans (stored_replaced intCodec k.items
        KeychainStorage.accessQuestionsCountKey (Int64.ofNat value))
      exact (congrArg (Option.map Int64.toInt) hread).trans (congrArg some hvalue)
    · exact (congrArg _ hitems).trans ((stored_other timestamp _ keys_ne _).trans h.timestamp)
    · exact (congrArg _ hitems).trans (foreign_replaced _ (.inl rfl) _)

theorem Reads.getTimestamp (h : Reads timestamp k c) : Mirrored timestamp k c .getTimestamp := by
  obtain ⟨hvalue,code,hk⟩ :=
    read_stored timestamp KeychainStorage.resetQuestionCounterTimestampKey h.plain
  have hread : k.access timestamp .getTimestamp =
      ([.timestamp
        (KeychainStorage.read timestamp KeychainStorage.resetQuestionCounterTimestampKey k).1],
        (KeychainStorage.read timestamp KeychainStorage.resetQuestionCounterTimestampKey k).2) :=
    rfl
  constructor
  · rw [hread,hvalue,h.timestamp]
    rfl
  · rw [hread,hk]
    exact ⟨h.plain,rfl,h.count,h.timestamp⟩
  · rw [hread,hk]

theorem Reads.setTimestamp (h : Reads timestamp k c) (newValue : Option Date) :
    Mirrored timestamp k c (.setTimestamp newValue) := by
  cases newValue with
  | none =>
    have hitems := delete_items h.plain h.any KeychainStorage.resetQuestionCounterTimestampKey
    refine ⟨rfl,⟨h.plain,h.any,?_,?_⟩,?_⟩
    · refine (congrArg (fun items => (stored intCodec _ items).map Int64.toInt) hitems).trans ?_
      rw [stored_removed,if_neg keys_ne.symm]
      exact h.count
    · refine (congrArg _ hitems).trans ?_
      rw [stored_removed,if_pos rfl]
      rfl
    · exact (congrArg _ hitems).trans (foreign_removed _ (.inr rfl))
  | some value =>
    have hitems := set_items (k := { k with synchronizable := true }) h.plain rfl
      (timestamp.encode value) KeychainStorage.resetQuestionCounterTimestampKey
    refine ⟨rfl,⟨h.plain,rfl,?_,?_⟩,?_⟩
    · have hsame := (congrArg _ hitems).trans (stored_other intCodec k.items keys_ne.symm _)
      exact (congrArg (Option.map Int64.toInt) hsame).trans h.count
    · exact (congrArg _ hitems).trans (stored_replaced timestamp _ _ _)
    · exact (congrArg _ hitems).trans (foreign_replaced _ (.inr rfl) _)

theorem Reads.mirrored (h : Reads timestamp k c) (a : KeychainAccess) :
    Mirrored timestamp k c a := by
  cases a with
  | getCount => exact h.getCount
  | setCount newValue => exact h.setCount newValue
  | getTimestamp => exact h.getTimestamp
  | setTimestamp newValue => exact h.setTimestamp newValue

theorem reads_accesses (h : Reads timestamp k c) (as : List KeychainAccess) :
    (accesses (access timestamp) k as).1 = (accesses KeychainStorage.access c as).1 ∧
      Reads timestamp (accesses (access timestamp) k as).2
        (accesses KeychainStorage.access c as).2 ∧
      foreign (accesses (access timestamp) k as).2.items = foreign k.items := by
  induction as generalizing k c with
  | nil => exact ⟨rfl,h,rfl⟩
  | cons a as ih =>
    have hstep := h.mirrored a
    obtain ⟨hreads,hlast,hkept⟩ := ih hstep.reads
    exact ⟨congrArg₂ (· ++ ·) hstep.reading hreads,hlast,hkept.trans hstep.foreign⟩

def launch (timestamp : TextCodec Date) (items : List KeychainItem) : KeychainSwift :=
  (access timestamp { items } .getCount).2

end KeychainSwift

open KeychainSwift

def secondsCodec : TextCodec Date where
  encode date := toString date ++ ".0"
  decode text :=
    if text.toList.drop (text.toList.length - 2) = ['.','0'] then
      Text.decimal (String.ofList (text.toList.take (text.toList.length - 2)))
    else none
  decode_encode date := by simpa using Text.decimal_repr date
  decode_empty := by decide

/-- A nil written before any reading leaves a synchronized timestamp in place. -/
example :
    let item : KeychainItem := ⟨KeychainStorage.resetQuestionCounterTimestampKey,true,[53,46,48]⟩
    (access secondsCodec { items := [item] } (.setTimestamp none)).2.items = [item] ∧
      (access secondsCodec (launch secondsCodec [item]) (.setTimestamp none)).2.items = [] := by
  decide

end GenieD

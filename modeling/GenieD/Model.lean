import GenieD.Platform

set_option autoImplicit false

namespace GenieD

structure MessageItem where
  id : String
  text : String
  isMy : Bool
  image : Option UIImage := none
  created : Date
  usageTokens : Int := 0
  deriving DecidableEq, Repr

structure ChatResponse where
  output : String
  promptTokens : Int
  completionTokens : Int
  deriving DecidableEq, Repr

inductive FileType where
  | image | pdf
  deriving DecidableEq, Repr

def FileType.fileName : FileType → String
  | .image => "image.png"
  | .pdf => "document.pdf"

def FileType.contentType : FileType → String
  | .image => "image/png"
  | .pdf => "application/pdf"

namespace Test

def textSetTo : String := "Test Leo. Change temp to "
def textTemperatureIsSetTo : String := "Temperature is set to "
def textError : String := "Error setting temperature. Temperature must be set between 0 and 2"

end Test

inductive BuyProAccess where
  | lite | pro | advanced
  deriving DecidableEq, Repr

inductive Period where
  | liteWeek | liteYear | proWeek | proYear | advancedWeek | advancedYear
  deriving DecidableEq, Repr

structure BuyProProduct where
  period : Period
  deriving DecidableEq, Repr

def BuyProProduct.id (product : BuyProProduct) : String :=
  match product.period with
  | .liteWeek => "com.nisos.gpt.lite.week"
  | .liteYear => "com.nisos.gpt.lite"
  | .proWeek => "com.nisos.gpt.pro.week"
  | .proYear => "com.nisos.gpt.pro"
  | .advancedWeek => "com.nisos.gpt.advanced.week"
  | .advancedYear => "com.nisos.gpt.advanced"

structure Subsciption where
  period : Period
  expirationDate : Date
  deriving DecidableEq, Repr

def Subsciption.access (s : Subsciption) : BuyProAccess :=
  match s.period with
  | .liteWeek | .liteYear => .lite
  | .proWeek | .proYear => .pro
  | .advancedWeek | .advancedYear => .advanced

def Subsciption.priority (s : Subsciption) : Int :=
  match s.period with
  | .liteWeek | .liteYear => 0
  | .proWeek | .proYear => 1
  | .advancedWeek | .advancedYear => 2

inductive Role where
  | user | assistant
  deriving DecidableEq, Repr

structure PostedMessage where
  role : Role
  content : String
  deriving DecidableEq, Repr

def MessageItem.posted (item : MessageItem) : PostedMessage :=
  ⟨if item.isMy then .user else .assistant,item.text⟩

/-- The body that `_sendTurbo` posts; the model name is a constant. -/
structure TurboBody where
  messages : List PostedMessage
  maxTokens : Int
  temperature : Option Double
  deriving DecidableEq, Repr

structure TurboUsage where
  completionTokens : Option Int
  promptTokens : Option Int
  deriving DecidableEq, Repr

structure TextTurboResponse where
  choices : List String
  usage : TurboUsage
  deriving DecidableEq, Repr

def TextTurboResponse.toChatResponse (r : TextTurboResponse) : ChatResponse where
  output := (r.choices.head?.map Text.trimmingCharacters).getD ""
  promptTokens := r.usage.promptTokens.getD 0
  completionTokens := r.usage.completionTokens.getD 0

end GenieD

import Mathlib
import GenieD.Replacing

set_option autoImplicit false

namespace GenieD

/-- An instant, counted in ticks of a clock fine enough for every reading. -/
abbrev Date := Int
abbrev TimeInterval := Int
abbrev Data := List UInt8

structure UIImage where
  bitmap : Data
  deriving DecidableEq, Repr

inductive Double where
  | nan
  | infinity (negative : Bool)
  | finite (negative : Bool) (magnitude : ℚ)
  deriving DecidableEq, Repr

def Double.isBetweenZeroAndTwo : Double → Bool
  | .nan => false
  | .infinity _ => false
  | .finite negative magnitude =>
    decide (negative = true → magnitude = 0) && decide (magnitude ≤ 2)

namespace Text

/-- `contains` of one string in another. A `Char` stands for a Swift `Character`. -/
def contains (text part : String) : Bool := decide (part.toList <:+: text.toList)

theorem contains_append_left (part rest : String) : contains (part ++ rest) part = true := by
  simpa [contains,String.toList_append] using (List.prefix_append part.toList rest.toList).isInfix

theorem contains_self (text : String) : contains text text = true := by
  simp [contains]

def replacingOccurrences (text target replacement : String) : String :=
  String.ofList (Replacing.replaceAll target.toList replacement.toList text.toList)

/-- `CharacterSet.whitespacesAndNewlines`: general category Z, tab, U+000A to U+000D and U+0085. -/
def isWhitespaceOrNewline (c : Char) : Bool :=
  let v := c.toNat
  v == 0x20 || (0x09 ≤ v && v ≤ 0x0D) || v == 0x85 || v == 0xA0 || v == 0x1680 ||
    (0x2000 ≤ v && v ≤ 0x200A) || v == 0x2028 || v == 0x2029 || v == 0x202F || v == 0x205F ||
    v == 0x3000

def trimmingCharacters (text : String) : String :=
  String.ofList ((text.toList.dropWhile isWhitespaceOrNewline).reverse.dropWhile
    isWhitespaceOrNewline).reverse

def isBlank (text : String) : Bool := (trimmingCharacters text).isEmpty

def first (count : Nat) (text : String) : String := String.ofList (text.toList.take count)

end Text

/-- What the code asks of the system and of the standard library: the values
that `Date()` and `UUID()` return one after the other, translation tables, case
mapping, number syntax, image coding and the calendar. -/
structure Platform where
  clock : Nat → Date
  uuid : Nat → String
  uuid_injective : Function.Injective uuid
  localized : String → String
  lowercased : String → String
  double : String → Option Double
  description : Double → String
  pngData : UIImage → Option Data
  uiImage : Data → Option UIImage
  day : Date → Option Int

def Platform.plain (clock : Nat → Date) : Platform where
  clock
  uuid n := String.ofList (List.replicate n '0')
  uuid_injective m n h := by simpa using congrArg List.length (String.ofList_injective h)
  localized text := text
  lowercased text := String.ofList (text.toList.map Char.toLower)
  double text :=
    if text ≠ "" ∧ text.toList.all Char.isDigit then
      some (.finite false (text.toList.foldl (fun n c => 10 * n + (c.toNat - '0'.toNat)) 0 : Nat))
    else none
  description
    | .nan => "nan"
    | .infinity negative => if negative then "-inf" else "inf"
    | .finite negative magnitude =>
      (if negative then "-" else "") ++ toString magnitude.floor ++ ".0"
  pngData image := some image.bitmap
  uiImage data := if data = [] then none else some ⟨data⟩
  day ts := some (ts / 86400)

end GenieD

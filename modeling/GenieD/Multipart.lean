import GenieD.Delimited
import GenieD.Model
import GenieD.Replacing

set_option autoImplicit false

namespace GenieD

open Delimited

def utf8 (s : String) : Data := s.toUTF8.data.toList

structure Part where
  name : String
  data : Data
  filename : Option String := none
  contentType : Option String := none
  deriving DecidableEq, Repr

def Part.ofValue (name value : String) : Part := { name, data := utf8 value }

structure MultipartForm where
  parts : List Part := []
  boundary : String

namespace MultipartForm

def partData (boundary : String) (part : Part) : Data :=
  utf8 ("--" ++ boundary ++ "\r\n") ++
    utf8 ("Content-Disposition: form-data; name=\"" ++ part.name ++ "\"") ++
    (match part.filename.map (fun f => Text.replacingOccurrences f "\"" "_") with
      | some filename => utf8 ("; filename=\"" ++ filename ++ "\"")
      | none => []) ++
    utf8 "\r\n" ++
    (match part.contentType with
      | some contentType => utf8 ("Content-Type: " ++ contentType ++ "\r\n")
      | none => []) ++
    utf8 "\r\n" ++
    part.data ++
    utf8 "\r\n"

def bodyData (form : MultipartForm) : Data :=
  form.parts.flatMap (partData form.boundary) ++ utf8 ("--" ++ form.boundary ++ "--\r\n")

def describeFile (data : Data) (fileType : FileType) (text boundary : String) : MultipartForm where
  parts := [.ofValue "query" text,
    { name := "file", data, filename := fileType.fileName, contentType := fileType.contentType }]
  boundary

def readHeaders : Nat → Data → Option (List (Data × Data) × Data)
  | 0, _ => none
  | fuel + 1, l => do
    let (line,l) ← breakOn (utf8 "\r\n") l
    if line = [] then some ([],l)
    else
      let (field,value) ← breakOn (utf8 ": ") line
      let (fields,l) ← readHeaders fuel l
      some ((field,value) :: fields,l)

def readParameters : Nat → Data → Option (List (Data × Data))
  | 0, _ => none
  | fuel + 1, l =>
    if l = [] then some []
    else do
      let l ← strip (utf8 "; ") l
      let (key,l) ← breakOn (utf8 "=\"") l
      let (value,l) ← breakOn (utf8 "\"") l
      let parameters ← readParameters fuel l
      some ((key,value) :: parameters)

def readText (bytes : Data) : Option String := String.fromUTF8? ⟨bytes.toArray⟩

/-- A body part of `multipart/form-data`, between two delimiters. -/
def readPart (l : Data) : Option Part := do
  let (fields,data) ← readHeaders l.length l
  let disposition ← fields.lookup (utf8 "Content-Disposition")
  let parameters ← strip (utf8 "form-data") disposition
  let parameters ← readParameters (parameters.length + 1) parameters
  let name ← (parameters.lookup (utf8 "name")).bind readText
  some
    { name
      data
      filename := (parameters.lookup (utf8 "filename")).bind readText
      contentType := (fields.lookup (utf8 "Content-Type")).bind readText }

/-- What follows a delimiter: `--` after the last part, and else a new line, a
part and the next delimiter. -/
def readParts (boundary : String) : Nat → Data → Option (List Part)
  | 0, _ => none
  | fuel + 1, l =>
    if utf8 "--" <+: l then some []
    else do
      let l ← strip (utf8 "\r\n") l
      let (block,l) ← breakOn (utf8 ("\r\n--" ++ boundary)) l
      let part ← readPart block
      let parts ← readParts boundary fuel l
      some (part :: parts)

def decode (boundary : String) (body : Data) : Option (List Part) := do
  let l ← strip (utf8 ("--" ++ boundary)) body
  readParts boundary body.length l

/-- What the receiver has to rely on: no quotes or line ends in names, no line
ends in types, and no boundary in the data. -/
structure Encodable (boundary : String) (part : Part) : Prop where
  name : ∀ c ∈ part.name.toList, c ≠ '"' ∧ c ≠ '\r' ∧ c ≠ '\n'
  filename : ∀ filename ∈ part.filename, ∀ c ∈ filename.toList, c ≠ '"' ∧ c ≠ '\r' ∧ c ≠ '\n'
  contentType : ∀ contentType ∈ part.contentType, ∀ c ∈ contentType.toList, c ≠ '\r' ∧ c ≠ '\n'
  data : ¬ utf8 ("--" ++ boundary) <:+: part.data

theorem utf8_append (s t : String) : utf8 (s ++ t) = utf8 s ++ utf8 t := by
  simp [utf8]

theorem utf8_eq_flatMap (s : String) : utf8 s = s.toList.flatMap String.utf8EncodeChar := by
  have h : s.toByteArray = s.toList.utf8Encode := String.utf8Encode_toList.symm
  simp [utf8,h,List.utf8Encode]

@[simp] theorem readText_utf8 (s : String) : readText (utf8 s) = some s := by
  simp [readText,utf8,String.fromUTF8?,s.isValidUTF8,String.fromUTF8]

theorem mem_utf8EncodeChar {c : Char} {b : UInt8} (h : b ∈ String.utf8EncodeChar c)
    (hb : b.toNat < 128) : c.val.toNat = b.toNat := by
  have hsize : ∀ n : Nat, (UInt8.ofNat n).toNat = n % 256 := fun n => UInt8.toNat_ofNat'
  revert h
  fun_cases String.utf8EncodeChar c with
  | case1 v hv =>
    intro h
    have hbyte := congrArg UInt8.toNat (List.mem_singleton.mp h)
    rw [hsize] at hbyte
    omega
  | case2 v =>
    intro h
    simp only [List.mem_cons,List.not_mem_nil,or_false] at h
    rcases h with rfl | rfl <;> rw [hsize] at hb <;> omega
  | case3 v =>
    intro h
    simp only [List.mem_cons,List.not_mem_nil,or_false] at h
    rcases h with rfl | rfl | rfl <;> rw [hsize] at hb <;> omega
  | case4 v =>
    intro h
    simp only [List.mem_cons,List.not_mem_nil,or_false] at h
    rcases h with rfl | rfl | rfl | rfl <;> rw [hsize] at hb <;> omega

theorem not_mem_utf8 {s : String} {c : Char} {b : UInt8} (hc : c.val.toNat = b.toNat)
    (hb : b.toNat < 128) (h : ∀ x ∈ s.toList, x ≠ c) : b ∉ utf8 s := by
  rw [utf8_eq_flatMap]
  intro hmem
  obtain ⟨x,hx,hbyte⟩ := List.mem_flatMap.mp hmem
  have hval := mem_utf8EncodeChar hbyte hb
  refine h x hx (Char.ext (UInt32.toNat_inj.mp ?_))
  rw [hval,hc]

theorem utf8_crlf : utf8 "\r\n" = [13,10] := by decide

theorem utf8_delimiter (boundary : String) :
    utf8 ("\r\n--" ++ boundary) = 13 :: 10 :: utf8 ("--" ++ boundary) := by
  rw [utf8_append,utf8_append]
  rfl

theorem delimiter_infix_crlf {t l : Data} :
    13 :: 10 :: t <:+: 13 :: 10 :: l ↔ t <+: l ∨ 13 :: 10 :: t <:+: l := by
  simp [List.infix_cons_iff]

def parameters (part : Part) : List (String × String) :=
  ("name",part.name) :: (part.filename.map (fun filename => ("filename",filename))).toList

def parameterData (x : String × String) : Data :=
  utf8 "; " ++ (utf8 x.1 ++ (utf8 "=\"" ++ (utf8 x.2 ++ utf8 "\"")))

def disposition (part : Part) : Data :=
  utf8 "form-data" ++ (parameters part).flatMap parameterData

def fields (part : Part) : List (String × Data) :=
  ("Content-Disposition",disposition part) ::
    (part.contentType.map (fun contentType => ("Content-Type",utf8 contentType))).toList

def fieldLine (x : String × Data) : Data := utf8 x.1 ++ (utf8 ": " ++ x.2)

def fieldData (x : String × Data) : Data := fieldLine x ++ utf8 "\r\n"

def block (part : Part) : Data :=
  (fields part).flatMap fieldData ++ (utf8 "\r\n" ++ part.data)

theorem replacingOccurrences_of_not_mem {text : String} (h : ∀ c ∈ text.toList, c ≠ '"') :
    Text.replacingOccurrences text "\"" "_" = text := by
  have habsent : ¬ ['"'] <:+: text.toList :=
    fun hpart => h _ (hpart.mem (List.mem_singleton_self '"')) rfl
  have hsame : Replacing.replaceAll ['"'] "_".toList text.toList = text.toList :=
    Replacing.replaceAll_absent habsent
  unfold Text.replacingOccurrences
  exact (congrArg String.ofList hsame).trans String.ofList_toList

variable {boundary : String} {part : Part}

theorem partData_eq (h : Encodable boundary part) :
    partData boundary part =
      utf8 ("--" ++ boundary) ++ (utf8 "\r\n" ++ (block part ++ utf8 "\r\n")) := by
  have hname : utf8 "Content-Disposition: form-data; name=\"" =
      utf8 "Content-Disposition" ++ (utf8 ": " ++ (utf8 "form-data" ++
        (utf8 "; " ++ (utf8 "name" ++ utf8 "=\"")))) := by decide
  have hfilename : utf8 "; filename=\"" =
      utf8 "; " ++ (utf8 "filename" ++ utf8 "=\"") := by decide
  have htype : utf8 "Content-Type: " = utf8 "Content-Type" ++ utf8 ": " := by decide
  unfold partData block fields disposition parameters fieldData fieldLine parameterData
  cases hf : part.filename with
  | none =>
    cases ht : part.contentType with
    | none => simp [utf8_append,hname]
    | some contentType => simp [utf8_append,hname,htype]
  | some filename =>
    have hquote : Text.replacingOccurrences filename "\"" "_" = filename :=
      replacingOccurrences_of_not_mem fun c hc => (h.filename filename hf c hc).1
    cases ht : part.contentType with
    | none => simp [utf8_append,hname,hfilename,hquote]
    | some contentType => simp [utf8_append,hname,hfilename,hquote,htype]

structure IsParameter (x : String × String) : Prop where
  equals : 61 ∉ utf8 x.1
  key : 13 ∉ utf8 x.1
  quote : 34 ∉ utf8 x.2
  value : 13 ∉ utf8 x.2

theorem readParameters_flatMap (l : List (String × String)) (h : ∀ x ∈ l, IsParameter x)
    (fuel : Nat) (hfuel : l.length < fuel) :
    readParameters fuel (l.flatMap parameterData) =
      some (l.map (fun x => (utf8 x.1,utf8 x.2))) := by
  induction l generalizing fuel with
  | nil =>
    obtain ⟨fuel,rfl⟩ := Nat.exists_eq_succ_of_ne_zero (Nat.ne_zero_of_lt hfuel)
    simp [readParameters]
  | cons x l ih =>
    obtain ⟨fuel,rfl⟩ := Nat.exists_eq_succ_of_ne_zero (Nat.ne_zero_of_lt hfuel)
    have hx := h x List.mem_cons_self
    have hrest := ih (fun y hy => h y (.tail _ hy)) fuel (by simpa using hfuel)
    have hsplit : (x :: l).flatMap parameterData = utf8 "; " ++ (utf8 x.1 ++ (utf8 "=\"" ++
        (utf8 x.2 ++ (utf8 "\"" ++ l.flatMap parameterData)))) := by
      simp [parameterData]
    have hne : (x :: l).flatMap parameterData ≠ [] := by
      rw [hsplit]
      exact List.append_ne_nil_of_left_ne_nil (by decide) _
    have hkey := breakOn_of_not_mem (show utf8 "=\"" = [61,34] by decide) (by decide) hx.equals
    have hvalue := breakOn_of_not_mem (show utf8 "\"" = [34] by decide) (by decide) hx.quote
    rw [readParameters,if_neg hne,hsplit]
    simp [hkey,hvalue,hrest]

structure IsField (x : String × Data) : Prop where
  head : ∃ l, utf8 x.1 = 67 :: l
  colon : 58 ∉ utf8 x.1
  name : 13 ∉ utf8 x.1
  value : 13 ∉ x.2

theorem IsField.not_mem_line {x : String × Data} (h : IsField x) : 13 ∉ fieldLine x := by
  have hcolon : 13 ∉ utf8 ": " := by decide
  simp [fieldLine,h.name,h.value,hcolon]

theorem break_line {line : Data} (h : 13 ∉ line) (l : Data) :
    breakOn (utf8 "\r\n") (line ++ (utf8 "\r\n" ++ l)) = some (line,l) :=
  breakOn_of_not_mem utf8_crlf (by decide) h l

theorem readHeaders_flatMap (fs : List (String × Data)) (h : ∀ x ∈ fs, IsField x) (data : Data)
    (fuel : Nat) (hfuel : fs.length < fuel) :
    readHeaders fuel (fs.flatMap fieldData ++ (utf8 "\r\n" ++ data)) =
      some (fs.map (fun x => (utf8 x.1,x.2)),data) := by
  induction fs generalizing fuel with
  | nil =>
    obtain ⟨fuel,rfl⟩ := Nat.exists_eq_succ_of_ne_zero (Nat.ne_zero_of_lt hfuel)
    have hempty : breakOn (utf8 "\r\n") (utf8 "\r\n" ++ data) = some ([],data) :=
      break_line List.not_mem_nil data
    simp [readHeaders,hempty]
  | cons x fs ih =>
    obtain ⟨fuel,rfl⟩ := Nat.exists_eq_succ_of_ne_zero (Nat.ne_zero_of_lt hfuel)
    have hx := h x List.mem_cons_self
    have hrest := ih (fun y hy => h y (.tail _ hy)) fuel (by simpa using hfuel)
    have hsplit : (x :: fs).flatMap fieldData ++ (utf8 "\r\n" ++ data) =
        fieldLine x ++ (utf8 "\r\n" ++ (fs.flatMap fieldData ++ (utf8 "\r\n" ++ data))) := by
      simp [fieldData]
    have hne : fieldLine x ≠ [] := by
      obtain ⟨l,hl⟩ := hx.head
      simp [fieldLine,hl]
    have hfield : breakOn (utf8 ": ") (fieldLine x) = some (utf8 x.1,x.2) :=
      breakOn_of_not_mem (show utf8 ": " = [58,32] by decide) (by decide) hx.colon x.2
    rw [hsplit,readHeaders,break_line hx.not_mem_line]
    simp [hne,hfield,hrest]

theorem IsParameter.not_mem_data {x : String × String} (h : IsParameter x) :
    13 ∉ parameterData x := by
  have hsemicolon : 13 ∉ utf8 "; " := by decide
  have hequals : 13 ∉ utf8 "=\"" := by decide
  have hquote : 13 ∉ utf8 "\"" := by decide
  simp [parameterData,h.key,h.value,hsemicolon,hequals,hquote]

theorem isParameter_parameters (h : Encodable boundary part) :
    ∀ x ∈ parameters part, IsParameter x := by
  have hquoted : ∀ s : String, (∀ c ∈ s.toList, c ≠ '"' ∧ c ≠ '\r' ∧ c ≠ '\n') →
      34 ∉ utf8 s ∧ 13 ∉ utf8 s := fun s hs =>
    ⟨not_mem_utf8 (c := '"') (by decide) (by decide) fun c hc => (hs c hc).1,
      not_mem_utf8 (c := '\r') (by decide) (by decide) fun c hc => (hs c hc).2.1⟩
  intro x hx
  rcases List.mem_cons.mp hx with rfl | hfilename
  · have hkey : 61 ∉ utf8 "name" ∧ 13 ∉ utf8 "name" := by decide
    obtain ⟨hquote,hvalue⟩ := hquoted _ h.name
    exact ⟨hkey.1,hkey.2,hquote,hvalue⟩
  · obtain ⟨filename,hsome,rfl⟩ : ∃ filename, part.filename = some filename ∧
        ("filename",filename) = x := by simpa using hfilename
    have hkey : 61 ∉ utf8 "filename" ∧ 13 ∉ utf8 "filename" := by decide
    obtain ⟨hquote,hvalue⟩ := hquoted _ (h.filename filename hsome)
    exact ⟨hkey.1,hkey.2,hquote,hvalue⟩

theorem not_mem_disposition (h : Encodable boundary part) : 13 ∉ disposition part := by
  have hform : 13 ∉ utf8 "form-data" := by decide
  have hparameters : 13 ∉ (parameters part).flatMap parameterData := by
    rw [List.mem_flatMap]
    rintro ⟨x,hx,hmem⟩
    exact (isParameter_parameters h x hx).not_mem_data hmem
  simp [disposition,hform,hparameters]

theorem isField_fields (h : Encodable boundary part) : ∀ x ∈ fields part, IsField x := by
  intro x hx
  rcases List.mem_cons.mp hx with rfl | htype
  · have hname : 58 ∉ utf8 "Content-Disposition" ∧ 13 ∉ utf8 "Content-Disposition" := by decide
    exact ⟨⟨_,rfl⟩,hname.1,hname.2,not_mem_disposition h⟩
  · obtain ⟨contentType,hsome,rfl⟩ : ∃ contentType, part.contentType = some contentType ∧
        ("Content-Type",utf8 contentType) = x := by simpa using htype
    have hname : 58 ∉ utf8 "Content-Type" ∧ 13 ∉ utf8 "Content-Type" := by decide
    have hline : 13 ∉ utf8 contentType := not_mem_utf8 (c := '\r') (by decide) (by decide)
      fun c hc => (h.contentType contentType hsome c hc).1
    exact ⟨⟨_,rfl⟩,hname.1,hname.2,hline⟩

theorem readHeaders_block (h : Encodable boundary part) :
    readHeaders (block part).length (block part) =
      some ((fields part).map (fun x => (utf8 x.1,x.2)),part.data) := by
  have hfuel : (fields part).length < (block part).length := by
    have hle := length_le_flatMap fun x (_ : x ∈ fields part) =>
      List.append_ne_nil_of_right_ne_nil (fieldLine x) (show utf8 "\r\n" ≠ [] by decide)
    have hcrlf : 0 < (utf8 "\r\n").length := by decide
    rw [block,List.length_append,List.length_append]
    exact Nat.lt_of_le_of_lt hle (Nat.lt_add_of_pos_right (Nat.lt_add_right _ hcrlf))
  exact readHeaders_flatMap (fields part) (isField_fields h) part.data _ hfuel

theorem readParameters_disposition (h : Encodable boundary part) :
    readParameters (((parameters part).flatMap parameterData).length + 1)
        ((parameters part).flatMap parameterData) =
      some ((parameters part).map (fun x => (utf8 x.1,utf8 x.2))) := by
  have hle : (parameters part).length ≤ ((parameters part).flatMap parameterData).length :=
    length_le_flatMap fun x _ =>
      List.append_ne_nil_of_left_ne_nil (show utf8 "; " ≠ [] by decide) _
  exact readParameters_flatMap (parameters part) (isParameter_parameters h) _
    (Nat.lt_succ_of_le hle)

theorem lookup_contentType (part : Part) :
    (((fields part).map (fun x => (utf8 x.1,x.2))).lookup (utf8 "Content-Type")).bind readText =
      part.contentType := by
  have hne : (utf8 "Content-Type" == utf8 "Content-Disposition") = false := by decide
  cases ht : part.contentType <;> simp [fields,ht,List.lookup,hne]

theorem lookup_filename (part : Part) :
    (((parameters part).map (fun x => (utf8 x.1,utf8 x.2))).lookup (utf8 "filename")).bind
      readText = part.filename := by
  have hne : (utf8 "filename" == utf8 "name") = false := by decide
  cases hf : part.filename <;> simp [parameters,hf,List.lookup,hne]

theorem readPart_block (h : Encodable boundary part) : readPart (block part) = some part := by
  have hdisposition : ((fields part).map (fun x => (utf8 x.1,x.2))).lookup
      (utf8 "Content-Disposition") = some (disposition part) := by
    simp [fields]
  have hstrip : strip (utf8 "form-data") (disposition part) =
      some ((parameters part).flatMap parameterData) := strip_append _ _
  have hname : (((parameters part).map (fun x => (utf8 x.1,utf8 x.2))).lookup
      (utf8 "name")).bind readText = some part.name := by
    simp [parameters]
  simp only [readPart,readHeaders_block h,hdisposition,hstrip,readParameters_disposition h,hname,
    lookup_filename,lookup_contentType,Option.bind_eq_bind,Option.bind_some]

theorem not_prefix_headers (boundary : String) (fs : List (String × Data))
    (h : ∀ x ∈ fs, IsField x) (data : Data) :
    ¬ utf8 ("--" ++ boundary) <+: fs.flatMap fieldData ++ (utf8 "\r\n" ++ data) := by
  have hdashes : utf8 "--" = [45,45] := by decide
  rw [utf8_append,hdashes]
  cases fs with
  | nil => simp [utf8_crlf]
  | cons x fs =>
    obtain ⟨l,hl⟩ := (h x List.mem_cons_self).head
    simp [fieldData,fieldLine,hl]

theorem not_infix_headers (fs : List (String × Data)) (h : ∀ x ∈ fs, IsField x) {data : Data}
    (hdata : ¬ utf8 ("--" ++ boundary) <:+: data) :
    ¬ utf8 ("\r\n--" ++ boundary) <:+: fs.flatMap fieldData ++ (utf8 "\r\n" ++ data) := by
  rw [utf8_delimiter]
  induction fs with
  | nil =>
    rw [List.flatMap_nil,List.nil_append,utf8_crlf]
    intro hin
    rcases delimiter_infix_crlf.mp hin with hstart | hlater
    · exact hdata hstart.isInfix
    · exact hdata (List.IsInfix.trans ⟨[13,10],[],by simp⟩ hlater)
  | cons x fs ih =>
    have hrest : ∀ y ∈ fs, IsField y := fun y hy => h y (.tail _ hy)
    have hsplit : (x :: fs).flatMap fieldData ++ (utf8 "\r\n" ++ data) =
        fieldLine x ++ (13 :: 10 :: (fs.flatMap fieldData ++ (utf8 "\r\n" ++ data))) := by
      simp [fieldData,utf8_crlf]
    rw [hsplit,infix_append_of_not_mem (h x List.mem_cons_self).not_mem_line,
      delimiter_infix_crlf]
    rintro (hstart | hlater)
    · exact not_prefix_headers boundary fs hrest data hstart
    · exact ih hrest hlater

/-- The next delimiter is the first: none can begin in the part before it. -/
theorem breakOn_block (hboundary : ∀ c ∈ boundary.toList, c ≠ '\r') (h : Encodable boundary part)
    (l : Data) :
    breakOn (utf8 ("\r\n--" ++ boundary)) (block part ++ (utf8 ("\r\n--" ++ boundary) ++ l)) =
      some (block part,l) := by
  have hcr : 13 ∉ 10 :: utf8 ("--" ++ boundary) := by
    have hdashes : 13 ∉ utf8 "--" := by decide
    have hmem : 13 ∉ utf8 boundary := not_mem_utf8 (c := '\r') (by decide) (by decide) hboundary
    simp [utf8_append,hdashes,hmem]
  have hnot := not_infix_headers (fields part) (isField_fields h) h.data
  rw [utf8_delimiter] at hnot ⊢
  exact breakOn_append hcr hnot l

def tail (boundary : String) : List Part → Data
  | [] => utf8 "--\r\n"
  | part :: parts =>
    utf8 "\r\n" ++ (block part ++ (utf8 ("\r\n--" ++ boundary) ++ tail boundary parts))

theorem bodyData_eq (boundary : String) (parts : List Part)
    (h : ∀ part ∈ parts, Encodable boundary part) :
    bodyData ⟨parts,boundary⟩ = utf8 ("--" ++ boundary) ++ tail boundary parts := by
  induction parts with
  | nil => simp [bodyData,tail,utf8_append]
  | cons part parts ih =>
    have hrest := ih fun p hp => h p (.tail _ hp)
    have hdelimiter : utf8 ("\r\n--" ++ boundary) = utf8 "\r\n" ++ utf8 ("--" ++ boundary) := by
      rw [utf8_delimiter,utf8_crlf]
      rfl
    calc bodyData ⟨part :: parts,boundary⟩
        = partData boundary part ++ bodyData ⟨parts,boundary⟩ := by simp [bodyData]
      _ = utf8 ("--" ++ boundary) ++ tail boundary (part :: parts) := by
        rw [hrest,partData_eq (h part List.mem_cons_self),tail,hdelimiter]
        simp only [List.append_assoc]

theorem readParts_tail (hboundary : ∀ c ∈ boundary.toList, c ≠ '\r') (parts : List Part)
    (h : ∀ part ∈ parts, Encodable boundary part) (fuel : Nat) (hfuel : parts.length < fuel) :
    readParts boundary fuel (tail boundary parts) = some parts := by
  induction parts generalizing fuel with
  | nil =>
    obtain ⟨fuel,rfl⟩ := Nat.exists_eq_succ_of_ne_zero (Nat.ne_zero_of_lt hfuel)
    have hlast : utf8 "--" <+: utf8 "--\r\n" := by decide
    simp [readParts,tail,hlast]
  | cons part parts ih =>
    obtain ⟨fuel,rfl⟩ := Nat.exists_eq_succ_of_ne_zero (Nat.ne_zero_of_lt hfuel)
    have hpart := h part List.mem_cons_self
    have hrest := ih (fun p hp => h p (.tail _ hp)) fuel (by simpa using hfuel)
    have hnext : ¬ utf8 "--" <+: tail boundary (part :: parts) := by
      have hdashes : utf8 "--" = [45,45] := by decide
      simp [tail,hdashes,utf8_crlf]
    have hstrip := strip_append (utf8 "\r\n")
      (block part ++ (utf8 ("\r\n--" ++ boundary) ++ tail boundary parts))
    rw [readParts,if_neg hnext,tail,hstrip]
    simp only [Option.bind_eq_bind,Option.bind_some,breakOn_block hboundary hpart,
      readPart_block hpart,hrest]

theorem length_le_tail (boundary : String) (parts : List Part) :
    parts.length ≤ (tail boundary parts).length := by
  have hcrlf : (utf8 "\r\n").length = 2 := by decide
  induction parts with
  | nil => simp
  | cons part parts ih =>
    simp only [tail,List.length_append,List.length_cons]
    omega

theorem decode_bodyData (hboundary : ∀ c ∈ boundary.toList, c ≠ '\r') (parts : List Part)
    (h : ∀ part ∈ parts, Encodable boundary part) :
    decode boundary (bodyData ⟨parts,boundary⟩) = some parts := by
  have hfuel : parts.length < (bodyData ⟨parts,boundary⟩).length := by
    have hle := length_le_tail boundary parts
    have hdashes : (utf8 "--").length = 2 := by decide
    rw [bodyData_eq boundary parts h,utf8_append]
    simp only [List.length_append]
    omega
  have hparts := readParts_tail hboundary parts h _ hfuel
  unfold decode
  generalize (bodyData ⟨parts,boundary⟩).length = fuel at hparts ⊢
  rw [bodyData_eq boundary parts h,strip_append]
  exact hparts

theorem encodable_ofValue {name text : String}
    (hname : ∀ c ∈ name.toList, c ≠ '"' ∧ c ≠ '\r' ∧ c ≠ '\n')
    (h : ¬ utf8 ("--" ++ boundary) <:+: utf8 text) : Encodable boundary (.ofValue name text) where
  name := hname
  filename := by simp [Part.ofValue]
  contentType := by simp [Part.ofValue]
  data := h

theorem encodable_describeFile {text : String} {data : Data} (fileType : FileType)
    (htext : ¬ utf8 ("--" ++ boundary) <:+: utf8 text)
    (hdata : ¬ utf8 ("--" ++ boundary) <:+: data) :
    ∀ part ∈ (describeFile data fileType text boundary).parts, Encodable boundary part := by
  have hfilename : ∀ c ∈ fileType.fileName.toList, c ≠ '"' ∧ c ≠ '\r' ∧ c ≠ '\n' := by
    cases fileType <;> simp [FileType.fileName]
  have hcontentType : ∀ c ∈ fileType.contentType.toList, c ≠ '\r' ∧ c ≠ '\n' := by
    cases fileType <;> simp [FileType.contentType]
  intro part hpart
  rcases List.mem_pair.mp hpart with rfl | rfl
  · exact encodable_ofValue (by simp) htext
  · exact ⟨by simp,by simpa using hfilename,by simpa using hcontentType,hdata⟩

/-- A multipart body has one reading. -/
theorem multipart_decodes (boundary : String) (hboundary : ∀ c ∈ boundary.toList, c ≠ '\r') :
    (∀ parts, (∀ part ∈ parts, Encodable boundary part) →
      decode boundary (bodyData ⟨parts,boundary⟩) = some parts) ∧
    (∀ parts others, (∀ part ∈ parts, Encodable boundary part) →
      (∀ part ∈ others, Encodable boundary part) →
      bodyData ⟨parts,boundary⟩ = bodyData ⟨others,boundary⟩ → parts = others) ∧
    (∀ data fileType text, ¬ utf8 ("--" ++ boundary) <:+: utf8 text →
      ¬ utf8 ("--" ++ boundary) <:+: data →
      decode boundary (bodyData (describeFile data fileType text boundary)) =
        some [{ name := "query", data := utf8 text },
          { name := "file"
            data
            filename := fileType.fileName
            contentType := fileType.contentType }]) := by
  refine ⟨decode_bodyData hboundary,?_,?_⟩
  · intro parts others h h' heq
    have hparts := decode_bodyData hboundary parts h
    have hothers := decode_bodyData hboundary others h'
    rw [heq,hothers] at hparts
    exact (Option.some.inj hparts).symm
  · intro data fileType text htext hdata
    exact decode_bodyData hboundary _ (encodable_describeFile fileType htext hdata)

theorem question_about_file_decodes :
    decode "E621E1F8" (bodyData (describeFile [13,10,45,45,13,10] .pdf "Who?" "E621E1F8")) =
      some [{ name := "query", data := [87,104,111,63] },
        { name := "file"
          data := [13,10,45,45,13,10]
          filename := "document.pdf"
          contentType := "application/pdf" }] :=
  (multipart_decodes "E621E1F8" (by simp)).2.2 [13,10,45,45,13,10] .pdf "Who?" (by decide)
    (by decide)

end MultipartForm

end GenieD

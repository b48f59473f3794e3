import GenieD.Platform

set_option autoImplicit false

namespace GenieD

inductive Language where
  | english_us | english_uk | english_au | english_ca
  | chinese_simpl | chinese_trad
  | arabic | catalan | croatian | czech | danish | dutch | finnish
  | french | french_ca
  | german | greek | hebrew | hindi | hungarian | indonesian | italian | japanese | korean | malay
  | norwegian | polish
  | protuguese_portugal | protuguese_brazil
  | romanian | russian | slovak
  | spanish | spanish_mexico
  | swedish | thai | turkish | ukranian | vietnamese
  deriving DecidableEq, Repr

namespace Language

def rawValue : Language → String
  | english_us => "en"
  | english_uk => "en-GB"
  | english_au => "en-AU"
  | english_ca => "en-CA"
  | chinese_simpl => "zh-Hans"
  | chinese_trad => "zh-Hant"
  | arabic => "ar"
  | catalan => "ca"
  | croatian => "hr"
  | czech => "cs"
  | danish => "da"
  | dutch => "nl"
  | finnish => "fi"
  | french => "fr"
  | french_ca => "fr-CA"
  | german => "de"
  | greek => "el"
  | hebrew => "he"
  | hindi => "hi"
  | hungarian => "hu"
  | indonesian => "id"
  | italian => "it"
  | japanese => "ja"
  | korean => "ko"
  | malay => "ms"
  | norwegian => "nb"
  | polish => "pl"
  | protuguese_portugal => "pt-PT"
  | protuguese_brazil => "pt-BR"
  | romanian => "ro"
  | russian => "ru"
  | slovak => "sk"
  | spanish => "es"
  | spanish_mexico => "es-MX"
  | swedish => "sv"
  | thai => "th"
  | turkish => "tr"
  | ukranian => "uk"
  | vietnamese => "vi"

def allCases : List Language :=
  [english_us,english_uk,english_au,english_ca,chinese_simpl,chinese_trad,arabic,catalan,croatian,
    czech,danish,dutch,finnish,french,french_ca,german,greek,hebrew,hindi,hungarian,indonesian,
    italian,japanese,korean,malay,norwegian,polish,protuguese_portugal,protuguese_brazil,romanian,
    russian,slovak,spanish,spanish_mexico,swedish,thai,turkish,ukranian,vietnamese]

def ofRawValue (rawValue : String) : Option Language :=
  allCases.find? (fun language => language.rawValue = rawValue)

def ofCode (code : String) : Language := (ofRawValue code).getD .english_us

end Language

/-- `lowercased()` of a text of ASCII characters, as language tags are. -/
def Text.asciiLowercased (text : String) : String := String.ofList (text.toList.map Char.toLower)

def systemLanguage (preferredLanguages : List String) : Language :=
  let prefLangLowercased := (preferredLanguages.head?.map Text.asciiLowercased).getD "en"
  let resultCode := Text.first 2 prefLangLowercased
  let resultCode :=
    if resultCode = "zh" then
      if Text.contains prefLangLowercased "zh-hans" then "zh-Hans" else "zh-Hant"
    else resultCode
  let resultCode := if resultCode = "pt" then "pt-PT" else resultCode
  Language.ofCode resultCode

def getCurrentLanguage (storedLangCode : Option String) (preferredLanguages : List String) :
    Language :=
  match storedLangCode with
  | some storedLangCode => Language.ofCode storedLangCode
  | none => systemLanguage preferredLanguages

/-- A language tag in any letter case: a language of two or three letters, and
a script of four and a region of two letters or three digits if it has them. -/
structure LanguageTag where
  primary : String
  script : Option String := none
  region : Option String := none
  primary_length : primary.length = 2 ∨ primary.length = 3
  primary_letters : ∀ c ∈ primary.toList, c.isAlpha = true
  script_letters : ∀ s ∈ script, s.length = 4 ∧ ∀ c ∈ s.toList, c.isAlpha = true
  region_letters : ∀ r ∈ region, (r.length = 2 ∧ ∀ c ∈ r.toList, c.isAlpha = true) ∨
    (r.length = 3 ∧ ∀ c ∈ r.toList, c.isDigit = true)

namespace LanguageTag

def text (tag : LanguageTag) : String :=
  tag.primary ++ (tag.script.map (fun s => "-" ++ s)).getD "" ++
    (tag.region.map (fun r => "-" ++ r)).getD ""

end LanguageTag

def Language.primary (language : Language) : String :=
  String.ofList (language.rawValue.toList.takeWhile (fun c => c ≠ '-'))

open Text

/-- The choice has the language of the tag, or is the default where that is not
shipped, and it is the variant for the tag's script or region if there is one. -/
structure Suits (tag : LanguageTag) (language : Language) : Prop where
  primary : language.primary = asciiLowercased tag.primary ∨
    (language = .english_us ∧ ∀ shipped : Language, shipped.primary ≠ asciiLowercased tag.primary)
  variant : ∀ subtag, tag.script = some subtag ∨ tag.region = some subtag →
    ∀ shipped : Language, asciiLowercased shipped.rawValue =
      asciiLowercased (tag.primary ++ "-" ++ subtag) → language = shipped

def regionalVariants : List (String × String) :=
  [("en","gb"),("en","au"),("en","ca"),("fr","ca"),("es","mx"),("pt","br")]

/-- Two letters and no region with a variant of its own, or three letters that
do not begin like a shipped language other than English. -/
def Served (tag : LanguageTag) : Prop :=
  (tag.primary.length = 2 ∧ ∀ region ∈ tag.region,
    (asciiLowercased tag.primary,asciiLowercased region) ∉ regionalVariants) ∨
  (tag.primary.length = 3 ∧ (first 2 (asciiLowercased tag.primary) = "en" ∨
    ∀ shipped : Language, shipped.primary ≠ first 2 (asciiLowercased tag.primary)))

theorem shipped_length (language : Language) : language.primary.length = 2 := by
  cases language <;> decide

/-- A shipped language has a plain code, Chinese and Portuguese apart. -/
theorem plain_code (language : Language) : language.primary = "zh" ∨ language.primary = "pt" ∨
    Language.ofRawValue language.primary ≠ none := by
  cases language <;> decide

theorem ofRawValue_some {code : String} {language : Language}
    (h : Language.ofRawValue code = some language) : language.rawValue = code := by
  simpa using List.find?_some h

def resultCode (letters prefLangLowercased : String) : String :=
  if letters = "zh" then
    if contains prefLangLowercased "zh-hans" then "zh-Hans" else "zh-Hant"
  else if letters = "pt" then "pt-PT" else letters

theorem systemLanguage_eq (text : String) (others : List String) :
    systemLanguage (text :: others) =
      .ofCode (resultCode (first 2 (asciiLowercased text)) (asciiLowercased text)) := by
  have hhead : ((text :: others).head?.map asciiLowercased).getD "en" = asciiLowercased text := rfl
  unfold systemLanguage resultCode
  rw [hhead]
  generalize asciiLowercased text = lowercased
  dsimp only
  by_cases hzh : first 2 lowercased = "zh"
  · have hhans : "zh-Hans" ≠ "pt" := by decide
    have hhant : "zh-Hant" ≠ "pt" := by decide
    by_cases hcontains : contains lowercased "zh-hans" = true
    · simp only [if_pos hzh,if_pos hcontains,if_neg hhans]
    · simp only [if_pos hzh,if_neg hcontains,if_neg hhant]
  · simp only [if_neg hzh]

theorem plain_primary (language : Language) (h : language.rawValue.length = 2) :
    language.primary = language.rawValue := by
  revert h
  cases language <;> decide

theorem chosen_primary {letters : String} (lowercased : String) (hlength : letters.length = 2) :
    ((Language.ofCode (resultCode letters lowercased)).primary = letters) ∨
      (Language.ofCode (resultCode letters lowercased) = .english_us ∧
        ∀ shipped : Language, shipped.primary ≠ letters) := by
  unfold resultCode
  split
  · rename_i hzh
    rw [hzh]
    split
    · exact .inl (by decide)
    · exact .inl (by decide)
  · rename_i hzh
    split
    · rename_i hpt
      rw [hpt]
      exact .inl (by decide)
    · rename_i hpt
      unfold Language.ofCode
      cases hcode : Language.ofRawValue letters with
      | some language =>
        have hraw := ofRawValue_some hcode
        exact .inl ((plain_primary language (hraw ▸ hlength)).trans hraw)
      | none =>
        refine .inr ⟨rfl,fun shipped hshipped => ?_⟩
        rcases plain_code shipped with h | h | h
        · exact hzh (hshipped.symm.trans h)
        · exact hpt (hshipped.symm.trans h)
        · exact h (hshipped ▸ hcode)

theorem english_iff {letters : String} (lowercased : String) (hlength : letters.length = 2) :
    Language.ofCode (resultCode letters lowercased) = .english_us ↔
      letters = "en" ∨ ∀ shipped : Language, shipped.primary ≠ letters := by
  have hen : Language.english_us.primary = "en" := by decide
  constructor
  · intro h
    rcases chosen_primary lowercased hlength with hsame | ⟨-,hnone⟩
    · rw [h,hen] at hsame
      exact .inl hsame.symm
    · exact .inr hnone
  · rintro (rfl | hnone)
    · exact (by decide : Language.ofCode "en" = .english_us)
    · rcases chosen_primary lowercased hlength with hsame | ⟨h,-⟩
      · exact absurd hsame (hnone _)
      · exact h

theorem asciiLowercased_append (s t : String) :
    asciiLowercased (s ++ t) = asciiLowercased s ++ asciiLowercased t := by
  simp [asciiLowercased]

theorem asciiLowercased_length (s : String) : (asciiLowercased s).length = s.length := by
  simp [asciiLowercased,String.length_toList]

def Language.qualifier (language : Language) : String :=
  String.ofList (((asciiLowercased language.rawValue).toList.dropWhile (fun c => c ≠ '-')).drop 1)

theorem Language.primary_eq (language : Language) : language.primary =
    String.ofList ((asciiLowercased language.rawValue).toList.takeWhile (fun c => c ≠ '-')) := by
  cases language <;> decide

theorem qualified_parts {language : Language} {x y : String} (hx : '-' ∉ x.toList)
    (h : asciiLowercased language.rawValue = x ++ "-" ++ y) :
    language.primary = x ∧ language.qualifier = y := by
  have hletters : ∀ c ∈ x.toList, decide (c ≠ '-') = true := by
    intro c hc
    simpa using fun heq : c = '-' => hx (heq ▸ hc)
  have hlist : (asciiLowercased language.rawValue).toList = x.toList ++ '-' :: y.toList := by
    simp [h]
  constructor
  · rw [language.primary_eq,hlist,List.takeWhile_append_of_pos hletters]
    simp
  · rw [Language.qualifier,hlist,List.dropWhile_append_of_pos hletters]
    simp

theorem qualifier_script (language : Language) (h : language.qualifier.length = 4) :
    language = .chinese_simpl ∧ language.qualifier = "hans" ∨
      language = .chinese_trad ∧ language.qualifier = "hant" := by
  revert h
  cases language <;> decide

theorem qualifier_region (language : Language)
    (h : language.qualifier.length = 2 ∨ language.qualifier.length = 3) :
    language = .protuguese_portugal ∨
      (language.primary,language.qualifier) ∈ regionalVariants := by
  revert h
  cases language <;> decide

theorem toLower_ne_hyphen {c : Char} (h : c.isAlpha = true) : c.toLower ≠ '-' := by
  intro heq
  have hval := congrArg (fun c : Char => c.val.toNat) heq
  unfold Char.toLower at hval
  split at hval
  · rename_i hupper
    simp [UInt32.toNat_add,UInt32.le_iff_toNat_le] at hval hupper
    omega
  · rename_i hupper
    simp [Char.isAlpha,Char.isUpper,Char.isLower,UInt32.le_iff_toNat_le] at hval hupper h
    omega

theorem hyphen_not_mem {s : String} (h : ∀ c ∈ s.toList, c.isAlpha = true) :
    '-' ∉ (asciiLowercased s).toList := by
  intro hmem
  simp only [asciiLowercased,String.toList_ofList,List.mem_map] at hmem
  obtain ⟨c,hc,heq⟩ := hmem
  exact toLower_ne_hyphen (h c hc) heq

theorem LanguageTag.subtag_parts {tag : LanguageTag} {shipped : Language} {subtag : String}
    (h : asciiLowercased shipped.rawValue = asciiLowercased (tag.primary ++ "-" ++ subtag)) :
    shipped.primary = asciiLowercased tag.primary ∧ shipped.qualifier = asciiLowercased subtag := by
  have hhyphen : asciiLowercased "-" = "-" := by decide
  rw [asciiLowercased_append,asciiLowercased_append,hhyphen] at h
  exact qualified_parts (hyphen_not_mem tag.primary_letters) h

theorem LanguageTag.first_text (tag : LanguageTag) :
    first 2 (asciiLowercased tag.text) = first 2 (asciiLowercased tag.primary) := by
  have hlength : 2 ≤ (asciiLowercased tag.primary).toList.length := by
    rw [String.length_toList,asciiLowercased_length]
    rcases tag.primary_length with h | h <;> omega
  simp only [text,asciiLowercased_append,first,String.toList_append]
  rw [List.append_assoc,List.take_append_of_le_length hlength]

theorem first_of_length {s : String} {count : Nat} (h : s.length = count) : first count s = s := by
  rw [first,List.take_of_length_le (by rw [String.length_toList,h]),String.ofList_toList]

theorem LanguageTag.chosen_eq (tag : LanguageTag) (others : List String) :
    getCurrentLanguage none (tag.text :: others) =
      .ofCode (resultCode (first 2 (asciiLowercased tag.primary)) (asciiLowercased tag.text)) := by
  rw [getCurrentLanguage,systemLanguage_eq,tag.first_text]

theorem suits_long {tag : LanguageTag} (hlength : tag.primary.length = 3) (language : Language) :
    Suits tag language ↔ language = .english_us := by
  have hnone : ∀ shipped : Language, shipped.primary ≠ asciiLowercased tag.primary := by
    intro shipped heq
    have := shipped_length shipped
    rw [heq,asciiLowercased_length] at this
    omega
  constructor
  · intro h
    exact h.primary.elim (fun hprimary => absurd hprimary (hnone language)) And.left
  · intro h
    exact ⟨.inr ⟨h,hnone⟩,
      fun _ _ shipped hshipped => absurd (LanguageTag.subtag_parts hshipped).1 (hnone shipped)⟩

theorem regional_not_chosen {x y : String} (lowercased : String) (h : (x,y) ∈ regionalVariants) :
    ∃ shipped : Language, asciiLowercased shipped.rawValue = x ++ "-" ++ y ∧
      Language.ofCode (resultCode x lowercased) ≠ shipped := by
  simp only [regionalVariants,List.mem_cons,Prod.mk.injEq,List.not_mem_nil,or_false] at h
  have hen : Language.ofCode (resultCode "en" lowercased) = .english_us :=
    (by decide : Language.ofCode "en" = .english_us)
  have hfr : Language.ofCode (resultCode "fr" lowercased) = .french :=
    (by decide : Language.ofCode "fr" = .french)
  have hes : Language.ofCode (resultCode "es" lowercased) = .spanish :=
    (by decide : Language.ofCode "es" = .spanish)
  have hpt : Language.ofCode (resultCode "pt" lowercased) = .protuguese_portugal :=
    (by decide : Language.ofCode "pt-PT" = .protuguese_portugal)
  rcases h with ⟨rfl,rfl⟩ | ⟨rfl,rfl⟩ | ⟨rfl,rfl⟩ | ⟨rfl,rfl⟩ | ⟨rfl,rfl⟩ | ⟨rfl,rfl⟩
  · exact ⟨.english_uk,by decide,hen ▸ by decide⟩
  · exact ⟨.english_au,by decide,hen ▸ by decide⟩
  · exact ⟨.english_ca,by decide,hen ▸ by decide⟩
  · exact ⟨.french_ca,by decide,hfr ▸ by decide⟩
  · exact ⟨.spanish_mexico,by decide,hes ▸ by decide⟩
  · exact ⟨.protuguese_brazil,by decide,hpt ▸ by decide⟩

def LanguageTag.regionText (tag : LanguageTag) : String :=
  asciiLowercased ((tag.region.map (fun r => "-" ++ r)).getD "")

theorem LanguageTag.text_script {tag : LanguageTag} {script : String}
    (h : tag.script = some script) : asciiLowercased tag.text =
      asciiLowercased tag.primary ++ "-" ++ asciiLowercased script ++ tag.regionText := by
  have hhyphen : asciiLowercased "-" = "-" := by decide
  simp only [text,regionText,h,Option.map_some,Option.getD_some,asciiLowercased_append,hhyphen,
    String.append_assoc]

theorem LanguageTag.regionText_length (tag : LanguageTag) : tag.regionText.length ≤ 4 := by
  rw [regionText,asciiLowercased_length]
  cases hregion : tag.region with
  | none => simp
  | some region =>
    have hlength : region.length ≤ 3 := by
      rcases tag.region_letters region hregion with ⟨h,-⟩ | ⟨h,-⟩ <;> omega
    simp only [Option.map_some,Option.getD_some,String.length_append]
    have : "-".length = 1 := by decide
    omega

theorem not_contains_hans {rest : String} (h : rest.length ≤ 4) :
    contains ("zh-hant" ++ rest) "zh-hans" = false := by
  have hsplit : ("zh-hant" ++ rest).toList = ['z','h','-','h','a','n','t'] ++ rest.toList := by
    simp
  have hpart : "zh-hans".toList = ['z','h','-','h','a','n','s'] := by decide
  rw [contains,decide_eq_false_iff_not,hsplit,hpart]
  intro hpiece
  rw [← String.length_toList] at h
  have hshort := hpiece.length_le
  simp [List.infix_cons_iff] at hpiece
  have := hpiece.length_le
  simp at this
  omega

theorem script_chosen {tag : LanguageTag} {script : String} {shipped : Language}
    (hscript : tag.script = some script) (h : asciiLowercased shipped.rawValue =
      asciiLowercased (tag.primary ++ "-" ++ script)) :
    Language.ofCode (resultCode (asciiLowercased tag.primary) (asciiLowercased tag.text)) =
      shipped := by
  obtain ⟨hprimary,hqualifier⟩ := LanguageTag.subtag_parts h
  have hlength : shipped.qualifier.length = 4 := by
    rw [hqualifier,asciiLowercased_length]
    exact (tag.script_letters script hscript).1
  rw [LanguageTag.text_script hscript,← hprimary,← hqualifier]
  rcases qualifier_script shipped hlength with ⟨rfl,-⟩ | ⟨rfl,-⟩
  · have hcontains : contains ("zh-hans" ++ tag.regionText) "zh-hans" = true :=
      contains_append_left _ _
    have hzh : Language.chinese_simpl.primary = "zh" := by decide
    have hhans : Language.chinese_simpl.primary ++ "-" ++ Language.chinese_simpl.qualifier =
      "zh-hans" := by decide
    rw [hhans,hzh,resultCode,if_pos rfl,if_pos hcontains]
    decide
  · have hcontains : contains ("zh-hant" ++ tag.regionText) "zh-hans" = false :=
      not_contains_hans tag.regionText_length
    have hzh : Language.chinese_trad.primary = "zh" := by decide
    have hhant : Language.chinese_trad.primary ++ "-" ++ Language.chinese_trad.qualifier =
      "zh-hant" := by decide
    rw [hhant,hzh,resultCode,if_pos rfl,if_neg (by simp [hcontains])]
    decide

/-- Two letters are served unless there is a variant for the region. -/
theorem suits_short {tag : LanguageTag} (hlength : tag.primary.length = 2) :
    Suits tag (.ofCode (resultCode (asciiLowercased tag.primary) (asciiLowercased tag.text))) ↔
      ∀ region ∈ tag.region,
        (asciiLowercased tag.primary,asciiLowercased region) ∉ regionalVariants := by
  have hhyphen : asciiLowercased "-" = "-" := by decide
  constructor
  · intro h region hregion hmem
    obtain ⟨shipped,hcode,hne⟩ := regional_not_chosen (asciiLowercased tag.text) hmem
    refine hne (h.variant region (.inr hregion) shipped ?_)
    rw [hcode,asciiLowercased_append,asciiLowercased_append,hhyphen]
  · intro h
    refine ⟨chosen_primary _ (by rw [asciiLowercased_length,hlength]),?_⟩
    rintro subtag (hscript | hregion) shipped hshipped
    · exact script_chosen hscript hshipped
    · obtain ⟨hprimary,hqualifier⟩ := LanguageTag.subtag_parts hshipped
      have hlength : shipped.qualifier.length = 2 ∨ shipped.qualifier.length = 3 := by
        rw [hqualifier,asciiLowercased_length]
        exact (tag.region_letters subtag hregion).imp And.left And.left
      rcases qualifier_region shipped hlength with rfl | hmem
      · have hpt : Language.protuguese_portugal.primary = "pt" := by decide
        rw [← hprimary,hpt]
        exact (by decide : Language.ofCode "pt-PT" = .protuguese_portugal)
      · rw [hprimary,hqualifier] at hmem
        exact absurd hmem (h subtag hregion)

theorem default_suits_iff_served (tag : LanguageTag) (others : List String) :
    Suits tag (getCurrentLanguage none (tag.text :: others)) ↔ Served tag := by
  rw [tag.chosen_eq others,Served]
  rcases tag.primary_length with hlength | hlength
  · rw [first_of_length (by rw [asciiLowercased_length,hlength]),suits_short hlength]
    simp [hlength]
  · have hletters : (first 2 (asciiLowercased tag.primary)).length = 2 := by
      simp [first,String.length_toList,asciiLowercased_length,hlength]
    rw [suits_long hlength,english_iff _ hletters]
    simp [hlength]

def filipino : LanguageTag where
  primary := "fil"
  region := some "PH"
  primary_length := by decide
  primary_letters := by simp
  script_letters := by decide
  region_letters := by
    rintro r ⟨⟩
    exact .inl ⟨by decide,by simp⟩

def britishEnglish : LanguageTag where
  primary := "en"
  region := some "GB"
  primary_length := by decide
  primary_letters := by simp
  script_letters := by decide
  region_letters := by
    rintro r ⟨⟩
    exact .inl ⟨by decide,by simp⟩

/-- Filipino begins like Finnish, and the British tag is cut before its region. -/
theorem default_misses_language :
    getCurrentLanguage none [filipino.text] = .finnish ∧
      ¬ Suits filipino (getCurrentLanguage none [filipino.text]) ∧
      getCurrentLanguage none [britishEnglish.text] = .english_us ∧
      ¬ Suits britishEnglish (getCurrentLanguage none [britishEnglish.text]) := by
  have hfinnish : getCurrentLanguage none [filipino.text] = .finnish := by decide
  have henglish : getCurrentLanguage none [britishEnglish.text] = .english_us := by decide
  rw [hfinnish,henglish]
  refine ⟨rfl,fun h => ?_,rfl,fun h => ?_⟩
  · exact h.primary.elim (by decide) (fun hdefault => absurd hdefault.1 (by decide))
  · exact absurd (h.variant "GB" (.inr rfl) .english_uk (by decide)) (by decide)

end GenieD

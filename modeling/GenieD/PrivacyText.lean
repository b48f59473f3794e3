import GenieD.Delimited
import GenieD.Multipart

set_option autoImplicit false

namespace GenieD

open Delimited

def Text.components (text separator : String) : List String :=
  (Delimited.components separator.toList text.toList).map String.ofList

def Text.hasPrefix (text start : String) : Bool := decide (start.toList <+: text.toList)

inductive Link where
  | privacy
  | terms
  deriving DecidableEq, Repr

structure TextRun where
  text : String
  link : Option Link := none
  deriving DecidableEq, Repr

namespace OnboardingView

def textRun (stringItem : String) : Option TextRun :=
  if Text.hasPrefix stringItem "<PRIVACY>" then
    some ⟨Text.replacingOccurrences stringItem "<PRIVACY>" "",some .privacy⟩
  else if Text.hasPrefix stringItem "<TERMS>" then
    some ⟨Text.replacingOccurrences stringItem "<TERMS>" "",some .terms⟩
  else if stringItem.isEmpty then none
  else some ⟨stringItem,none⟩

def privacyView (lText : String) : List TextRun :=
  (Text.components lText "<BUTTON>").filterMap textRun

end OnboardingView

def Link.tag : Link → String
  | .privacy => "<PRIVACY>"
  | .terms => "<TERMS>"

/-- How a translator writes a piece down. -/
def TextRun.source (run : TextRun) : String :=
  match run.link with
  | none => run.text
  | some link => link.tag ++ run.text

def TextRun.markup (runs : List TextRun) : String := "<BUTTON>".intercalate (runs.map source)

/-- A piece holds no separator; a link does not hold its own tag again, and what
is no link does not begin with a tag. -/
structure TextRun.Written (run : TextRun) : Prop where
  unsplit : Text.contains run.text "<BUTTON>" = false
  plain : run.link = none → ∀ link : Link, Text.hasPrefix run.text link.tag = false
  linked : ∀ link ∈ run.link, Text.contains run.text link.tag = false

theorem Link.tag_toList (link : Link) : ∃ (c : Char) (rest : List Char),
    link.tag.toList = '<' :: c :: rest ∧ '<' ∉ c :: rest ∧ c ≠ 'B' := by
  cases link with
  | privacy => exact ⟨'P',"RIVACY>".toList,rfl,by decide,by decide⟩
  | terms => exact ⟨'T',"ERMS>".toList,rfl,by decide,by decide⟩

theorem button_toList : "<BUTTON>".toList = '<' :: 'B' :: "UTTON>".toList := rfl

namespace TextRun.Written

variable {run : TextRun}

theorem source_unsplit (h : run.Written) : ¬ "<BUTTON>".toList <:+: run.source.toList := by
  have htext : ¬ "<BUTTON>".toList <:+: run.text.toList := of_decide_eq_false h.unsplit
  unfold TextRun.source
  cases run.link with
  | none => exact htext
  | some link =>
    obtain ⟨c,rest,htag,hlt,hB⟩ := link.tag_toList
    rw [button_toList] at htext ⊢
    rw [String.toList_append,htag,List.cons_append,List.infix_cons_iff,
      infix_append_of_not_mem hlt,not_or]
    refine ⟨fun hhit => hB ?_,htext⟩
    exact (List.cons_prefix_cons.mp (List.cons_prefix_cons.mp hhit).2).1.symm

theorem untagged (h : run.Written) {link : Link} (hlink : run.link = some link) :
    Text.replacingOccurrences (link.tag ++ run.text) link.tag "" = run.text := by
  have habsent : ¬ link.tag.toList <:+: run.text.toList := of_decide_eq_false (h.linked link hlink)
  have hne : link.tag.toList ≠ [] := by
    obtain ⟨c,rest,htag,-,-⟩ := link.tag_toList
    simp [htag]
  have hdelete := (Replacing.delete_head_iff hne run.text.toList).mpr habsent
  unfold Text.replacingOccurrences
  rw [String.toList_append]
  exact (congrArg String.ofList hdelete).trans String.ofList_toList

theorem textRun_source (h : run.Written) :
    OnboardingView.textRun run.source =
      if run.link = none ∧ run.text = "" then none else some run := by
  obtain ⟨text,link⟩ := run
  cases link with
  | none =>
    have hprivacy : Text.hasPrefix text "<PRIVACY>" = false := h.plain rfl .privacy
    have hterms : Text.hasPrefix text "<TERMS>" = false := h.plain rfl .terms
    simp only [OnboardingView.textRun,TextRun.source,hprivacy,hterms]
    by_cases hempty : text = ""
    · simp [hempty]
    · simp [hempty,String.isEmpty_iff]
  | some link =>
    have htext := h.untagged rfl
    have hhas : Text.hasPrefix (link.tag ++ text) link.tag = true := by
      refine decide_eq_true ?_
      rw [String.toList_append]
      exact List.prefix_append _ _
    cases link with
    | privacy =>
      simp only [OnboardingView.textRun,TextRun.source,Link.tag] at hhas htext ⊢
      simp [hhas,htext]
    | terms =>
      have hother : Text.hasPrefix ("<TERMS>" ++ text) "<PRIVACY>" = false := by
        refine decide_eq_false fun hpre => ?_
        rw [String.toList_append] at hpre
        exact absurd (List.cons_prefix_cons.mp (List.cons_prefix_cons.mp hpre).2).1 (by decide)
      simp only [OnboardingView.textRun,TextRun.source,Link.tag] at hhas htext ⊢
      simp [hhas,htext,hother]

end TextRun.Written

theorem components_markup {runs : List TextRun} (h : ∀ run ∈ runs, run.Written) (hne : runs ≠ []) :
    Text.components (TextRun.markup runs) "<BUTTON>" = runs.map TextRun.source := by
  have hunsplit : ∀ part ∈ (runs.map TextRun.source).map String.toList,
      ¬ '<' :: 'B' :: "UTTON>".toList <:+: part := by
    intro part hpart
    obtain ⟨source,hsource,rfl⟩ := List.mem_map.mp hpart
    obtain ⟨run,hrun,rfl⟩ := List.mem_map.mp hsource
    exact (h run hrun).source_unsplit
  unfold Text.components TextRun.markup
  rw [String.toList_intercalate,button_toList,
    components_intercalate (by decide) (by simpa using hne) hunsplit]
  simp [Function.comp_def]

theorem filterMap_source {runs : List TextRun} (h : ∀ run ∈ runs, run.Written) :
    (runs.map TextRun.source).filterMap OnboardingView.textRun =
      runs.filter fun run => ¬ (run.link = none ∧ run.text = "") := by
  induction runs with
  | nil => rfl
  | cons run runs ih =>
    have hrun := (h run List.mem_cons_self).textRun_source
    have hrest := ih fun run hmem => h run (List.mem_cons_of_mem _ hmem)
    by_cases hempty : run.link = none ∧ run.text = ""
    · rw [if_pos hempty] at hrun
      rw [List.map_cons,List.filterMap_cons_none hrun,List.filter_cons_of_neg (by simp [hempty]),
        hrest]
    · rw [if_neg hempty] at hrun
      rw [List.map_cons,List.filterMap_cons_some hrun,
        List.filter_cons_of_pos (by exact decide_eq_true hempty),hrest]

/-- What a translator wrote is what the view shows: each piece in its place, with
its link, and neither a separator nor a tag. -/
theorem privacyView_markup {runs : List TextRun} (h : ∀ run ∈ runs, run.Written) :
    OnboardingView.privacyView (TextRun.markup runs) =
      runs.filter fun run => ¬ (run.link = none ∧ run.text = "") := by
  cases runs with
  | nil => decide
  | cons run runs =>
    unfold OnboardingView.privacyView
    rw [components_markup h (List.cons_ne_nil run runs)]
    exact filterMap_source h

theorem english_privacyView :
    let runs : List TextRun := [⟨"By continuing, you agree to our ",none⟩,
      ⟨"Privacy Policy",some .privacy⟩,⟨" & ",none⟩,⟨"Terms of Use",some .terms⟩,⟨".",none⟩]
    (∀ run ∈ runs, run.Written) ∧
      TextRun.markup runs = "By continuing, you agree to our <BUTTON><PRIVACY>Privacy Policy" ++
        "<BUTTON> & <BUTTON><TERMS>Terms of Use<BUTTON>." ∧
      OnboardingView.privacyView (TextRun.markup runs) = runs := by
  intro runs
  have hwritten : ∀ run ∈ runs, run.Written := by
    have hplain (text : String) (hunsplit : Text.contains text "<BUTTON>" = false)
        (hprivacy : Text.hasPrefix text "<PRIVACY>" = false)
        (hterms : Text.hasPrefix text "<TERMS>" = false) : TextRun.Written ⟨text,none⟩ :=
      ⟨hunsplit,fun _ link => by cases link; exacts [hprivacy,hterms],by simp⟩
    have hlink (text : String) (link : Link) (hunsplit : Text.contains text "<BUTTON>" = false)
        (honce : Text.contains text link.tag = false) : TextRun.Written ⟨text,some link⟩ :=
      ⟨hunsplit,by simp,by simpa using honce⟩
    simp only [runs,List.forall_mem_cons]
    exact ⟨hplain _ (by decide) (by decide) (by decide),hlink _ _ (by decide) (by decide),
      hplain _ (by decide) (by decide) (by decide),hlink _ _ (by decide) (by decide),
      hplain _ (by decide) (by decide) (by decide),by simp⟩
  exact ⟨hwritten,by decide,(privacyView_markup hwritten).trans (by decide)⟩

end GenieD

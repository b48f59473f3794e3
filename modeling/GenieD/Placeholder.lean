import GenieD.Rounds
import GenieD.Sieve
import GenieD.TypeWriter

set_option autoImplicit false

namespace GenieD

/-- What `asyncAfter` holds: a character to type, or the pause after a text. How
many texts had been drawn when a character was scheduled is for an observer. -/
inductive TypingBlock where
  | typeWriter (position drawn : Nat)
  | restart
  deriving DecidableEq, Repr

/-- The view model, the blocks that wait on the main queue, the texts drawn so
far and those that stood on the screen when `typeWriter` came to their end. -/
structure TypingPlaceholderViewModel (Character : Type) where
  text : List Character := []
  finalText : List Character := []
  randomTexts : List (List Character)
  texts : List (List Character)
  scheduled : List TypingBlock := []
  drawn : List (List Character) := []
  finished : List (List Character) := []
  deriving DecidableEq, Repr

inductive TypingEvent where
  | onViewAppear (first next : Nat)
  | fire (index draw : Nat)
  deriving DecidableEq, Repr

namespace TypingPlaceholderViewModel

variable {Character : Type}

def init (texts : List (List Character)) : TypingPlaceholderViewModel Character where
  randomTexts := texts
  texts := texts

/-- `draw` is what the random generator gives; without a text the index traps. -/
def setFinalText (draw : Nat) (vm : TypingPlaceholderViewModel Character) :
    Option (TypingPlaceholderViewModel Character) :=
  let randomTexts := if vm.randomTexts.isEmpty then vm.texts else vm.randomTexts
  let randomIndex := if randomTexts.isEmpty then 0 else draw % randomTexts.length
  match randomTexts[randomIndex]? with
  | none => none
  | some finalText => some { vm with
      finalText := finalText
      randomTexts := randomTexts.eraseIdx randomIndex
      drawn := vm.drawn ++ [finalText] }

def restartWithNewText (draw : Nat) (vm : TypingPlaceholderViewModel Character) :
    Option (TypingPlaceholderViewModel Character) :=
  match setFinalText draw { vm with finished := vm.finished ++ [vm.text] } with
  | none => none
  | some vm => some { vm with scheduled := vm.scheduled ++ [.restart] }

def typeWriter (draw position : Nat) (vm : TypingPlaceholderViewModel Character) :
    Option (TypingPlaceholderViewModel Character) :=
  let vm := if position = 0 then { vm with text := [] } else vm
  if position < vm.finalText.length then
    some { vm with scheduled := vm.scheduled ++ [.typeWriter position vm.drawn.length] }
  else restartWithNewText draw vm

/-- A block runs; a position past the current text traps. -/
def fire (cursor : Character) (draw : Nat) (vm : TypingPlaceholderViewModel Character) :
    TypingBlock → Option (TypingPlaceholderViewModel Character)
  | .restart => typeWriter draw 0 vm
  | .typeWriter position _ =>
    let text := if vm.text.isEmpty then vm.text else vm.text.dropLast
    match vm.finalText[position]? with
    | none => none
    | some character =>
      let text := text ++ [character]
      let text := if position + 1 < vm.finalText.length then text ++ [cursor] else text
      typeWriter draw (position + 1) { vm with text := text }

def onViewAppear (first next : Nat) (vm : TypingPlaceholderViewModel Character) :
    Option (TypingPlaceholderViewModel Character) :=
  (setFinalText first vm).bind (typeWriter next 0)

def step (cursor : Character) (vm : TypingPlaceholderViewModel Character) :
    TypingEvent → Option (TypingPlaceholderViewModel Character)
  | .onViewAppear first next => onViewAppear first next vm
  | .fire index draw =>
    match vm.scheduled[index]? with
    | none => some vm
    | some block => fire cursor draw { vm with scheduled := vm.scheduled.eraseIdx index } block

def run (cursor : Character) (texts : List (List Character)) (es : List TypingEvent) :
    Option (TypingPlaceholderViewModel Character) :=
  es.foldlM (step cursor) (init texts)

def drawnText (drawn : List (List Character)) (n : Nat) : List Character :=
  (drawn.take n).getLast?.getD []

def Within (drawn : List (List Character)) (scheduled : List TypingBlock) : Prop :=
  ∀ position n, .typeWriter position n ∈ scheduled →
    n ≤ drawn.length ∧ position < (drawnText drawn n).length

structure Drawing (texts : List (List Character)) (vm : TypingPlaceholderViewModel Character) :
    Prop where
  texts_eq : vm.texts = texts
  rounds : Rounds texts vm.drawn vm.randomTexts
  current : vm.drawn.getLast?.getD [] = vm.finalText
  within : Within vm.drawn vm.scheduled

theorem Within.mono {drawn : List (List Character)} {scheduled scheduled' : List TypingBlock}
    (h : Within drawn scheduled)
    (hsub : ∀ position n, .typeWriter position n ∈ scheduled' →
      .typeWriter position n ∈ scheduled) : Within drawn scheduled' :=
  fun position n hmem => h position n (hsub position n hmem)

theorem Within.drawn {drawn : List (List Character)} {scheduled : List TypingBlock}
    (h : Within drawn scheduled) (text : List Character) : Within (drawn ++ [text]) scheduled := by
  intro position n hmem
  obtain ⟨hle,hlt⟩ := h position n hmem
  rw [drawnText,List.take_append_of_le_length hle,List.length_append]
  exact ⟨Nat.le_add_right_of_le hle,hlt⟩

theorem Within.more {drawn : List (List Character)} {scheduled : List TypingBlock} {position : Nat}
    (h : Within drawn scheduled) (hlt : position < (drawn.getLast?.getD []).length) :
    Within drawn (scheduled ++ [.typeWriter position drawn.length]) := by
  intro position n hmem
  rcases List.mem_append.mp hmem with hold | hnew
  · exact h position n hold
  · cases List.mem_singleton.mp hnew
    rw [drawnText,List.take_length]
    exact ⟨Nat.le_refl _,hlt⟩

variable {texts : List (List Character)} {vm vm' : TypingPlaceholderViewModel Character}
  {draw position : Nat}

theorem drawing_init (texts : List (List Character)) : Drawing texts (init texts) :=
  ⟨rfl,Rounds.start texts,rfl,fun _ _ hmem => by cases hmem⟩

theorem setFinalText_cases (h : setFinalText draw vm = some vm') :
    ∃ left index finalText, left = (if vm.randomTexts.isEmpty then vm.texts else vm.randomTexts) ∧
      left[index]? = some finalText ∧
      vm' = { vm with
        finalText := finalText
        randomTexts := left.eraseIdx index
        drawn := vm.drawn ++ [finalText] } := by
  unfold setFinalText at h
  dsimp only at h
  split at h
  · cases h
  · rename_i finalText hfinal
    cases h
    exact ⟨_,_,finalText,rfl,hfinal,rfl⟩

theorem setFinalText_ne_none (h : vm.texts ≠ []) (draw : Nat) : setFinalText draw vm ≠ none := by
  unfold setFinalText
  dsimp only
  generalize hleft : (if vm.randomTexts.isEmpty then vm.texts else vm.randomTexts) = left
  have hne : left ≠ [] := by
    rw [← hleft]
    split
    · exact h
    · rename_i hrandom
      simpa using hrandom
  have hlt : draw % left.length < left.length := Nat.mod_lt _ (List.length_pos_iff.mpr hne)
  simp [hne,hlt]

theorem Drawing.setFinalText (h : Drawing texts vm) (hset : setFinalText draw vm = some vm') :
    Drawing texts vm' := by
  obtain ⟨left,index,finalText,hleft,hfinal,rfl⟩ := setFinalText_cases hset
  have hrounds : Rounds texts vm.drawn left := by
    rw [hleft]
    split
    · rename_i hempty
      have hround := h.rounds
      rw [List.isEmpty_iff.mp hempty] at hround
      rw [h.texts_eq]
      exact hround.refill
    · exact h.rounds
  exact ⟨h.texts_eq,hrounds.draw hfinal,by simp,h.within.drawn finalText⟩

def cleared (position : Nat) (vm : TypingPlaceholderViewModel Character) : List Character :=
  if position = 0 then [] else vm.text

theorem typeWriter_more (h : position < vm.finalText.length) :
    typeWriter draw position vm = some { vm with
      text := vm.cleared position
      scheduled := vm.scheduled ++ [.typeWriter position vm.drawn.length] } := by
  unfold typeWriter cleared
  by_cases hzero : position = 0
  · subst hzero
    simp [List.length_pos_iff.mp h]
  · simp [hzero,h]

theorem typeWriter_end (h : vm.finalText.length ≤ position) :
    typeWriter draw position vm =
      restartWithNewText draw { vm with text := vm.cleared position } := by
  unfold typeWriter cleared
  by_cases hzero : position = 0
  · subst hzero
    simp [List.length_eq_zero_iff.mp (Nat.le_zero.mp h)]
  · simp [hzero,Nat.not_lt.mpr h]

theorem restart_cases (h : restartWithNewText draw vm = some vm') :
    ∃ next, setFinalText draw { vm with finished := vm.finished ++ [vm.text] } = some next ∧
      vm' = { next with scheduled := next.scheduled ++ [.restart] } := by
  unfold restartWithNewText at h
  split at h
  · cases h
  · rename_i next hset
    cases h
    exact ⟨next,hset,rfl⟩

theorem Drawing.typeWriter (h : Drawing texts vm)
    (htype : typeWriter draw position vm = some vm') : Drawing texts vm' := by
  by_cases hmore : position < vm.finalText.length
  · rw [typeWriter_more hmore] at htype
    cases htype
    exact ⟨h.texts_eq,h.rounds,h.current,h.within.more (h.current ▸ hmore)⟩
  · rw [typeWriter_end (Nat.le_of_not_lt hmore)] at htype
    obtain ⟨next,hset,rfl⟩ := restart_cases htype
    have hnext : Drawing texts next := by
      refine Drawing.setFinalText ?_ hset
      exact ⟨h.texts_eq,h.rounds,h.current,h.within⟩
    refine ⟨hnext.texts_eq,hnext.rounds,hnext.current,hnext.within.mono fun position n hmem => ?_⟩
    simpa using hmem

variable {cursor : Character}

theorem Drawing.step (h : Drawing texts vm) {e : TypingEvent}
    (hstep : step cursor vm e = some vm') : Drawing texts vm' := by
  cases e with
  | onViewAppear first next =>
    obtain ⟨drawn,hset,htype⟩ := Option.bind_eq_some_iff.mp hstep
    exact (h.setFinalText hset).typeWriter htype
  | fire index draw =>
    simp only [TypingPlaceholderViewModel.step] at hstep
    split at hstep
    · cases hstep
      exact h
    · rename_i block hblock
      have hrest : Within vm.drawn (vm.scheduled.eraseIdx index) :=
        h.within.mono fun _ _ hmem => List.mem_of_mem_eraseIdx hmem
      cases block with
      | restart =>
        refine Drawing.typeWriter ?_ hstep
        exact ⟨h.texts_eq,h.rounds,h.current,hrest⟩
      | typeWriter position drawn =>
        simp only [fire] at hstep
        split at hstep
        · cases hstep
        · refine Drawing.typeWriter ?_ hstep
          exact ⟨h.texts_eq,h.rounds,h.current,hrest⟩

def blocksFor (texts : List (List Character)) : Nat :=
  (texts.map fun text => text.length + 1).sum

theorem blocksFor_concat (texts : List (List Character)) (text : List Character) :
    blocksFor (texts ++ [text]) = blocksFor texts + (text.length + 1) := by
  simp [blocksFor]

/-- One chain of blocks, after so many of them: it types the current text or
pauses after a whole one, and all texts before the current one were typed. -/
structure Steady (cursor : Character) (blocks : Nat) (vm : TypingPlaceholderViewModel Character) :
    Prop where
  texts_ne : vm.texts ≠ []
  drawn_eq : vm.drawn = vm.finished ++ [vm.finalText]
  phase : (∃ position, vm.scheduled = [.typeWriter position vm.drawn.length] ∧
      position < vm.finalText.length ∧
      vm.text = TypeWriterView.shown cursor vm.finalText position ∧
      blocks = blocksFor vm.finished + position) ∨
    vm.scheduled = [.restart] ∧ vm.finished.getLast? = some vm.text ∧
      blocks + 1 = blocksFor vm.finished

variable {blocks : Nat}

theorem steady_typeWriter (htexts : vm.texts ≠ [])
    (hdrawn : vm.drawn = vm.finished ++ [vm.finalText])
    (hidle : vm.scheduled = []) (hle : position ≤ vm.finalText.length)
    (hshown : vm.cleared position = TypeWriterView.shown cursor vm.finalText position)
    (hblocks : blocks = blocksFor vm.finished + position) (draw : Nat) :
    ∃ vm', typeWriter draw position vm = some vm' ∧ Steady cursor blocks vm' := by
  by_cases hmore : position < vm.finalText.length
  · refine ⟨_,typeWriter_more hmore,htexts,hdrawn,.inl ⟨position,?_,hmore,hshown,hblocks⟩⟩
    simp [hidle]
  · have hend : position = vm.finalText.length := by omega
    have hwhole : vm.cleared position = vm.finalText := by
      rw [hshown,hend]
      simp [TypeWriterView.shown]
    rw [typeWriter_end (Nat.le_of_not_lt hmore),restartWithNewText]
    split
    · rename_i hset
      refine absurd hset (setFinalText_ne_none ?_ draw)
      exact htexts
    · rename_i next hset
      obtain ⟨left,index,finalText,-,-,rfl⟩ := setFinalText_cases hset
      refine ⟨_,rfl,htexts,?_,.inr ⟨?_,by simp,?_⟩⟩
      · simp [hdrawn,hwhole]
      · simp [hidle]
      · dsimp only
        rw [hwhole,blocksFor_concat,hblocks,hend]
        omega

theorem Steady.fire (h : Steady cursor blocks vm) (draw : Nat) :
    ∃ vm', step cursor vm (.fire 0 draw) = some vm' ∧ Steady cursor (blocks + 1) vm' := by
  obtain ⟨position,hscheduled,hlt,htext,hblocks⟩ | ⟨hscheduled,hlast,hblocks⟩ := h.phase
  · have hrest : (if vm.text.isEmpty then vm.text else vm.text.dropLast) =
        vm.finalText.take position := by
      rw [htext]
      exact TypeWriterView.removeLast_shown cursor vm.finalText hlt
    simp only [step,hscheduled,List.getElem?_cons_zero,TypingPlaceholderViewModel.fire,hrest,
      List.getElem?_eq_getElem hlt]
    refine steady_typeWriter ?_ ?_ ?_ ?_ ?_ ?_ draw
    · exact h.texts_ne
    · exact h.drawn_eq
    · rfl
    · exact hlt
    · simp only [cleared,Nat.succ_ne_zero,if_false,TypeWriterView.shown,
        List.take_succ_eq_append_getElem hlt]
      by_cases hmore : position + 1 < vm.finalText.length
      · simp [hmore]
      · simp [hmore]
    · simp only [hblocks]
      omega
  · simp only [step,hscheduled,List.getElem?_cons_zero,TypingPlaceholderViewModel.fire]
    refine steady_typeWriter ?_ ?_ ?_ (Nat.zero_le _) ?_ ?_ draw
    · exact h.texts_ne
    · exact h.drawn_eq
    · rfl
    · rfl
    · exact hblocks

variable (cursor) in
theorem steady_onViewAppear (htexts : texts ≠ []) (first next : Nat) :
    ∃ vm, step cursor (init texts) (.onViewAppear first next) = some vm ∧ Steady cursor 0 vm := by
  simp only [step,onViewAppear]
  cases hset : setFinalText first (init texts) with
  | none => exact absurd hset (setFinalText_ne_none htexts first)
  | some vm =>
    obtain ⟨left,index,finalText,-,-,rfl⟩ := setFinalText_cases hset
    exact steady_typeWriter htexts rfl rfl (Nat.zero_le _) rfl rfl next

theorem Steady.run (h : Steady cursor blocks vm) (draws : List Nat) :
    ∃ vm', (draws.map (TypingEvent.fire 0)).foldlM (step cursor) vm = some vm' ∧
      Steady cursor (blocks + draws.length) vm' := by
  induction draws generalizing vm blocks with
  | nil => exact ⟨vm,rfl,h⟩
  | cons draw draws ih =>
    obtain ⟨next,hstep,hnext⟩ := h.fire draw
    obtain ⟨vm',hrun,hsteady⟩ := ih hnext
    refine ⟨vm',?_,?_⟩
    · rw [List.map_cons,List.foldlM_cons,hstep]
      exact hrun
    · rw [List.length_cons]
      convert hsteady using 1
      omega

theorem blocksFor_le {limit : Nat} (h : ∀ text ∈ texts, text.length ≤ limit) :
    blocksFor texts ≤ texts.length * (limit + 1) := by
  induction texts with
  | nil => simp [blocksFor]
  | cons text texts ih =>
    have hhead := h text List.mem_cons_self
    have htail := ih fun t ht => h t (List.mem_cons_of_mem _ ht)
    simp only [blocksFor,List.map_cons,List.sum_cons,List.length_cons,Nat.succ_mul] at htail ⊢
    omega

theorem Drawing.mem (h : Drawing texts vm) {text : List Character} (hmem : text ∈ vm.drawn) :
    text ∈ texts := by
  obtain ⟨rounds,current,hdrawn,hwhole,hbegun⟩ := h.rounds
  rw [hdrawn,List.mem_append] at hmem
  rcases hmem with hround | hcurrent
  · obtain ⟨round,hmem,htext⟩ := List.mem_flatten.mp hround
    exact (hwhole round hmem).subset htext
  · exact hbegun.subset (List.mem_append_left _ hcurrent)

theorem Steady.finished_ge {limit : Nat} (h : Steady cursor blocks vm) (hdrawing : Drawing texts vm)
    (hlimit : ∀ text ∈ texts, text.length ≤ limit) : blocks / (limit + 1) ≤ vm.finished.length := by
  have hdrawn : ∀ text ∈ vm.drawn, text.length ≤ limit :=
    fun text hmem => hlimit text (hdrawing.mem hmem)
  rw [h.drawn_eq] at hdrawn
  have hfinal : vm.finalText.length ≤ limit := hdrawn _ (by simp)
  have hsum : blocksFor vm.finished ≤ vm.finished.length * (limit + 1) :=
    blocksFor_le fun text hmem => hdrawn text (List.mem_append_left _ hmem)
  refine Nat.le_of_lt_succ (Nat.div_lt_of_lt_mul ?_)
  rw [Nat.mul_comm,Nat.succ_mul]
  obtain ⟨position,-,hlt,-,hblocks⟩ | ⟨-,-,hblocks⟩ := h.phase
  · omega
  · omega

theorem typeWriter_ne_none (hne : vm.texts ≠ []) (draw position : Nat) :
    typeWriter draw position vm ≠ none := by
  by_cases hmore : position < vm.finalText.length
  · simp [typeWriter_more hmore]
  · rw [typeWriter_end (Nat.le_of_not_lt hmore),restartWithNewText]
    split
    · rename_i hset
      refine absurd hset (setFinalText_ne_none ?_ draw)
      exact hne
    · simp

theorem Drawing.drawn_since (h : Drawing texts vm) {position n : Nat}
    (hblock : .typeWriter position n ∈ vm.scheduled) (hpast : vm.finalText.length ≤ position) :
    n < vm.drawn.length := by
  obtain ⟨hle,hlt⟩ := h.within position n hblock
  by_contra hnot
  have hsame : n = vm.drawn.length := by omega
  rw [hsame,drawnText,List.take_length,h.current] at hlt
  omega

/-- Only a block can trap that was scheduled within a text, has seen another one drawn
since, and finds its position past the end of the current one. -/
theorem step_none (h : Drawing texts vm) (htexts : texts ≠ []) {e : TypingEvent}
    (hstep : step cursor vm e = none) :
    ∃ index draw position n, e = .fire index draw ∧
      vm.scheduled[index]? = some (.typeWriter position n) ∧ n < vm.drawn.length ∧
      position < (drawnText vm.drawn n).length ∧ vm.finalText.length ≤ position := by
  have hne : vm.texts ≠ [] := h.texts_eq ▸ htexts
  cases e with
  | onViewAppear first next =>
    simp only [step,onViewAppear] at hstep
    cases hset : setFinalText first vm with
    | none => exact absurd hset (setFinalText_ne_none hne first)
    | some drawn =>
      rw [hset] at hstep
      have hdrawn : drawn.texts ≠ [] := (h.setFinalText hset).texts_eq ▸ htexts
      exact absurd hstep (typeWriter_ne_none hdrawn next 0)
  | fire index draw =>
    simp only [step] at hstep
    split at hstep
    · cases hstep
    · rename_i block hblock
      cases block with
      | restart =>
        refine absurd hstep (typeWriter_ne_none ?_ draw 0)
        exact hne
      | typeWriter position n =>
        have hpast : vm.finalText.length ≤ position := by
          by_contra hlt
          simp only [TypingPlaceholderViewModel.fire,
            List.getElem?_eq_getElem (Nat.lt_of_not_le hlt)] at hstep
          refine absurd hstep (typeWriter_ne_none ?_ draw _)
          exact hne
        have hscheduled := List.mem_of_getElem? hblock
        exact ⟨index,draw,position,n,rfl,hblock,h.drawn_since hscheduled hpast,
          (h.within position n hscheduled).2,hpast⟩

end TypingPlaceholderViewModel

structure QuestionsSection (Character : Type) where
  questions : List (List Character)
  shouldOpenFilesOptions : Bool := false
  deriving DecidableEq, Repr

namespace AskQuestionViewModel

variable {Character : Type}

def questionSectionsDialog (localized : String → List Character) :
    List (QuestionsSection Character) :=
  [⟨[localized "Write an Instagram caption for this image."],true⟩,
    ⟨[localized "Ask me grade 12 math questions",
      localized "Ask me questions as a job interviewer"],false⟩,
    ⟨[localized "Explain Bitcoin",
      localized "How does the internet work, explain like I am 5 years old",
      localized "Tell me a joke about a kangaroo",
      localized "Write an essay about Global Warming. Maximum 200 words."],false⟩,
    ⟨[localized "Write a tweet about global warming in Korean"],false⟩,
    ⟨[localized ("Generate 10 different brand names for my company which will sell women's " ++
      "shoes on the internet. I want a modern brand name. My target audience is women " ++
      "under the age of 30. Make sure the .com domain is available on the internet.")],false⟩,
    ⟨[localized "What's the best marketing channel for second-hand electronics in America?"],false⟩,
    ⟨[localized "Write a tweet about global warming",
      localized "Write a poem about flowers and love",
      localized "Write a rap song lyrics about being smart"],false⟩,
    ⟨[localized "Write an email to decline the offer but request a discount."],false⟩,
    ⟨[localized "How to make banana pancakes"],false⟩,
    ⟨[localized "Solve this math problem: 3^(9)÷3^(2)"],false⟩]

def typingPlaceholderLimit (isIpad : Bool) : Nat :=
  if isIpad then 55 else 45

def typingPlaceholderTexts (isIpad : Bool) (localized : String → List Character) :
    List (List Character) :=
  ((questionSectionsDialog localized).filter fun item => !item.shouldOpenFilesOptions).flatMap
    fun item => item.questions.map (List.take (typingPlaceholderLimit isIpad))

variable (isIpad : Bool) (localized : String → List Character)

theorem typingPlaceholderTexts_ne : typingPlaceholderTexts isIpad localized ≠ [] := by
  simp [typingPlaceholderTexts,questionSectionsDialog]

theorem typingPlaceholderTexts_limit :
    ∀ text ∈ typingPlaceholderTexts isIpad localized,
      text.length ≤ typingPlaceholderLimit isIpad := by
  intro text hmem
  obtain ⟨item,-,htext⟩ := List.mem_flatMap.mp hmem
  obtain ⟨question,-,rfl⟩ := List.mem_map.mp htext
  exact List.length_take_le _ _

end AskQuestionViewModel

open Sieve TypingPlaceholderViewModel AskQuestionViewModel

/-- However appearances of the view and blocks of their chains follow each other:
from the first draw on each round has every suggestion once, and only a block can
trap that was scheduled within a text, has seen another one drawn since, and finds
its position past the end of the current one. -/
theorem placeholder_rounds {Character : Type} (cursor : Character) {texts : List (List Character)}
    (htexts : texts ≠ []) (es : List TypingEvent) {vm : TypingPlaceholderViewModel Character}
    (hrun : run cursor texts es = some vm) :
    (∀ k, (k + 1) * texts.length ≤ vm.drawn.length →
        ((vm.drawn.drop (k * texts.length)).take texts.length).Perm texts) ∧
      vm.drawn.getLast?.getD [] = vm.finalText ∧
      ∀ e, step cursor vm e = none → ∃ index draw position n, e = .fire index draw ∧
        vm.scheduled[index]? = some (.typeWriter position n) ∧ n < vm.drawn.length ∧
        position < (drawnText vm.drawn n).length ∧ vm.finalText.length ≤ position := by
  have hdrawing : Drawing texts vm :=
    foldlM_invariant (fun _ _ _ hstep h => h.step hstep) (drawing_init texts) hrun
  exact ⟨fun k hk => hdrawing.rounds.block_perm htexts hk,hdrawing.current,
    fun e hstep => step_none hdrawing htexts hstep⟩

/-- The view appears again while it types: the first chain then finds a shorter
text at its position. -/
theorem second_appearance_traps :
    let texts := ["abc".toList,"d".toList]
    let es : List TypingEvent := [.onViewAppear 0 0,.fire 0 0,.onViewAppear 0 0]
    ∃ vm, run '_' texts es = some vm ∧ vm.drawn = texts ∧ (vm.drawn.take 2).Perm texts ∧
      step '_' vm (.fire 0 0) = none := by
  intro texts es
  have hrun : run '_' texts es = some
      ⟨[],"d".toList,[],texts,[.typeWriter 1 1,.typeWriter 0 2],texts,[]⟩ := by decide
  have h := placeholder_rounds '_' (by decide) es hrun
  exact ⟨_,hrun,rfl,h.1 0 (by decide),by decide⟩

/-- The placeholder of the screen appears once: no block traps, all suggestions
that were drawn before the current one were typed out in that order, the screen
shows a beginning of the current one or the whole last one, each round has every
suggestion once, and after so many blocks at least one text in 56 (46 on an
iPhone) blocks was finished. -/
theorem placeholder_types_each {Character : Type} (cursor : Character) (isIpad : Bool)
    (localized : String → List Character) (first next : Nat) (draws : List Nat) :
    let texts := typingPlaceholderTexts isIpad localized
    ∃ vm, run cursor texts (.onViewAppear first next :: draws.map (.fire 0)) = some vm ∧
      vm.drawn = vm.finished ++ [vm.finalText] ∧
      ((∃ position < vm.finalText.length, vm.scheduled = [.typeWriter position vm.drawn.length] ∧
          vm.text = vm.finalText.take position ++ if 0 < position then [cursor] else []) ∨
        vm.scheduled = [.restart] ∧ vm.finished.getLast? = some vm.text) ∧
      (∀ k, (k + 1) * texts.length ≤ vm.drawn.length →
        ((vm.drawn.drop (k * texts.length)).take texts.length).Perm texts) ∧
      draws.length / (typingPlaceholderLimit isIpad + 1) ≤ vm.finished.length := by
  intro texts
  have htexts : texts ≠ [] := typingPlaceholderTexts_ne isIpad localized
  obtain ⟨start,hstart,hfirst⟩ := steady_onViewAppear cursor htexts first next
  obtain ⟨vm,hfires,hsteady⟩ := hfirst.run draws
  rw [Nat.zero_add] at hsteady
  have hrun : run cursor texts (.onViewAppear first next :: draws.map (.fire 0)) = some vm := by
    rw [TypingPlaceholderViewModel.run,List.foldlM_cons,hstart]
    exact hfires
  have hdrawing : Drawing texts vm :=
    foldlM_invariant (fun _ _ _ hstep h => h.step hstep) (drawing_init texts) hrun
  refine ⟨vm,hrun,hsteady.drawn_eq,?_,fun k hk => hdrawing.rounds.block_perm htexts hk,
    hsteady.finished_ge hdrawing (typingPlaceholderTexts_limit isIpad localized)⟩
  obtain ⟨position,hscheduled,hlt,htext,-⟩ | ⟨hscheduled,hlast,-⟩ := hsteady.phase
  · refine .inl ⟨position,hlt,hscheduled,?_⟩
    rw [htext,TypeWriterView.shown]
    simp [hlt]
  · exact .inr ⟨hscheduled,hlast⟩

end GenieD

import GenieD.Answers
import GenieD.Sieve

set_option autoImplicit false

namespace GenieD

open Sieve App

/-- What `speakText` was called with: an answer, or what was still to be typed of it. -/
inductive Utterance where
  | answer (message : MessageItem)
  | remain (text : String)

namespace Utterance

def text : Utterance → String
  | answer message => message.text
  | remain text => text

def answer? : Utterance → Option MessageItem
  | answer message => some message
  | remain _ => none

end Utterance

/-- A dialog with its voice. The synthesizer holds the utterances that it has
still to speak; `isSpeaking` tells whether there are any, and `stopSpeaking`
clears them. `spoken` and `reported` hold all calls of `speak` and
`onTypingTextRemain`. -/
structure Listening where
  app : App
  isSoundOff : Bool
  storedIsSoundOff : Option Bool
  typingTextRemain : String := ""
  synthesizer : Option (List String) := none
  spoken : List Utterance := []
  reported : List String := []

inductive SpeechEvent where
  | session (e : Event)
  | onTypingTextRemain (text : String)
  | onToggleIsSoundOff
  | didFinish

namespace Listening

def localIsSoundOff (storedIsSoundOff : Option Bool) : Bool := storedIsSoundOff.getD true

def queue (l : Listening) : List String := l.synthesizer.getD []

def start (app : App) (storedIsSoundOff : Option Bool) : Listening where
  app := app
  isSoundOff := localIsSoundOff storedIsSoundOff
  storedIsSoundOff := storedIsSoundOff

def stopSynthesizer (l : Listening) : Listening :=
  match l.synthesizer with
  | none => l
  | some utterances => if utterances.isEmpty then l else { l with synthesizer := some [] }

def speakText (l : Listening) (u : Utterance) : Listening :=
  if !l.isSoundOff && !Text.isBlank u.text then
    { l with
      synthesizer := some (l.synthesizer.getD [] ++ [u.text])
      spoken := l.spoken ++ [u] }
  else l

def onToggleIsSoundOff (l : Listening) : Listening :=
  let l := { l with isSoundOff := !l.isSoundOff, storedIsSoundOff := some !l.isSoundOff }
  if l.isSoundOff then l.stopSynthesizer
  else if l.app.vm.isTyping && !l.typingTextRemain.isEmpty then
    l.speakText (.remain l.typingTextRemain)
  else l

/-- The answers that `handleSendTextResponse` shows in a step. -/
def newAnswers (p : Platform) (a : App) (e : Event) : List MessageItem :=
  (a.noted p e).filterMap Entry.answer?

def step (p : Platform) (l : Listening) : SpeechEvent → Listening
  | .session e =>
    ((newAnswers p l.app e).map Utterance.answer).foldl speakText
      { l with app := l.app.step p e }
  | .onTypingTextRemain text =>
    { l with typingTextRemain := text, reported := l.reported ++ [text] }
  | .onToggleIsSoundOff => l.onToggleIsSoundOff
  | .didFinish => { l with synthesizer := l.synthesizer.map List.tail }

def onDisappear (l : Listening) : Listening := l.stopSynthesizer

variable {p : Platform} {l : Listening}

/-- The queue is what the last calls of `speak` have left, and nothing if the
sound is off; every answer was spoken at most once, and nothing blank. -/
structure Heard (answers : List MessageItem) (l : Listening) : Prop where
  muted : l.isSoundOff = true → l.queue = []
  stored : localIsSoundOff l.storedIsSoundOff = l.isSoundOff
  queued : l.queue <:+ l.spoken.map Utterance.text
  once : (answers ++ l.spoken.filterMap Utterance.answer?).Sublist l.app.device.answers
  audible : ∀ u ∈ l.spoken, Text.isBlank u.text = false
  known : ∀ text, .remain text ∈ l.spoken → text ∈ l.reported
  remains : l.typingTextRemain = "" ∨ l.typingTextRemain ∈ l.reported

theorem queue_stopSynthesizer (l : Listening) : l.stopSynthesizer.queue = [] := by
  unfold stopSynthesizer
  split
  · rename_i hnone
    simp [queue,hnone]
  · rename_i utterances hsome
    split
    · rename_i hempty
      simp [queue,hsome,List.isEmpty_iff.mp hempty]
    · rfl

theorem stopSynthesizer_frame (l : Listening) :
    ∃ synthesizer, l.stopSynthesizer = { l with synthesizer } := by
  unfold stopSynthesizer
  split
  · exact ⟨_,rfl⟩
  · split
    · exact ⟨_,rfl⟩
    · exact ⟨_,rfl⟩

variable {answers : List MessageItem}

theorem Heard.speakText (h : Heard answers l) {u : Utterance} (app : App)
    (honce : (answers ++ l.spoken.filterMap Utterance.answer? ++ u.answer?.toList).Sublist
      app.device.answers)
    (hremain : ∀ text, u = .remain text → text ∈ l.reported) :
    Heard answers ({ l with app }.speakText u) := by
  have hkept : Heard answers { l with app } := by
    refine ⟨h.muted,h.stored,h.queued,?_,h.audible,h.known,h.remains⟩
    exact (List.sublist_append_left _ _).trans honce
  unfold Listening.speakText
  split
  · rename_i hspeak
    simp only [Bool.and_eq_true,Bool.not_eq_true'] at hspeak
    refine ⟨?_,h.stored,?_,?_,?_,?_,h.remains⟩
    · intro hoff
      simp only [hspeak.1] at hoff
      cases hoff
    · obtain ⟨before,hbefore⟩ := h.queued
      refine ⟨before,?_⟩
      simp only [queue,Option.getD_some,List.map_append,List.map_cons,List.map_nil] at hbefore ⊢
      rw [← hbefore,List.append_assoc]
    · rw [List.filterMap_append,← List.append_assoc]
      cases u with
      | answer message => exact honce
      | remain text => exact honce
    · intro v hv
      rcases List.mem_append.mp hv with hold | hnew
      · exact h.audible v hold
      · rw [List.mem_singleton.mp hnew]
        exact hspeak.2
    · intro text hmem
      rcases List.mem_append.mp hmem with hold | hnew
      · exact h.known text hold
      · exact hremain text (List.mem_singleton.mp hnew).symm
  · exact hkept

theorem answers_step (p : Platform) (a : App) (e : Event) :
    (a.step p e).device.answers = a.device.answers ++ newAnswers p a e := by
  rw [Device.answers,journal_step,List.filterMap_append]
  rfl

theorem newAnswers_cases (p : Platform) (a : App) (e : Event) :
    newAnswers p a e = [] ∨ ∃ m, newAnswers p a e = [m] := by
  have hanswers := answers_step p a e
  cases replied_step p a e with
  | quiet hdevice _ =>
    rw [hdevice.answers] at hanswers
    exact .inl (List.self_eq_append_right.mp hanswers)
  | answered m hm _ _ _ =>
    rw [hm] at hanswers
    exact .inr ⟨m,(List.append_cancel_left hanswers).symm⟩

theorem Heard.onToggleIsSoundOff (h : Heard answers l) : Heard answers l.onToggleIsSoundOff := by
  have htoggled (hoff : l.isSoundOff = true) : Heard answers
      { l with isSoundOff := !l.isSoundOff, storedIsSoundOff := some !l.isSoundOff } := by
    refine ⟨fun hoff' => ?_,rfl,h.queued,h.once,h.audible,h.known,h.remains⟩
    simp [hoff] at hoff'
  unfold Listening.onToggleIsSoundOff
  dsimp only
  cases hsound : l.isSoundOff with
  | false =>
    rw [if_pos (by rfl)]
    generalize hstopped : stopSynthesizer _ = stopped
    obtain ⟨synthesizer,hframe⟩ := stopSynthesizer_frame
      { l with isSoundOff := !false, storedIsSoundOff := some !false }
    have hqueue := queue_stopSynthesizer
      { l with isSoundOff := !false, storedIsSoundOff := some !false }
    rw [hstopped] at hframe hqueue
    subst hframe
    refine ⟨fun _ => hqueue,rfl,?_,h.once,h.audible,h.known,h.remains⟩
    rw [hqueue]
    exact List.nil_suffix
  | true =>
    have hon := htoggled hsound
    rw [hsound] at hon
    rw [if_neg (by simp)]
    split
    · rename_i hspeak
      simp only [Bool.and_eq_true,Bool.not_eq_true'] at hspeak
      have hreported : l.typingTextRemain ∈ l.reported := by
        rcases h.remains with hempty | hmem
        · simp [hempty] at hspeak
        · exact hmem
      refine hon.speakText l.app ?_ ?_
      · simpa [Utterance.answer?] using h.once
      · intro text htext
        cases htext
        exact hreported
    · exact hon

theorem heard_step (p : Platform) (h : Heard answers l) (e : SpeechEvent) :
    Heard answers (l.step p e) := by
  cases e with
  | session e =>
    have hanswers := answers_step p l.app e
    simp only [step]
    rcases newAnswers_cases p l.app e with hnone | ⟨m,hm⟩
    · rw [hnone,List.append_nil] at hanswers
      rw [hnone]
      exact ⟨h.muted,h.stored,h.queued,hanswers ▸ h.once,h.audible,h.known,h.remains⟩
    · rw [hm] at hanswers
      rw [hm]
      refine h.speakText (l.app.step p e) ?_ (by simp)
      rw [hanswers]
      exact h.once.append_right [m]
  | onTypingTextRemain text =>
    refine ⟨h.muted,h.stored,h.queued,h.once,h.audible,fun t ht => ?_,.inr (by simp [step])⟩
    exact List.mem_append_left _ (h.known t ht)
  | onToggleIsSoundOff => exact h.onToggleIsSoundOff
  | didFinish =>
    have htail : (l.step p .didFinish).queue = l.queue.tail := by
      simp only [step,queue]
      cases l.synthesizer <;> rfl
    refine ⟨fun hoff => ?_,h.stored,?_,h.once,h.audible,h.known,h.remains⟩
    · rw [htail,h.muted hoff]
      rfl
    · rw [htail]
      exact (List.tail_suffix _).trans h.queued

end Listening

/-- Whatever is asked, answered, typed, toggled and spoken in a dialog: with the
sound off the synthesizer has nothing to speak, the setting is the stored one,
each answer is spoken at most once and in the order of the answers, anything else
that is spoken was reported as not yet typed, an answer that is not blank and comes
with the sound on is queued whole, and the voice ends with the dialog. -/
theorem dialog_speech (p : Platform) (a : App) (storedIsSoundOff : Option Bool)
    (es : List SpeechEvent) :
    let l := es.foldl (Listening.step p) (.start a storedIsSoundOff)
    (l.isSoundOff = true → l.queue = []) ∧
      Listening.localIsSoundOff l.storedIsSoundOff = l.isSoundOff ∧
      l.queue <:+ l.spoken.map Utterance.text ∧
      (a.device.answers ++ l.spoken.filterMap Utterance.answer?).Sublist l.app.device.answers ∧
      (∀ text, .remain text ∈ l.spoken → text ∈ l.reported) ∧
      (∀ e m, Listening.newAnswers p l.app e = [m] → l.isSoundOff = false →
        Text.isBlank m.text = false → (l.step p (.session e)).queue = l.queue ++ [m.text]) ∧
      l.onDisappear.queue = [] := by
  intro l
  have hstart : Listening.Heard a.device.answers (.start a storedIsSoundOff) :=
    ⟨fun _ => rfl,rfl,List.suffix_refl _,by simp [Listening.start],by simp [Listening.start],
      by simp [Listening.start],.inl rfl⟩
  have h : Listening.Heard a.device.answers l :=
    foldl_invariant (I := Listening.Heard a.device.answers)
      (fun _ e hl => Listening.heard_step p hl e) hstart es
  refine ⟨h.muted,h.stored,h.queued,h.once,h.known,fun e m hm hon hblank => ?_,
    Listening.queue_stopSynthesizer l⟩
  simp [Listening.step,hm,Listening.speakText,Utterance.text,hon,hblank,Listening.queue]

end GenieD

import GenieD.Frames

set_option autoImplicit false

namespace GenieD

open App

def Entry.answer? : Entry → Option MessageItem
  | .answer message => some message
  | .command _ _ | .sendText _ | .post _ _ | .describeFile _ _ _ | .saveChat _ _ | .reset => none

def Device.answers (d : Device) : List MessageItem := d.journal.filterMap Entry.answer?

structure Uncounted (d d' : Device) : Prop where
  answers : d'.answers = d.answers
  review : d'.defaults.questionsCountForReview = d.defaults.questionsCountForReview

variable {d d' d'' : Device}

theorem Uncounted.refl (d : Device) : Uncounted d d := ⟨rfl,rfl⟩

theorem Uncounted.trans (h : Uncounted d d') (h' : Uncounted d' d'') : Uncounted d d'' :=
  ⟨h'.answers.trans h.answers,h'.review.trans h.review⟩

theorem answers_note (d : Device) {e : Entry} (he : e.answer? = none) :
    (d.note e).answers = d.answers := by
  simp [Device.answers,Device.note,he]

theorem Uncounted.rechecked (h : d.Rechecked d') : Uncounted d d' := by
  cases h with
  | kept reads => exact ⟨rfl,rfl⟩
  | reset reads ts => exact ⟨answers_note _ rfl,rfl⟩

theorem Uncounted.probed (h : Probed d d') : Uncounted d d' := by
  obtain ⟨reads,uuids,-,rfl⟩ := h
  exact ⟨rfl,rfl⟩

theorem Uncounted.noted (h : Noted (fun e => e.isNetwork = true) d d') : Uncounted d d' := by
  obtain ⟨entries,hall,rfl⟩ := h
  have hnone : entries.filterMap Entry.answer? = [] := by
    rw [List.filterMap_eq_nil_iff]
    intro e he
    have hnetwork := hall e he
    cases e with
    | answer message => simp [Entry.isNetwork] at hnetwork
    | _ => rfl
  exact ⟨by simp [Device.answers,hnone],rfl⟩

theorem Uncounted.stepped (h : d.Stepped d') : Uncounted d d' := by
  cases h with
  | rechecked h => exact .rechecked h
  | refreshed => exact ⟨rfl,rfl⟩
  | resubscribed reads h =>
    obtain ⟨active,written,rfl⟩ := h
    exact ⟨rfl,rfl⟩
  | purchased reads h _ =>
    obtain ⟨active,written,rfl⟩ := h
    exact ⟨answers_note _ rfl,rfl⟩

theorem Uncounted.saved {p : Platform} {a b : App} (h : Saved p a b) :
    Uncounted a.device b.device := by
  cases h with
  | skipped => exact .refl _
  | deleted => exact .refl _
  | stored => exact ⟨answers_note _ rfl,rfl⟩
  | detached => exact ⟨answers_note _ rfl,rfl⟩

/-- What a step of the dialog does with answers: it shows none, and then nothing
begins to be typed, or it shows one, counts it and types it. -/
inductive Replied (a b : App) : Prop where
  | quiet (hdevice : Uncounted a.device b.device)
      (htyping : b.vm.typingMessageId = a.vm.typingMessageId ∨ b.vm.typingMessageId = none)
  | answered (m : MessageItem) (hanswers : b.device.answers = a.device.answers ++ [m])
      (hreview : b.device.defaults.questionsCountForReview =
        a.device.defaults.questionsCountForReview + 1)
      (htyping : b.vm.typingMessageId = some m.id)
      (hlast : b.vm.messages.getLast? = some m)

variable {p : Platform} {a b : App}

theorem Uncounted.effect (h : Effect p a b) : Uncounted a.device b.device := by
  have hrefreshed {chat : List MessageItem} {d : Device} (hd : Refreshed chat a.device d) :
      Uncounted a.device d := by
    obtain ⟨firestore,hnoted⟩ := hd.noted
    have hread : Uncounted a.device { a.device with firestore } := ⟨rfl,rfl⟩
    exact hread.trans (.noted hnoted)
  cases h with
  | probed d hd => exact .probed hd
  | rechecked d hd => exact .rechecked hd
  | redrawn => exact .refl _
  | commanded b hb =>
    cases hb
    exact ⟨by simp [Device.answers,Entry.answer?],rfl⟩
  | issued b hb =>
    obtain ⟨d,hd,hd'⟩ := hb.noted
    exact (Uncounted.probed hd).trans (.noted hd')
  | taken index r d _ hd => exact hrefreshed hd
  | continued index r d f _ hd => exact hrefreshed hd
  | saved => exact .saved (saved_saveChat p a)

theorem typing_effect (h : Effect p a b) : b.vm.typingMessageId = a.vm.typingMessageId ∨
    b.vm.typingMessageId = none := by
  cases h with
  | probed | rechecked | taken | continued => exact .inl rfl
  | redrawn vm hvm => exact hvm.typing
  | commanded b hb =>
    cases hb
    exact .inl rfl
  | issued b hb => cases hb <;> exact .inl rfl
  | saved =>
    obtain ⟨chat,moc,uuids,journal,-,hsave⟩ := saveChat_frame p a
    rw [hsave]
    exact .inl rfl

theorem Uncounted.effects (h : Effects p a b) : Uncounted a.device b.device :=
  frame_effects (R := fun a b => Uncounted a.device b.device) (fun a => .refl a.device) .trans
    .effect h

theorem typing_effects (h : Effects p a b) : b.vm.typingMessageId = a.vm.typingMessageId ∨
    b.vm.typingMessageId = none := by
  refine frame_effects (R := fun a b => b.vm.typingMessageId = a.vm.typingMessageId ∨
    b.vm.typingMessageId = none) (fun _ => .inl rfl) ?_ typing_effect h
  rintro a b c hab (hbc | hbc)
  · rw [hbc]
    exact hab
  · exact .inr hbc

theorem replied_step (p : Platform) (a : App) (e : Event) : Replied a (a.step p e) := by
  by_cases he : ∃ d, e = .device d
  · obtain ⟨d,rfl⟩ := he
    exact .quiet (.stepped (a.device.stepped_step p d)) (.inl rfl)
  · obtain ⟨c,hc,hstep⟩ := effects_step p a (not_exists.mp he)
    have hquiet := Uncounted.effects hc
    rcases hstep with hstep | ⟨response,questionId,-,hstep⟩
    · rw [hstep]
      exact .quiet hquiet (typing_effects hc)
    · rw [hstep]
      refine .answered (c.device.newMessage p response.output false none
        response.completionTokens).1 ?_ ?_ rfl ?_
      · rw [← hquiet.answers]
        simp [handleSendTextResponse,Device.answers,Device.note,Entry.answer?,Device.newMessage,
          Device.questionsCountIncrement,Device.setAccessQuestionsCount]
      · rw [← hquiet.review]
        rfl
      · simp [handleSendTextResponse,Device.newMessage,Device.questionsCountIncrement,
          Device.setAccessQuestionsCount]

/-- Answers that no review has been asked for yet, over those of all time: what
no step but the request for a review changes. -/
def Device.unreviewed (d : Device) : Int :=
  d.defaults.questionsCountForReview - d.answers.length

theorem Uncounted.unreviewed (h : Uncounted d d') : d'.unreviewed = d.unreviewed := by
  rw [Device.unreviewed,Device.unreviewed,h.answers,h.review]

theorem Replied.unreviewed (h : Replied a b) : b.device.unreviewed = a.device.unreviewed := by
  cases h with
  | quiet hdevice _ => exact hdevice.unreviewed
  | answered m hanswers hreview _ _ =>
    simp only [Device.unreviewed,hanswers,hreview,List.length_append,List.length_singleton]
    omega

theorem unreviewed_screen_step (p : Platform) (s : Screen) (act : Act) :
    (s.step p act).device.unreviewed = s.device.unreviewed := by
  have hacted := s.acted_step p act
  generalize (s.step p act).device = d at hacted ⊢
  cases hacted with
  | same | opened | launch => rfl
  | device e => exact (Uncounted.stepped (s.device.stepped_step p e)).unreviewed
  | session a e ha =>
    rw [← ha]
    exact (replied_step p a e).unreviewed
  | saved act a ha =>
    rw [← ha]
    exact (Uncounted.saved (saved_saveChat p a)).unreviewed

end GenieD

import GenieD.Answers
import GenieD.Sieve

set_option autoImplicit false

namespace GenieD

open Sieve

inductive Page where
  | onboarding
  | paywall
  | home
  deriving DecidableEq, Repr

def Page.rank : Page → Nat
  | .onboarding => 0
  | .paywall => 1
  | .home => 2

structure ContentView where
  onboardingWasShown : Bool
  paywallWasShown : Bool
  index : Nat := 0
  authorizing : Nat := 0
  deriving DecidableEq, Repr

namespace ContentView

def init (onboardingWasShown subscribed : Bool) : ContentView where
  onboardingWasShown := onboardingWasShown
  paywallWasShown := onboardingWasShown || subscribed

def page (view : ContentView) : Page :=
  if view.onboardingWasShown then
    if view.paywallWasShown then .home else .paywall
  else .onboarding

end ContentView

def Screen.setDevice : Screen → Device → Screen
  | .home _ moc, device => .home device moc
  | .dialog a, device => .dialog { a with device }

@[simp] theorem Screen.device_setDevice (s : Screen) (d : Device) : (s.setDevice d).device = d := by
  cases s <;> rfl

/-- The app with its front page. `reviews` holds the counter at each call of
`requestReview` and whether a scene was in the foreground then. -/
structure Scene where
  onboardingWasShown : Bool := false
  content : ContentView
  screen : Screen
  reviews : List (Nat × Bool) := []

inductive SceneEvent where
  | continueButton
  | authorized (success : Bool)
  | closePaywall
  | act (act : Act)
  | active
  | launch (foregroundActive : Bool)

namespace Scene

def page (s : Scene) : Page := s.content.page

def handleActivePhase (s : Scene) (foregroundActive : Bool) : Scene :=
  let d := s.screen.device
  let count := d.defaults.questionsCountForReview
  if count ≥ 2 then
    { s with
      screen := s.screen.setDevice
        { d with defaults := { d.defaults with questionsCountForReview := 0 } }
      reviews := s.reviews ++ [(count,foregroundActive)] }
  else s

def onContinue (s : Scene) : Scene :=
  if s.content.index < 2 then
    { s with content := { s.content with index := s.content.index + 1 } }
  else { s with content := { s.content with authorizing := s.content.authorizing + 1 } }

def onDone (s : Scene) : Scene :=
  { s with
    onboardingWasShown := true
    content := { s.content with
      onboardingWasShown := true
      authorizing := s.content.authorizing - 1 } }

def launch (p : Platform) (s : Scene) (foregroundActive : Bool) : Scene :=
  let screen := s.screen.launch p
  handleActivePhase
    { s with content := .init s.onboardingWasShown screen.device.subscribed, screen }
    foregroundActive

def isDevice : Act → Bool
  | .device _ => true
  | .session _ | .openChat _ _ | .leave | .onDeleteChatAction | .launch => false

/-- Dialogs are opened from the home page; the services run behind every page. -/
def step (p : Platform) (s : Scene) : SceneEvent → Scene
  | .continueButton => if s.page = .onboarding then s.onContinue else s
  | .authorized _ => if s.content.authorizing = 0 then s else s.onDone
  | .closePaywall =>
    if s.page = .paywall then { s with content := { s.content with paywallWasShown := true } }
    else s
  | .act .launch => s
  | .act act =>
    if s.page = .home ∨ isDevice act then { s with screen := s.screen.step p act } else s
  | .active => s.handleActivePhase true
  | .launch foregroundActive => s.launch p foregroundActive

def install (active : Option Subsciption) (firestore : FirestoreManager) : Scene where
  content := .init false active.isSome
  screen := .install active firestore

structure Fits (s : Scene) : Prop where
  stored : s.content.onboardingWasShown = s.onboardingWasShown
  dialog : ∀ a, s.screen = .dialog a → s.page = .home

structure Reviewed (s : Scene) : Prop where
  total : s.screen.device.unreviewed = -((s.reviews.map Prod.fst).sum : Nat)
  enough : ∀ review ∈ s.reviews, 2 ≤ review.1

variable {p : Platform} {s : Scene}

theorem handleActivePhase_frame (s : Scene) (foregroundActive : Bool) :
    (s.handleActivePhase foregroundActive).content = s.content ∧
      (s.handleActivePhase foregroundActive).onboardingWasShown = s.onboardingWasShown ∧
      ((∃ a, (s.handleActivePhase foregroundActive).screen = .dialog a) →
        ∃ a, s.screen = .dialog a) := by
  unfold handleActivePhase
  dsimp only
  split
  · refine ⟨rfl,rfl,?_⟩
    rintro ⟨a,ha⟩
    cases hscreen : s.screen with
    | home device moc => simp [hscreen,Screen.setDevice] at ha
    | dialog b => exact ⟨b,rfl⟩
  · exact ⟨rfl,rfl,id⟩

theorem Fits.handleActivePhase (h : s.Fits) (foregroundActive : Bool) :
    (s.handleActivePhase foregroundActive).Fits := by
  obtain ⟨hcontent,hstored,hdialog⟩ := handleActivePhase_frame s foregroundActive
  refine ⟨by rw [hcontent,hstored]; exact h.stored,fun a ha => ?_⟩
  obtain ⟨b,hb⟩ := hdialog ⟨a,ha⟩
  rw [page,hcontent]
  exact h.dialog b hb

theorem init_page (onboardingWasShown subscribed : Bool) :
    (ContentView.init onboardingWasShown subscribed).page =
      if onboardingWasShown then .home else .onboarding := by
  cases onboardingWasShown <;> rfl

theorem page_launch (p : Platform) (s : Scene) (foregroundActive : Bool) :
    (s.launch p foregroundActive).page =
      if s.onboardingWasShown then .home else .onboarding := by
  rw [page,launch,(handleActivePhase_frame _ foregroundActive).1]
  exact init_page _ _

theorem dialog_of_step {d : Device} {moc : ManagedObjectContext} {act : Act} {a : App}
    (hact : isDevice act = true) (h : (Screen.home d moc).step p act = .dialog a) : False := by
  cases act with
  | device e => cases h
  | session | openChat | leave | onDeleteChatAction | launch => cases hact

theorem fits_step (p : Platform) (h : s.Fits) (e : SceneEvent) : (s.step p e).Fits := by
  cases e with
  | continueButton =>
    simp only [step,onContinue]
    split
    · rename_i hpage
      have hnone : ∀ a, s.screen ≠ .dialog a := fun a ha => by
        have hhome := h.dialog a ha
        rw [hpage] at hhome
        cases hhome
      split
      · exact ⟨h.stored,fun a ha => absurd ha (hnone a)⟩
      · exact ⟨h.stored,fun a ha => absurd ha (hnone a)⟩
    · exact h
  | authorized success =>
    simp only [step,onDone]
    split
    · exact h
    · refine ⟨rfl,fun a ha => ?_⟩
      have hhome := h.dialog a ha
      simp only [page,ContentView.page] at hhome ⊢
      by_cases honboarding : s.content.onboardingWasShown = true
      · rw [if_pos honboarding] at hhome
        exact hhome
      · rw [if_neg honboarding] at hhome
        cases hhome
  | closePaywall =>
    simp only [step]
    split
    · rename_i hpage
      refine ⟨h.stored,fun a ha => ?_⟩
      have hhome := h.dialog a ha
      rw [hpage] at hhome
      cases hhome
    · exact h
  | act act =>
    have hacted : ∀ act, (if s.page = .home ∨ isDevice act then
        { s with screen := s.screen.step p act } else s : Scene).Fits := by
      intro act
      split
      · rename_i hallowed
        refine ⟨h.stored,fun a ha => ?_⟩
        rcases hallowed with hhome | hdevice
        · exact hhome
        · cases hscreen : s.screen with
          | home device moc =>
            simp only [hscreen] at ha
            exact (dialog_of_step hdevice ha).elim
          | dialog b => exact h.dialog b hscreen
      · exact h
    cases act with
    | launch => exact h
    | session e => exact hacted (.session e)
    | device e => exact hacted (.device e)
    | openChat chat allObjects => exact hacted (.openChat chat allObjects)
    | leave => exact hacted .leave
    | onDeleteChatAction => exact hacted .onDeleteChatAction
  | active => exact h.handleActivePhase true
  | launch foregroundActive =>
    refine Fits.handleActivePhase ⟨rfl,fun a ha => ?_⟩ foregroundActive
    cases ha

theorem page_eq_onboarding (h : s.Fits) (hstored : s.onboardingWasShown = false) :
    s.page = .onboarding := by
  rw [page,ContentView.page,h.stored,hstored]
  rfl

theorem rank_step (p : Platform) (h : s.Fits) (e : SceneEvent) :
    s.page.rank ≤ (s.step p e).page.rank := by
  have hacted (t : Scene) (hcontent : t.content = s.content) : s.page.rank ≤ t.page.rank := by
    rw [page,page,hcontent]
  cases e with
  | continueButton =>
    simp only [step,onContinue]
    split
    · split
      · rfl
      · rfl
    · rfl
  | authorized success =>
    simp only [step,onDone]
    split
    · rfl
    · simp only [page,ContentView.page]
      cases s.content.onboardingWasShown with
      | true => rfl
      | false => exact Nat.zero_le _
  | closePaywall =>
    simp only [step]
    split
    · rename_i hpage
      rw [hpage]
      simp only [page,ContentView.page] at hpage ⊢
      split at hpage
      · rename_i hshown
        simp only [hshown,if_true]
        decide
      · cases hpage
    · rfl
  | act act =>
    refine hacted _ ?_
    cases act with
    | launch => rfl
    | session | device | openChat | leave | onDeleteChatAction =>
      simp only [step]
      split
      · rfl
      · rfl
  | active => exact hacted _ (handleActivePhase_frame s true).1
  | launch foregroundActive =>
    simp only [step]
    rw [page_launch]
    cases hstored : s.onboardingWasShown with
    | true =>
      simp only [if_true]
      cases s.page <;> decide
    | false =>
      rw [page_eq_onboarding h hstored]
      exact Nat.zero_le _

theorem Reviewed.handleActivePhase (h : s.Reviewed) (foregroundActive : Bool) :
    (s.handleActivePhase foregroundActive).Reviewed := by
  unfold Scene.handleActivePhase
  dsimp only
  split
  · rename_i hcount
    refine ⟨?_,fun review hmem => ?_⟩
    · have htotal := h.total
      simp only [Device.unreviewed,Screen.device_setDevice,List.map_append,List.sum_append,
        List.map_cons,List.map_nil,List.sum_cons,List.sum_nil,Device.answers] at htotal ⊢
      omega
    · rcases List.mem_append.mp hmem with hold | hnew
      · exact h.enough review hold
      · rw [List.mem_singleton.mp hnew]
        exact hcount
  · exact h

theorem reviewed_step (p : Platform) (h : s.Reviewed) (e : SceneEvent) : (s.step p e).Reviewed := by
  cases e with
  | continueButton =>
    simp only [step,onContinue]
    split
    · split
      · exact ⟨h.total,h.enough⟩
      · exact ⟨h.total,h.enough⟩
    · exact h
  | authorized success =>
    simp only [step,onDone]
    split
    · exact h
    · exact ⟨h.total,h.enough⟩
  | closePaywall =>
    simp only [step]
    split
    · exact ⟨h.total,h.enough⟩
    · exact h
  | act act =>
    have hacted : ({ s with screen := s.screen.step p act } : Scene).Reviewed :=
      ⟨(unreviewed_screen_step p s.screen act).trans h.total,h.enough⟩
    cases act with
    | launch => exact h
    | session | device | openChat | leave | onDeleteChatAction =>
      simp only [step]
      split
      · exact hacted
      · exact h
  | active => exact h.handleActivePhase true
  | launch foregroundActive =>
    have hlaunch : (s.screen.launch p).device.unreviewed = s.screen.device.unreviewed := rfl
    refine Reviewed.handleActivePhase ?_ foregroundActive
    exact ⟨hlaunch.trans h.total,h.enough⟩

theorem fits_run (p : Platform) (active : Option Subsciption) (firestore : FirestoreManager)
    (es : List SceneEvent) : (es.foldl (step p) (install active firestore)).Fits := by
  have hstart : (install active firestore).Fits := ⟨rfl,fun a ha => by cases ha⟩
  exact foldl_invariant (I := Fits) (fun _ e h => fits_step p h e) hstart es

end Scene

/-- Over launches, taps and whatever the services do, the front never goes back
to an earlier page; a launch never starts at the paywall, so that the one of the
onboarding is gone for good once the app was closed on it; and dialogs are open
on the home page only. -/
theorem front_never_goes_back (p : Platform) (active : Option Subsciption)
    (firestore : FirestoreManager) (es later : List SceneEvent) (foregroundActive : Bool) :
    let s := es.foldl (Scene.step p) (.install active firestore)
    let t := later.foldl (Scene.step p) s
    s.page.rank ≤ t.page.rank ∧
      (s.step p (.launch foregroundActive)).page ≠ .paywall ∧
      (s.page = .paywall → (later.foldl (Scene.step p)
        (s.step p (.launch foregroundActive))).page = .home) ∧
      ∀ a, s.screen = .dialog a → s.page = .home := by
  intro s t
  have hfits : s.Fits := Scene.fits_run p active firestore es
  have hlater : ∀ s : Scene, s.Fits →
      s.page.rank ≤ (later.foldl (Scene.step p) s).page.rank := by
    intro s hs
    have hrun : (later.foldl (Scene.step p) s).Fits ∧
        s.page.rank ≤ (later.foldl (Scene.step p) s).page.rank :=
      foldl_invariant (I := fun t : Scene => t.Fits ∧ s.page.rank ≤ t.page.rank)
        (fun t e ht => ⟨Scene.fits_step p ht.1 e,ht.2.trans (Scene.rank_step p ht.1 e)⟩)
        ⟨hs,Nat.le_refl _⟩ later
    exact hrun.2
  have hlaunch := Scene.page_launch p s foregroundActive
  refine ⟨hlater s hfits,?_,fun hpaywall => ?_,hfits.dialog⟩
  · simp only [Scene.step,hlaunch]
    split <;> decide
  · have hstored : s.onboardingWasShown = true := by
      by_contra hnot
      have honboarding := Scene.page_eq_onboarding hfits (by simpa using hnot)
      rw [hpaywall] at honboarding
      cases honboarding
    have hhome : (s.step p (.launch foregroundActive)).page = .home := by
      simp only [Scene.step,hlaunch,hstored,if_true]
    have hrank := hlater _ (Scene.fits_step p hfits (.launch foregroundActive))
    rw [hhome] at hrank
    cases hpage : (later.foldl (Scene.step p) (s.step p (.launch foregroundActive))).page with
    | home => rfl
    | onboarding | paywall =>
      rw [hpage] at hrank
      simp [Page.rank] at hrank

/-- In every run a review is asked for only after two answers more, and the
counter with all that it held at those times makes up the answers so far. -/
theorem reviews_accounted (p : Platform) (active : Option Subsciption)
    (firestore : FirestoreManager) (es : List SceneEvent) :
    let s := es.foldl (Scene.step p) (.install active firestore)
    s.screen.device.answers.length =
        (s.reviews.map Prod.fst).sum + s.screen.device.defaults.questionsCountForReview ∧
      2 * s.reviews.length ≤ s.screen.device.answers.length := by
  intro s
  have hstart : (Scene.install active firestore).Reviewed := ⟨rfl,by simp [Scene.install]⟩
  have h : s.Reviewed :=
    foldl_invariant (I := Scene.Reviewed) (fun _ e hs => Scene.reviewed_step p hs e) hstart es
  have htotal : s.screen.device.answers.length =
      (s.reviews.map Prod.fst).sum + s.screen.device.defaults.questionsCountForReview := by
    have := h.total
    rw [Device.unreviewed] at this
    omega
  have hlower : s.reviews.length * 2 ≤ (s.reviews.map Prod.fst).sum := by
    have henough : ∀ count ∈ s.reviews.map Prod.fst, 2 ≤ count := by
      intro count hcount
      obtain ⟨review,hmem,rfl⟩ := List.mem_map.mp hcount
      exact h.enough review hmem
    simpa using List.card_nsmul_le_sum (s.reviews.map Prod.fst) 2 henough
  exact ⟨htotal,by omega⟩

example :
    let p := Platform.plain Int.ofNat
    let ask : List SceneEvent := [.act (.session (.setText "Hello")),.act (.session .onSendAction),
      .act (.session (.complete 0 (.responded (some ⟨["Hi"],⟨some 1,some 5⟩⟩)))),
      .act (.session .onFinishTyping)]
    let es : List SceneEvent := [.continueButton,.continueButton,.continueButton,.authorized true,
      .closePaywall,.act (.openChat none [])] ++ ask ++ ask ++ [.active]
    let s := es.foldl (Scene.step p) (.install none { aikey := some "key" })
    s.page = .home ∧ s.reviews = [(2,true)] ∧ s.screen.device.answers.length = 2 := by decide

end GenieD

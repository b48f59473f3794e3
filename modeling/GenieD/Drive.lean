import GenieD.Platform
import GenieD.Sieve
import GenieD.Toggling

set_option autoImplicit false

namespace GenieD

open Sieve Toggling

structure GoogleDriveFile where
  identifier : Option String
  deriving DecidableEq, Repr

/-- `taps` holds the calls of `onTapFileAtIndex`. -/
structure GoogleDriveFilesViewModel where
  files : List GoogleDriveFile := []
  selectedIndexes : List Nat := []
  isLoading : Bool := false
  lastToken : Option String := none
  taps : List Nat := []
  deriving DecidableEq, Repr

/-- What a view model waits for: the end of the sign-in, the block that follows
it on the main queue, the list of files, or the data of one. -/
inductive DriveRequest where
  | signIn (token : Option String)
  | signedIn (token : Option String)
  | list (token : Option String)
  | download (file : GoogleDriveFile)
  deriving DecidableEq, Repr

def DriveRequest.isFetch : DriveRequest → Bool
  | signIn _ | signedIn _ | list _ => true
  | download _ => false

/-- `GoogleDriveManager`, the view models that were opened, what each of them
waits for and the calls of `onDone`. -/
structure GoogleDrive where
  isLoggedIn : Bool := false
  errorMessage : String := ""
  googleAPIs : Option String := none
  views : List GoogleDriveFilesViewModel := []
  requests : List (Nat × DriveRequest) := []
  onDone : List (Nat × List Data) := []
  deriving DecidableEq, Repr

inductive DriveEvent where
  | check (currentUser error : Option String)
  | restoreSignIn (user error currentUser : Option String)
  | signOut (currentUser : Option String)
  | openFiles (presenting : Bool)
  | signIn (index : Nat) (error currentUser : Option String)
  | main (index : Nat)
  | list (index : Nat) (results : Option (List GoogleDriveFile × Option String))
  | onTapFileAtIndex (view index : Nat)
  | onTabbarButtonAction (view : Nat)
  | download (index : Nat) (data : Option Data)
  deriving DecidableEq, Repr

namespace GoogleDriveFilesViewModel

def onTapFileAtIndex (vm : GoogleDriveFilesViewModel) (index : Nat) : GoogleDriveFilesViewModel :=
  { vm with
    selectedIndexes :=
      if vm.selectedIndexes.contains index then vm.selectedIndexes.filter (fun i => i ≠ index)
      else vm.selectedIndexes ++ [index]
    taps := vm.taps ++ [index] }

/-- `selectedIndexes.map { files[$0] }`; an index out of range traps. -/
def selectedItems (vm : GoogleDriveFilesViewModel) : Option (List GoogleDriveFile) :=
  vm.selectedIndexes.mapM (fun i => vm.files[i]?)

end GoogleDriveFilesViewModel

namespace GoogleDrive

def checkStatus (d : GoogleDrive) (currentUser : Option String) : GoogleDrive :=
  match currentUser with
  | some user => { d with isLoggedIn := true, googleAPIs := some user }
  | none => { d with isLoggedIn := false, googleAPIs := none }

def modifyView (d : GoogleDrive) (view : Nat)
    (f : GoogleDriveFilesViewModel → GoogleDriveFilesViewModel) : GoogleDrive :=
  { d with views := d.views.modify view f }

def request (d : GoogleDrive) (view : Nat) (r : DriveRequest) : GoogleDrive :=
  { d with requests := d.requests ++ [(view,r)] }

def filesFetched (d : GoogleDrive) (view : Nat)
    (results : Option (List GoogleDriveFile × Option String)) : GoogleDrive :=
  d.modifyView view fun vm =>
    match results with
    | none => { vm with isLoading := false }
    | some (files,token) => { vm with isLoading := false, files, lastToken := token }

def listFiles (d : GoogleDrive) (view : Nat) (token : Option String) : GoogleDrive :=
  if d.googleAPIs.isSome then d.request view (.list token) else d.filesFetched view none

/-- `checkAutorization` and, without a service, `signIn`; without a window its
completion is called at once. -/
def listAllPdfFiles (d : GoogleDrive) (view : Nat) (token : Option String) (presenting : Bool) :
    GoogleDrive :=
  if d.googleAPIs.isSome then d.listFiles view token
  else if presenting then d.request view (.signIn token)
  else d.listFiles view token

def fetchFiles (d : GoogleDrive) (presenting : Bool) : GoogleDrive :=
  let vm : GoogleDriveFilesViewModel := { isLoading := true }
  { d with views := d.views ++ [vm] }.listAllPdfFiles d.views.length vm.lastToken presenting

def dataLoaded (d : GoogleDrive) (view : Nat) (result : Option (List Data)) : GoogleDrive :=
  let d := d.modifyView view fun vm => { vm with isLoading := false }
  match result with
  | some (data :: rest) => { d with onDone := d.onDone ++ [(view,data :: rest)] }
  | some [] | none => d

/-- `loadData`: of the selected files the first is downloaded. -/
def loadData (d : GoogleDrive) (view : Nat) (vm : GoogleDriveFilesViewModel) : Option GoogleDrive :=
  match vm.selectedItems with
  | none => none
  | some items =>
    let d := d.modifyView view fun vm => { vm with isLoading := true }
    if d.googleAPIs.isNone then some (d.dataLoaded view none)
    else
      match items with
      | [] => some (d.dataLoaded view (some []))
      | firstItem :: _ =>
        if firstItem.identifier.isSome then some (d.request view (.download firstItem))
        else some (d.dataLoaded view none)

def onTabbarButtonAction (d : GoogleDrive) (view : Nat) : Option GoogleDrive :=
  match d.views[view]? with
  | none => some d
  | some vm => if vm.selectedIndexes.isEmpty then some d else d.loadData view vm

def withError (d : GoogleDrive) (error : Option String) : GoogleDrive :=
  match error with
  | some error => { d with errorMessage := "error: " ++ error }
  | none => d

def step (d : GoogleDrive) : DriveEvent → Option GoogleDrive
  | .check currentUser error => some ((d.withError error).checkStatus currentUser)
  | .restoreSignIn user error currentUser =>
    if error.isSome || user.isNone then some d else some (d.checkStatus currentUser)
  | .signOut currentUser => some (d.checkStatus currentUser)
  | .openFiles presenting => some (d.fetchFiles presenting)
  | .signIn index error currentUser =>
    match d.requests[index]? with
    | some (view,.signIn token) =>
      let d := { d with requests := d.requests.eraseIdx index }
      some (((d.withError error).checkStatus currentUser).request view (.signedIn token))
    | _ => some d
  | .main index =>
    match d.requests[index]? with
    | some (view,.signedIn token) =>
      some ({ d with requests := d.requests.eraseIdx index }.listFiles view token)
    | _ => some d
  | .list index results =>
    match d.requests[index]? with
    | some (view,.list _) =>
      some ({ d with requests := d.requests.eraseIdx index }.filesFetched view results)
    | _ => some d
  | .onTapFileAtIndex view index =>
    match d.views[view]? with
    | some vm =>
      if index < vm.files.length then some (d.modifyView view fun vm => vm.onTapFileAtIndex index)
      else some d
    | none => some d
  | .onTabbarButtonAction view => d.onTabbarButtonAction view
  | .download index data =>
    match d.requests[index]? with
    | some (view,.download _) =>
      some ({ d with requests := d.requests.eraseIdx index }.dataLoaded view
        (data.map fun data => [data]))
    | _ => some d

end GoogleDrive

def DriveRequest.fetches (view : Nat) (r : Nat × DriveRequest) : Bool :=
  decide (r.1 = view) && r.2.isFetch

def GoogleDriveFilesViewModel.Selected (vm : GoogleDriveFilesViewModel) : Prop :=
  vm.selectedIndexes = selection vm.taps ∧ ∀ i ∈ vm.taps, i < vm.files.length

/-- The selections follow the taps and stay within the files; only a view that
has no files yet waits for them, once; and a view that loads waits for something. -/
structure Tidy (views : List GoogleDriveFilesViewModel) (requests : List (Nat × DriveRequest)) :
    Prop where
  selected : ∀ vm ∈ views, vm.Selected
  known : ∀ r ∈ requests, r.1 < views.length
  single : ∀ view, requests.countP (DriveRequest.fetches view) ≤ 1
  unfetched : ∀ r ∈ requests, r.2.isFetch = true → ∀ vm ∈ views[r.1]?, vm.files = []
  loading : ∀ view, ∀ vm ∈ views[view]?, vm.isLoading = true → ∃ r ∈ requests, r.1 = view

section Tidy

variable {views : List GoogleDriveFilesViewModel} {requests : List (Nat × DriveRequest)}
  {view index : Nat} {r r' : DriveRequest}
  {f : GoogleDriveFilesViewModel → GoogleDriveFilesViewModel}

theorem erased_perm (hr : requests[index]? = some (view,r)) :
    requests.Perm ((view,r) :: requests.eraseIdx index) := by
  obtain ⟨hlt,heq⟩ := List.getElem?_eq_some_iff.mp hr
  rw [← heq]
  exact (List.getElem_cons_eraseIdx_perm hlt).symm

theorem selected_modify (h : ∀ vm ∈ views, vm.Selected)
    (hf : ∀ vm ∈ views[view]?, (f vm).Selected) : ∀ vm ∈ views.modify view f, vm.Selected := by
  intro vm hvm
  obtain ⟨i,hi⟩ := List.mem_iff_getElem?.mp hvm
  rw [List.getElem?_modify] at hi
  by_cases hview : view = i
  · subst hview
    obtain ⟨old,hold,rfl⟩ := Option.map_eq_some_iff.mp (by simpa using hi)
    exact hf old hold
  · exact h vm (List.mem_of_getElem? (by simpa [hview] using hi))

theorem Tidy.replaced (h : Tidy views requests) (hr : requests[index]? = some (view,r))
    (hfetch : r.isFetch = r'.isFetch) :
    Tidy views (requests.eraseIdx index ++ [(view,r')]) := by
  have hperm := erased_perm hr
  have hmem : (view,r) ∈ requests := List.mem_of_getElem? hr
  have hsub : ∀ q ∈ requests.eraseIdx index, q ∈ requests :=
    fun q hq => hperm.mem_iff.mpr (List.mem_cons_of_mem _ hq)
  refine ⟨h.selected,?_,?_,?_,?_⟩
  · intro q hq
    rcases List.mem_append.mp hq with hold | hnew
    · exact h.known q (hsub q hold)
    · rw [List.mem_singleton.mp hnew]
      exact h.known (view,r) hmem
  · intro v
    have hcount := hperm.countP_eq (DriveRequest.fetches v)
    have hsingle := h.single v
    have hsame : DriveRequest.fetches v (view,r') = DriveRequest.fetches v (view,r) := by
      simp [DriveRequest.fetches,hfetch]
    rw [List.countP_cons] at hcount
    rw [List.countP_append,List.countP_singleton,hsame]
    omega
  · intro q hq hqfetch
    rcases List.mem_append.mp hq with hold | hnew
    · exact h.unfetched q (hsub q hold) hqfetch
    · rw [List.mem_singleton.mp hnew] at hqfetch ⊢
      exact h.unfetched (view,r) hmem (hfetch.trans hqfetch)
  · intro v vm hvm hloading
    obtain ⟨q,hq,hv⟩ := h.loading v vm hvm hloading
    rcases List.mem_cons.mp (hperm.mem_iff.mp hq) with rfl | hold
    · exact ⟨(view,r'),by simp,hv⟩
    · exact ⟨q,List.mem_append_left _ hold,hv⟩

structure Flagging (f : GoogleDriveFilesViewModel → GoogleDriveFilesViewModel) : Prop where
  files : ∀ vm, (f vm).files = vm.files
  selectedIndexes : ∀ vm, (f vm).selectedIndexes = vm.selectedIndexes
  taps : ∀ vm, (f vm).taps = vm.taps

theorem getElem?_modify_cases {v : Nat} {vm : GoogleDriveFilesViewModel}
    (hvm : vm ∈ (views.modify view f)[v]?) :
    (v = view ∧ ∃ old ∈ views[view]?, vm = f old) ∨ (v ≠ view ∧ vm ∈ views[v]?) := by
  rw [List.getElem?_modify] at hvm
  by_cases hview : view = v
  · subst hview
    obtain ⟨old,hold,rfl⟩ := Option.map_eq_some_iff.mp (by simpa using hvm)
    exact .inl ⟨rfl,old,hold,rfl⟩
  · exact .inr ⟨Ne.symm hview,by simpa [hview] using hvm⟩

theorem Tidy.flagged_selected (h : Tidy views requests) (hf : Flagging f) :
    ∀ vm ∈ views.modify view f, vm.Selected := by
  refine selected_modify h.selected fun vm hvm => ?_
  rw [GoogleDriveFilesViewModel.Selected,hf.files,hf.selectedIndexes,hf.taps]
  exact h.selected vm (List.mem_of_getElem? hvm)

theorem Tidy.flagged_unfetched (h : Tidy views requests) (hf : Flagging f) :
    ∀ q ∈ requests, q.2.isFetch = true → ∀ vm ∈ (views.modify view f)[q.1]?, vm.files = [] := by
  intro q hq hfetch vm hvm
  rcases getElem?_modify_cases hvm with ⟨hview,old,hold,rfl⟩ | ⟨-,hvm⟩
  · rw [hf.files]
    exact h.unfetched q hq hfetch old (hview ▸ hold)
  · exact h.unfetched q hq hfetch vm hvm

theorem Tidy.settled (h : Tidy views requests) (hf : Flagging f)
    (hloading : ∀ vm, (f vm).isLoading = false) : Tidy (views.modify view f) requests := by
  refine ⟨h.flagged_selected hf,?_,h.single,h.flagged_unfetched hf,?_⟩
  · intro q hq
    rw [List.length_modify]
    exact h.known q hq
  · intro v vm hvm hvmloading
    rcases getElem?_modify_cases hvm with ⟨-,old,-,rfl⟩ | ⟨-,hvm⟩
    · rw [hloading] at hvmloading
      cases hvmloading
    · exact h.loading v vm hvm hvmloading

theorem Tidy.requested (h : Tidy views requests) (hf : Flagging f) (hview : view < views.length)
    (hr : r.isFetch = false) : Tidy (views.modify view f) (requests ++ [(view,r)]) := by
  refine ⟨h.flagged_selected hf,?_,?_,?_,?_⟩
  · intro q hq
    rw [List.length_modify]
    rcases List.mem_append.mp hq with hold | hnew
    · exact h.known q hold
    · rw [List.mem_singleton.mp hnew]
      exact hview
  · intro v
    rw [List.countP_append,List.countP_singleton]
    simpa [DriveRequest.fetches,hr] using h.single v
  · intro q hq hfetch
    rcases List.mem_append.mp hq with hold | hnew
    · exact h.flagged_unfetched hf q hold hfetch
    · rw [List.mem_singleton.mp hnew,hr] at hfetch
      cases hfetch
  · intro v vm hvm hloading
    rcases getElem?_modify_cases hvm with ⟨hv,-,-,-⟩ | ⟨-,hvm⟩
    · exact ⟨(view,r),by simp,hv.symm⟩
    · obtain ⟨q,hq,hqv⟩ := h.loading v vm hvm hloading
      exact ⟨q,List.mem_append_left _ hq,hqv⟩

theorem Tidy.finished (h : Tidy views requests) (hr : requests[index]? = some (view,r))
    (hloading : ∀ vm, (f vm).isLoading = false) (htaps : ∀ vm, (f vm).taps = vm.taps)
    (hselected : ∀ vm, (f vm).selectedIndexes = vm.selectedIndexes)
    (hfiles : r.isFetch = false → ∀ vm, (f vm).files = vm.files) :
    Tidy (views.modify view f) (requests.eraseIdx index) := by
  have hperm := erased_perm hr
  have hmem : (view,r) ∈ requests := List.mem_of_getElem? hr
  have hsub : ∀ q ∈ requests.eraseIdx index, q ∈ requests :=
    fun q hq => hperm.mem_iff.mpr (List.mem_cons_of_mem _ hq)
  have hcount (v : Nat) := hperm.countP_eq (DriveRequest.fetches v)
  simp only [List.countP_cons] at hcount
  refine ⟨selected_modify h.selected fun vm hvm => ?_,?_,?_,?_,?_⟩
  · obtain ⟨hselection,hbound⟩ := h.selected vm (List.mem_of_getElem? hvm)
    rw [GoogleDriveFilesViewModel.Selected,hselected,htaps]
    refine ⟨hselection,fun i hi => ?_⟩
    cases hfetch : r.isFetch with
    | false =>
      rw [hfiles hfetch]
      exact hbound i hi
    | true =>
      have hempty := h.unfetched (view,r) hmem hfetch vm hvm
      have := hbound i hi
      simp [hempty] at this
  · intro q hq
    rw [List.length_modify]
    exact h.known q (hsub q hq)
  · intro v
    have hsingle := h.single v
    have := hcount v
    omega
  · intro q hq hqfetch vm hvm
    rcases getElem?_modify_cases hvm with ⟨hview,old,hold,rfl⟩ | ⟨-,hvm⟩
    · cases hfetch : r.isFetch with
      | false =>
        rw [hfiles hfetch]
        exact h.unfetched q (hsub q hq) hqfetch old (hview ▸ hold)
      | true =>
        have hone : 0 < (requests.eraseIdx index).countP (DriveRequest.fetches view) :=
          List.countP_pos_iff.mpr ⟨q,hq,by simp [DriveRequest.fetches,hview,hqfetch]⟩
        have hself : DriveRequest.fetches view (view,r) = true := by
          simp [DriveRequest.fetches,hfetch]
        have hsingle := h.single view
        have := hcount view
        rw [if_pos hself] at this
        omega
    · exact h.unfetched q (hsub q hq) hqfetch vm hvm
  · intro v vm hvm hvmloading
    rcases getElem?_modify_cases hvm with ⟨-,old,-,rfl⟩ | ⟨hne,hvm⟩
    · rw [hloading] at hvmloading
      cases hvmloading
    · obtain ⟨q,hq,hqv⟩ := h.loading v vm hvm hvmloading
      rcases List.mem_cons.mp (hperm.mem_iff.mp hq) with rfl | hold
      · exact absurd hqv.symm hne
      · exact ⟨q,hold,hqv⟩

theorem Tidy.tapped (h : Tidy views requests) {vm : GoogleDriveFilesViewModel} {i : Nat}
    (hvm : views[view]? = some vm) (hi : i < vm.files.length) :
    Tidy (views.modify view fun vm => vm.onTapFileAtIndex i) requests := by
  refine ⟨selected_modify h.selected fun old hold => ?_,?_,h.single,?_,?_⟩
  · rw [hvm] at hold
    cases hold
    obtain ⟨hselection,hbound⟩ := h.selected vm (List.mem_of_getElem? hvm)
    refine ⟨?_,fun j hj => ?_⟩
    · simp only [GoogleDriveFilesViewModel.onTapFileAtIndex,selection_concat,toggle,hselection,
        List.contains_iff_mem]
    · rcases List.mem_append.mp hj with hold | hnew
      · exact hbound j hold
      · rw [List.mem_singleton.mp hnew]
        exact hi
  · intro q hq
    rw [List.length_modify]
    exact h.known q hq
  · intro q hq hfetch new hnew
    rcases getElem?_modify_cases hnew with ⟨hview,old,hold,rfl⟩ | ⟨-,hnew⟩
    · exact h.unfetched q hq hfetch old (hview ▸ hold)
    · exact h.unfetched q hq hfetch new hnew
  · intro v new hnew hloading
    rcases getElem?_modify_cases hnew with ⟨hview,old,hold,rfl⟩ | ⟨-,hnew⟩
    · exact h.loading v old (hview ▸ hold) hloading
    · exact h.loading v new hnew hloading

theorem Tidy.opened (h : Tidy views requests) (isLoading : Bool) (own : List DriveRequest)
    (hlength : own.length ≤ 1) (hloading : isLoading = true → own ≠ []) :
    Tidy (views ++ [{ isLoading := isLoading }]) (requests ++ own.map (Prod.mk views.length)) := by
  have hviews : ∀ v, ∀ vm ∈ (views ++ [GoogleDriveFilesViewModel.mk [] [] isLoading none []])[v]?,
      vm ∈ views[v]? ∨ v = views.length ∧ vm = { isLoading := isLoading } := by
    intro v vm hvm
    by_cases hv : v < views.length
    · rw [List.getElem?_append_left hv] at hvm
      exact .inl hvm
    · rw [List.getElem?_append_right (Nat.le_of_not_lt hv)] at hvm
      have hlast : v - views.length < 1 := (List.getElem?_eq_some_iff.mp hvm).1
      exact .inr ⟨by omega,List.mem_singleton.mp (List.mem_of_getElem? hvm)⟩
  refine ⟨?_,?_,?_,?_,?_⟩
  · intro vm hvm
    rcases List.mem_append.mp hvm with hvm | hnew
    · exact h.selected vm hvm
    · rw [List.mem_singleton.mp hnew]
      exact ⟨rfl,by simp⟩
  · intro q hq
    rw [List.length_append,List.length_singleton]
    rcases List.mem_append.mp hq with hq | hnew
    · have := h.known q hq
      omega
    · obtain ⟨r,-,rfl⟩ := List.mem_map.mp hnew
      exact Nat.lt_succ_self _
  · intro v
    have hown := (own.map (Prod.mk views.length)).countP_le_length (p := DriveRequest.fetches v)
    rw [List.length_map] at hown
    rw [List.countP_append]
    by_cases hv : v = views.length
    · have hnone : requests.countP (DriveRequest.fetches v) = 0 := by
        rw [List.countP_eq_zero]
        intro q hq
        have := h.known q hq
        simp [DriveRequest.fetches,hv,Nat.ne_of_lt this]
      omega
    · have hother : (own.map (Prod.mk views.length)).countP (DriveRequest.fetches v) = 0 := by
        rw [List.countP_eq_zero]
        intro q hq
        obtain ⟨r,-,rfl⟩ := List.mem_map.mp hq
        simp [DriveRequest.fetches,Ne.symm hv]
      have := h.single v
      omega
  · intro q hq hfetch vm hvm
    rcases hviews q.1 vm hvm with hvm | ⟨-,rfl⟩
    · rcases List.mem_append.mp hq with hq | hnew
      · exact h.unfetched q hq hfetch vm hvm
      · obtain ⟨r,-,rfl⟩ := List.mem_map.mp hnew
        rw [Option.mem_def,List.getElem?_eq_none (Nat.le_refl _)] at hvm
        cases hvm
    · rfl
  · intro v vm hvm hvmloading
    rcases hviews v vm hvm with hvm | ⟨rfl,rfl⟩
    · obtain ⟨q,hq,hqv⟩ := h.loading v vm hvm hvmloading
      exact ⟨q,List.mem_append_left _ hq,hqv⟩
    · obtain ⟨r,hr⟩ := List.exists_mem_of_ne_nil own (hloading hvmloading)
      exact ⟨_,List.mem_append_right _ (List.mem_map_of_mem hr),rfl⟩

theorem modify_concat (vm : GoogleDriveFilesViewModel) :
    (views ++ [vm]).modify views.length f = views ++ [f vm] := by
  induction views with
  | nil => rfl
  | cons first views ih => simpa using ih

end Tidy

theorem mapM_files (files : List GoogleDriveFile) {indexes : List Nat}
    (h : ∀ i ∈ indexes, i < files.length) :
    ∃ items, indexes.mapM (fun i => files[i]?) = some items ∧
      items.head? = indexes.head?.bind fun i => files[i]? := by
  induction indexes with
  | nil => exact ⟨[],rfl,rfl⟩
  | cons i indexes ih =>
    obtain ⟨items,hitems,-⟩ := ih fun j hj => h j (List.mem_cons_of_mem _ hj)
    have hlt := h i List.mem_cons_self
    have hi := List.getElem?_eq_getElem hlt
    refine ⟨files[i] :: items,?_,?_⟩
    · rw [List.mapM_cons,hi,hitems]
      rfl
    · simp [hi]

theorem GoogleDriveFilesViewModel.Selected.bound {vm : GoogleDriveFilesViewModel}
    (h : vm.Selected) : ∀ i ∈ vm.selectedIndexes, i < vm.files.length := by
  intro i hi
  rw [h.1,mem_selection] at hi
  obtain ⟨n,hn⟩ := hi
  exact h.2 i (List.count_pos_iff.mp (by omega))

theorem GoogleDriveFilesViewModel.Selected.items {vm : GoogleDriveFilesViewModel}
    (h : vm.Selected) : ∃ items, vm.selectedItems = some items ∧
      items.head? = vm.selectedIndexes.head?.bind fun i => vm.files[i]? :=
  mapM_files vm.files h.bound

namespace GoogleDrive

/-- The service is there exactly while a user is logged in. -/
structure Safe (d : GoogleDrive) : Prop where
  service : d.isLoggedIn = d.googleAPIs.isSome
  tidy : Tidy d.views d.requests

variable {d : GoogleDrive}

theorem Safe.checkStatus (h : Tidy d.views d.requests) (currentUser : Option String) :
    (d.checkStatus currentUser).Safe := by
  cases currentUser with
  | none => exact ⟨rfl,h⟩
  | some user => exact ⟨rfl,h⟩

theorem tidy_withError (h : Tidy d.views d.requests) (error : Option String) :
    Tidy (d.withError error).views (d.withError error).requests := by
  cases error with
  | none => exact h
  | some error => exact h

theorem Safe.fetchFiles (h : d.Safe) (presenting : Bool) : (d.fetchFiles presenting).Safe := by
  have hrequested (r : DriveRequest) :
      Tidy (d.views ++ [{ isLoading := true }]) (d.requests ++ [(d.views.length,r)]) :=
    h.tidy.opened true [r] (by simp) (by simp)
  simp only [GoogleDrive.fetchFiles,listAllPdfFiles,listFiles]
  cases hservice : d.googleAPIs with
  | some user =>
    have hlogged : d.isLoggedIn = true := by rw [h.service,hservice]; rfl
    exact ⟨hlogged,hrequested (.list none)⟩
  | none =>
    have hlogged : d.isLoggedIn = false := by rw [h.service,hservice]; rfl
    cases presenting with
    | true => exact ⟨hlogged,hrequested (.signIn none)⟩
    | false =>
      have hidle := h.tidy.opened false [] (by simp) (by simp)
      refine ⟨hlogged,?_⟩
      simp only [Option.isSome_none,Bool.false_eq_true,if_false,filesFetched,modifyView]
      rw [modify_concat]
      simpa using hidle

theorem flagging_isLoading (isLoading : Bool) :
    Flagging fun vm => { vm with isLoading := isLoading } :=
  ⟨fun _ => rfl,fun _ => rfl,fun _ => rfl⟩

theorem modify_isLoading (views : List GoogleDriveFilesViewModel) (view : Nat) (b c : Bool) :
    (views.modify view fun vm => { vm with isLoading := b }).modify view
        (fun vm => { vm with isLoading := c }) =
      views.modify view fun vm => { vm with isLoading := c } := by
  refine List.ext_getElem? fun i => ?_
  simp only [List.getElem?_modify]
  cases views[i]? with
  | none => rfl
  | some vm =>
    by_cases hview : view = i
    · simp [hview]
    · simp [hview]

theorem dataLoaded_frame (d : GoogleDrive) (view : Nat) (result : Option (List Data)) :
    ∃ onDone, d.dataLoaded view result =
      { d.modifyView view fun vm => { vm with isLoading := false } with onDone } := by
  unfold dataLoaded
  dsimp only
  split
  · exact ⟨_,rfl⟩
  · exact ⟨_,rfl⟩
  · exact ⟨_,rfl⟩

theorem Safe.loadData (h : d.Safe) {view : Nat} {vm : GoogleDriveFilesViewModel}
    (hvm : d.views[view]? = some vm) : ∃ d', d.loadData view vm = some d' ∧ d'.Safe ∧
      ∀ file, (view,.download file) ∈ d'.requests → (view,.download file) ∈ d.requests ∨
        (vm.selectedIndexes.head?.bind fun i => vm.files[i]?) = some file := by
  have hview : view < d.views.length := (List.getElem?_eq_some_iff.mp hvm).1
  obtain ⟨items,hitems,hfirst⟩ := (h.tidy.selected vm (List.mem_of_getElem? hvm)).items
  have hsettled (result : Option (List Data)) : ∃ d',
      some ((d.modifyView view fun vm => { vm with isLoading := true }).dataLoaded view result) =
        some d' ∧ d'.Safe ∧
      ∀ file, (view,.download file) ∈ d'.requests → (view,.download file) ∈ d.requests ∨
        (vm.selectedIndexes.head?.bind fun i => vm.files[i]?) = some file := by
    obtain ⟨onDone,hframe⟩ := dataLoaded_frame
      (d.modifyView view fun vm => { vm with isLoading := true }) view result
    refine ⟨_,rfl,?_,?_⟩
    · rw [hframe]
      refine ⟨h.service,?_⟩
      simp only [modifyView,modify_isLoading]
      exact h.tidy.settled (flagging_isLoading false) fun _ => rfl
    · rw [hframe]
      exact fun file hmem => .inl hmem
  simp only [GoogleDrive.loadData,hitems]
  split
  · exact hsettled none
  · split
    · exact hsettled (some [])
    · rename_i firstItem rest
      split
      · refine ⟨_,rfl,⟨h.service,h.tidy.requested (flagging_isLoading true) hview rfl⟩,?_⟩
        intro file hmem
        rcases List.mem_append.mp hmem with hold | hnew
        · exact .inl hold
        · cases List.mem_singleton.mp hnew
          exact .inr hfirst.symm
      · exact hsettled none

theorem Safe.listFiles (h : d.Safe) {index view : Nat} {token : Option String}
    (hr : d.requests[index]? = some (view,.signedIn token)) :
    ({ d with requests := d.requests.eraseIdx index }.listFiles view token).Safe := by
  unfold GoogleDrive.listFiles
  dsimp only
  split
  · exact ⟨h.service,h.tidy.replaced hr rfl⟩
  · exact ⟨h.service,h.tidy.finished hr (fun _ => rfl) (fun _ => rfl) (fun _ => rfl)
      (fun hfetch => by cases hfetch)⟩

theorem safe_step (h : d.Safe) (e : DriveEvent) : ∃ d', d.step e = some d' ∧ d'.Safe := by
  cases e with
  | check currentUser error => exact ⟨_,rfl,.checkStatus (tidy_withError h.tidy error) _⟩
  | restoreSignIn user error currentUser =>
    simp only [step]
    split
    · exact ⟨d,rfl,h⟩
    · exact ⟨_,rfl,.checkStatus h.tidy _⟩
  | signOut currentUser => exact ⟨_,rfl,.checkStatus h.tidy _⟩
  | openFiles presenting => exact ⟨_,rfl,h.fetchFiles presenting⟩
  | signIn index error currentUser =>
    simp only [step]
    split
    · rename_i view token hr
      have hstatus (d' : GoogleDrive) (hviews : d'.views = d.views)
          (hrequests : d'.requests = d.requests.eraseIdx index) :
          ((d'.checkStatus currentUser).request view (.signedIn token)).Safe := by
        have htidy : Tidy d.views (d.requests.eraseIdx index ++ [(view,.signedIn token)]) :=
          h.tidy.replaced hr rfl
        cases currentUser with
        | none =>
          exact ⟨rfl,by simpa [request,GoogleDrive.checkStatus,hviews,hrequests] using htidy⟩
        | some user =>
          exact ⟨rfl,by simpa [request,GoogleDrive.checkStatus,hviews,hrequests] using htidy⟩
      refine ⟨_,rfl,hstatus _ ?_ ?_⟩
      · cases error <;> rfl
      · cases error <;> rfl
    · exact ⟨d,rfl,h⟩
  | main index =>
    simp only [step]
    split
    · rename_i view token hr
      exact ⟨_,rfl,h.listFiles hr⟩
    · exact ⟨d,rfl,h⟩
  | list index results =>
    simp only [step]
    split
    · rename_i view token hr
      refine ⟨_,rfl,h.service,h.tidy.finished hr ?_ ?_ ?_ (fun hfetch => by cases hfetch)⟩
      · intro vm
        cases results <;> rfl
      · intro vm
        cases results <;> rfl
      · intro vm
        cases results <;> rfl
    · exact ⟨d,rfl,h⟩
  | onTapFileAtIndex view index =>
    simp only [step]
    split
    · rename_i vm hvm
      split
      · rename_i hlt
        exact ⟨_,rfl,h.service,h.tidy.tapped hvm hlt⟩
      · exact ⟨d,rfl,h⟩
    · exact ⟨d,rfl,h⟩
  | onTabbarButtonAction view =>
    simp only [step,GoogleDrive.onTabbarButtonAction]
    split
    · exact ⟨d,rfl,h⟩
    · rename_i vm hvm
      split
      · exact ⟨d,rfl,h⟩
      · obtain ⟨d',hload,hsafe,-⟩ := h.loadData hvm
        exact ⟨d',hload,hsafe⟩
  | download index data =>
    simp only [step]
    split
    · rename_i view file hr
      obtain ⟨onDone,hframe⟩ := dataLoaded_frame
        { d with requests := d.requests.eraseIdx index } view (data.map fun data => [data])
      refine ⟨_,rfl,?_⟩
      rw [hframe]
      exact ⟨h.service,h.tidy.finished hr (fun _ => rfl) (fun _ => rfl) (fun _ => rfl)
        fun _ _ => rfl⟩
    · exact ⟨d,rfl,h⟩

theorem safe_run (h : d.Safe) (es : List DriveEvent) :
    ∃ d', es.foldlM step d = some d' ∧ d'.Safe := by
  induction es generalizing d with
  | nil => exact ⟨d,rfl,h⟩
  | cons e es ih =>
    obtain ⟨next,hstep,hnext⟩ := safe_step h e
    obtain ⟨d',hrun,hsafe⟩ := ih hnext
    refine ⟨d',?_,hsafe⟩
    rw [List.foldlM_cons,hstep]
    exact hrun

theorem safe_init : ({} : GoogleDrive).Safe :=
  ⟨rfl,by simp,by simp,fun _ => Nat.zero_le 1,by simp,by simp⟩

end GoogleDrive

end GenieD

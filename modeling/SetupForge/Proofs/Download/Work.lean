import SetupForge.Proofs.Download.Kept
import SetupForge.Proofs.Host.Works
import SetupForge.Proofs.Results

/-! # What a download does

Whatever servers answer, a request fails in four ways only, and it leaves the disk alone. A download
writes to its target and to its partial file.
-/

namespace SetupForge

open Job

namespace Failure

/-- Whether a failure comes from an address, or from what a server says of an answer. -/
def isOfRequest : Failure → Bool
  | .unreadableAddress => true
  | .unencodable => true
  | .contradictoryLength => true
  | .notUtf8 => true
  | _ => false

end Failure

namespace Download

variable {failure : Failure} {web : List (String × Reply)} {request : Request}

/-! ## Requests -/

theorem isOfRequest_of_target (h : request.target = .error failure) :
    failure.isOfRequest = true := by
  unfold Request.target at h
  split at h
  · cases h
  · cases h
    rfl

theorem isOfRequest_of_first {address : List Char} (h : Request.first address = .error failure) :
    failure.isOfRequest = true := by
  unfold Request.first at h
  rcases error_of_bind h with htarget | ⟨target, -, hlogin⟩
  · exact isOfRequest_of_target htarget
  · split at hlogin
    · cases hlogin
    · split at hlogin
      · cases hlogin
      · cases hlogin
        rfl

theorem isOfRequest_of_next {location : List Char}
    (h : request.next location = .error failure) : failure.isOfRequest = true := by
  unfold Request.next at h
  split at h
  · cases h
    rfl
  · rcases error_of_bind h with hold | ⟨old, -, h⟩
    · exact isOfRequest_of_target hold
    · rcases error_of_bind h with hnew | ⟨new, -, h⟩
      · exact isOfRequest_of_target hnew
      · split at h
        · split at h
          · cases h
          · cases h
            rfl
        · cases h

theorem isOfRequest_of_sentText {text : List Char}
    (h : Response.sentText text = .error failure) : failure.isOfRequest = true := by
  unfold Response.sentText at h
  split at h
  · split at h
    · cases h
    · cases h
      rfl
  · cases h
    rfl

theorem isOfRequest_of_location {response : Response}
    (h : response.location? = .error failure) : failure.isOfRequest = true := by
  unfold Response.location? at h
  split at h
  · split at h
    · cases h
    · rcases error_of_bind h with hsent | ⟨location, -, h⟩
      · exact isOfRequest_of_sentText hsent
      · cases h
  · cases h

theorem isOfRequest_of_following {response : Response}
    (h : request.following? response = .error failure) : failure.isOfRequest = true := by
  unfold Request.following? at h
  dsimp only at h
  split at h
  · cases h
    rfl
  · rcases error_of_bind h with hlocation | ⟨location?, -, h⟩
    · exact isOfRequest_of_location hlocation
    · split at h
      · cases h
      · rcases error_of_bind h with hnext | ⟨next, -, h⟩
        · exact isOfRequest_of_next hnext
        · cases h

theorem isOfRequest_of_turn (h : turn web request = .ends (.error failure)) :
    failure.isOfRequest = true := by
  unfold turn at h
  split at h
  · cases h
  · split at h
    · rename_i hfollowing
      cases h
      exact isOfRequest_of_following hfollowing
    · cases h
    · cases h

theorem isOfRequest_of_fetchFuel {fuel : Nat}
    (h : (fetchFuel web fuel request).1 = .error failure) : failure.isOfRequest = true := by
  induction fuel generalizing request with
  | zero =>
      rw [fetchFuel] at h
      cases hturn : turn web request with
      | ends result =>
          simp only [hturn] at h
          exact isOfRequest_of_turn (h ▸ hturn)
      | redirects next => simp [hturn] at h
  | succ fuel ih =>
      rw [fetchFuel] at h
      cases hturn : turn web request with
      | ends result =>
          simp only [hturn] at h
          exact isOfRequest_of_turn (h ▸ hturn)
      | redirects next =>
          simp only [hturn] at h
          exact ih h

/-! ## Downloads -/

variable {limits : Limits} {name : String}

def FailsAsRequest (limits : Limits) : Prop :=
  ∀ failure : Failure, failure.isOfRequest = true → limits.fails failure

theorem works_fetch (h : FailsAsRequest limits) (url : String) :
    Works limits (fetch url) fun _ => True := by
  unfold fetch
  split
  · exact works_pure _ trivial
  · refine (works_lift (fun _ _ => trivial) fun failure hfirst =>
      h failure (isOfRequest_of_first hfirst)).bind fun request _ => ?_
    intro host events hallows
    rw [on_bind, on_get]
    dsimp only
    rw [on_bind, on_set]
    dsimp only
    cases hresult : (fetchFuel host.web maxRedirections request).1 with
    | error failure =>
        refine ⟨⟨events, hallows.congr rfl rfl rfl rfl rfl⟩, fun _ _ => trivial, ?_⟩
        intro other hother
        rw [on_fail, Except.error.injEq] at hother
        exact hother ▸ h failure (isOfRequest_of_fetchFuel hresult)
    | ok result =>
        exact ⟨⟨events, hallows.congr rfl rfl rfl rfl rfl⟩, fun _ _ => trivial, by simp⟩

theorem works_file (h : FailsAsRequest limits) (hname : Path.IsFileName name) {folder : Path}
    (htarget : limits.touched ((folder.child name).location limits.origin.folder))
    (hpart : limits.touched
      ((folder.child (name ++ partialSuffix)).location limits.origin.folder))
    (url : String) (expected : Option String) :
    Works limits (file url folder (some name) expected) fun saved =>
      saved.path = folder.child name := by
  have hgiven := filter_given hname.ne_empty
  unfold file
  refine (works_makeFolder folder).bind fun _ _ => (works_note _).bind fun _ _ =>
    (works_fetch h url).bind fun result _ => ?_
  cases result with
  | error reason => exact works_fail_ordinary _ (by simp)
  | ok response =>
      refine (works_note _).bind fun _ _ => ?_
      have hfound : (folder.child name).fileName.isEmpty = false := by
        simp [hname.ne_empty]
      -- a name of its own is given, so that no name of the answer is used
      simp only [hgiven, pure_bind, hname.join, hfound, Bool.false_eq_true, if_false,
        partialPath_child]
      refine (works_note _).bind fun _ _ => (works_store hpart []).bind fun _ _ => ?_
      split
      · exact (works_store hpart _).bind fun _ _ =>
          (works_unlink hpart).bind fun _ _ => works_fail_ordinary _ (by simp)
      · refine (works_store hpart _).bind fun _ _ =>
          (works_rename hpart htarget).bind fun _ _ => ?_
        split
        · exact (works_unlink htarget).bind fun _ _ => works_fail_ordinary _ (by simp)
        · exact works_get.bind fun _ _ => (works_note _).bind fun _ _ => works_pure _ rfl

theorem works_installer {runtime : RuntimeSettings} {major : Int}
    (h : FailsAsRequest limits) (hdigits : limits.fails .tooManyDigits)
    (hknown : ∀ known, runtime.installer? major = some known →
      Path.IsFileName known.fileName ∧
        limits.touched
          ((runtime.resourceFolder.child known.fileName).location limits.origin.folder) ∧
        limits.touched
          ((runtime.resourceFolder.child (known.fileName ++ partialSuffix)).location
            limits.origin.folder)) :
    Works limits (installer runtime major) fun path =>
      ∃ known, runtime.installer? major = some known ∧
        path = runtime.resourceFolder.child known.fileName := by
  unfold installer
  cases hfound : runtime.installer? major with
  | none => exact (works_requireText hdigits major).bind fun _ _ => works_reject _
  | some known =>
      obtain ⟨hname, htarget, hpart⟩ := hknown known hfound
      dsimp only
      rw [hname.join]
      refine (works_hasPath _).bind fun kept _ => ?_
      split
      · exact (works_note _).bind fun _ _ => works_pure _ ⟨known, rfl, rfl⟩
      · refine (works_note _).bind fun _ _ => ?_
        refine (works_file h hname htarget hpart _ none).bind fun saved hsaved => ?_
        exact works_pure _ ⟨known, rfl, hsaved⟩

end Download

end SetupForge

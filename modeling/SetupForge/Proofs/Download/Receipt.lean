import SetupForge.Download.File
import SetupForge.Proofs.Disk.Contents
import SetupForge.Proofs.Download.Work

/-! # What a download comes to

What servers answer depends on the address alone, and asking changes no file. A download that gets
a response ends in one of five ways: nothing is written; the body breaks off and the partial file
is gone; the partial file stays because it cannot take the name of its target; the target has it
and is removed for its digest; or the target has it. The partial file and the target are the only
files that change.
-/

namespace SetupForge

open Job

namespace Failure

def isOfNetwork : Failure → Bool
  | .network _ => true
  | _ => false

end Failure

namespace Download

/-! ## What servers answer -/

def answerOf (web : List (String × Reply)) (url : String) :
    Except Failure (Except String Response) :=
  match Address.normal url with
  | .error fault => .ok (.error fault.message)
  | .ok address =>
      match Request.first address with
      | .error failure => .error failure
      | .ok request => (fetchFuel web maxRedirections request).1.map checked

def askedFor (web : List (String × Reply)) (url : String) : List String :=
  match Address.normal url with
  | .error _ => []
  | .ok address =>
      match Request.first address with
      | .error _ => []
      | .ok request => (fetchFuel web maxRedirections request).2.map String.ofList

theorem on_fetch (url : String) (host : Host) :
    (fetch url).on host =
      (answerOf host.web url,
        { host with requested := host.requested ++ askedFor host.web url }) := by
  unfold fetch answerOf askedFor
  cases Address.normal url with
  | error fault =>
      dsimp only
      rw [on_pure, List.append_nil]
  | ok address =>
      dsimp only
      rw [on_bind, on_lift]
      cases Request.first address with
      | error failure =>
          dsimp only
          rw [List.append_nil]
      | ok request =>
          dsimp only
          rw [on_bind, on_get]
          dsimp only
          rw [on_bind, on_set]
          dsimp only
          cases (fetchFuel host.web maxRedirections request).1 with
          | error failure =>
              dsimp only
              rw [on_fail]
              rfl
          | ok result =>
              dsimp only
              rw [on_pure]
              rfl

theorem isOfNetwork_of_answerOf {web : List (String × Reply)} {url : String} {failure : Failure}
    (h : answerOf web url = .error failure) : failure.isOfNetwork = false := by
  have hrequest : failure.isOfRequest = true := by
    unfold answerOf at h
    split at h
    · cases h
    · split at h
      · rename_i hfirst
        cases h
        exact isOfRequest_of_first hfirst
      · rename_i request _
        cases hresult : (fetchFuel web maxRedirections request).1 with
        | error other =>
            rw [hresult] at h
            cases h
            exact isOfRequest_of_fetchFuel hresult
        | ok result =>
            rw [hresult] at h
            cases h
  cases failure <;> first | rfl | cases hrequest

theorem statusError?_of_answerOf {web : List (String × Reply)} {url : String} {response : Response}
    (h : answerOf web url = .ok (.ok response)) : response.statusError? = none := by
  unfold answerOf at h
  split at h
  · cases h
  · split at h
    · cases h
    · rename_i request _
      cases hresult : (fetchFuel web maxRedirections request).1 with
      | error failure =>
          rw [hresult] at h
          cases h
      | ok result =>
          rw [hresult] at h
          exact statusError?_eq_none_of_checked (Except.ok.inj h)

/-! ## Stages -/

/-- The name of a download: the given one unless it is empty, or else one of the response. -/
def nameFor (given : Option String) (response : Response) : Except Failure String :=
  match given.filter fun name => !name.isEmpty with
  | some name => .ok name
  | none => nameOf response

/-- Fills the partial file of a target, gives it the name of the target, and checks it. -/
def finish (expected : Option String) (target : Path) (body : Bytes) : Job SavedFile := do
  Job.store (partialPath target) body
  Job.rename (partialPath target) target
  match expected.filter (isOther (Sha256.hex body)) with
  | some expected => do
      Job.unlink target
      Job.fail (.network (.wrongDigest target.fileName (Sha256.hex body) expected))
  | none => do
      let seconds := tenthsText (← get).downloadTenths
      Job.note
        (.verbose "FILE" s!"Download complete: {target} ({Sha256.hex body}) in {seconds}s")
      pure ⟨target, Sha256.hex body⟩

def receive (url : String) (response : Response) (expected : Option String) (target : Path) :
    Job SavedFile := do
  if target.fileName.isEmpty then Job.fail .emptyFileName
  else do
    Job.note (.debug "FILE" s!"Downloading to: {partialPath target}")
    Job.store (partialPath target) []
    match response.decoded with
    | .error reason => do
        Job.store (partialPath target) response.received
        Job.unlink (partialPath target)
        Job.fail (.network (.interrupted url reason))
    | .ok body => finish expected target body

theorem file_eq (url : String) (folder : Path) (given expected : Option String) :
    file url folder given expected = (do
      Job.makeFolder folder
      Job.note (.verbose "HTTP" s!"GET {url}")
      match ← fetch url with
      | .error reason => Job.fail (.network (.failed url reason))
      | .ok response => do
          Job.note (.verbose "HTTP" s!"Response: {response.status} {response.reasonText}")
          let name ← (nameFor given response : Except Failure String)
          receive url response expected (folder.join (Path.ofString name))) := by
  unfold file nameFor
  refine congrArg _ (funext fun _ => congrArg _ (funext fun _ => congrArg _ ?_))
  funext result
  cases result with
  | error reason => rfl
  | ok response =>
      dsimp only
      refine congrArg _ (funext fun _ => ?_)
      cases given.filter fun name => !name.isEmpty <;> rfl

theorem isOfNetwork_of_nameFor {given : Option String} {response : Response} {failure : Failure}
    (h : nameFor given response = .error failure) : failure.isOfNetwork = false := by
  unfold nameFor nameOf nameOfAddress at h
  split at h
  · cases h
  · split at h
    · cases h
    · split at h
      · cases h
      · cases h
        rfl

/-! ## Partial files -/

theorem location_partialPath (target : Path) (place : Location) :
    (partialPath target).location place =
      target.parent.location place ++ [target.fileName ++ partialSuffix] := by
  rw [partialPath, Path.location_child, Disk.enter, if_neg (append_partialSuffix_ne _)]

theorem append_partialSuffix_ne_self (name : String) : name ++ partialSuffix ≠ name := by
  intro h
  have hlength := congrArg String.length h
  rw [String.length_append] at hlength
  have hsuffix : partialSuffix.length = 5 := by decide
  omega

theorem location_partialPath_ne (target : Path) (place : Location) :
    (partialPath target).location place ≠ target.location place := by
  rw [location_partialPath]
  obtain ⟨root, names⟩ := target
  intro h
  rcases List.eq_nil_or_concat names with rfl | ⟨above, name, rfl⟩
  · -- a path without names leads where its parent leads
    have hlength := congrArg List.length h
    simp [Path.parent] at hlength
  · have htarget : (⟨root, above.concat name⟩ : Path) = Path.child ⟨root, above⟩ name := by
      rw [Path.child, List.concat_eq_append]
    rw [htarget, Path.parent_child, Path.fileName_child, Path.location_child, Disk.enter] at h
    split at h
    · have hlength := congrArg List.length h
      rw [List.length_append, List.length_dropLast, List.length_singleton] at hlength
      omega
    · exact append_partialSuffix_ne_self name (by simpa using h)

/-! ## How a download ends -/

/-- Whether a file can be written at a path. -/
structure Opens (disk : Disk) (folder : Location) (path : Path) : Prop where
  usable : path.isUsable = true
  locate : disk.locate folder path = .ok (path.location folder)
  free : disk.node? (path.location folder) ≠ some .folder
  room : disk.node? (path.location folder).dropLast = some .folder

theorem opens_of_write {disk after : Disk} {folder : Location} {path : Path} {content : Bytes}
    (husable : path.isUsable = true) (hwrite : disk.write folder path content = .ok after) :
    Opens disk folder path := by
  unfold Disk.write at hwrite
  split at hwrite
  · cases hwrite
  · rename_i place hwritable
    obtain ⟨hlocate, hfree, hroom⟩ := Disk.writable_spec hwritable
    have hplace := Disk.eq_location_of_locate hlocate
    subst hplace
    exact ⟨husable, hlocate, hfree, hroom⟩

/-- A file that was made can be filled, which is as if it had been made with what is put in. -/
theorem exists_refilled {disk opened : Disk} {folder : Location} {path : Path} {first : Bytes}
    (htree : disk.IsTree) (hopened : disk.write folder path first = .ok opened)
    (content : Bytes) :
    ∃ filled, opened.write folder path content = .ok filled ∧ filled.IsTree ∧
      filled.read folder path = .ok content ∧
      filled.content? = Function.update disk.content? (path.location folder) (some content) ∧
      disk.SameFolders filled := by
  have hopenedTree : opened.IsTree := Disk.isTree_of_write htree hopened
  obtain ⟨filled, hfilled⟩ :=
    Disk.exists_write_of_read hopenedTree (Disk.read_write hopened htree) content
  obtain ⟨hcontents, hfolders⟩ := Disk.write_spec hfilled
  rw [(Disk.write_spec hopened).1, Function.update_idem] at hcontents
  exact ⟨filled, hfilled, Disk.isTree_of_write hopenedTree hfilled,
    Disk.read_write hfilled hopenedTree, hcontents, (Disk.write_spec hopened).2.trans hfolders⟩

/-- What a download of a response to a target comes to: how it ends, and the disk that it
leaves. -/
inductive Receipt (url : String) (response : Response) (expected : Option String) (target : Path)
    (folder : Location) (disk : Disk) : Except Failure SavedFile → Disk → Prop
  | refused {failure : Failure} (hfailure : failure.isOfNetwork = false) :
      Receipt url response expected target folder disk (.error failure) disk
  | interrupted {reason : String} {after : Disk} (hbody : response.decoded = .error reason)
      (hopens : Opens disk folder (partialPath target))
      (hcontents : after.content? =
        Function.update disk.content? ((partialPath target).location folder) none)
      (hfolders : disk.SameFolders after) :
      Receipt url response expected target folder disk
        (.error (.network (.interrupted url reason))) after
  /-- The partial file cannot take the name of its target. -/
  | stuck {failure : Failure} {body : Bytes} {after : Disk}
      (hfailure : failure.isOfNetwork = false) (hbody : response.decoded = .ok body)
      (hopens : Opens disk folder (partialPath target))
      (hcontents : after.content? =
        Function.update disk.content? ((partialPath target).location folder) (some body))
      (hfolders : disk.SameFolders after)
      (hread : after.read folder (partialPath target) = .ok body)
      (hstuck : target.isUsable = true →
        ∃ fault, after.rename folder (partialPath target) target = .error fault) :
      Receipt url response expected target folder disk (.error failure) after
  | wrong {body : Bytes} {wanted : String} {after : Disk} (hbody : response.decoded = .ok body)
      (hopens : Opens disk folder (partialPath target))
      (hwanted : expected.filter (isOther (Sha256.hex body)) = some wanted)
      (hfree : disk.node? (target.location folder) ≠ some .folder)
      (hcontents : after.content? =
        Function.update (Function.update disk.content? ((partialPath target).location folder) none)
          (target.location folder) none)
      (hfolders : disk.SameFolders after) :
      Receipt url response expected target folder disk
        (.error (.network (.wrongDigest target.fileName (Sha256.hex body) wanted))) after
  | saved {body : Bytes} {after : Disk} (hbody : response.decoded = .ok body)
      (hopens : Opens disk folder (partialPath target))
      (hwanted : expected.filter (isOther (Sha256.hex body)) = none)
      (hfree : disk.node? (target.location folder) ≠ some .folder)
      (hlocate : disk.locate folder target = .ok (target.location folder))
      (hcontents : after.content? =
        Function.update (Function.update disk.content? ((partialPath target).location folder) none)
          (target.location folder) (some body))
      (hfolders : disk.SameFolders after) :
      Receipt url response expected target folder disk (.ok ⟨target, Sha256.hex body⟩) after

variable {host : Host}

section Stages

variable {url : String} {response : Response} {expected : Option String} {target : Path}

/-- With the partial file opened and the body at hand, the download ends in one of these ways. -/
theorem receipt_finish {folder : Location} {disk : Disk} {body : Bytes} (htree : disk.IsTree)
    (husable : (partialPath target).isUsable = true) (hplace : host.folder = folder)
    (hopened : disk.write folder (partialPath target) [] = .ok host.disk)
    (hbody : response.decoded = .ok body) :
    Receipt url response expected target folder disk
      ((finish expected target body).on host).1 ((finish expected target body).on host).2.disk := by
  subst hplace
  have hopens := opens_of_write husable hopened
  obtain ⟨filled, hfilled, hfilledTree, hread, hcontents, hsame⟩ :=
    exists_refilled htree hopened body
  unfold finish
  rw [on_bind, on_store_eq, if_pos husable, hfilled]
  dsimp only
  rw [on_bind, on_rename_eq husable]
  by_cases htarget : target.isUsable = true
  swap
  · rw [if_neg htarget]
    exact .stuck rfl hbody hopens hcontents hsame hread fun h => absurd h htarget
  rw [if_pos htarget]
  cases hrename : filled.rename host.folder (partialPath target) target with
  | error fault =>
      simp only [Host.withDisk, hrename]
      exact .stuck rfl hbody hopens hcontents hsame hread fun _ => ⟨fault, hrename⟩
  | ok moved =>
      obtain ⟨hmoved, hstay, hfree, hlocate⟩ := Disk.rename_spec hfilledTree hread hrename
      rw [hcontents, Function.update_idem] at hmoved
      have hmovedTree := Disk.isTree_of_rename hfilledTree hrename
      have hvacant : disk.node? (target.location host.folder) ≠ some .folder := fun hnode =>
        hfree ((hsame _).2 hnode)
      simp only [Host.withDisk, hrename]
      cases hwanted : expected.filter (isOther (Sha256.hex body)) with
      | none =>
          refine .saved hbody hopens hwanted hvacant ?_ hmoved (hsame.trans hstay)
          exact Disk.locate_of_folders (fun hnode => (hsame _).1 hnode) hlocate
      | some wanted =>
          -- the target has the body by now, so that it is removed for sure
          have hthere : moved.read host.folder target = .ok body := by
            refine Disk.read_of_locate
              (Disk.locate_of_folders (fun hnode => (hstay _).2 hnode) hlocate) ?_
            rw [← Disk.content?_eq_some_iff, hmoved, Function.update_self]
          obtain ⟨cleared, hcleared⟩ := Disk.exists_unlink_of_read hthere
          obtain ⟨hlost, hleft⟩ := Disk.unlink_spec hmovedTree hcleared
          rw [hmoved, Function.update_idem] at hlost
          dsimp only
          rw [on_bind, on_unlink_of_ok htarget hcleared]
          exact .wrong hbody hopens hwanted hvacant hlost ((hsame.trans hstay).trans hleft)

/-- A download that got a response ends in one of these ways. -/
theorem receipt_receive {folder : Location} {disk : Disk} (htree : disk.IsTree)
    (hplace : host.folder = folder) (hdisk : host.disk = disk) :
    Receipt url response expected target folder disk
      ((receive url response expected target).on host).1
      ((receive url response expected target).on host).2.disk := by
  subst hplace hdisk
  unfold receive
  split
  · exact .refused rfl
  rw [on_bind, on_note]
  dsimp only
  rw [on_bind, on_store_eq]
  by_cases husable : (partialPath target).isUsable = true
  swap
  · rw [if_neg husable]
    exact .refused rfl
  rw [if_pos husable]
  cases hopened : host.disk.write host.folder (partialPath target) [] with
  | error fault => exact .refused rfl
  | ok opened =>
      dsimp only
      cases hbody : response.decoded with
      | ok body => exact receipt_finish htree husable rfl hopened hbody
      | error reason =>
          obtain ⟨filled, hfilled, hfilledTree, hread, hcontents, hsame⟩ :=
            exists_refilled htree hopened response.received
          obtain ⟨cleared, hcleared⟩ := Disk.exists_unlink_of_read hread
          obtain ⟨hlost, hleft⟩ := Disk.unlink_spec hfilledTree hcleared
          rw [hcontents, Function.update_idem] at hlost
          dsimp only
          rw [on_bind, on_store_eq, if_pos husable]
          simp only [Host.withDisk, hfilled]
          rw [on_bind, on_unlink_of_ok husable hcleared]
          exact .interrupted hbody (opens_of_write husable hopened) hlost (hsame.trans hleft)

end Stages

/-- What a download into a folder comes to: how it ends, and the disk that it leaves. -/
inductive Course (web : List (String × Reply)) (url : String) (folder : Path)
    (given expected : Option String) (place : Location) (disk : Disk) :
    Except Failure SavedFile → Disk → Prop
  | refused {failure : Failure} {after : Disk} (hfailure : failure.isOfNetwork = false)
      (hafter : after = disk ∨ after = (disk.makeFolder place folder).1) :
      Course web url folder given expected place disk (.error failure) after
  | failed {reason : String} (hanswer : answerOf web url = .ok (.error reason)) :
      Course web url folder given expected place disk (.error (.network (.failed url reason)))
        (disk.makeFolder place folder).1
  | received {response : Response} {name : String} {result : Except Failure SavedFile}
      {after : Disk} (husable : folder.isUsable = true)
      (hmade : (disk.makeFolder place folder).2 = none)
      (hanswer : answerOf web url = .ok (.ok response)) (hname : nameFor given response = .ok name)
      (hreceipt : Receipt url response expected (folder.join (Path.ofString name)) place
        (disk.makeFolder place folder).1 result after) :
      Course web url folder given expected place disk result after

/-- A download takes one of these courses. -/
theorem course_file (htree : host.disk.IsTree)
    (hfolder : host.disk.node? host.folder = some .folder) (url : String) (folder : Path)
    (given expected : Option String) :
    Course host.web url folder given expected host.folder host.disk
      ((file url folder given expected).on host).1
      ((file url folder given expected).on host).2.disk := by
  have hmadeTree := Disk.isTree_makeFolder htree hfolder folder
  rw [file_eq, on_bind, Job.makeFolder, usable]
  by_cases husable : folder.isUsable = true
  swap
  · rw [if_neg husable]
    exact .refused rfl (Or.inl rfl)
  rw [if_pos husable, pure_bind, on_bind, on_get]
  dsimp only
  rw [on_bind, on_set]
  dsimp only
  cases hmade : (host.disk.makeFolder host.folder folder).2 with
  | some fault => exact .refused rfl (Or.inr rfl)
  | none =>
      dsimp only
      rw [on_pure]
      dsimp only
      rw [on_bind, on_note]
      dsimp only
      rw [on_bind, on_fetch]
      simp only [Host.withDisk]
      cases hanswer : answerOf host.web url with
      | error failure => exact .refused (isOfNetwork_of_answerOf hanswer) (Or.inr rfl)
      | ok result =>
          cases result with
          | error reason => exact .failed hanswer
          | ok response =>
              dsimp only
              rw [on_bind, on_note]
              dsimp only
              rw [on_bind, on_lift]
              cases hname : nameFor given response with
              | error failure => exact .refused (isOfNetwork_of_nameFor hname) (Or.inr rfl)
              | ok name =>
                  refine .received husable hmade hanswer hname ?_
                  exact receipt_receive hmadeTree rfl rfl

end Download

end SetupForge

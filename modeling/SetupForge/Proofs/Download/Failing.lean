import SetupForge.Proofs.Download.Receipt

/-! # What a failed download leaves

A download that fails with a fault of its own makes no file, and the files that were there stay as
they are, with two exceptions. A partial file of the same name goes. A body with another digest than
the expected one has taken the place of the target by the time that it is found out, so that the
target goes with it.
-/

namespace SetupForge

namespace NetworkFault

/-- Whether a body was received that is not the expected one. -/
def isOfContent : NetworkFault → Bool
  | .wrongDigest .. => true
  | _ => false

end NetworkFault

namespace Disk

/-- Whether the files stay as they are, except that some of them may be gone. -/
def Loses (gone : Location → Prop) (before after : Disk) : Prop :=
  ∀ location, after.content? location = before.content? location ∨
    after.content? location = none ∧ gone location

variable {gone more : Location → Prop} {before after : Disk} {location : Location}

theorem loses_of_content?_eq (h : after.content? = before.content?) : Loses gone before after :=
  fun location => Or.inl (congrFun h location)

theorem Loses.mono (h : Loses gone before after)
    (hmore : ∀ location, gone location → more location) : Loses more before after := fun location =>
  (h location).imp_right (And.imp_right (hmore location))

theorem loses_of_update (h : after.content? = Function.update before.content? location none)
    (hgone : gone location) : Loses gone before after := by
  intro other
  by_cases hsame : other = location
  · rw [h, hsame, Function.update_self]
    exact Or.inr ⟨rfl, hgone⟩
  · rw [h, Function.update_of_ne hsame]
    exact Or.inl rfl

end Disk

namespace Download

def target? (web : List (String × Reply)) (url : String) (folder : Path) (given : Option String) :
    Option Path :=
  match answerOf web url with
  | .ok (.ok response) =>
      match nameFor given response with
      | .ok name => some (folder.join (Path.ofString name))
      | .error _ => none
  | _ => none

theorem target?_of_answerOf {web : List (String × Reply)} {url : String} {given : Option String}
    {response : Response} {name : String} (folder : Path)
    (hanswer : answerOf web url = .ok (.ok response)) (hname : nameFor given response = .ok name) :
    target? web url folder given = some (folder.join (Path.ofString name)) := by
  rw [target?, hanswer]
  dsimp only
  rw [hname]

/-! ## Failures -/

section Failures

variable {host after : Host} {url : String} {folder : Path} {given expected : Option String}
variable {fault : NetworkFault}

def IsPartial (host : Host) (url : String) (folder : Path) (given : Option String)
    (location : Location) : Prop :=
  ∃ target, target? host.web url folder given = some target ∧
    location = (partialPath target).location host.folder

def IsTargetOf (host : Host) (url : String) (folder : Path) (given : Option String)
    (location : Location) : Prop :=
  ∃ target, target? host.web url folder given = some target ∧
    location = target.location host.folder

/-- A download that fails of itself leaves all files but its partial file, or finds out about the
digest when the target is gone. -/
theorem loses_or_wrong (htree : host.disk.IsTree)
    (hfolder : host.disk.node? host.folder = some .folder)
    (hrun : (file url folder given expected).on host = (.error (.network fault), after)) :
    (fault.isOfContent = false ∧ host.disk.Loses (IsPartial host url folder given) after.disk) ∨
      (fault.isOfContent = true ∧ ∃ target, target? host.web url folder given = some target ∧
        after.disk.content? = Function.update
          (Function.update host.disk.content? ((partialPath target).location host.folder) none)
          (target.location host.folder) none) := by
  have hcourse := course_file htree hfolder url folder given expected
  have hmade := Disk.content?_makeFolder host.disk host.folder folder
  rw [hrun] at hcourse
  dsimp only at hcourse
  generalize after.disk = left at hcourse ⊢
  cases hcourse with
  | refused hfailure hafter => cases hfailure
  | failed hanswer => exact Or.inl ⟨rfl, Disk.loses_of_content?_eq hmade⟩
  | received husable hcomplete hanswer hname hreceipt =>
      have htarget := target?_of_answerOf folder hanswer hname
      cases hreceipt with
      | refused hfailure => cases hfailure
      | stuck hfailure => cases hfailure
      | interrupted hbody hopens hcontents =>
          rw [hmade] at hcontents
          exact Or.inl ⟨rfl, Disk.loses_of_update hcontents ⟨_, htarget, rfl⟩⟩
      | wrong hbody hopens hwanted hfree hcontents =>
          rw [hmade] at hcontents
          exact Or.inr ⟨rfl, _, htarget, hcontents⟩

/-- After a download that fails of itself all files are as they were, but for its partial file and,
if the body is not the expected one, its target. So no file is lost with the partial file exactly if
the body is not what is wrong, or no file stood at the target. -/
theorem files_after_failing (htree : host.disk.IsTree)
    (hfolder : host.disk.node? host.folder = some .folder)
    (hrun : (file url folder given expected).on host = (.error (.network fault), after)) :
    host.disk.Loses (fun location => IsPartial host url folder given location ∨
        fault.isOfContent = true ∧ IsTargetOf host url folder given location) after.disk ∧
      (host.disk.Loses (IsPartial host url folder given) after.disk ↔
        (fault.isOfContent = true → ∀ location, IsTargetOf host url folder given location →
          host.disk.content? location = none)) := by
  rcases loses_or_wrong htree hfolder hrun with ⟨hfault, hloses⟩ | ⟨hfault, target, htarget, hafter⟩
  · refine ⟨hloses.mono fun _ => Or.inl, iff_of_true hloses fun h => ?_⟩
    rw [hfault] at h
    cases h
  have hpart : ∀ location, location ≠ target.location host.folder →
      after.disk.content? location = host.disk.content? location ∨
        after.disk.content? location = none ∧ IsPartial host url folder given location := by
    intro location hother
    rw [hafter, Function.update_of_ne hother]
    by_cases hsame : location = (partialPath target).location host.folder
    · rw [hsame, Function.update_self]
      exact Or.inr ⟨rfl, target, htarget, rfl⟩
    · rw [Function.update_of_ne hsame]
      exact Or.inl rfl
  have hgone : after.disk.content? (target.location host.folder) = none := by
    rw [hafter, Function.update_self]
  constructor
  · intro location
    by_cases hsame : location = target.location host.folder
    · rw [hsame]
      exact Or.inr ⟨hgone, Or.inr ⟨hfault, target, htarget, rfl⟩⟩
    · exact (hpart location hsame).imp_right (And.imp_right Or.inl)
  · constructor
    · rintro hloses - location ⟨other, hother, rfl⟩
      obtain rfl : target = other := Option.some.inj (htarget.symm.trans hother)
      rcases hloses (target.location host.folder) with hkept | ⟨-, again, hagain, hplace⟩
      · rw [← hkept, hgone]
      · obtain rfl : target = again := Option.some.inj (htarget.symm.trans hagain)
        exact absurd hplace.symm (location_partialPath_ne target host.folder)
    · intro hvacant location
      by_cases hsame : location = target.location host.folder
      · rw [hsame, hgone, hvacant hfault _ ⟨target, htarget, rfl⟩]
        exact Or.inl rfl
      · exact hpart location hsame

end Failures

/-- A setup is kept in a folder, and a server answers for its address in some way. -/
def keptSetup (reply : Reply) : Host where
  disk := ⟨[(["dl"], .folder), (["dl", "setup.exe"], .file "good".toUTF8.toList)]⟩
  web := [("http://h/setup.exe", reply)]

def zeroDigest : String := String.ofList (List.replicate 64 '0')

/-- The body breaks off behind its first part, which goes to the partial file of the name that the
head gives. -/
theorem files_after_failing_interrupted :
    let head := [("Content-Disposition", "attachment; filename=\"new.exe\"")]
    let host := keptSetup (.interrupted "reset" 200 (some "OK") head "ba".toUTF8.toList)
    let run := (file "http://h/setup.exe" (Path.ofString "dl") none (some zeroDigest)).on host
    run.1 = .error (.network (.interrupted "http://h/setup.exe" "reset")) ∧
      host.disk.Loses (IsPartial host "http://h/setup.exe" (Path.ofString "dl") none)
        run.2.disk := by
  intro head host run
  have hresult : run.1 = .error (.network (.interrupted "http://h/setup.exe" "reset")) := by
    decide +kernel
  have htree : host.disk.IsTree := Disk.isTree_of_nodes (by decide)
  have hspared := (files_after_failing htree rfl (Prod.ext hresult rfl)).2
  exact ⟨hresult, hspared.2 fun hfault => absurd hfault (by decide)⟩

/-- The file that was there is lost, although the download fails. -/
theorem failing_download_loses_target :
    let host := keptSetup (.response 200 (some "OK") [] "bad".toUTF8.toList)
    let run := (file "http://h/setup.exe" (Path.ofString "dl") none (some zeroDigest)).on host
    run.1 = .error (.network
        (.wrongDigest "setup.exe" (Sha256.hex "bad".toUTF8.toList) zeroDigest)) ∧
      host.disk.content? ["dl", "setup.exe"] = some "good".toUTF8.toList ∧
      run.2.disk.content? ["dl", "setup.exe"] = none ∧
      ¬ host.disk.Loses (IsPartial host "http://h/setup.exe" (Path.ofString "dl") none)
        run.2.disk := by
  intro host run
  have hrun : (run.1, run.2.disk) = (.error (.network
      (.wrongDigest "setup.exe" (Sha256.hex "bad".toUTF8.toList) zeroDigest)),
        ⟨[(["dl"], .folder)]⟩) := by decide +kernel
  obtain ⟨hresult, hdisk⟩ := Prod.mk.inj hrun
  have hheld : host.disk.content? ["dl", "setup.exe"] = some "good".toUTF8.toList := rfl
  have hlost : run.2.disk.content? ["dl", "setup.exe"] = none := by
    rw [hdisk]
    rfl
  refine ⟨hresult, hheld, hlost, fun hloses => ?_⟩
  rcases hloses ["dl", "setup.exe"] with hkept | ⟨-, target, htarget, hplace⟩
  · rw [hheld, hlost] at hkept
    cases hkept
  · have hsetup : target? host.web "http://h/setup.exe" (Path.ofString "dl") none =
        some ⟨.current, ["dl", "setup.exe"]⟩ := by decide +kernel
    rw [hsetup, Option.some.injEq] at htarget
    rw [← htarget] at hplace
    exact absurd hplace (by decide)

end Download

end SetupForge

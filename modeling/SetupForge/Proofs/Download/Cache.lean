import Mathlib.Algebra.Group.Int.Defs
import SetupForge.Proofs.Disk.Folders
import SetupForge.Proofs.Download.Receipt
import SetupForge.Proofs.Sync.Copy

/-! # The folder of installers

Installers are provided one after another, with whatever servers answer each time. A file that
comes to stand in the folder is the whole body of an answer, no partial file stays, and an installer
that was provided once is provided from the folder ever after.
-/

namespace SetupForge

open Job

namespace Download

/-- Whether some content is the whole body of a successful answer to a request. -/
def Delivers (web : List (String × Reply)) (url : String) (content : Bytes) : Prop :=
  ∃ response, answerOf web url = .ok (.ok response) ∧ response.statusError? = none ∧
    response.decoded = .ok content

/-! ## One download -/

section Course

variable {runtime : RuntimeSettings} {disk after : Disk} {place : Location}
variable {web : List (String × Reply)} {url name : String} {known : RuntimeInstaller}

/-- Whether installers can be put into a folder: once it is made, no folder has one of their
names. -/
structure IsReady (runtime : RuntimeSettings) (place : Location) (disk : Disk) : Prop where
  isTree : disk.IsTree
  folder : disk.node? place = some .folder
  free : ∀ known ∈ defaultInstallers,
    (disk.makeFolder place runtime.resourceFolder).1.node?
      ((runtime.resourceFolder.child known.fileName).location place) ≠ some .folder

namespace IsReady

theorem made (h : IsReady runtime place disk) :
    IsReady runtime place (disk.makeFolder place runtime.resourceFolder).1 := by
  have hkeeps : Disk.Keeps (fun _ => True) disk
      (disk.makeFolder place runtime.resourceFolder).1 := Disk.keeps_makeFolder h.isTree h.folder _
  refine ⟨hkeeps.isTree, hkeeps.folder h.folder, ?_⟩
  rw [Disk.makeFolder_makeFolder]
  exact h.free

theorem of_sameFolders (h : IsReady runtime place disk)
    (hmade : (disk.makeFolder place runtime.resourceFolder).2 = none)
    (hsame : (disk.makeFolder place runtime.resourceFolder).1.SameFolders after)
    (htree : after.IsTree) : IsReady runtime place after := by
  refine ⟨htree, (hsame _).2 h.made.folder, fun known hknown hnode => ?_⟩
  rw [Disk.makeFolder_of_folders hmade fun location => (hsame location).2] at hnode
  exact h.free known hknown ((hsame _).1 hnode)

theorem read_of_status {host : Host} (h : IsReady runtime host.folder host.disk)
    (hknown : known ∈ defaultInstallers) {node : Node}
    (hstatus : host.status (runtime.resourceFolder.child known.fileName) = .ok (some node)) :
    ∃ content, host.disk.read host.folder (runtime.resourceFolder.child known.fileName) =
      .ok content := by
  unfold Host.status at hstatus
  split at hstatus
  · rename_i location hlocate
    rw [Except.ok.injEq] at hstatus
    cases node with
    | file content => exact ⟨content, Disk.read_of_locate hlocate hstatus⟩
    | folder =>
        have hkeeps : Disk.Keeps (fun _ => True) host.disk
            (host.disk.makeFolder host.folder runtime.resourceFolder).1 :=
          Disk.keeps_makeFolder h.isTree h.folder _
        rw [Disk.eq_location_of_locate hlocate] at hstatus
        exact absurd (hkeeps.folder hstatus) (h.free known hknown)
  · cases hstatus
  · cases hstatus

end IsReady

theorem isUsable_of_partialPath {folder : Path}
    (h : (partialPath (folder.child name)).isUsable = true) :
    (folder.child name).isUsable = true := by
  rw [partialPath_child, Path.isUsable_child, Bool.and_eq_true] at h
  rw [Path.isUsable_child, h.1, Bool.true_and]
  simp only [String.toList_append, List.contains_eq_mem, List.mem_append] at h ⊢
  simp only [Bool.not_eq_true', decide_eq_false_iff_not, not_or] at h ⊢
  exact h.2.1

theorem exists_rename_of_opens {body : Bytes} {folder : Path} (hname : Path.IsFileName name)
    (hopens : Opens disk place (partialPath (folder.child name)))
    (hsame : disk.SameFolders after)
    (hread : after.read place (partialPath (folder.child name)) = .ok body)
    (hfree : disk.node? ((folder.child name).location place) ≠ some .folder) :
    ∃ moved, after.rename place (partialPath (folder.child name)) (folder.child name) =
      .ok moved := by
  have hroom := hopens.room
  rw [location_partialPath, Path.parent_child, List.dropLast_concat] at hroom
  have hlocate : disk.locate place (folder.child name) =
      .ok ((folder.child name).location place) := by
    apply Disk.locate_sibling _ hname.ne_empty _ (partialPath_child folder name ▸ hopens.locate)
    · simp [hname.ne_empty]
    · rw [String.utf8ByteSize_append]
      omega
  apply Disk.exists_rename_of_read hread
    (Disk.locate_of_folders (fun hnode => (hsame _).2 hnode) hlocate)
    fun hnode => hfree ((hsame _).1 hnode)
  rw [Path.location_child, Disk.enter, if_neg hname.2, List.dropLast_concat]
  exact (hsame _).2 hroom

/-- What a download does to the contents of files, if its target can take the name. -/
inductive Effect (delivered : Bytes → Prop) (target : Path) (place : Location)
    (before after : Disk) : Prop
  | same (h : after.content? = before.content?)
  | cleared (h : after.content? =
      Function.update before.content? ((partialPath target).location place) none)
  | filled {body : Bytes} (hbody : delivered body) (h : after.content? =
      Function.update (Function.update before.content? ((partialPath target).location place) none)
        (target.location place) (some body))

/-- A content that is there afterwards was there before, or was delivered to the target. -/
theorem Effect.content?_cases {delivered : Bytes → Prop} {target : Path} {location : Location}
    {content : Bytes} (h : Effect delivered target place disk after)
    (hcontent : after.content? location = some content) :
    disk.content? location = some content ∨
      location = target.location place ∧ delivered content := by
  cases h with
  | same h => exact Or.inl (h ▸ hcontent)
  | cleared h =>
      rw [h, Function.update_apply] at hcontent
      split at hcontent
      · cases hcontent
      · exact Or.inl hcontent
  | filled hbody h =>
      rw [h, Function.update_apply] at hcontent
      split at hcontent
      · rename_i htarget
        obtain rfl := Option.some.inj hcontent
        exact Or.inr ⟨htarget, hbody⟩
      · rw [Function.update_apply] at hcontent
        split at hcontent
        · cases hcontent
        · exact Or.inl hcontent

theorem nameFor_some (h : name ≠ "") (response : Response) :
    nameFor (some name) response = .ok name := by
  rw [nameFor, filter_given h]

/-- A download of an installer takes away its partial file, and brings a whole body or nothing. -/
theorem effect_of_course {result : Except Failure SavedFile} (hready : IsReady runtime place disk)
    (hknown : known ∈ defaultInstallers) (htree : after.IsTree)
    (h : Course web url runtime.resourceFolder (some known.fileName) none place disk result after) :
    IsReady runtime place after ∧
      Effect (Delivers web url) (runtime.resourceFolder.child known.fileName) place disk after ∧
      ∀ saved, result = .ok saved →
        saved.path = runtime.resourceFolder.child known.fileName ∧ saved.path.isUsable = true ∧
          ∃ content, after.read place saved.path = .ok content := by
  have hname := isFileName_of_mem_default known hknown
  have hmade := Disk.content?_makeFolder disk place runtime.resourceFolder
  cases h with
  | refused hfailure hafter =>
      rcases hafter with rfl | rfl
      · exact ⟨hready, .same rfl, by simp⟩
      · exact ⟨hready.made, .same hmade, by simp⟩
  | failed hanswer => exact ⟨hready.made, .same hmade, by simp⟩
  | received husable hcomplete hanswer hown hreceipt =>
      rw [nameFor_some hname.ne_empty, Except.ok.injEq] at hown
      rw [← hown, hname.join] at hreceipt
      cases hreceipt with
      | refused hfailure => exact ⟨hready.made, .same hmade, by simp⟩
      | interrupted hbody hopens hcontents hfolders =>
          rw [hmade] at hcontents
          exact ⟨hready.of_sameFolders hcomplete hfolders htree, .cleared hcontents, by simp⟩
      | stuck hfailure hbody hopens hcontents hfolders hread hstuck =>
          obtain ⟨moved, hmoved⟩ :=
            exists_rename_of_opens hname hopens hfolders hread (hready.free known hknown)
          obtain ⟨fault, hfault⟩ := hstuck (isUsable_of_partialPath hopens.usable)
          rw [hmoved] at hfault
          cases hfault
      | wrong hbody hopens hwanted => cases hwanted
      | saved hbody hopens hwanted hfree hlocate hcontents hfolders =>
          rename_i body
          have hread : after.read place (runtime.resourceFolder.child known.fileName) =
              .ok body := by
            refine Disk.read_of_locate
              (Disk.locate_of_folders (fun hnode => (hfolders _).2 hnode) hlocate) ?_
            rw [← Disk.content?_eq_some_iff, hcontents, Function.update_self]
          rw [hmade] at hcontents
          refine ⟨hready.of_sameFolders hcomplete hfolders htree,
            .filled ⟨_, hanswer, statusError?_of_answerOf hanswer, hbody⟩ hcontents, ?_⟩
          rintro saved hsaved
          obtain rfl := Except.ok.inj hsaved
          exact ⟨rfl, isUsable_of_partialPath hopens.usable, _, hread⟩

end Course

/-! ## One call -/

theorem major_of_fileName : ∀ known ∈ defaultInstallers, ∀ own ∈ defaultInstallers,
    known.fileName = own.fileName → known.major = own.major := by decide

theorem not_partial : ∀ known ∈ defaultInstallers, ∀ name,
    known.fileName ≠ name ++ partialSuffix := by
  have hlast : ∀ known ∈ defaultInstallers, known.fileName.toList.getLast? = some 'e' := by decide
  intro known hknown name hname
  have hend := hlast known hknown
  rw [hname, String.toList_append, List.getLast?_append_of_ne_nil _ (by decide)] at hend
  exact absurd hend (by decide)

/-- A call for the installer of a major version, and what servers answer meanwhile. -/
structure Visit where
  web : List (String × Reply)
  major : Int

namespace Visit

variable {runtime : RuntimeSettings} {visit : Visit} {host : Host} {known : RuntimeInstaller}

def on (runtime : RuntimeSettings) (visit : Visit) (host : Host) : Except Failure Path × Host :=
  (installer runtime visit.major).on { host with web := visit.web }

/-- Without an installer for the major version nothing is asked for and nothing changes. The fault
of the settings names the number, which must not be too long for that. -/
theorem on_of_unknown (h : runtime.knows visit.major = false) :
    (Text.hasText visit.major = true → visit.on runtime host =
      (.error (.settings (.noRuntime visit.major)), { host with web := visit.web })) ∧
    (Text.hasText visit.major = false → visit.on runtime host =
      (.error .tooManyDigits, { host with web := visit.web })) := by
  have hnone : runtime.installer? visit.major = none := by
    simpa [RuntimeSettings.knows] using h
  rw [on, installer, hnone]
  dsimp only
  rw [on_bind, Job.requireText]
  constructor
  · intro htext
    rw [if_pos htext]
    rfl
  · intro htext
    rw [htext, if_neg Bool.false_ne_true]
    rfl

/-- A call cannot look for the installer, or finds it, or downloads it. -/
theorem on_cases (hknown : runtime.installer? visit.major = some known)
    (hname : Path.IsFileName known.fileName) :
    (∃ failure, visit.on runtime host = (.error failure, { host with web := visit.web })) ∨
    ((runtime.resourceFolder.child known.fileName).isUsable = true ∧
      (∃ node, host.status (runtime.resourceFolder.child known.fileName) = .ok (some node)) ∧
      ∃ said, visit.on runtime host =
        (.ok (runtime.resourceFolder.child known.fileName), { host with web := visit.web, said })) ∨
    ∃ said result after,
      (file (runtime.urlFor visit.major) runtime.resourceFolder (some known.fileName) none).on
        { host with web := visit.web, said } = (result, after) ∧
      visit.on runtime host = (result.map (·.path), after) := by
  rw [on, installer, hknown]
  dsimp only
  rw [hname.join, on_bind, on_hasPath_eq]
  by_cases husable : (runtime.resourceFolder.child known.fileName).isUsable = true
  · rw [if_pos husable]
    have hsame : Host.status { host with web := visit.web }
        (runtime.resourceFolder.child known.fileName) =
          host.status (runtime.resourceFolder.child known.fileName) := rfl
    rw [hsame]
    cases hstatus : host.status (runtime.resourceFolder.child known.fileName) with
    | error fault => exact Or.inl ⟨_, rfl⟩
    | ok node? =>
        cases node? with
        | some node => exact Or.inr (Or.inl ⟨husable, ⟨node, rfl⟩, _, rfl⟩)
        | none => exact Or.inr (Or.inr ⟨_, _, _, rfl, on_bind_pure _ _ _⟩)
  · rw [if_neg husable]
    exact Or.inr (Or.inr ⟨_, _, _, rfl, on_bind_pure _ _ _⟩)

def IsKept (runtime : RuntimeSettings) (place : Location) (known : RuntimeInstaller)
    (disk : Disk) : Prop :=
  (runtime.resourceFolder.child known.fileName).isUsable = true ∧
    ∃ content, disk.read place (runtime.resourceFolder.child known.fileName) = .ok content

section Default

variable (hdefault : runtime.installers = defaultInstallers)

include hdefault

theorem mem_default_of_installer? {major : Int} (h : runtime.installer? major = some known) :
    known ∈ defaultInstallers ∧ known.major = major := by
  have hmem := List.mem_of_find?_eq_some h
  have hmajor := List.find?_some h
  rw [hdefault, List.mem_reverse] at hmem
  exact ⟨hmem, by simpa using hmajor⟩

theorem keeps (hready : IsReady runtime host.folder host.disk) (visit : Visit) :
    Disk.Keeps (fun location => ∃ own ∈ defaultInstallers, own.major = visit.major ∧
        IsTarget own.fileName location) host.disk (visit.on runtime host).2.disk ∧
      (visit.on runtime host).2.folder = host.folder := by
  have hinstaller := @keeps_installer
    (fun location => ∃ own ∈ defaultInstallers, own.major = visit.major ∧
      IsTarget own.fileName location) runtime visit.major fun own hown => by
      obtain ⟨hmem, hmajor⟩ := mem_default_of_installer? hdefault hown
      exact ⟨isFileName_of_mem_default own hmem, fun _ htarget => ⟨own, hmem, hmajor, htarget⟩⟩
  obtain ⟨hdisk, hfolder, -⟩ :=
    hinstaller { host with web := visit.web } hready.isTree hready.folder
  exact ⟨hdisk, hfolder⟩

/-- What a call does: the folder stays ready, the files change as a download changes them, and what
is provided is there. -/
theorem spec (hready : IsReady runtime host.folder host.disk) (visit : Visit) :
    IsReady runtime host.folder (visit.on runtime host).2.disk ∧
      ((visit.on runtime host).2.disk.content? = host.disk.content? ∨
        ∃ known ∈ defaultInstallers, known.major = visit.major ∧
          Effect (Delivers visit.web (runtime.urlFor visit.major))
            (runtime.resourceFolder.child known.fileName) host.folder host.disk
            (visit.on runtime host).2.disk) ∧
      ∀ path, (visit.on runtime host).1 = .ok path →
        ∃ known ∈ defaultInstallers, known.major = visit.major ∧
          path = runtime.resourceFolder.child known.fileName ∧
            IsKept runtime host.folder known (visit.on runtime host).2.disk := by
  have htree := (keeps hdefault hready visit).1.isTree
  cases hfound : runtime.installer? visit.major with
  | none =>
      have hunknown : runtime.knows visit.major = false := by
        rw [RuntimeSettings.knows, hfound]
        rfl
      obtain ⟨hnamed, hunnamed⟩ := @on_of_unknown runtime visit host hunknown
      obtain ⟨failure, hrun⟩ : ∃ failure,
          visit.on runtime host = (.error failure, { host with web := visit.web }) := by
        cases htext : Text.hasText visit.major with
        | true => exact ⟨_, hnamed htext⟩
        | false => exact ⟨_, hunnamed htext⟩
      rw [hrun]
      exact ⟨hready, Or.inl rfl, fun _ h => by cases h⟩
  | some known =>
      obtain ⟨hmem, hmajor⟩ := mem_default_of_installer? hdefault hfound
      rcases on_cases hfound (isFileName_of_mem_default known hmem) with
        ⟨failure, hrun⟩ | ⟨husable, ⟨node, hstatus⟩, said, hrun⟩ |
        ⟨said, result, after, hfile, hrun⟩
      · rw [hrun]
        exact ⟨hready, Or.inl rfl, fun _ h => by cases h⟩
      · rw [hrun]
        refine ⟨hready, Or.inl rfl, fun path hpath => ?_⟩
        obtain rfl := Except.ok.inj hpath
        exact ⟨known, hmem, hmajor, rfl, husable, hready.read_of_status hmem hstatus⟩
      · rw [hrun] at htree ⊢
        have hcourse : Course visit.web (runtime.urlFor visit.major) runtime.resourceFolder
            (some known.fileName) none host.folder host.disk result after.disk := by
          have hcourse := @course_file { host with web := visit.web, said } hready.isTree
            hready.folder (runtime.urlFor visit.major) runtime.resourceFolder
            (some known.fileName) none
          rwa [hfile] at hcourse
        obtain ⟨hstays, heffect, hsaved⟩ := effect_of_course hready hmem htree hcourse
        refine ⟨hstays, Or.inr ⟨known, hmem, hmajor, heffect⟩, fun path hpath => ?_⟩
        cases result with
        | error failure => cases hpath
        | ok saved =>
            obtain rfl : saved.path = path := Except.ok.inj hpath
            obtain ⟨hpath, husable, hread⟩ := hsaved saved rfl
            rw [hpath] at husable hread
            exact ⟨known, hmem, hmajor, hpath, husable, hread⟩

theorem on_of_kept (hmem : known ∈ defaultInstallers) (hmajor : known.major = visit.major)
    (hkept : IsKept runtime host.folder known host.disk) :
    ∃ said, visit.on runtime host = (.ok (runtime.resourceFolder.child known.fileName),
      { host with web := visit.web, said }) := by
  obtain ⟨husable, content, hread⟩ := hkept
  have hknown : runtime.installer? visit.major = some known :=
    hmajor ▸ installer?_of_mem_default hdefault hmem
  exact @on_installer_of_kept runtime visit.major known { host with web := visit.web } content
    hknown (isFileName_of_mem_default known hmem) husable hread

theorem isKept_on (hready : IsReady runtime host.folder host.disk)
    (hmem : known ∈ defaultInstallers) (hkept : IsKept runtime host.folder known host.disk)
    (visit : Visit) : IsKept runtime host.folder known (visit.on runtime host).2.disk := by
  by_cases hmajor : known.major = visit.major
  · obtain ⟨said, hrun⟩ := on_of_kept hdefault hmem hmajor hkept
    rw [hrun]
    exact hkept
  · obtain ⟨husable, content, hread⟩ := hkept
    refine ⟨husable, content, (keeps hdefault hready visit).1.read hread ?_⟩
    rintro location hlocate ⟨own, hown, hvisit, htarget⟩
    have hlast := Disk.getLast?_locate_child (isFileName_of_mem_default known hmem).2 hlocate
    rcases htarget with htarget | htarget
    · rw [hlast, Option.some.injEq] at htarget
      exact hmajor ((major_of_fileName known hmem own hown htarget).trans hvisit)
    · rw [hlast, Option.some.injEq] at htarget
      exact not_partial known hmem own.fileName htarget

end Default

end Visit

/-! ## Calls one after another -/

section Calls

variable {runtime : RuntimeSettings} {host : Host} {known : RuntimeInstaller}

def afterVisits (runtime : RuntimeSettings) (visits : List Visit) (host : Host) : Host :=
  visits.foldl (fun host visit => (visit.on runtime host).2) host

@[simp] theorem afterVisits_cons (visit : Visit) (visits : List Visit) :
    afterVisits runtime (visit :: visits) host =
      afterVisits runtime visits (visit.on runtime host).2 := rfl

variable (hdefault : runtime.installers = defaultInstallers)

include hdefault

theorem folder_afterVisits (hready : IsReady runtime host.folder host.disk) (visits : List Visit) :
    (afterVisits runtime visits host).folder = host.folder ∧
      IsReady runtime host.folder (afterVisits runtime visits host).disk := by
  induction visits generalizing host with
  | nil => exact ⟨rfl, hready⟩
  | cons visit visits ih =>
      have hfolder := (Visit.keeps hdefault hready visit).2
      rw [afterVisits_cons]
      have hnext := (Visit.spec hdefault hready visit).1
      rw [← hfolder] at hnext ⊢
      exact ih hnext

/-- A content that stands on the disk at the end was there from the start, or came with one of the
calls. -/
theorem content?_afterVisits (hready : IsReady runtime host.folder host.disk) (visits : List Visit)
    {location : Location} {content : Bytes}
    (hcontent : (afterVisits runtime visits host).disk.content? location = some content) :
    host.disk.content? location = some content ∨
      ∃ visit ∈ visits, ∃ known ∈ defaultInstallers, known.major = visit.major ∧
        location = (runtime.resourceFolder.child known.fileName).location host.folder ∧
        Delivers visit.web (runtime.urlFor visit.major) content := by
  induction visits generalizing host with
  | nil => exact Or.inl hcontent
  | cons visit visits ih =>
      obtain ⟨hnext, heffect, -⟩ := Visit.spec hdefault hready visit
      have hfolder := (Visit.keeps hdefault hready visit).2
      rw [afterVisits_cons] at hcontent
      rw [← hfolder] at hnext
      rcases ih hnext hcontent with hthere | ⟨later, hmem, hlater⟩
      · rcases heffect with hsame | ⟨known, hknown, hmajor, heffect⟩
        · exact Or.inl (hsame ▸ hthere)
        · apply (heffect.content?_cases hthere).imp_right
          rintro ⟨htarget, hdelivers⟩
          exact ⟨visit, List.mem_cons_self, known, hknown, hmajor, htarget, hdelivers⟩
      · rw [hfolder] at hlater
        exact Or.inr ⟨later, List.mem_cons_of_mem visit hmem, hlater⟩

theorem isKept_afterVisits (hready : IsReady runtime host.folder host.disk)
    (hmem : known ∈ defaultInstallers) (hkept : Visit.IsKept runtime host.folder known host.disk)
    (visits : List Visit) :
    Visit.IsKept runtime host.folder known (afterVisits runtime visits host).disk := by
  induction visits generalizing host with
  | nil => exact hkept
  | cons visit visits ih =>
      have hfolder := (Visit.keeps hdefault hready visit).2
      have hnext := (Visit.spec hdefault hready visit).1
      have hstays := Visit.isKept_on hdefault hready hmem hkept visit
      rw [afterVisits_cons]
      rw [← hfolder] at hnext hstays ⊢
      exact ih hnext hstays

/-- After any calls for installers, a file that was not there before is the whole body of a
successful answer to a call for the installer of its name, and no partial file is there that was
not. A call for a major version without an installer fails without a request, with a fault of the
settings that names the number unless the number is too long to be written. Once a call has provided
an installer, every later call for it provides it at the same path without a request. -/
theorem installers_stay_whole (hready : IsReady runtime host.folder host.disk)
    (visits : List Visit) :
    let after := afterVisits runtime visits host
    (∀ location content, after.disk.content? location = some content →
      host.disk.content? location = some content ∨
        ∃ visit ∈ visits, ∃ known ∈ defaultInstallers, known.major = visit.major ∧
          location = (runtime.resourceFolder.child known.fileName).location host.folder ∧
          Delivers visit.web (runtime.urlFor visit.major) content) ∧
    (∀ above name content, after.disk.content? (above ++ [name ++ partialSuffix]) = some content →
      host.disk.content? (above ++ [name ++ partialSuffix]) = some content) ∧
    (∀ visit : Visit, runtime.knows visit.major = false →
      (Text.hasText visit.major = true → visit.on runtime after =
        (.error (.settings (.noRuntime visit.major)), { after with web := visit.web })) ∧
      (Text.hasText visit.major = false → visit.on runtime after =
        (.error .tooManyDigits, { after with web := visit.web }))) ∧
    ∀ (visit : Visit) (path : Path), (visit.on runtime after).1 = .ok path → ∀ more web,
      let later := afterVisits runtime more (visit.on runtime after).2
      let again := Visit.on runtime ⟨web, visit.major⟩ later
      again.1 = .ok path ∧ again.2.requested = later.requested := by
  intro after
  have htraced := fun location content => @content?_afterVisits runtime host hdefault hready visits
    location content
  refine ⟨htraced, ?_, fun visit hunknown => Visit.on_of_unknown hunknown, ?_⟩
  · intro above name content hcontent
    rcases htraced _ _ hcontent with hthere | ⟨visit, -, known, hknown, -, htarget, -⟩
    · exact hthere
    · have hname := isFileName_of_mem_default known hknown
      rw [Path.location_child, Disk.enter, if_neg hname.2] at htarget
      have hlast := congrArg List.getLast? htarget
      rw [List.getLast?_concat, List.getLast?_concat, Option.some.injEq] at hlast
      exact absurd hlast.symm (not_partial known hknown name)
  · intro visit path hpath more web later again
    obtain ⟨hfolder, hstays⟩ := folder_afterVisits hdefault hready visits
    rw [← hfolder] at hstays
    obtain ⟨hnext, -, hprovided⟩ := Visit.spec hdefault hstays visit
    obtain ⟨known, hknown, hmajor, rfl, hkept⟩ := hprovided path hpath
    rw [← (Visit.keeps hdefault hstays visit).2] at hnext hkept
    have hlater := isKept_afterVisits hdefault hnext hknown hkept more
    rw [← (folder_afterVisits hdefault hnext more).1] at hlater
    obtain ⟨said, hrun⟩ :=
      @Visit.on_of_kept runtime ⟨web, visit.major⟩ later known hdefault hknown hmajor hlater
    show (Visit.on runtime ⟨web, visit.major⟩ later).1 = _ ∧
      (Visit.on runtime ⟨web, visit.major⟩ later).2.requested = _
    rw [hrun]
    exact ⟨rfl, rfl⟩

end Calls

def mirrored : RuntimeSettings := { downloadUrl := "http://m/setup" }

/-- What the server sends breaks off behind its first part, and is whole the next time. -/
theorem installers_stay_whole_mirrored :
    let broken : Visit :=
      ⟨[("http://m/setup", .interrupted "reset" 200 (some "OK") [("Content-Length", "2")] [77])], 8⟩
    let whole : Visit := ⟨[("http://m/setup", .response 200 (some "OK") [] [77, 90])], 8⟩
    let after := afterVisits mirrored [broken] {}
    (∀ above name content, after.disk.content? (above ++ [name ++ partialSuffix]) ≠ some content) ∧
      (∀ web, Visit.on mirrored ⟨web, 5⟩ after =
        (.error (.settings (.noRuntime 5)), { after with web })) ∧
      ∀ more web,
        let later := afterVisits mirrored more (whole.on mirrored after).2
        let again := Visit.on mirrored ⟨web, 8⟩ later
        again.1 = .ok (Path.ofString "cache/runtime/windowsdesktop-runtime-8.0.23-win-x64.exe") ∧
          again.2.requested = later.requested := by
  intro broken whole after
  have hready : IsReady mirrored [] {} :=
    ⟨Disk.isTree_of_nodes (by decide), rfl, by decide +kernel⟩
  obtain ⟨-, hpartial, hunknown, hkept⟩ :=
    @installers_stay_whole mirrored {} rfl hready [broken]
  have hfifth : mirrored.knows 5 = false := by decide +kernel
  have htext : Text.hasText 5 = true := by decide +kernel
  refine ⟨fun above name content hcontent => ?_, fun web => (hunknown ⟨web, 5⟩ hfifth).1 htext,
    hkept whole _ (by decide +kernel)⟩
  have hnothing := hpartial above name content hcontent
  have hempty : (above ++ [name ++ partialSuffix]) ≠ [] := by simp
  rw [Disk.content?_eq_some_iff, Disk.node?, if_neg hempty] at hnothing
  cases hnothing

/-- No fault of the settings names an unknown major version of 4301 digits. -/
theorem unknown_installer_without_fault :
    let visit : Visit := ⟨[], 10 ^ 4300⟩
    RuntimeSettings.knows {} visit.major = false ∧
      (visit.on {} {}).1 = .error .tooManyDigits ∧
      ∀ fault, (visit.on {} {}).1 ≠ .error (.settings fault) := by
  intro visit
  have hunknown : RuntimeSettings.knows {} visit.major = false := by decide +kernel
  have htext : Text.hasText visit.major = false := by decide +kernel
  have hfails := (@Visit.on_of_unknown {} visit {} hunknown).2 htext
  rw [hfails]
  exact ⟨hunknown, rfl, fun fault h => by cases h⟩

end Download

end SetupForge

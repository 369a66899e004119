import SetupForge.Proofs.Script.FilesBody
import SetupForge.Proofs.Sync.Copy
import SetupForge.Proofs.Sync.Launch

/-! # The delivery of the installer that is started

The installer that the install step starts reaches the temporary folder in one of two ways. Either
it is copied into the publish folder, whose files the files section lists, or the generated code
downloads it. In both cases the sync uses the same name for what it delivers and what it starts.
-/

namespace SetupForge.Sync

open Text Job

variable {goal : Goal} {host after : Host} {known : RuntimeInstaller}
variable {lines rebuilt names : List String} {content : Bytes}

/-! ## The files section and the code -/

theorem on_files_of_copied (hlevel : goal.level = .netInstallIncluded)
    (husable : goal.folder.isUsable = true)
    (hstatus : host.status goal.folder = .ok (some .folder))
    (hcopy : (copyInstaller goal).on host = (.ok (), after))
    (hnames : after.fileNames goal.folder = .ok names) (lines : List String) :
    ∃ changed final, (files goal lines).on host =
      (.ok (FilesSection.rebuild goal.runtime.family names lines, changed), final) := by
  obtain ⟨changed, said, hrebuild⟩ := on_rebuildFiles hnames lines
  refine ⟨changed, { after with said }, ?_⟩
  rw [files_eq, on_bind, on_isFolder husable hstatus]
  dsimp only
  rw [if_pos rfl, if_pos hlevel, on_bind, hcopy]
  exact hrebuild

section Usual

variable (husual : goal.target.IsUsual) (hi : goal.target.request.installer.isEmpty = false)

include husual hi

theorem edits_of_usual {changed : Bool}
    (hfiles : (files goal lines).on host = (.ok (rebuilt, changed), after)) :
    ((edits goal lines).on host).1 =
      .ok (GeneratedCode.sync goal.target rebuilt).lines := by
  have hnone : (GeneratedCode.sync goal.target rebuilt).failure = none := by
    rw [GeneratedCode.failure_sync_of_usual husual, GeneratedCode.Request.fails, hi,
      Bool.false_and, Bool.and_false]
    rfl
  rw [Goal.target] at hnone ⊢
  simp only [edits_of_files hfiles, hnone]

theorem body?_sync_rebuild (hp : goal.level.providesRuntime = true)
    (hsection : lines.any (Section.isHeaderFor FilesSection.sectionName) = true)
    (hmarkers : ∀ line ∈ lines, Marker.isMarker line = false) (names : List String) :
    Section.body? FilesSection.sectionName
        (GeneratedCode.sync goal.target
          (FilesSection.rebuild goal.runtime.family names lines)).lines =
      some ("" :: FilesSection.entries goal.runtime.family names) := by
  have hblank : isBlank FilesSection.sectionName = false := FilesSection.isUnnamed_sectionName
  have hrun : lower (trim FilesSection.sectionName) ≠ lower (trim GeneratedCode.runSection) := by
    decide
  have hcode : lower (trim FilesSection.sectionName) ≠
      lower (trim GeneratedCode.codeSection) := by decide
  have hf : goal.target.request.fails = false := by
    rw [GeneratedCode.Request.fails, hi, Bool.false_and]
  have hunmarked : ∀ line ∈ FilesSection.rebuild goal.runtime.family names lines,
      Marker.isMarker line = false := by
    intro line hl
    rcases FilesSection.mem_of_mem_rebuild hsection hl with hl | rfl | hl
    · exact hmarkers line hl
    · rfl
    · obtain ⟨name, folder, flags, rfl⟩ := FilesSection.exists_of_mem_entries hl
      exact (FileEntry.inert_line name folder flags).1
  have hkept : RunStep.removeAll runtimeFamily
      ("" :: FilesSection.entries goal.runtime.family names) =
        "" :: FilesSection.entries goal.runtime.family names := by
    refine List.filter_eq_self.2 fun line hl => ?_
    rcases List.mem_cons.1 hl with rfl | hl
    · decide
    · obtain ⟨name, folder, flags, rfl⟩ := FilesSection.exists_of_mem_entries hl
      rw [FileEntry.isStep_line]
      rfl
  rw [Section.body?_eq_bodyBelow? hblank,
    GeneratedCode.bodyBelow?_sync_of_usual hrun hcode husual hp hf,
    GeneratedCode.bare_of_unmarked hunmarked, GeneratedCode.bodyBelow?_removeAll,
    ← Section.body?_eq_bodyBelow? hblank, FilesSection.body?_rebuild hsection, Option.map_some,
    hkept]

end Usual

theorem edits_of_unlisted {fault : AccessFault} (hlevel : goal.level ≠ .netInstallIncluded)
    (hfolder : ((Job.isFolder goal.folder).on host).1 = .ok true)
    (hfault : host.fileNames goal.folder = .error fault)
    (hsection : lines.any (Section.isHeaderFor FilesSection.sectionName) = true) :
    ((edits goal lines).on host).1 = .error (.access fault) := by
  obtain ⟨husable, hstatus⟩ := status_of_on_isFolder hfolder
  have hrebuild : (rebuildFiles goal lines).on host = (.error (.access fault), host) := by
    unfold rebuildFiles
    split
    · rename_i hnone
      have hbody := @FilesSection.body?_rebuild "" [] lines hsection
      rw [rebuild_of_no_section hnone, hnone] at hbody
      cases hbody
    · rw [on_bind, on_fileNames, hfault]
  have hfiles : (files goal lines).on host = (.error (.access fault), host) := by
    rw [files_eq, on_bind, on_isFolder husable hstatus]
    dsimp only
    rw [if_pos rfl, if_neg hlevel, hrebuild]
  rw [edits, on_bind, hfiles]

theorem lacks_rebuild {routine : Routine} {family : String} (h : routine ∈ Routine.catalog)
    (hsection : lines.any (Section.isHeaderFor FilesSection.sectionName) = true)
    (hl : GeneratedCode.lacks lines routine = true) (names : List String) :
    GeneratedCode.lacks (FilesSection.rebuild family names lines) routine = true := by
  unfold GeneratedCode.lacks at hl ⊢
  cases hs : routine.signature? with
  | none => rfl
  | some signature =>
      rw [hs, Option.any_some, Bool.not_eq_true', List.any_eq_false] at hl
      rw [Option.any_some, Bool.not_eq_true', List.any_eq_false]
      intro line hline
      rcases FilesSection.mem_of_mem_rebuild hsection hline with hline | rfl | hline
      · exact hl line hline
      · simp [Routine.carries_of_mem_catalog h hs (Routine.looksLikeHeading_of_isBlank isBlank_empty)]
      · obtain ⟨name, folder, flags, rfl⟩ := FilesSection.exists_of_mem_entries hline
        simp [Routine.carries_of_mem_catalog h hs (FileEntry.inert_line name folder flags).2]

/-! ## Delivery -/

section Installer

variable (hinstallers : goal.runtime.installers = defaultInstallers)
variable (hfamily : goal.runtime.family = runtimeFamily)
variable (hdefault : known ∈ defaultInstallers) (hmajor : goal.major = known.major)

include hinstallers hfamily hdefault hmajor

theorem installer_eq : goal.target.request.installer = known.fileName := by
  have husual : goal.target.IsUsual := ⟨rfl, rfl, hinstallers, hfamily⟩
  have hknown : goal.target.runtime.installer? goal.target.major = some known := by
    change goal.runtime.installer? goal.major = some known
    rw [hmajor]
    exact installer?_of_mem_default hinstallers hdefault
  rw [← husual.installerName_eq, RuntimeSettings.installerName, hknown]
  rfl

variable (hsection : lines.any (Section.isHeaderFor FilesSection.sectionName) = true)
variable (hfolder : ((Job.isFolder goal.folder).on host).1 = .ok true)

include hsection hfolder

/-- The installer is started once, and has an entry as often as the folder lists it in the end. -/
theorem listed_as_copied (hlevel : goal.level = .netInstallIncluded)
    (hmarkers : ∀ line ∈ lines, Marker.isMarker line = false)
    (hcopy : (copyInstaller goal).on host = (.ok (), after))
    (hlisted : after.fileNames goal.folder = .ok names) :
    ∃ synced body, ((edits goal lines).on host).1 = .ok synced ∧
      synced.filter (RunStep.launches runtimeFamily) = [RunStep.entry known.fileName] ∧
      Section.body? FilesSection.sectionName synced = some body ∧
      body.count (FileEntry.payload known.fileName) = names.count known.fileName := by
  have husual : goal.target.IsUsual := ⟨rfl, rfl, hinstallers, hfamily⟩
  have hname := installer_eq hinstallers hfamily hdefault hmajor
  obtain ⟨-, -, hnamed, hofFamily⟩ := fits_of_mem_default known hdefault
  have hi : goal.target.request.installer.isEmpty = false := by rw [hname, hnamed]
  have hp : goal.level.providesRuntime = true := by
    rw [hlevel]
    rfl
  obtain ⟨husable, hstatus⟩ := status_of_on_isFolder hfolder
  obtain ⟨changed, final, hfiles⟩ := on_files_of_copied hlevel husable hstatus hcopy hlisted lines
  refine ⟨_, _, edits_of_usual husual hi hfiles, ?_,
    body?_sync_rebuild husual hi hp hsection hmarkers _, ?_⟩
  · rw [GeneratedCode.filter_launches_sync husual hp hi, hname]
  · have hentry : FileEntry.payload known.fileName ≠ "" := FileEntry.line_ne_empty _ _ _
    rw [hfamily, List.count_cons_of_ne hentry.symm, FilesSection.count_entries hofFamily]

variable (hnames : host.fileNames goal.folder = .ok names)

include hnames

theorem copied_installer_listed (hlevel : goal.level = .netInstallIncluded)
    (hmarkers : ∀ line ∈ lines, Marker.isMarker line = false) (hdistinct : host.disk.IsDistinct)
    (hkept : ((Job.load (goal.runtime.resourceFolder.child known.fileName)).on host).1 =
      .ok content)
    (hvacant : host.isFolder (goal.folder.child known.fileName) = false)
    (hshort : (goal.folder.child known.fileName).toString.utf8ByteSize ≤ Disk.longestPath) :
    ∃ synced body, ((edits goal lines).on host).1 = .ok synced ∧
      synced.filter (RunStep.launches runtimeFamily) = [RunStep.entry known.fileName] ∧
      Section.body? FilesSection.sectionName synced = some body ∧
      body.count (FileEntry.payload known.fileName) = 1 := by
  have hknown : goal.runtime.installer? goal.major = some known := by
    rw [hmajor]
    exact installer?_of_mem_default hinstallers hdefault
  obtain ⟨husable, hstatus⟩ := status_of_on_isFolder hfolder
  obtain ⟨after, listed, hcopy, hlisted, hmem, hnodup⟩ := fileNames_of_copied hknown hdefault
    hdistinct husable hstatus hnames hkept hvacant hshort
  rw [← List.count_eq_one_of_mem hnodup hmem]
  exact listed_as_copied hinstallers hfamily hdefault hmajor hsection hfolder hlevel hmarkers hcopy
    hlisted

theorem uncopied_installer_unlisted (hlevel : goal.level = .netInstallIncluded)
    (hmarkers : ∀ line ∈ lines, Marker.isMarker line = false)
    (hkept : ((Job.load (goal.runtime.resourceFolder.child known.fileName)).on host).1 =
      .ok content)
    (hlong : Disk.longestPath < (goal.folder.child known.fileName).toString.utf8ByteSize) :
    ∃ synced body, ((edits goal lines).on host).1 = .ok synced ∧
      synced.filter (RunStep.launches runtimeFamily) = [RunStep.entry known.fileName] ∧
      Section.body? FilesSection.sectionName synced = some body ∧
      body.count (FileEntry.payload known.fileName) = 0 := by
  have hknown : goal.runtime.installer? goal.major = some known := by
    rw [hmajor]
    exact installer?_of_mem_default hinstallers hdefault
  obtain ⟨-, hzero, -, -⟩ := fits_of_mem_default known hdefault
  have htarget : (goal.folder.child known.fileName).isUsable = true := by
    rw [Path.isUsable_child, (status_of_on_isFolder hfolder).1]
    simpa using hzero
  obtain ⟨said, hcopy⟩ := on_copyInstaller_of_long hknown (isFileName_of_mem_default known hdefault)
    hkept htarget hlong
  have hlisted : ({ host with said } : Host).fileNames goal.folder = .ok names :=
    (Host.fileNames_congr rfl rfl _).trans hnames
  -- the folder could not be listed with a path that is too long
  have habsent : known.fileName ∉ names := fun hmem =>
    absurd (Host.short_of_mem hnames hmem) (by omega)
  rw [← List.count_eq_zero_of_not_mem habsent]
  exact listed_as_copied hinstallers hfamily hdefault hmajor hsection hfolder hlevel hmarkers hcopy
    hlisted

theorem downloaded_installer_named (hlevel : goal.level = .netInstallDownload)
    (hlacks : GeneratedCode.lacks lines Routine.prepareToInstall = true) :
    ∃ synced address, ((edits goal lines).on host).1 = .ok synced ∧
      synced.filter (RunStep.launches runtimeFamily) = [RunStep.entry known.fileName] ∧
      GeneratedCode.downloadBlock address known.fileName <:+: synced ∧
      ('\'' ∉ goal.runtime.downloadUrl.toList → '\'' ∉ address.toList) := by
  have husual : goal.target.IsUsual := ⟨rfl, rfl, hinstallers, hfamily⟩
  have hname := installer_eq hinstallers hfamily hdefault hmajor
  obtain ⟨-, -, hnamed, -⟩ := fits_of_mem_default known hdefault
  have hi : goal.target.request.installer.isEmpty = false := by rw [hname, hnamed]
  have hp : goal.level.providesRuntime = true := by
    rw [hlevel]
    rfl
  obtain ⟨husable, hstatus⟩ := status_of_on_isFolder hfolder
  obtain ⟨changed, after, hfiles⟩ :=
    on_files_of_not_copied (by rw [hlevel]; decide) husable hstatus hnames lines
  have hrebuilt : GeneratedCode.lacks (FilesSection.rebuild goal.runtime.family names lines)
      Routine.prepareToInstall = true :=
    lacks_rebuild (by simp [Routine.catalog]) hsection hlacks _
  refine ⟨_, Placeholder.fill goal.runtime goal.major Placeholder.downloadUrl.token,
    edits_of_usual husual hi hfiles, ?_, ?_, ?_⟩
  · rw [GeneratedCode.filter_launches_sync husual hp hi, hname]
  · have hblock := GeneratedCode.infix_sync husual hlevel hi hrebuilt
    rw [hname] at hblock
    exact hblock
  · intro hurl
    have hplain : ∀ installer ∈ goal.runtime.installers,
        '\'' ∉ installer.version.toList ∧ '\'' ∉ installer.fileName.toList := by
      rw [hinstallers]
      decide
    have htoken : '\'' ∉ Placeholder.downloadUrl.token.toList := by decide
    rw [Placeholder.toList_fill]
    exact Placeholder.quote_not_mem_fillChars
      (Placeholder.quoteless_of_installers hurl hplain) htoken

/-- The installer that the install step starts is delivered under the same name. It is copied to the
publish folder and listed, as long as its path there is not too long for the system, or the
generated routine downloads it. -/
theorem launched_installer_delivered
    (hmarkers : ∀ line ∈ lines, Marker.isMarker line = false)
    (hdistinct : host.disk.IsDistinct) :
    (goal.level = .netInstallIncluded →
      (∃ content, ((Job.load (goal.runtime.resourceFolder.child known.fileName)).on host).1 =
        .ok content) →
      host.isFolder (goal.folder.child known.fileName) = false →
      (goal.folder.child known.fileName).toString.utf8ByteSize ≤ Disk.longestPath →
      ∃ synced body, ((edits goal lines).on host).1 = .ok synced ∧
        synced.filter (RunStep.launches runtimeFamily) = [RunStep.entry known.fileName] ∧
        Section.body? FilesSection.sectionName synced = some body ∧
        body.count (FileEntry.payload known.fileName) = 1) ∧
    (goal.level = .netInstallDownload →
      GeneratedCode.lacks lines Routine.prepareToInstall = true →
      ∃ synced address, ((edits goal lines).on host).1 = .ok synced ∧
        synced.filter (RunStep.launches runtimeFamily) = [RunStep.entry known.fileName] ∧
        GeneratedCode.downloadBlock address known.fileName <:+: synced ∧
        ('\'' ∉ goal.runtime.downloadUrl.toList → '\'' ∉ address.toList)) := by
  constructor
  · rintro hlevel ⟨content, hkept⟩ hvacant hshort
    exact copied_installer_listed hinstallers hfamily hdefault hmajor hsection hfolder hnames
      hlevel hmarkers hdistinct hkept hvacant hshort
  · intro hlevel hlacks
    exact downloaded_installer_named hinstallers hfamily hdefault hmajor hsection hfolder hnames
      hlevel hlacks

end Installer

/-! ## A kept installer -/

def eighth : RuntimeInstaller := desktopRuntime 8 "8.0.23"

def wideName : String := String.ofList (List.replicate 221 'a')

/-- A working folder with a kept installer and an empty folder to publish. -/
def keptHost : Host where
  disk := ⟨[(["w"], .folder), (["w", wideName], .folder), (["w", "dist"], .folder),
    (["w", "cache"], .folder), (["w", "cache", "runtime"], .folder),
    (["w", "cache", "runtime", eighth.fileName], .file [120])]⟩
  folder := ["w"]

def placedHost : Host :=
  { keptHost with disk := keptHost.disk.put ["w", "dist", eighth.fileName] (.file [120]) }

def distPath : Path := ⟨.current, ["dist"]⟩

/-- The folder to publish, by a path that goes in and out of the folder with the wide name. -/
def windingPath : Path :=
  ⟨.current, (List.replicate 18 [wideName, ".."]).flatten ++ ["dist"]⟩

def eighthGoal (level : BuildLevel) (folder : Path) : Goal := { major := 8, level, folder }

theorem toList_wideName : wideName.toList = List.replicate 221 'a' := String.toList_ofList

theorem isUsable_windingPath : windingPath.isUsable = true := by
  have hwide : '\x00' ∉ wideName.toList := by
    rw [toList_wideName, List.mem_replicate]
    simp
  have hnames : ∀ name ∈ windingPath.names, name = wideName ∨ name = ".." ∨ name = "dist" := by
    intro name hmem
    simp only [windingPath, List.mem_append, List.mem_flatten, List.mem_replicate] at hmem
    grind
  refine List.all_eq_true.2 fun name hmem => ?_
  rcases hnames name hmem with rfl | rfl | rfl
  · simpa using hwide
  · decide
  · decide

theorem launched_installer_delivered_kept :
    let lines := ["[Files]"]
    eighth ∈ defaultInstallers ∧
      lines.any (Section.isHeaderFor FilesSection.sectionName) = true ∧
      ((Job.isFolder distPath).on keptHost).1 = .ok true ∧
      keptHost.fileNames distPath = .ok [] ∧
      (∀ line ∈ lines, Marker.isMarker line = false) ∧ keptHost.disk.IsDistinct ∧
      (∃ synced body,
        ((edits (eighthGoal .netInstallIncluded distPath) lines).on keptHost).1 = .ok synced ∧
          synced.filter (RunStep.launches runtimeFamily) = [RunStep.entry eighth.fileName] ∧
          Section.body? FilesSection.sectionName synced = some body ∧
          body.count (FileEntry.payload eighth.fileName) = 1) ∧
      ∃ synced address,
        ((edits (eighthGoal .netInstallDownload distPath) lines).on keptHost).1 = .ok synced ∧
          synced.filter (RunStep.launches runtimeFamily) = [RunStep.entry eighth.fileName] ∧
          GeneratedCode.downloadBlock address eighth.fileName <:+: synced ∧
          ('\'' ∉ ({} : RuntimeSettings).downloadUrl.toList → '\'' ∉ address.toList) := by
  intro lines
  have hdefault : eighth ∈ defaultInstallers := by decide +kernel
  have hsection : lines.any (Section.isHeaderFor FilesSection.sectionName) = true := by
    decide +kernel
  have hfolder : ((Job.isFolder distPath).on keptHost).1 = .ok true := by decide +kernel
  have hnames : keptHost.fileNames distPath = .ok [] := by decide +kernel
  have hmarkers : ∀ line ∈ lines, Marker.isMarker line = false := by decide +kernel
  have hdistinct : keptHost.disk.IsDistinct := by decide +kernel
  refine ⟨hdefault, hsection, hfolder, hnames, hmarkers, hdistinct, ?_, ?_⟩
  · have hdelivered := @launched_installer_delivered (eighthGoal .netInstallIncluded distPath)
      keptHost eighth lines [] rfl rfl hdefault rfl hsection hfolder hnames hmarkers hdistinct
    exact hdelivered.1 rfl ⟨[120], by decide +kernel⟩ (by decide +kernel) (by decide +kernel)
  · have hdelivered := @launched_installer_delivered (eighthGoal .netInstallDownload distPath)
      keptHost eighth lines [] rfl rfl hdefault rfl hsection hfolder hnames hmarkers hdistinct
    exact hdelivered.2 rfl (by decide +kernel)

/-- A path to the publish folder that is short enough itself does not leave room for the installer.
It is started, and neither listed nor downloaded. -/
theorem launched_installer_lost_on_winding_path :
    let lines := ["[Files]"]
    let copying := eighthGoal .netInstallIncluded windingPath
    let loading := eighthGoal .netInstallDownload windingPath
    eighth ∈ defaultInstallers ∧
      lines.any (Section.isHeaderFor FilesSection.sectionName) = true ∧
      (∀ line ∈ lines, Marker.isMarker line = false) ∧
      (keptHost.disk.IsDistinct ∧ ((Job.isFolder windingPath).on keptHost).1 = .ok true ∧
        ((Job.load (copying.runtime.resourceFolder.child eighth.fileName)).on keptHost).1 =
          .ok [120] ∧
        keptHost.isFolder (windingPath.child eighth.fileName) = false ∧
        ¬ ∃ synced body, ((edits copying lines).on keptHost).1 = .ok synced ∧
          Section.body? FilesSection.sectionName synced = some body ∧
          body.count (FileEntry.payload eighth.fileName) = 1) ∧
      placedHost.disk.IsDistinct ∧ ((Job.isFolder windingPath).on placedHost).1 = .ok true ∧
        GeneratedCode.lacks lines Routine.prepareToInstall = true ∧
        ¬ ∃ synced, ((edits loading lines).on placedHost).1 = .ok synced := by
  intro lines copying loading
  have hdefault : eighth ∈ defaultInstallers := by decide +kernel
  have hsection : lines.any (Section.isHeaderFor FilesSection.sectionName) = true := by
    decide +kernel
  have hmarkers : ∀ line ∈ lines, Marker.isMarker line = false := by decide +kernel
  refine ⟨hdefault, hsection, hmarkers, ?_, ?_⟩
  · have hstatus : keptHost.status windingPath = .ok (some .folder) := by decide +kernel
    have hfolder : ((Job.isFolder windingPath).on keptHost).1 = .ok true := by
      rw [on_isFolder isUsable_windingPath hstatus]
    have hnames : keptHost.fileNames windingPath = .ok [] := by decide +kernel
    have hkept : ((Job.load (copying.runtime.resourceFolder.child eighth.fileName)).on keptHost).1 =
        .ok [120] := by decide +kernel
    have hlong : Disk.longestPath < (windingPath.child eighth.fileName).toString.utf8ByteSize := by
      decide +kernel
    refine ⟨by decide +kernel, hfolder, hkept, by decide +kernel, ?_⟩
    rintro ⟨synced, body, hsynced, hbody, hcount⟩
    obtain ⟨synced', body', hsynced', -, hbody', hcount'⟩ :=
      @uncopied_installer_unlisted copying keptHost eighth lines [] [120] rfl rfl hdefault rfl
        hsection hfolder hnames rfl hmarkers hkept hlong
    rw [hsynced, Except.ok.injEq] at hsynced'
    rw [← hsynced', hbody, Option.some.injEq] at hbody'
    rw [← hbody', hcount] at hcount'
    cases hcount'
  · have hstatus : placedHost.status windingPath = .ok (some .folder) := by decide +kernel
    have hfolder : ((Job.isFolder windingPath).on placedHost).1 = .ok true := by
      rw [on_isFolder isUsable_windingPath hstatus]
    have hfault : (placedHost.fileNames windingPath).toOption = none := by decide +kernel
    refine ⟨by decide +kernel, hfolder, by decide +kernel, ?_⟩
    rintro ⟨synced, hsynced⟩
    cases hlisted : placedHost.fileNames windingPath with
    | ok names =>
        rw [hlisted] at hfault
        cases hfault
    | error fault =>
        have hstopped := @edits_of_unlisted loading placedHost lines fault (by decide) hfolder
          hlisted hsection
        rw [hstopped] at hsynced
        cases hsynced

end SetupForge.Sync

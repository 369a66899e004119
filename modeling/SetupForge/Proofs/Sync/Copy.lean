import SetupForge.Proofs.Disk.Contents
import SetupForge.Proofs.Sync.Work

/-! # The copy of the installer

The sync copies an installer that is kept into the publish folder, where it is listed with the other
files. Nothing is copied where the path of the installer in the publish folder is too long for the
system, and the sync only reports it.
-/

namespace SetupForge

/-! ## Copies -/

namespace Job

variable {host : Host} {source target : Path} {location : Location} {content : Bytes}

/-- A copy that goes to a file leaves the content there: it is written, or it is there already. -/
theorem on_copy (husable : source.isUsable = true)
    (hread : host.disk.read host.folder source = .ok content)
    (htarget : target.isUsable = true) (hfolder : host.isFolder target = false)
    (hlocate : host.disk.locate host.folder target = .ok location)
    (hparent : host.disk.node? location.dropLast = some .folder) :
    ((copy source target).on host = (.error (.sameFile source target), host) ∧
      host.disk.node? location = some (.file content)) ∨
    (copy source target).on host =
      (.ok ⟨⟩, host.withDisk (host.disk.put location (.file content))) := by
  have hnode : host.disk.node? location ≠ some .folder := by
    intro hnode
    simp [Host.isFolder, Disk.isFolder, Disk.lookup, hlocate, hnode] at hfolder
  have hwrite : host.disk.write host.folder target content =
      .ok (host.disk.put location (.file content)) := by
    rw [Disk.write, Disk.writable_of_locate hlocate hnode hparent]
  have hstore : (do store target (← load source) : Job Unit).on host =
      (.ok ⟨⟩, host.withDisk (host.disk.put location (.file content))) := by
    rw [on_bind, on_load_of_read husable hread]
    dsimp only
    rw [on_store_eq, if_pos htarget, hwrite]
  obtain ⟨old, hold, hsource⟩ := Disk.locate_of_read hread
  rw [copy, on_bind, on_get]
  dsimp only
  rw [hfolder, if_neg (by simp), usable, if_pos husable, pure_bind, usable, if_pos htarget,
    pure_bind, hold, hlocate]
  dsimp only
  by_cases hsame : old = location
  · subst hsame
    rw [if_pos (by simp [hsource])]
    exact Or.inl ⟨rfl, hsource⟩
  · rw [if_neg (by simp [hsame])]
    exact Or.inr hstore

theorem on_copy_of_long (husable : source.isUsable = true)
    (hread : host.disk.read host.folder source = .ok content)
    (htarget : target.isUsable = true)
    (hlong : Disk.longestPath < target.toString.utf8ByteSize) :
    (copy source target).on host =
      (.error (.access { cause := .nameTooLong, path := target }), host) := by
  have hlocate : host.disk.locate host.folder target = .error .nameTooLong := by
    rw [Disk.locate, if_pos hlong]
  have hfolder : host.isFolder target = false := by
    rw [Host.isFolder, Disk.isFolder, Disk.lookup, hlocate]
    rfl
  have hwrite : host.disk.write host.folder target content =
      .error { cause := .nameTooLong, path := target } := by
    rw [Disk.write, Disk.writable, hlocate]
  obtain ⟨old, hold, -⟩ := Disk.locate_of_read hread
  rw [copy, on_bind, on_get]
  dsimp only
  rw [hfolder, if_neg (by simp), usable, if_pos husable, pure_bind, usable, if_pos htarget,
    pure_bind, hold, hlocate]
  dsimp only
  rw [on_bind, on_load_of_read husable hread]
  dsimp only
  rw [on_store_eq, if_pos htarget, hwrite]

end Job

theorem Download.on_installer_of_kept {runtime : RuntimeSettings} {major : Int}
    {known : RuntimeInstaller} {host : Host} {content : Bytes}
    (hknown : runtime.installer? major = some known) (hname : Path.IsFileName known.fileName)
    (husable : (runtime.resourceFolder.child known.fileName).isUsable = true)
    (hread : host.disk.read host.folder (runtime.resourceFolder.child known.fileName) =
      .ok content) :
    ∃ said, (Download.installer runtime major).on host =
      (.ok (runtime.resourceFolder.child known.fileName), { host with said }) := by
  rw [Download.installer, hknown]
  dsimp only
  rw [hname.join, Job.on_bind, Job.on_hasPath_of_read husable hread]
  exact ⟨_, rfl⟩

/-! ## Usual installers -/

theorem installer?_of_mem_default {runtime : RuntimeSettings}
    (h : runtime.installers = defaultInstallers) {known : RuntimeInstaller}
    (hknown : known ∈ defaultInstallers) : runtime.installer? known.major = some known := by
  have hdefault : ∀ known ∈ defaultInstallers,
      ({} : RuntimeSettings).installer? known.major = some known := by decide
  rw [RuntimeSettings.installer?, h]
  exact hdefault known hknown

/-- The names of the installers are short enough for a file and name the family. -/
theorem fits_of_mem_default : ∀ known ∈ defaultInstallers,
    known.fileName.utf8ByteSize ≤ Disk.longestName ∧ '\x00' ∉ known.fileName.toList ∧
      known.fileName.isEmpty = false ∧
        FileEntry.isInstaller runtimeFamily known.fileName = true := by decide

namespace Sync

open Job

variable {goal : Goal} {host after : Host} {known : RuntimeInstaller}
variable {names : List String} {content : Bytes} {location : Location}

/-! ## The copy of the installer -/

section Copy

variable (hknown : goal.runtime.installer? goal.major = some known)
variable (hname : Path.IsFileName known.fileName)
variable (hkept : ((Job.load (goal.runtime.resourceFolder.child known.fileName)).on host).1 =
  .ok content)

include hknown hname hkept

theorem on_copyInstaller (htarget : (goal.folder.child known.fileName).isUsable = true)
    (hvacant : host.isFolder (goal.folder.child known.fileName) = false)
    (hlocate : host.disk.locate host.folder (goal.folder.child known.fileName) = .ok location)
    (hparent : host.disk.node? location.dropLast = some .folder) :
    ∃ after, (copyInstaller goal).on host = (.ok (), after) ∧ after.folder = host.folder ∧
      (after.disk = host.disk ∨ after.disk = host.disk.put location (.file content)) ∧
      after.disk.node? location = some (.file content) := by
  have hne : location ≠ [] := by
    rintro rfl
    simp [Host.isFolder, Disk.isFolder, Disk.lookup, hlocate] at hvacant
  obtain ⟨husable, hread⟩ := read_of_on_load hkept
  obtain ⟨said, hinstaller⟩ := Download.on_installer_of_kept hknown hname husable hread
  have hcopied := @on_copy { host with said } _ _ location content husable hread htarget hvacant
    hlocate hparent
  unfold copyInstaller
  rw [on_bind, on_attempt, on_bind, hinstaller]
  dsimp only
  rw [Path.fileName_child, on_bind]
  rcases hcopied with ⟨hcopy, hnode⟩ | hcopy
  · rw [hcopy]
    exact ⟨_, rfl, rfl, Or.inl rfl, hnode⟩
  · rw [hcopy]
    exact ⟨_, rfl, rfl, Or.inr rfl, Disk.node?_put _ hne⟩

theorem on_copyInstaller_of_long (htarget : (goal.folder.child known.fileName).isUsable = true)
    (hlong : Disk.longestPath < (goal.folder.child known.fileName).toString.utf8ByteSize) :
    ∃ said, (copyInstaller goal).on host = (.ok (), { host with said }) := by
  obtain ⟨husable, hread⟩ := read_of_on_load hkept
  obtain ⟨said, hinstaller⟩ := Download.on_installer_of_kept hknown hname husable hread
  have hcopy := @on_copy_of_long { host with said } _ _ content husable hread htarget hlong
  unfold copyInstaller
  rw [on_bind, on_attempt, on_bind, hinstaller]
  dsimp only
  rw [Path.fileName_child, on_bind, hcopy]
  exact ⟨_, rfl⟩

end Copy

/-! ## The list of the folder -/

theorem fileNames_of_copied (hknown : goal.runtime.installer? goal.major = some known)
    (hdefault : known ∈ defaultInstallers) (hdistinct : host.disk.IsDistinct)
    (husable : goal.folder.isUsable = true)
    (hstatus : host.status goal.folder = .ok (some .folder))
    (hnames : host.fileNames goal.folder = .ok names)
    (hkept : ((Job.load (goal.runtime.resourceFolder.child known.fileName)).on host).1 =
      .ok content)
    (hvacant : host.isFolder (goal.folder.child known.fileName) = false)
    (hshort : (goal.folder.child known.fileName).toString.utf8ByteSize ≤ Disk.longestPath) :
    ∃ after listed, (copyInstaller goal).on host = (.ok (), after) ∧
      after.fileNames goal.folder = .ok listed ∧ known.fileName ∈ listed ∧ listed.Nodup := by
  obtain ⟨hsize, hzero, -, -⟩ := fits_of_mem_default known hdefault
  have hname := isFileName_of_mem_default known hdefault
  have htarget : (goal.folder.child known.fileName).isUsable = true := by
    rw [Path.isUsable_child, husable]
    simpa using hzero
  obtain ⟨location, hlocate, hnode⟩ := Host.locate_of_status hstatus
  have hplace := Disk.locate_child hlocate hnode hsize hshort
  rw [Disk.enter, if_neg hname.2] at hplace
  have hfree : host.disk.node? (location ++ [known.fileName]) ≠ some .folder := by
    intro hfolder
    simp [Host.isFolder, Disk.isFolder, Disk.lookup, hplace, hfolder] at hvacant
  obtain ⟨after, hcopy, hstays, hdisk, hfile⟩ := on_copyInstaller hknown hname hkept htarget
    hvacant hplace (by rw [List.dropLast_concat, hnode])
  obtain ⟨listed, hlisted⟩ :=
    Host.listed_of_put hdistinct hlocate hnames hshort hfree hstays hdisk hfile
  exact ⟨after, listed, hcopy, hlisted⟩

end Sync

end SetupForge

import SetupForge.Proofs.Script.FilesReread
import SetupForge.Proofs.Sync.Rebuilding
import SetupForge.Proofs.Sync.Report

/-! # The files section of a script on disk

The sync of a files section reads a script, and writes it if the body of the section changed. What
it writes, the next sync reads: it finds the section as it was rebuilt and leaves the script alone,
unless an entry or the empty line on top was changed on the way.
-/

namespace SetupForge.Sync

open Job

variable {host : Host} {folder path : Path} {names lines : List String} {bytes : Bytes}

/-- A host on which a script can be read and a folder lists some names. -/
structure Publishes (host : Host) (folder path : Path) (names : List String) (bytes : Bytes) :
    Prop where
  isTree : host.disk.IsTree
  isUsable : path.isUsable = true
  read : host.disk.read host.folder path = .ok bytes
  found : ((Job.isFolder folder).on host).1 = .ok true
  listed : host.fileNames folder = .ok names

/-- Whether the entries of some files are another body of the section than the one that is there. -/
def changesFiles (names lines : List String) : Bool :=
  (Section.body? FilesSection.sectionName lines).any fun before =>
    "" :: FilesSection.entries runtimeFamily names != before

/-- The bytes of a script after the sync of its files section. -/
def refiled (names : List String) (bytes : Bytes) : Bytes :=
  if changesFiles names (Script.ofBytes bytes).lines then
    Script.toBytes { Script.ofBytes bytes with
      lines := FilesSection.rebuild runtimeFamily names (Script.ofBytes bytes).lines }
  else bytes

theorem on_files_default (hpublishes : Publishes host folder path names bytes)
    (lines : List String) :
    ∃ said, (files { folder } lines).on host =
      (.ok (FilesSection.rebuild runtimeFamily names lines, changesFiles names lines),
        { host with said }) := by
  have hready : (prepareFolder { folder }).on host = (.ok true, host) :=
    on_prepareFolder_of_not_copied (fun h => nomatch h) hpublishes.found
  rw [files, on_bind, on_editFiles_of_ready hready, changesFiles]
  cases hbody : Section.body? FilesSection.sectionName lines with
  | none =>
      obtain ⟨said, hfill⟩ := @on_fillFiles_of_no_section { folder } lines hbody host
      rw [hfill, rebuild_of_no_section hbody]
      exact ⟨said, rfl⟩
  | some before =>
      obtain ⟨said, hfill⟩ := @on_fillFiles_of_listed { folder } host lines names before hbody
        hpublishes.listed
      rw [hfill]
      exact ⟨said, rfl⟩

theorem Publishes.congr {after : Host} (h : Publishes host folder path names bytes)
    (hfolder : after.folder = host.folder) (hdisk : after.disk = host.disk) :
    Publishes after folder path names bytes where
  isTree := hdisk ▸ h.isTree
  isUsable := h.isUsable
  read := by rw [hfolder, hdisk, h.read]
  found := (on_isFolder_congr hfolder hdisk folder).trans h.found
  listed := (Host.fileNames_congr hfolder hdisk folder).trans h.listed

theorem Publishes.written (h : Publishes host folder path names bytes) (new : Bytes) :
    ∃ disk, host.disk.write host.folder path new = .ok disk ∧
      ∀ after : Host, after.folder = host.folder → after.disk = disk →
        Publishes after folder path names new := by
  obtain ⟨location, hlocate, hfile⟩ := Disk.locate_of_read h.read
  have hfree : host.disk.node? location ≠ some .folder := by
    rw [hfile]
    simp
  have hwrite : host.disk.write host.folder path new =
      .ok (host.disk.put location (.file new)) := by
    rw [Disk.write, Disk.writable_of_locate hlocate hfree (h.isTree location _ hfile)]
  refine ⟨_, hwrite, fun after hfolder hdisk => ?_⟩
  obtain ⟨husable, hstatus⟩ := status_of_on_isFolder h.found
  obtain ⟨place, hplace, hnode⟩ := Host.locate_of_status hstatus
  have hthere : after.status folder = .ok (some .folder) := by
    rw [Host.status, hfolder, hdisk, Disk.locate_of_folders (Disk.folder_put hfree _) hplace]
    exact congrArg Except.ok (Disk.folder_put hfree _ hnode)
  refine ⟨?_, h.isUsable, ?_, ?_, Host.fileNames_put hfile h.listed hfolder hdisk⟩
  · rw [hdisk]
    exact Disk.isTree_of_write h.isTree hwrite
  · rw [hfolder, hdisk]
    exact Disk.read_write hwrite h.isTree
  · rw [on_isFolder husable hthere]

/-- A sync reports whether it changes the body of the section, and leaves what it found but for the
bytes of the script. -/
theorem on_packageFiles (h : Publishes host folder path names bytes) :
    ∃ after, (packageFiles folder path).on host =
        (.ok (changesFiles names (Script.ofBytes bytes).lines), after) ∧
      Publishes after folder path names (refiled names bytes) := by
  obtain ⟨said, hfiles⟩ := on_files_default h (Script.ofBytes bytes).lines
  rw [packageFiles, on_bind, on_loadScript h.isUsable h.read]
  dsimp only
  rw [on_bind, hfiles, refiled]
  dsimp only
  have hsaid : Publishes { host with said } folder path names bytes := h.congr rfl rfl
  cases hchanged : changesFiles names (Script.ofBytes bytes).lines with
  | false => exact ⟨_, rfl, hsaid⟩
  | true =>
      obtain ⟨disk, hwrite, hafter⟩ := hsaid.written (Script.toBytes { Script.ofBytes bytes with
        lines := FilesSection.rebuild runtimeFamily names (Script.ofBytes bytes).lines })
      rw [if_pos rfl, saveScript, on_bind, on_store hsaid.isUsable hwrite]
      exact ⟨_, rfl, hafter _ rfl rfl⟩

/-! ## The second sync -/

theorem refiled_of_unchanged (h : changesFiles names (Script.ofBytes bytes).lines = false) :
    refiled names bytes = bytes := by
  rw [refiled, h, if_neg (by simp)]

theorem changesFiles_eq_false_iff :
    changesFiles names lines = false ↔
      ∀ body, Section.body? FilesSection.sectionName lines = some body →
        body = "" :: FilesSection.entries runtimeFamily names := by
  rw [changesFiles]
  cases Section.body? FilesSection.sectionName lines with
  | none => simp
  | some before =>
      simp only [Option.any_some, bne_eq_false_iff_eq, Option.some.injEq, forall_eq']
      exact eq_comm

/-- What was written is left alone exactly if the rebuilt section is read back. -/
theorem changesFiles_refiled_iff
    (hchanged : changesFiles names (Script.ofBytes bytes).lines = true)
    (hread : (Script.ofBytes bytes).encoding = .windows1252 →
      (Script.ofBytes (refiled names bytes)).lines =
        (Script.ofText (Windows1252.decode (refiled names bytes))).lines) :
    changesFiles names (Script.ofBytes (refiled names bytes)).lines = false ↔
      (∀ entry ∈ FilesSection.entries runtimeFamily names,
        (Script.ofBytes bytes).encoding.keeps entry = true) ∧
      (FilesSection.entries runtimeFamily names ≠ [] ∨
        FilesSection.isFollowed (Script.ofBytes bytes).lines = true) := by
  have hrefiled : refiled names bytes = Script.toBytes { Script.ofBytes bytes with
      lines := FilesSection.rebuild runtimeFamily names (Script.ofBytes bytes).lines } := by
    rw [refiled, hchanged, if_pos rfl]
  have hsection : (Script.ofBytes bytes).lines.any
      (Section.isHeaderFor FilesSection.sectionName) = true := by
    obtain ⟨before, hbefore, -⟩ := (Option.any_eq_true _ _).1 hchanged
    exact FilesSection.any_isHeaderFor_of_body? hbefore
  rw [hrefiled] at hread ⊢
  rw [← FilesSection.body?_ofBytes_toBytes_iff hsection hread, changesFiles_eq_false_iff]
  have hsome := FilesSection.isSome_body? (FilesSection.any_isHeaderFor_reread hsection hread)
  obtain ⟨body, hbody⟩ := Option.isSome_iff_exists.1 hsome
  rw [hbody]
  simp

/-- A second sync of the files section against the same folder returns that nothing changed, and
leaves the script as it is, exactly if the script has no section after the first one or its body is
read back as it was rebuilt. For a script in UTF-8, and for one in Windows-1252 whose new bytes are
read in it, this means that the first sync had nothing to change, or that the encoding keeps every
entry and the empty line on top of them does not end the script. -/
theorem packageFiles_again_iff (h : Publishes host folder path names bytes) :
    ∃ first middle now second after later,
      (packageFiles folder path).on host = (.ok first, middle) ∧
      middle.disk.read middle.folder path = .ok now ∧
      (packageFiles folder path).on middle = (.ok second, after) ∧
      after.disk.read after.folder path = .ok later ∧
      (second = false ∧ later = now ↔
        ∀ body, Section.body? FilesSection.sectionName (Script.ofBytes now).lines = some body →
          body = "" :: FilesSection.entries runtimeFamily names) ∧
      (((Script.ofBytes bytes).encoding = .windows1252 →
          (Script.ofBytes now).lines = (Script.ofText (Windows1252.decode now)).lines) →
        (second = false ∧ later = now ↔
          first = false ∨
            (∀ entry ∈ FilesSection.entries runtimeFamily names,
              (Script.ofBytes bytes).encoding.keeps entry = true) ∧
            (FilesSection.entries runtimeFamily names ≠ [] ∨
              FilesSection.isFollowed (Script.ofBytes bytes).lines = true))) := by
  obtain ⟨middle, hfirst, hmiddle⟩ := on_packageFiles h
  obtain ⟨after, hsecond, hafter⟩ := on_packageFiles hmiddle
  have hidle : changesFiles names (Script.ofBytes (refiled names bytes)).lines = false ∧
      refiled names (refiled names bytes) = refiled names bytes ↔
        changesFiles names (Script.ofBytes (refiled names bytes)).lines = false :=
    and_iff_left_of_imp refiled_of_unchanged
  refine ⟨_, middle, _, _, after, _, hfirst, hmiddle.read, hsecond, hafter.read, ?_, ?_⟩
  · rw [hidle, changesFiles_eq_false_iff]
  · intro hread
    rw [hidle]
    cases hchanged : changesFiles names (Script.ofBytes bytes).lines with
    | false => simp [refiled_of_unchanged hchanged, hchanged]
    | true => simp only [changesFiles_refiled_iff hchanged hread, Bool.true_eq_false, false_or]

/-- A folder with a script and a folder to publish, in which two of three files are packaged. -/
def mixedPublish (script : Bytes) : Host where
  disk := ⟨[(["w"], .folder), (["w", "publish"], .folder), (["w", "setup.iss"], .file script),
    (["w", "publish", "notes.txt"], .file []), (["w", "publish", "é.png"], .file [0]),
    (["w", "publish", "App.exe"], .file [77, 90])]⟩
  folder := ["w"]

def mixedNames : List String := ["notes.txt", "é.png", "App.exe"]

theorem publishes_mixedPublish (script : Bytes) :
    Publishes (mixedPublish script) emptyGoal.folder setupPath mixedNames script where
  isTree := Disk.isTree_of_nodes fun entry hentry => by
    simp only [mixedPublish, List.mem_cons, List.not_mem_nil, or_false] at hentry
    rcases hentry with rfl | rfl | rfl | rfl | rfl | rfl <;> rfl
  isUsable := rfl
  read := rfl
  found := by rw [on_isFolder rfl rfl]
  listed := rfl

/-- An older body at the end of the script is replaced by the entries of two files, which are read
back. -/
theorem packageFiles_again_iff_mixed :
    let bytes := Utf8.encode "[Setup]\r\n[Files]\r\nold".toList
    Publishes (mixedPublish bytes) emptyGoal.folder setupPath mixedNames bytes ∧
      FilesSection.entries runtimeFamily mixedNames ≠ [] ∧
      ∃ middle now after,
        (packageFiles emptyGoal.folder setupPath).on (mixedPublish bytes) = (.ok true, middle) ∧
        middle.disk.read middle.folder setupPath = .ok now ∧
        (packageFiles emptyGoal.folder setupPath).on middle = (.ok false, after) ∧
        after.disk.read after.folder setupPath = .ok now := by
  intro bytes
  have hpublishes := publishes_mixedPublish bytes
  have hpackaged : FilesSection.entries runtimeFamily mixedNames ≠ [] := by
    refine List.ne_nil_of_mem (List.mem_filterMap.2 ⟨"App.exe", ?_, rfl⟩)
    exact FilesSection.mem_sorted.2 (by decide)
  have hencoding : (Script.ofBytes bytes).encoding = .utf8 := by decide +kernel
  have hkept : ∀ entry ∈ FilesSection.entries runtimeFamily mixedNames,
      (Script.ofBytes bytes).encoding.keeps entry = true := by
    have hall : ∀ name ∈ mixedNames, ∀ entry ∈ FileEntry.of? runtimeFamily name,
        Encoding.utf8.keeps entry = true := by decide +kernel
    intro entry hentry
    obtain ⟨name, hname, hof⟩ := List.mem_filterMap.1 hentry
    exact hencoding ▸ hall name (FilesSection.mem_sorted.1 hname) entry hof
  obtain ⟨first, middle, now, second, after, later, hfirst, hnow, hsecond, hlater, -, hiff⟩ :=
    packageFiles_again_iff hpublishes
  obtain ⟨rfl, rfl⟩ : second = false ∧ later = now := by
    rw [hiff fun hforeign => by rw [hencoding] at hforeign; cases hforeign]
    exact Or.inr ⟨hkept, Or.inl hpackaged⟩
  have hchanged : first = true := by
    have hbody : Section.body? FilesSection.sectionName (Script.ofBytes bytes).lines =
        some ["old"] := by decide +kernel
    obtain ⟨_, hrun, -⟩ := on_packageFiles hpublishes
    rw [hfirst, changesFiles, hbody] at hrun
    exact Except.ok.inj (congrArg Prod.fst hrun)
  exact ⟨hpublishes, hpackaged, middle, later, after, hchanged ▸ hfirst, hnow, hsecond, hlater⟩

theorem publishes_emptyPublish (script : Bytes) :
    Publishes (emptyPublish script) emptyGoal.folder setupPath [] script where
  isTree := isTree_emptyPublish script
  isUsable := rfl
  read := rfl
  found := by rw [on_isFolder rfl rfl]
  listed := rfl

/-- The empty line on top of a section without entries at the end of a script is written as the line
break of the header, so that each sync adds it anew. -/
theorem emptySection_changed_again :
    let bytes := Utf8.encode "[Files]\r\n".toList
    Publishes (emptyPublish bytes) emptyGoal.folder setupPath [] bytes ∧
      ∃ middle after,
        (packageFiles emptyGoal.folder setupPath).on (emptyPublish bytes) = (.ok true, middle) ∧
        (packageFiles emptyGoal.folder setupPath).on middle = (.ok true, after) := by
  intro bytes
  have hpublishes := publishes_emptyPublish bytes
  have hlines : (Script.ofBytes bytes).lines = ["[Files]"] := by decide +kernel
  have hbody : Section.body? FilesSection.sectionName ["[Files]"] = some [] := by decide +kernel
  have hchanged : changesFiles [] (Script.ofBytes bytes).lines = true := by
    rw [changesFiles, hlines, hbody, FilesSection.entries_nil]
    rfl
  have hrefiled : refiled [] bytes = bytes := by
    rw [refiled, hchanged, if_pos rfl, hlines, rebuild_emptySection]
    decide +kernel
  obtain ⟨middle, hfirst, hmiddle⟩ := on_packageFiles hpublishes
  rw [hrefiled] at hmiddle
  obtain ⟨after, hsecond, -⟩ := on_packageFiles hmiddle
  rw [hchanged] at hfirst hsecond
  exact ⟨hpublishes, middle, after, hfirst, hsecond⟩

end SetupForge.Sync

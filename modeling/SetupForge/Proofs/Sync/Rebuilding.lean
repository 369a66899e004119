import SetupForge.Proofs.Disk.Listing
import SetupForge.Proofs.Script.FilesOrder
import SetupForge.Proofs.Sync.Delivery

/-! # The files section in place

A rebuild edits the lines in place: the section is cleared before the folder is listed. It ends in
one of four ways. The folder is missing or the copy of the installer breaks off, and the lines are
as before; there is no section, and they are too; the folder is listed, and the entries of its
files are the new body; or it cannot be listed, and the section stays cleared. A rebuild that comes
to its end reports a change exactly if the lines changed, and has nothing to change when it finds
the same files again.
-/

namespace SetupForge.Sync

open Job

variable {goal : Goal} {host ready after : Host} {lines names before : List String}

/-! ## The folder -/

theorem on_isFolder_congr (hfolder : after.folder = host.folder) (hdisk : after.disk = host.disk)
    (path : Path) : ((Job.isFolder path).on after).1 = ((Job.isFolder path).on host).1 := by
  have hstatus : after.status path = host.status path := by
    rw [Host.status, Host.status, hfolder, hdisk]
  rw [Job.isFolder, Job.status]
  split
  · rw [bind_assoc, on_bind, on_bind, on_get, on_get]
    dsimp only
    rw [hstatus]
    cases host.status path <;> rfl
  · rfl

theorem on_prepareFolder (goal : Goal) (host : Host) :
    (prepareFolder goal).on host =
      match ((Job.isFolder goal.folder).on host).1 with
      | .error failure => (.error failure, host)
      | .ok false =>
          (.ok false, ((Job.note (.error "FILES"
            s!"Specified input folder not found: {goal.folder}")).on host).2)
      | .ok true =>
          if goal.level = .netInstallIncluded then
            match (copyInstaller goal).on host with
            | (.ok (), after) => (.ok true, after)
            | (.error failure, after) => (.error failure, after)
          else (.ok true, host) := by
  have hhost := on_isFolder_snd goal.folder host
  rw [prepareFolder, on_bind]
  cases hfound : (Job.isFolder goal.folder).on host with
  | mk found same =>
      rw [hfound] at hhost
      obtain rfl : same = host := hhost
      rcases found with failure | _ | _
      · rfl
      · rfl
      · dsimp only
        rw [if_pos rfl]
        split
        · rw [on_bind]
          rcases (copyInstaller goal).on same with ⟨_ | _, after⟩ <;> rfl
        · rfl

theorem on_prepareFolder_of_not_copied (hlevel : goal.level ≠ .netInstallIncluded)
    (hfound : ((Job.isFolder goal.folder).on host).1 = .ok true) :
    (prepareFolder goal).on host = (.ok true, host) := by
  rw [on_prepareFolder, hfound]
  dsimp only
  rw [if_neg hlevel]

theorem prepareFolder_missing (h : (prepareFolder goal).on host = (.ok false, after)) :
    ((prepareFolder goal).on after).1 = .ok false := by
  rw [on_prepareFolder] at h
  split at h
  · cases h
  · rename_i hmissing
    rw [Prod.mk.injEq] at h
    have hagain : ((Job.isFolder goal.folder).on after).1 = .ok false := by
      rw [← h.2]
      refine (on_isFolder_congr ?_ ?_ goal.folder).trans hmissing <;> rfl
    rw [on_prepareFolder, hagain]
  · split at h
    · split at h <;> cases h
    · cases h

/-- Whether a folder is there once the installer was dealt with, and lists some names then. -/
def Goal.Lists (goal : Goal) (host : Host) (names : List String) : Prop :=
  ∃ ready, (prepareFolder goal).on host = (.ok true, ready) ∧
    ready.fileNames goal.folder = .ok names

/-- Whether a folder is there once the installer was dealt with, and holds something then, in the
order in which the system gives it. -/
def Goal.Holds (goal : Goal) (host : Host) (children : List (String × Node)) : Prop :=
  ∃ ready location, (prepareFolder goal).on host = (.ok true, ready) ∧
    ready.disk.locate ready.folder goal.folder = .ok location ∧
    ready.disk.children location = children

/-! ## The rebuild -/

theorem on_fillFiles_of_no_section
    (hbody : Section.body? FilesSection.sectionName lines = none) (host : Host) :
    ∃ said, (fillFiles goal lines).on host = (.ok ⟨lines, .ok false⟩, { host with said }) := by
  unfold fillFiles
  rw [hbody]
  exact ⟨_, rfl⟩

theorem on_fillFiles_of_listed
    (hbody : Section.body? FilesSection.sectionName lines = some before)
    (hnames : host.fileNames goal.folder = .ok names) :
    ∃ said, (fillFiles goal lines).on host =
      (.ok ⟨FilesSection.rebuild goal.runtime.family names lines,
        .ok ("" :: FilesSection.entries goal.runtime.family names != before)⟩,
        { host with said }) := by
  have hrebuilt := @FilesSection.body?_rebuild goal.runtime.family names lines
    (FilesSection.any_isHeaderFor_of_body? hbody)
  unfold fillFiles
  rw [hbody]
  dsimp only
  rw [on_bind, on_attempt, on_fileNames, hnames]
  dsimp only
  rw [hrebuilt]
  exact ⟨_, rfl⟩

/-- A folder that cannot be listed leaves the section cleared. -/
theorem on_fillFiles_of_unlisted {fault : AccessFault}
    (hbody : Section.body? FilesSection.sectionName lines = some before)
    (hfault : host.fileNames goal.folder = .error fault) :
    (fillFiles goal lines).on host =
      (.ok ⟨FilesSection.rebuild goal.runtime.family [] lines, .error (.access fault)⟩, host) := by
  unfold fillFiles
  rw [hbody]
  dsimp only
  rw [on_bind, on_attempt, on_fileNames, hfault]
  rfl

theorem on_editFiles_of_ready (hready : (prepareFolder goal).on host = (.ok true, ready)) :
    (editFiles goal lines).on host = (fillFiles goal lines).on ready := by
  rw [on_editFiles, hready]

theorem Goal.Lists.on_editFiles (hlists : goal.Lists host names)
    (hbody : Section.body? FilesSection.sectionName lines = some before) :
    ∃ after, (editFiles goal lines).on host =
      (.ok ⟨FilesSection.rebuild goal.runtime.family names lines,
        .ok ("" :: FilesSection.entries goal.runtime.family names != before)⟩, after) := by
  obtain ⟨ready, hready, hnames⟩ := hlists
  obtain ⟨said, hfill⟩ := @on_fillFiles_of_listed goal ready lines names before hbody hnames
  exact ⟨_, (on_editFiles_of_ready hready).trans hfill⟩

theorem on_editFiles_of_unlisted {fault : AccessFault}
    (hready : (prepareFolder goal).on host = (.ok true, ready))
    (hfault : ready.fileNames goal.folder = .error fault)
    (hbody : Section.body? FilesSection.sectionName lines = some before) :
    (editFiles goal lines).on host =
      (.ok ⟨FilesSection.rebuild goal.runtime.family [] lines, .error (.access fault)⟩, ready) :=
  (on_editFiles_of_ready hready).trans (on_fillFiles_of_unlisted hbody hfault)

/-! ## The exact rebuild -/

/-- Whether no path into the folder is too long for the system. -/
def Goal.Reaches (goal : Goal) (children : List (String × Node)) : Prop :=
  ∀ child ∈ children, (goal.folder.child child.1).toString.utf8ByteSize ≤ Disk.longestPath

instance (goal : Goal) (children : List (String × Node)) : Decidable (goal.Reaches children) :=
  inferInstanceAs (Decidable (∀ child ∈ children,
    (goal.folder.child child.1).toString.utf8ByteSize ≤ Disk.longestPath))

section Exact

variable {above below : List String} {head : String} {children : List (String × Node)}

theorem Goal.Holds.lists (hholds : goal.Holds host children) (hreaches : goal.Reaches children) :
    goal.Lists host (children.filterMap Host.fileName?) := by
  obtain ⟨ready, location, hready, hlocate, rfl⟩ := hholds
  exact ⟨ready, hready, (Host.fileNames_eq_ok_iff hlocate).2 ⟨hreaches, rfl⟩⟩

theorem Goal.Holds.unlisted (hholds : goal.Holds host children)
    (hlong : ¬ goal.Reaches children) :
    ∃ ready path, (prepareFolder goal).on host = (.ok true, ready) ∧
      ready.fileNames goal.folder = .error { cause := .nameTooLong, path } := by
  obtain ⟨ready, location, hready, hlocate, rfl⟩ := hholds
  cases hnames : ready.fileNames goal.folder with
  | ok names => exact absurd ((Host.fileNames_eq_ok_iff hlocate).1 hnames).1 hlong
  | error fault =>
      have hfault := hnames
      rw [Host.fileNames, hlocate] at hfault
      dsimp only at hfault
      split at hfault
      · rename_i name _ _
        rw [Except.error.injEq] at hfault
        exact ⟨ready, goal.folder.child name, hready, by rw [hnames, hfault]⟩
      · cases hfault

/-- The files section becomes an empty line and the entries of the folder's files in the order of
their lowercase names, whatever order the system gives them in, and all other lines stay. Only where
a path into the folder is too long for the system the section is left without entries, and the
rebuild fails. -/
theorem files_rebuilt_exactly
    (habove : above.any (Section.isHeaderFor FilesSection.sectionName) = false)
    (hhead : Section.isHeaderFor FilesSection.sectionName head = true)
    (hholds : goal.Holds host children)
    (hapart : ((children.filterMap Host.fileName?).map Text.lower).Nodup) :
    ∃ edit after, (editFiles goal (above ++ head :: below)).on host = (.ok edit, after) ∧
      (goal.Reaches children →
        (∃ body changed,
          FilesSection.Lists goal.runtime.family (children.filterMap Host.fileName?) body ∧
            body.Nodup ∧
            edit = ⟨above ++ head :: "" ::
              (body ++ below.dropWhile fun line => !Section.isHeader line), .ok changed⟩) ∧
        ∀ other others, goal.Holds other others → goal.Reaches others →
          (others.filterMap Host.fileName?).Perm (children.filterMap Host.fileName?) →
          ((editFiles goal (above ++ head :: below)).on other).1 = .ok edit) ∧
      (¬ goal.Reaches children →
        ∃ path, edit = ⟨above ++ head :: "" :: below.dropWhile fun line => !Section.isHeader line,
          .error (.access { cause := .nameTooLong, path })⟩) := by
  have hbody := @FilesSection.body?_first above below head habove hhead
  have hlines : ∀ names, FilesSection.rebuild goal.runtime.family names (above ++ head :: below) =
      above ++ head :: "" :: (FilesSection.entries goal.runtime.family names ++
        below.dropWhile fun line => !Section.isHeader line) :=
    fun _ => FilesSection.rebuild_first habove hhead
  by_cases hreaches : goal.Reaches children
  · obtain ⟨after, hedit⟩ := (hholds.lists hreaches).on_editFiles hbody
    have hlisted := @FilesSection.lists_entries goal.runtime.family _ hapart
    refine ⟨_, after, hedit, fun _ => ⟨⟨_, _, hlisted, hlisted.nodup, by rw [hlines]⟩, ?_⟩,
      fun hlong => absurd hreaches hlong⟩
    -- another order leads to the same entries, since they are determined by the names
    intro other others hothers hall hperm
    obtain ⟨later, hagain⟩ := (hothers.lists hall).on_editFiles hbody
    have hother := @FilesSection.lists_entries goal.runtime.family _
      ((hperm.map Text.lower).nodup_iff.2 hapart)
    rw [hagain, hlines, hlines, hother.unique hlisted hperm]
  · obtain ⟨ready, path, hready, hfault⟩ := hholds.unlisted hreaches
    refine ⟨_, ready, on_editFiles_of_unlisted hready hfault hbody,
      fun hall => absurd hall hreaches, fun _ => ⟨path, ?_⟩⟩
    rw [hlines, FilesSection.entries_nil, List.nil_append]

end Exact

/-- The files section of a script that lists an older file and is followed by another section. -/
def olderLines : List String := ["[Files]", "old", "[Run]"]

theorem dropWhile_olderLines :
    ["old", "[Run]"].dropWhile (fun line => !Section.isHeader line) = ["[Run]"] := by
  decide +kernel

theorem rebuild_olderLines (family : String) (names : List String) :
    FilesSection.rebuild family names olderLines =
      "[Files]" :: "" :: (FilesSection.entries family names ++ ["[Run]"]) := by
  have hrebuilt := @FilesSection.rebuild_first family names [] ["old", "[Run]"] "[Files]" rfl
    (by decide +kernel)
  rw [dropWhile_olderLines] at hrebuilt
  exact hrebuilt

theorem body?_olderLines : Section.body? FilesSection.sectionName olderLines = some ["old"] := by
  decide +kernel

theorem files_rebuilt_exactly_placed :
    let goal := eighthGoal .none distPath
    let children := [(eighth.fileName, .file [120])]
    goal.Holds placedHost children ∧ goal.Reaches children ∧
      ((children.filterMap Host.fileName?).map Text.lower).Nodup ∧
      ∃ edit after body changed, (editFiles goal olderLines).on placedHost = (.ok edit, after) ∧
        FilesSection.Lists runtimeFamily [eighth.fileName] body ∧ body.Nodup ∧
        edit = ⟨"[Files]" :: "" :: (body ++ ["[Run]"]), .ok changed⟩ := by
  intro goal children
  have hfolder : ((Job.isFolder distPath).on placedHost).1 = .ok true := by decide +kernel
  have hready := @on_prepareFolder_of_not_copied goal placedHost (by decide) hfolder
  have hlocate : placedHost.disk.locate placedHost.folder distPath = .ok ["w", "dist"] := by
    decide +kernel
  have hholds : goal.Holds placedHost children :=
    ⟨placedHost, ["w", "dist"], hready, hlocate, by decide +kernel⟩
  have hreaches : goal.Reaches children := by decide +kernel
  have hapart : ((children.filterMap Host.fileName?).map Text.lower).Nodup := by decide +kernel
  obtain ⟨edit, after, hedit, hexact, -⟩ := @files_rebuilt_exactly goal placedHost []
    ["old", "[Run]"] "[Files]" children rfl (by decide +kernel) hholds hapart
  obtain ⟨⟨body, changed, hlists, hnodup, hbody⟩, -⟩ := hexact hreaches
  rw [dropWhile_olderLines] at hbody
  exact ⟨hholds, hreaches, hapart, edit, after, body, changed, hedit, hlists, hnodup, hbody⟩

theorem holds_windingPath :
    (eighthGoal .none windingPath).Holds placedHost [(eighth.fileName, .file [120])] := by
  have hstatus : placedHost.status windingPath = .ok (some .folder) := by decide +kernel
  have hfolder : ((Job.isFolder windingPath).on placedHost).1 = .ok true := by
    rw [on_isFolder isUsable_windingPath hstatus]
  exact ⟨placedHost, ["w", "dist"], on_prepareFolder_of_not_copied (by decide) hfolder,
    by decide +kernel, by decide +kernel⟩

/-- By a path that leaves no room for its file a folder is not listed, and the section is left
without entries. -/
theorem on_editFiles_windingPath :
    ∃ after path, (editFiles (eighthGoal .none windingPath) olderLines).on placedHost =
      (.ok ⟨["[Files]", "", "[Run]"], .error (.access { cause := .nameTooLong, path })⟩,
        after) := by
  obtain ⟨ready, path, hready, hfault⟩ := holds_windingPath.unlisted (by decide +kernel)
  refine ⟨ready, path, ?_⟩
  rw [on_editFiles_of_unlisted hready hfault body?_olderLines, rebuild_olderLines,
    FilesSection.entries_nil]
  rfl

theorem files_cleared_on_winding_path :
    let goal := eighthGoal .none windingPath
    let children := [(eighth.fileName, .file [120])]
    goal.Holds placedHost children ∧
      ((children.filterMap Host.fileName?).map Text.lower).Nodup ∧
      ¬ ∃ edit after body, (editFiles goal olderLines).on placedHost = (.ok edit, after) ∧
        FilesSection.Lists goal.runtime.family (children.filterMap Host.fileName?) body ∧
        edit.lines = "[Files]" :: "" :: (body ++ ["[Run]"]) := by
  intro goal children
  refine ⟨holds_windingPath, by decide +kernel, ?_⟩
  rintro ⟨edit, after, body, hedit, hlists, hlines⟩
  obtain ⟨ready, path, hcleared⟩ := on_editFiles_windingPath
  rw [hcleared, Prod.mk.injEq, Except.ok.injEq] at hedit
  obtain ⟨rfl, -⟩ := hedit
  have hnone : body = [] := by simpa using hlines
  have hpayload : FileEntry.payload eighth.fileName ∈ body :=
    hlists.mem_iff.2 ⟨eighth.fileName, by simp [children, Host.fileName?], by decide +kernel⟩
  rw [hnone] at hpayload
  cases hpayload

/-! ## The report of a change -/

/-- What a rebuild in place comes to: the edit, and the host that it leaves. -/
inductive Course (goal : Goal) (lines : List String) (host : Host) : FilesEdit → Host → Prop
  /-- The copy of the installer breaks off. -/
  | broken {failure : Failure} {after : Host}
      (hready : (prepareFolder goal).on host = (.error failure, after)) :
      Course goal lines host ⟨lines, .error failure⟩ after
  | missing {after : Host} (hready : (prepareFolder goal).on host = (.ok false, after)) :
      Course goal lines host ⟨lines, .ok false⟩ after
  | sectionless {ready after : Host} (hready : (prepareFolder goal).on host = (.ok true, ready))
      (hbody : Section.body? FilesSection.sectionName lines = none) :
      Course goal lines host ⟨lines, .ok false⟩ after
  | listed {names before : List String} {after : Host} (hlists : goal.Lists host names)
      (hbody : Section.body? FilesSection.sectionName lines = some before) :
      Course goal lines host ⟨FilesSection.rebuild goal.runtime.family names lines,
        .ok ("" :: FilesSection.entries goal.runtime.family names != before)⟩ after
  | unlisted {before : List String} {fault : AccessFault} {after : Host}
      (hready : (prepareFolder goal).on host = (.ok true, after))
      (hfault : after.fileNames goal.folder = .error fault)
      (hbody : Section.body? FilesSection.sectionName lines = some before) :
      Course goal lines host
        ⟨FilesSection.rebuild goal.runtime.family [] lines, .error (.access fault)⟩ after

theorem course_editFiles (goal : Goal) (lines : List String) (host : Host) :
    ∃ edit after, (editFiles goal lines).on host = (.ok edit, after) ∧
      Course goal lines host edit after := by
  cases hready : (prepareFolder goal).on host with
  | mk found ready =>
      rcases found with failure | _ | _
      · exact ⟨_, _, by rw [on_editFiles, hready], .broken hready⟩
      · exact ⟨_, _, by rw [on_editFiles, hready], .missing hready⟩
      cases hbody : Section.body? FilesSection.sectionName lines with
      | none =>
          obtain ⟨said, hfill⟩ := @on_fillFiles_of_no_section goal lines hbody ready
          exact ⟨_, _, (on_editFiles_of_ready hready).trans hfill, .sectionless hready hbody⟩
      | some before =>
          cases hnames : ready.fileNames goal.folder with
          | error fault =>
              exact ⟨_, _, on_editFiles_of_unlisted hready hnames hbody,
                .unlisted hready hnames hbody⟩
          | ok names =>
              have hlists : goal.Lists host names := ⟨ready, hready, hnames⟩
              obtain ⟨after, hedit⟩ := hlists.on_editFiles hbody
              exact ⟨_, _, hedit, .listed hlists hbody⟩

/-- Whether a rebuild clears a body that is not an empty line, and cannot list the folder then. -/
def Goal.LosesBody (goal : Goal) (host : Host) (lines : List String) : Prop :=
  ∃ ready fault before, (prepareFolder goal).on host = (.ok true, ready) ∧
    ready.fileNames goal.folder = .error fault ∧
    Section.body? FilesSection.sectionName lines = some before ∧ before ≠ [""]

namespace Course

variable {edit : FilesEdit}

/-- A rebuild that comes to its end tells whether it changed the lines. -/
theorem reports (h : Course goal lines host edit after) {changed : Bool}
    (hresult : edit.result = .ok changed) : changed = true ↔ edit.lines ≠ lines := by
  cases h with
  | broken hready => cases hresult
  | missing hready =>
      cases hresult
      simp
  | sectionless hready hbody =>
      cases hresult
      simp
  | listed hlists hbody =>
      cases hresult
      rw [bne_iff_ne, ne_eq, ne_eq, FilesSection.rebuild_eq_self_iff hbody]
  | unlisted hready hfault hbody => cases hresult

theorem prepared (h : Course goal lines host edit after) {changed : Bool}
    (hresult : edit.result = .ok changed) :
    ∃ found, ((prepareFolder goal).on host).1 = .ok found := by
  cases h with
  | broken hready => cases hresult
  | missing hready => exact ⟨false, by rw [hready]⟩
  | sectionless hready hbody => exact ⟨true, by rw [hready]⟩
  | listed hlists hbody =>
      obtain ⟨ready, hready, -⟩ := hlists
      exact ⟨true, by rw [hready]⟩
  | unlisted hready hfault hbody => exact ⟨true, by rw [hready]⟩

/-- A rebuild that comes to its end loses no body. -/
theorem not_losesBody (h : Course goal lines host edit after) {changed : Bool}
    (hresult : edit.result = .ok changed) : ¬ goal.LosesBody host lines := by
  rintro ⟨ready, fault, before, hready, hfault, hbody, -⟩
  cases h with
  | broken hbroken => cases hresult
  | missing hmissing =>
      rw [hmissing] at hready
      cases hready
  | sectionless _ hnone =>
      rw [hnone] at hbody
      cases hbody
  | listed hlists _ =>
      obtain ⟨listing, hlisting, hnames⟩ := hlists
      rw [hlisting] at hready
      cases hready
      rw [hnames] at hfault
      cases hfault
  | unlisted _ _ _ => cases hresult

theorem ne_lines_iff_of_error (h : Course goal lines host edit after) {failure : Failure}
    (hresult : edit.result = .error failure) : edit.lines ≠ lines ↔ goal.LosesBody host lines := by
  cases h with
  | broken hbroken =>
      refine iff_of_false (by simp) ?_
      rintro ⟨ready, fault, before, hready, -⟩
      rw [hbroken] at hready
      cases hready
  | missing _ => cases hresult
  | sectionless _ _ => cases hresult
  | listed _ _ => cases hresult
  | unlisted hready hfault hbody =>
      rw [ne_eq, FilesSection.rebuild_eq_self_iff hbody, FilesSection.entries_nil]
      constructor
      · intro hne
        exact ⟨_, _, _, hready, hfault, hbody, Ne.symm hne⟩
      · rintro ⟨ready, fault, before, -, -, hbefore, hne⟩ hsame
        rw [hbefore, Option.some.injEq] at hbody
        exact hne (hbody.trans hsame.symm)

/-- Whoever finds the same files again has nothing to change. -/
theorem again (h : Course goal lines host edit after) {changed found : Bool}
    (hresult : edit.result = .ok changed)
    (hfound : ((prepareFolder goal).on after).1 = .ok found)
    (hsame : ∀ names, goal.Lists host names → goal.Lists after names) :
    ((editFiles goal edit.lines).on after).1 = .ok ⟨edit.lines, .ok false⟩ := by
  cases hagain : (prepareFolder goal).on after with
  | mk result ready =>
  rw [hagain] at hfound
  obtain rfl : result = .ok found := hfound
  cases h with
  | broken _ => cases hresult
  | unlisted _ _ _ => cases hresult
  | missing hmissing =>
      have hstill := prepareFolder_missing hmissing
      rw [hagain] at hstill
      cases hstill
      rw [on_editFiles, hagain]
  | sectionless _ hbody =>
      cases found with
      | false => rw [on_editFiles, hagain]
      | true =>
          obtain ⟨said, hfill⟩ := @on_fillFiles_of_no_section goal lines hbody ready
          rw [on_editFiles_of_ready hagain, hfill]
  | @listed names before _ hlists hbody =>
      have hrebuilt := @FilesSection.body?_rebuild goal.runtime.family names lines
        (FilesSection.any_isHeaderFor_of_body? hbody)
      obtain ⟨later, hedit⟩ := (hsame names hlists).on_editFiles hrebuilt
      rw [hedit, (FilesSection.rebuild_eq_self_iff hrebuilt).2 rfl, bne_self_eq_false]

end Course

section NotCopied

variable (hlevel : goal.level ≠ .netInstallIncluded)

include hlevel

theorem disk_editFiles (lines : List String) (host : Host) :
    ((editFiles goal lines).on host).2.folder = host.folder ∧
      ((editFiles goal lines).on host).2.disk = host.disk := by
  rw [on_editFiles, on_prepareFolder]
  cases ((Job.isFolder goal.folder).on host).1 with
  | error failure => exact ⟨rfl, rfl⟩
  | ok found =>
      cases found with
      | false => exact ⟨rfl, rfl⟩
      | true =>
          dsimp only
          rw [if_neg hlevel]
          dsimp only
          cases hbody : Section.body? FilesSection.sectionName lines with
          | none =>
              obtain ⟨said, hfill⟩ := @on_fillFiles_of_no_section goal lines hbody host
              exact hfill ▸ ⟨rfl, rfl⟩
          | some before =>
              cases hnames : host.fileNames goal.folder with
              | error fault => exact on_fillFiles_of_unlisted hbody hnames ▸ ⟨rfl, rfl⟩
              | ok names =>
                  obtain ⟨said, hfill⟩ := on_fillFiles_of_listed hbody hnames
                  exact hfill ▸ ⟨rfl, rfl⟩

theorem on_prepareFolder_fst (host : Host) :
    ((prepareFolder goal).on host).1 = ((Job.isFolder goal.folder).on host).1 := by
  rw [on_prepareFolder]
  cases ((Job.isFolder goal.folder).on host).1 with
  | error failure => rfl
  | ok found =>
      cases found with
      | false => rfl
      | true =>
          dsimp only
          rw [if_neg hlevel]

theorem Goal.Lists.congr (hlists : goal.Lists host names) (hfolder : after.folder = host.folder)
    (hdisk : after.disk = host.disk) : goal.Lists after names := by
  obtain ⟨ready, hready, hnames⟩ := hlists
  have hfound := on_prepareFolder_fst hlevel host
  rw [hready] at hfound
  rw [on_prepareFolder_of_not_copied hlevel hfound.symm, Prod.mk.injEq] at hready
  obtain ⟨-, rfl⟩ := hready
  exact ⟨after,
    on_prepareFolder_of_not_copied hlevel ((on_isFolder_congr hfolder hdisk _).trans hfound.symm),
    (Host.fileNames_congr hfolder hdisk _).trans hnames⟩

/-- The folder is found again as it was, and nothing is left to change. -/
theorem editFiles_again {edit : FilesEdit} {changed : Bool}
    (hedit : (editFiles goal lines).on host = (.ok edit, after))
    (hresult : edit.result = .ok changed) :
    ((editFiles goal edit.lines).on after).1 = .ok ⟨edit.lines, .ok false⟩ := by
  obtain ⟨edit', after', hedit', hcourse⟩ := course_editFiles goal lines host
  rw [hedit, Prod.mk.injEq, Except.ok.injEq] at hedit'
  obtain ⟨rfl, rfl⟩ := hedit'
  obtain ⟨hfolder, hdisk⟩ := disk_editFiles hlevel lines host
  rw [hedit] at hfolder hdisk
  obtain ⟨found, hfound⟩ := hcourse.prepared hresult
  have hagain : ((prepareFolder goal).on after).1 = .ok found := by
    rw [on_prepareFolder_fst hlevel, on_isFolder_congr hfolder hdisk,
      ← on_prepareFolder_fst hlevel, hfound]
  exact hcourse.again hresult hagain fun names hlists => hlists.congr hlevel hfolder hdisk

end NotCopied

/-- The rebuild in place reports a change exactly if the lines differ from those before, unless it
clears a body and cannot list the folder then. What it returns is always right. A repeated call
that finds the same files in the same order returns that nothing changed; where the installer is not
copied, it finds them. -/
theorem editFiles_reports_change (goal : Goal) (lines : List String) (host : Host) :
    ∃ edit after, (editFiles goal lines).on host = (.ok edit, after) ∧
      (∀ changed, edit.result = .ok changed → (changed = true ↔ edit.lines ≠ lines)) ∧
      ((edit.result = .ok true ↔ edit.lines ≠ lines) ↔ ¬ goal.LosesBody host lines) ∧
      (∀ changed found, edit.result = .ok changed →
        ((prepareFolder goal).on after).1 = .ok found →
        (∀ names, goal.Lists host names → goal.Lists after names) →
        ((editFiles goal edit.lines).on after).1 = .ok ⟨edit.lines, .ok false⟩) ∧
      ∀ changed, edit.result = .ok changed → goal.level ≠ .netInstallIncluded →
        ((editFiles goal edit.lines).on after).1 = .ok ⟨edit.lines, .ok false⟩ := by
  obtain ⟨edit, after, hedit, hcourse⟩ := course_editFiles goal lines host
  refine ⟨edit, after, hedit, fun _ => hcourse.reports, ?_, fun _ _ => hcourse.again,
    fun _ hresult hlevel => editFiles_again hlevel hedit hresult⟩
  cases hresult : edit.result with
  | ok changed =>
      rw [Except.ok.injEq, hcourse.reports hresult]
      exact iff_of_true Iff.rfl (hcourse.not_losesBody hresult)
  | error failure =>
      rw [hcourse.ne_lines_iff_of_error hresult]
      simp

/-- By the same path the section is cleared, and no change is reported. -/
theorem cleared_body_unreported :
    ∃ edit after,
      (editFiles (eighthGoal .none windingPath) olderLines).on placedHost = (.ok edit, after) ∧
        ¬ (edit.result = .ok true ↔ edit.lines ≠ olderLines) := by
  obtain ⟨after, path, hcleared⟩ := on_editFiles_windingPath
  have hchanged : ["[Files]", "", "[Run]"] ≠ olderLines := by decide
  refine ⟨_, after, hcleared, fun h => ?_⟩
  cases h.2 hchanged

end SetupForge.Sync

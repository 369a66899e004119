import SetupForge.Proofs.Build.Calls

/-! # The uninstaller that is signed

All uninstallers beside the script are removed before the compiler runs for the first time, after
everything else that is written. So what is found there afterwards and signed was not there when the
compiler was started.
-/

namespace SetupForge

open Job

/-! ## What a folder no longer has -/

def Disk.LacksUninstallers (disk : Disk) (place : Location) : Prop :=
  ∀ name content, SetupCompiler.isUninstaller name = true →
    (place ++ [name], .file content) ∉ disk.nodes

theorem Disk.mem_nodes_of_remove {disk : Disk} {location : Location} {entry : Location × Node}
    (h : entry ∈ (disk.remove location).nodes) : entry ∈ disk.nodes ∧ ¬ location <+: entry.1 := by
  obtain ⟨hmem, hapart⟩ := List.mem_filter.1 h
  refine ⟨hmem, fun hunder => ?_⟩
  rw [List.isPrefixOf_iff_prefix.2 hunder] at hapart
  cases hapart

namespace SetupCompiler

variable {script folder : Path} {names : List String} {name : String} {host after : Host}

theorem location_child (folder : Path) (place : Location) (h : isUninstaller name = true) :
    (folder.child name).location place = folder.location place ++ [name] := by
  have hup : name ≠ ".." := by
    rintro rfl
    exact absurd h (by decide)
  rw [Path.location_child, Disk.enter, if_neg hup]

theorem lookup_ne_file {disk : Disk} {place : Location}
    (h : disk.LacksUninstallers (folder.location place)) (hname : isUninstaller name = true)
    (content : Bytes) : disk.lookup place (folder.child name) ≠ some (.file content) := by
  intro hlookup
  unfold Disk.lookup at hlookup
  split at hlookup
  · rename_i location hlocate
    rw [Disk.eq_location_of_locate hlocate, location_child folder place hname] at hlookup
    exact h name content hname (Disk.mem_nodes_of_node? (by simp) hlookup)
  · cases hlookup

theorem mem_of_removeFiles {value : Unit}
    (h : (removeFiles folder names).on host = (.ok value, after)) :
    after.folder = host.folder ∧ ∀ entry ∈ after.disk.nodes, entry ∈ host.disk.nodes ∧
      ∀ name ∈ names, ¬ (folder.child name).location host.folder <+: entry.1 := by
  induction names generalizing host with
  | nil =>
      cases h
      exact ⟨rfl, fun entry hentry => ⟨hentry, by simp⟩⟩
  | cons name names ih =>
      rw [removeFiles] at h
      obtain ⟨_, middle, hunlink, hrest⟩ := exists_of_on_bind h
      obtain ⟨disk, hdisk, rfl⟩ := exists_of_on_unlink hunlink
      obtain ⟨place, content, hlocate, -, rfl⟩ := Disk.exists_of_unlink hdisk
      obtain ⟨hfolder, hleft⟩ := ih hrest
      refine ⟨hfolder, fun entry hentry => ?_⟩
      obtain ⟨hmem, hothers⟩ := hleft entry hentry
      obtain ⟨hmem, hfirst⟩ := Disk.mem_nodes_of_remove hmem
      rw [Disk.eq_location_of_locate hlocate] at hfirst
      exact ⟨hmem, List.forall_mem_cons.2 ⟨hfirst, hothers⟩⟩

theorem eq_of_on_scriptFolder (h : (scriptFolder script).on host = (.ok folder, after)) :
    after = host := by
  unfold scriptFolder at h
  obtain ⟨found, middle, hfound, h⟩ := exists_of_on_bind h
  have hmiddle := on_isFolder_snd script.parent host
  rw [hfound] at hmiddle
  cases found with
  | false => cases h
  | true =>
      cases h
      exact hmiddle

theorem exists_of_on_uninstallers (h : (uninstallers folder).on host = (.ok names, after)) :
    after = host ∧
      ∃ files, host.fileNames folder = .ok files ∧ names = uninstallersAmong files := by
  unfold uninstallers at h
  obtain ⟨files, middle, hlist, hlast⟩ := exists_of_on_bind h
  rw [on_fileNames] at hlist
  cases hlast
  cases hfiles : host.fileNames folder with
  | error fault =>
      rw [hfiles] at hlist
      cases hlist
  | ok others =>
      rw [hfiles] at hlist
      cases hlist
      exact ⟨rfl, _, rfl, rfl⟩

theorem lacksUninstallers_of_removeUninstallers {count : Nat}
    (h : (removeUninstallers script).on host = (.ok count, after)) :
    after.disk.LacksUninstallers (script.parent.location host.folder) := by
  unfold removeUninstallers at h
  rw [scriptFolder_bind] at h
  obtain ⟨found, checked, hcheck, h⟩ := exists_of_on_bind h
  obtain ⟨names, listed, hlist, h⟩ := exists_of_on_bind h
  obtain ⟨_, removed, hremove, hlast⟩ := exists_of_on_bind h
  cases hlast
  obtain rfl := eq_of_on_scriptFolder hcheck
  obtain ⟨rfl, files, hfiles, rfl⟩ := exists_of_on_uninstallers hlist
  obtain ⟨-, hleft⟩ := mem_of_removeFiles hremove
  intro name content hname hmem
  obtain ⟨hold, hapart⟩ := hleft _ hmem
  have hlisted : name ∈ files := by
    cases hlocate : listed.disk.locate listed.folder script.parent with
    | error cause =>
        rw [Host.fileNames, hlocate] at hfiles
        cases hfiles
    | ok place =>
        obtain ⟨-, rfl⟩ := (Host.fileNames_eq_ok_iff hlocate).1 hfiles
        rw [← Disk.eq_location_of_locate hlocate] at hold
        exact List.mem_filterMap.2 ⟨_, Disk.mem_children_iff.2 hold, rfl⟩
  exact hapart name (mem_uninstallersAmong.2 ⟨hlisted, hname⟩)
    ⟨[], by rw [List.append_nil, location_child _ _ hname]⟩

end SetupCompiler

/-! ## Publishing -/

namespace Publish

variable {action : Action} {plan : Plan} {script : Script} {host after : Host}

def clearing (action : Action) (plan : Plan) (script : Script) : Job String := do
  let prepared ← preparing action plan script
  beginStep 10 "Saving setup script..."
  Sync.saveScript plan.script prepared.2
  beginStep 11 "Removing old uninstallers..."
  let _ ← SetupCompiler.removeUninstallers plan.script
  beginStep 12 "Creating uninstaller..."
  pure prepared.1

theorem compileFirst_eq (action : Action) (plan : Plan) (script : Script) :
    compileFirst action plan script = clearing action plan script >>= fun version =>
      SetupCompiler.runFirst plan.compiler plan.script >>= fun lines => pure (version, lines) := by
  unfold compileFirst clearing
  simp only [bind_assoc, pure_bind]

/-- The steps 1 to 12, which make and find the uninstaller; also gives the plan and the version. -/
def making (action : Action) : Job (Plan × String × Path) := do
  let opened ← opening action
  let compiled ← compileFirst action opened.1 opened.2
  let uninstaller ← SetupCompiler.findUninstaller opened.1.script compiled.2
  pure (opened.1, compiled.1, uninstaller)

/-- The step that signs the uninstaller comes after the first twelve. -/
theorem run_eq_making (action : Action) :
    run action = making action >>= fun made => concluding action made.1 made.2.1 made.2.2 := by
  rw [run_eq]
  simp only [preparing_finishing_eq]
  unfold making
  simp only [bind_assoc, pure_bind]

theorem location_parent_of_isAbsolute {path : Path} (h : path.isAbsolute = true)
    (place other : Location) : path.parent.location place = path.parent.location other := by
  have hparent : path.parent.isAbsolute = true := h
  rw [Path.location, Path.location, if_pos hparent, if_pos hparent]

theorem lacksUninstallers_of_clearing {version : String} (habsolute : plan.script.isAbsolute = true)
    (h : (clearing action plan script).on host = (.ok version, after)) (place : Location) :
    after.disk.LacksUninstallers (plan.script.parent.location place) := by
  unfold clearing at h
  obtain ⟨prepared, ready, -, h⟩ := exists_of_on_bind h
  obtain ⟨_, begun, -, h⟩ := exists_of_on_bind h
  obtain ⟨_, saved, -, h⟩ := exists_of_on_bind h
  obtain ⟨_, begun', -, h⟩ := exists_of_on_bind h
  obtain ⟨count, removed, hremove, h⟩ := exists_of_on_bind h
  cases h
  -- the folder of the script is the same, from wherever it is looked at
  rw [location_parent_of_isAbsolute habsolute place begun'.folder]
  have hlacks := SetupCompiler.lacksUninstallers_of_removeUninstallers hremove
  exact hlacks

/-- The first run of the compiler finds the disk on which all uninstallers were removed. -/
theorem starts_of_compileFirst {compiled : String × List String}
    (habsolute : plan.script.isAbsolute = true)
    (h : (compileFirst action plan script).on host = (.ok compiled, after)) :
    ∃ before found, after.starts =
        before ++ [(SetupCompiler.process plan.compiler plan.script, found)] ∧
      ∀ place, found.LacksUninstallers (plan.script.parent.location place) := by
  rw [compileFirst_eq] at h
  obtain ⟨version, cleared, hclear, h⟩ := exists_of_on_bind h
  obtain ⟨lines, ran, hrun, h⟩ := exists_of_on_bind h
  cases h
  unfold SetupCompiler.runFirst at hrun
  obtain ⟨folder, checked, hcheck, hnext⟩ := exists_of_on_bind hrun
  obtain ⟨_, noted, hnote, htool⟩ := exists_of_on_bind hnext
  obtain ⟨-, hstarts, -⟩ := Tool.on_run plan.compiler.toString [plan.script.toString] none none noted
  rw [htool] at hstarts
  have hdisk : noted.disk = cleared.disk := by
    rw [← SetupCompiler.eq_of_on_scriptFolder hcheck]
    cases hnote
    rfl
  rw [hdisk] at hstarts
  exact ⟨_, _, hstarts, lacksUninstallers_of_clearing habsolute hclear⟩

/-- What is known of an uninstaller when it is about to be signed: it is a file beside the script,
the last process that was started is the compiler's first run, and when that was started there was
no such file. -/
structure IsFresh (host : Host) (action : Action) (uninstaller : Path) (after : Host) : Prop where
  beside : uninstaller.parent = (planOn host action).script.parent
  named : SetupCompiler.isUninstaller uninstaller.fileName = true
  first : IsFirstUninstaller host (planOn host action) after.disk uninstaller
  new : ∃ built found, after.starts = host.starts ++ built ++
      [(SetupCompiler.process (planOn host action).compiler (planOn host action).script, found)] ∧
    built.map (·.1) = buildProcesses (planOn host action) action.level ∧
    ∀ content, found.lookup host.folder uninstaller ≠ some (.file content)

theorem exists_of_on_findUninstaller {lines : List String} {uninstaller : Path}
    (h : (SetupCompiler.findUninstaller plan.script lines).on host = (.ok uninstaller, after)) :
    after.starts = host.starts ∧ IsFirstUninstaller host plan after.disk uninstaller ∧
      ∃ name, SetupCompiler.isUninstaller name = true ∧
        uninstaller = plan.script.parent.child name := by
  rcases on_findUninstaller plan.script lines host with
    ⟨failure, hfail⟩ | ⟨names, name, rest, said, hnames, hfirst, hfound⟩
  · rw [hfail] at h
    cases h
  · rw [hfound] at h
    cases h
    refine ⟨rfl, ⟨names, name, rest, hnames, hfirst, rfl⟩, name, ?_, rfl⟩
    exact SetupCompiler.isUninstaller_of_mem (hfirst ▸ List.mem_cons_self)

theorem on_opening_of_ok {opened : Plan × Script}
    (h : (opening action).on host = (.ok opened, after)) :
    opened.1 = planOn host action ∧ after.starts = host.starts ∧ after.folder = host.folder := by
  have hstill : Still (opening action) := .of_works fun _ => works_opening action
  obtain ⟨hstarts, -⟩ := hstill host
  have hworks : Works (.lax host fun _ => True) (opening action) _ := works_opening action
  obtain ⟨⟨later, hallows⟩, hopened, -⟩ := hworks host [] (Limits.allows_origin _)
  rw [h] at hstarts hallows hopened
  exact ⟨(hopened opened rfl).plan, hstarts, hallows.folder⟩

/-- The processes up to the first run of the compiler build the project; the compiler finds a disk
without uninstallers beside the script. -/
theorem built_of_compileFirst {compiled : String × List String}
    (hruntime : plan.runtime = action.runtime) (habsolute : plan.script.isAbsolute = true)
    (h : (compileFirst action plan script).on host = (.ok compiled, after)) :
    ∃ built found, after.starts = host.starts ++ built ++
        [(SetupCompiler.process plan.compiler plan.script, found)] ∧
      built.map (·.1) = buildProcesses plan action.level ∧
      ∀ place, found.LacksUninstallers (plan.script.parent.location place) := by
  obtain ⟨before, found, hlast, hlacks⟩ := starts_of_compileFirst habsolute h
  obtain ⟨made, hran⟩ := pursues_compileFirst hruntime script host
  rw [h] at hran
  have hprocesses : made.map (·.1) = buildProcesses plan action.level ++
      [SetupCompiler.process plan.compiler plan.script] :=
    hran.course.isPrefix.eq_of_length (by
      rw [(hran.course.ends_iff.1 rfl).1, List.length_map])
  obtain ⟨built, lasts, rfl, hbuilt, hlasts⟩ := List.map_eq_append_iff.1 hprocesses
  obtain ⟨last, rfl, -⟩ := List.map_eq_singleton_iff.1 hlasts
  have hends : last = (SetupCompiler.process plan.compiler plan.script, found) := by
    have hboth := hran.starts.symm.trans hlast
    rw [← List.append_assoc] at hboth
    exact List.cons.inj (List.append_inj_right' hboth rfl) |>.1
  refine ⟨built, found, ?_, hbuilt, hlacks⟩
  rw [← hends, List.append_assoc]
  exact hran.starts

theorem isFresh_of_making {made : Plan × String × Path}
    (h : (making action).on host = (.ok made, after)) :
    made.1 = planOn host action ∧ IsFresh host action made.2.2 after := by
  unfold making at h
  obtain ⟨⟨plan, script⟩, opened, hopen, hrest⟩ := exists_of_on_bind h
  obtain ⟨compiled, ran, hcompile, hlast⟩ := exists_of_on_bind hrest
  obtain ⟨uninstaller, found, hfind, hend⟩ := exists_of_on_bind hlast
  cases hend
  obtain ⟨hplan, hstarted, hfolder⟩ := on_opening_of_ok hopen
  dsimp only at hplan hcompile hfind
  subst hplan
  have hruntime : (planOn host action).runtime = action.runtime := rfl
  have habsolute : (planOn host action).script.isAbsolute = true :=
    action.isAbsolute_located host _
  obtain ⟨built, disk, hstarts, hbuilt, hlacks⟩ := built_of_compileFirst hruntime habsolute hcompile
  obtain ⟨hsame, hfirst, name, hname, rfl⟩ := exists_of_on_findUninstaller hfind
  have hstays := folder_compileFirst hruntime script opened
  rw [hcompile] at hstays
  refine ⟨rfl, ?_, ?_, hfirst.of_folder (hstays.trans hfolder).symm, built, disk, ?_, hbuilt, ?_⟩
  · exact Path.parent_child _ _
  · rw [Path.fileName_child]
    exact hname
  · rw [hsame, hstarts, hstarted]
  · exact SetupCompiler.lookup_ne_file (hlacks _) hname

/-- Publishing fails before the uninstaller is signed, or goes on from the first twelve steps with
one that was not there when the compiler was started, and signs it first. -/
theorem signed_uninstaller_is_fresh (action : Action) (host : Host) :
    let ran := (run action).on host
    (∃ failure after, (making action).on host = (.error failure, after) ∧
      ran = (.error failure, after)) ∨
    ∃ version uninstaller after later,
      (making action).on host = (.ok (planOn host action, version, uninstaller), after) ∧
      ran = (concluding action (planOn host action) version uninstaller).on after ∧
      IsFresh host action uninstaller after ∧
      ran.2.starts = after.starts ++ later ∧
      later.map (·.1) <+: (signingCalls (planOn host action) uninstaller).map Call.process := by
  intro ran
  have hran : ran = (making action >>= fun made =>
      concluding action made.1 made.2.1 made.2.2).on host := by
    rw [← run_eq_making]
  rw [on_bind] at hran
  cases hmaking : (making action).on host with
  | mk result after =>
      rw [hmaking] at hran
      cases result with
      | error failure => exact Or.inl ⟨failure, after, rfl, hran⟩
      | ok made =>
          obtain ⟨plan, version, uninstaller⟩ := made
          obtain ⟨rfl, hfresh⟩ := isFresh_of_making hmaking
          obtain ⟨later, hlater⟩ :=
            pursues_concluding action (planOn host action) version uninstaller after
          refine Or.inr ⟨version, uninstaller, after, later, rfl, hran, hfresh, ?_, ?_⟩
          · rw [hran]
            exact hlater.starts
          · exact hlater.course.isPrefix

end Publish

end SetupForge

import SetupForge.Proofs.Disk.Contents
import SetupForge.Proofs.Disk.Jobs
import SetupForge.Proofs.Host.Works
import SetupForge.Proofs.Text.LineFeeds
import SetupForge.Version.Stamp

/-! # Targets one after the other

The files that take the version form a list, in the order in which they are stamped. What stamping
one of them does to its file is a relation between the content before and after, and it touches
nothing else.
-/

namespace SetupForge.Stamping

open Job Text

inductive Target where
  /-- A file with the version and nothing else. -/
  | versionFile (path : Path)
  | project (path : Path)
  /-- A script with the variable that holds the version; none for the directive. -/
  | script (name : String) (path : Path)
  | manifest (path : Path)
deriving DecidableEq, Repr

namespace Target

def path : Target → Path
  | versionFile path | project path | script _ path | manifest path => path

def stamp (version : String) : Target → Job Bool
  | versionFile path => writeVersion version path
  | project path => stampProject version path
  | script name path => stampScript version name path
  | manifest path => stampManifest version path

end Target

def Targets.given (targets : Targets) : List Target :=
  (targets.versionFile.map .versionFile).toList ++ ((targets.project.map .project).toList ++
    ((targets.script.map (.script targets.variableName)).toList ++
      (targets.manifest.map .manifest).toList))

/-- Stamps targets one after the other, and gives the paths of those that are listed. -/
def stampEach (version : String) : List Target → Job (List Path)
  | [] => pure []
  | target :: rest => do
      let listed ← target.stamp version
      let others ← stampEach version rest
      pure ((if listed then [target.path] else []) ++ others)

variable {version : String}

theorem stampEach_append (version : String) (front back : List Target) :
    stampEach version (front ++ back) = (do
      let first ← stampEach version front
      let rest ← stampEach version back
      pure (first ++ rest)) := by
  induction front with
  | nil => simp [stampEach]
  | cons target front ih =>
      simp only [List.cons_append, stampEach, ih, bind_assoc, pure_bind, List.append_assoc]

theorem onTarget_eq (target : Path → Target) (hpath : ∀ path, (target path).path = path)
    (path? : Option Path) : onTarget path? (fun path => (target path).stamp version) =
      stampEach version (path?.map target).toList := by
  cases path? with
  | none => rfl
  | some path => simp [onTarget, stampEach, hpath]

/-- All targets are stamped with one version, and their paths are reported. -/
theorem all_eq (targets : Targets) (given : Option String) :
    all targets given = (do
      let version ← versionOr given
      Job.note (.verbose "VERSION" s!"Version: {version}")
      let stamped ← stampEach version targets.given
      pure ⟨version, stamped⟩) := by
  unfold all Targets.given
  refine congrArg (versionOr given >>= ·) (funext fun version => ?_)
  refine congrArg (Job.note _ >>= ·) (funext fun _ => ?_)
  rw [stampEach_append, stampEach_append, stampEach_append, ← onTarget_eq .versionFile fun _ => rfl,
    ← onTarget_eq .project fun _ => rfl, ← onTarget_eq (.script _) fun _ => rfl,
    ← onTarget_eq .manifest fun _ => rfl]
  simp [Target.stamp]

theorem nodup_given (targets : Targets) : targets.given.Nodup := by
  unfold Targets.given
  cases targets.versionFile <;> cases targets.project <;> cases targets.script <;>
    cases targets.manifest <;> simp

/-! ## What one target does -/

/-- What stamping a target makes of the content of its file, and whether the target is listed. A
script is listed if a line changed; it is written only then. -/
inductive Turns (version : String) : Target → Option Bytes → Bool → Bytes → Prop where
  | versionFile {path : Path} {before : Option Bytes} :
      Turns version (.versionFile path) before true (Utf8.encode version.toList)
  | project {path : Path} {text new : List Char}
      (hstamp : ProjectVersion.stamp path version (asRead text) = .ok new) :
      Turns version (.project path) (some (Utf8.encode text)) true (Utf8.encode new)
  | changedScript {name : String} {path : Path} {bytes : Bytes}
      (hchanged : (ScriptVersion.stamp name version (Script.ofBytes bytes).lines).2 ≠ 0) :
      Turns version (.script name path) (some bytes) true
        (Script.toBytes { Script.ofBytes bytes with
          lines := (ScriptVersion.stamp name version (Script.ofBytes bytes).lines).1 })
  | sameScript {name : String} {path : Path} {bytes : Bytes}
      (hsame : (ScriptVersion.stamp name version (Script.ofBytes bytes).lines).2 = 0) :
      Turns version (.script name path) (some bytes) false bytes
  | manifest {path : Path} {text : List Char} :
      Turns version (.manifest path) (some (Utf8.encode text)) true
        (Utf8.encode (IdentityVersion.stamp version (asRead text)))

/-- Whether a host is another one with a new content of one file, but for what was said. -/
def Puts (host : Host) (path : Path) (content : Bytes) (after : Host) : Prop :=
  after.folder = host.folder ∧ after.disk.content? =
    Function.update host.disk.content? (path.location host.folder) (some content)

section Steps

variable {host after : Host} {path : Path} {content : Bytes} {target : Target} {listed : Bool}

theorem content?_of_read (h : host.disk.read host.folder path = .ok content) :
    host.disk.content? (path.location host.folder) = some content := by
  obtain ⟨location, hlocate, hnode⟩ := Disk.locate_of_read h
  rw [← Disk.eq_location_of_locate hlocate, Disk.content?_eq_some_iff]
  exact hnode

theorem puts_of_on_store {value : PUnit}
    (h : (store path content).on host = (.ok value, after)) : Puts host path content after := by
  rw [on_store_eq] at h
  split at h
  · split at h
    · rename_i disk hwrite
      cases h
      exact ⟨rfl, (Disk.write_spec hwrite).1⟩
    · cases h
  · cases h

theorem puts_self (h : host.disk.content? (path.location host.folder) = some content) :
    Puts host path content host :=
  ⟨rfl, by rw [← h, Function.update_eq_self]⟩

theorem eq_of_on_hasPath {found : Bool} (h : (hasPath path).on host = (.ok found, after)) :
    after = host := by
  rw [on_hasPath_eq] at h
  split at h
  · split at h
    · cases h
      rfl
    · cases h
  · cases h
    rfl

theorem of_on_load (h : (load path).on host = (.ok content, after)) :
    after = host ∧ host.disk.read host.folder path = .ok content := by
  obtain ⟨husable, hread⟩ := read_of_on_load (congrArg Prod.fst h)
  rw [on_load_of_read husable hread] at h
  cases h
  exact ⟨rfl, hread⟩

theorem of_on_readFileText {text : List Char}
    (h : (readFileText path).on host = (.ok text, after)) :
    after = host ∧ ∃ raw, text = asRead raw ∧
      host.disk.content? (path.location host.folder) = some (Utf8.encode raw) := by
  obtain ⟨found, middle, hfound, hrest⟩ := exists_of_on_bind h
  obtain rfl := eq_of_on_hasPath hfound
  split at hrest
  · obtain ⟨bytes, same, hload, hdecoded⟩ := exists_of_on_bind hrest
    obtain ⟨rfl, hread⟩ := of_on_load hload
    split at hdecoded
    · rename_i decoded hdecode
      cases hdecoded
      obtain ⟨raw, rfl, rfl⟩ := Utf8.exists_of_decodeMarked? hdecode
      exact ⟨rfl, raw, rfl, content?_of_read hread⟩
    · cases hdecoded
  · cases hrest

theorem of_on_project (h : (project path version).on host = (.ok (), after)) :
    ∃ text new, ProjectVersion.stamp path version (asRead text) = .ok new ∧
      host.disk.content? (path.location host.folder) = some (Utf8.encode text) ∧
      Puts host path (Utf8.encode new) after := by
  obtain ⟨_, middle, hread, hrest⟩ := exists_of_on_bind h
  obtain ⟨rfl, text, rfl, hcontent⟩ := of_on_readFileText hread
  split at hrest
  · rename_i new hstamp
    exact ⟨text, new, hstamp, hcontent, puts_of_on_store hrest⟩
  · cases hrest

theorem of_on_manifest (h : (manifest path version).on host = (.ok (), after)) :
    ∃ text, host.disk.content? (path.location host.folder) = some (Utf8.encode text) ∧
      Puts host path (Utf8.encode (IdentityVersion.stamp version (asRead text))) after := by
  obtain ⟨_, middle, hread, hrest⟩ := exists_of_on_bind h
  obtain ⟨rfl, text, rfl, hcontent⟩ := of_on_readFileText hread
  exact ⟨text, hcontent, puts_of_on_store hrest⟩

theorem of_on_script {name : String} {changed : Nat}
    (h : (script path version name).on host = (.ok changed, after)) :
    ∃ bytes, host.disk.content? (path.location host.folder) = some bytes ∧
      changed = (ScriptVersion.stamp name version (Script.ofBytes bytes).lines).2 ∧
      Puts host path (if changed = 0 then bytes else Script.toBytes { Script.ofBytes bytes with
        lines := (ScriptVersion.stamp name version (Script.ofBytes bytes).lines).1 }) after := by
  obtain ⟨found, middle, hfound, hrest⟩ := exists_of_on_bind h
  obtain rfl := eq_of_on_hasPath hfound
  split at hrest
  · obtain ⟨bytes, same, hload, hstamped⟩ := exists_of_on_bind hrest
    obtain ⟨rfl, hread⟩ := of_on_load hload
    have hcontent := content?_of_read hread
    dsimp only at hstamped
    split at hstamped
    · rename_i hne
      obtain ⟨_, written, hstore, hgives⟩ := exists_of_on_bind hstamped
      cases hgives
      exact ⟨bytes, hcontent, rfl, by rw [if_neg hne]; exact puts_of_on_store hstore⟩
    · rename_i hzero
      cases hstamped
      exact ⟨bytes, hcontent, rfl, by rw [if_pos (not_not.1 hzero)]; exact puts_self hcontent⟩
  · cases hrest

theorem turns_of_on_stamp (h : (target.stamp version).on host = (.ok listed, after)) :
    ∃ content, Turns version target (host.disk.content? (target.path.location host.folder)) listed
        content ∧ Puts host target.path content after := by
  cases target with
  | versionFile path =>
      obtain ⟨_, middle, hstore, hgives⟩ := exists_of_on_bind h
      cases hgives
      exact ⟨_, .versionFile, puts_of_on_store hstore⟩
  | project path =>
      obtain ⟨_, noted, hnote, hrest⟩ := exists_of_on_bind h
      cases hnote
      obtain ⟨_, middle, hproject, hgives⟩ := exists_of_on_bind hrest
      cases hgives
      obtain ⟨text, new, hstamp, hcontent, hputs⟩ := of_on_project hproject
      exact ⟨_, hcontent ▸ .project hstamp, hputs⟩
  | script name path =>
      obtain ⟨_, noted, hnote, hrest⟩ := exists_of_on_bind h
      cases hnote
      obtain ⟨changed, middle, hscript, hgives⟩ := exists_of_on_bind hrest
      obtain ⟨bytes, hcontent, hchanged, hputs⟩ := of_on_script hscript
      split at hgives
      · rename_i hzero
        obtain ⟨_, warned, hwarning, hlast⟩ := exists_of_on_bind hgives
        cases hwarning
        cases hlast
        rw [if_pos hzero] at hputs
        exact ⟨bytes, hcontent ▸ .sameScript (hchanged.symm.trans hzero), hputs⟩
      · rename_i hne
        cases hgives
        rw [if_neg hne] at hputs
        exact ⟨_, hcontent ▸ .changedScript (hchanged ▸ hne), hputs⟩
  | manifest path =>
      obtain ⟨_, noted, hnote, hrest⟩ := exists_of_on_bind h
      cases hnote
      obtain ⟨_, middle, hmanifest, hgives⟩ := exists_of_on_bind hrest
      cases hgives
      obtain ⟨text, hcontent, hputs⟩ := of_on_manifest hmanifest
      exact ⟨_, hcontent ▸ .manifest, hputs⟩

end Steps

/-! ## What all of them do -/

section Runs

variable {host after : Host} {all front back : List Target} {target : Target}
variable {stamped : List Path}

/-- Stamping several targets changes their files only, and lists no other path. -/
theorem elsewhere_of_on_stampEach (h : (stampEach version all).on host = (.ok stamped, after)) :
    after.folder = host.folder ∧ (∀ path ∈ stamped, ∃ target ∈ all, target.path = path) ∧
      ∀ place, (∀ target ∈ all, target.path.location host.folder ≠ place) →
        after.disk.content? place = host.disk.content? place := by
  induction all generalizing host stamped with
  | nil =>
      cases h
      exact ⟨rfl, by simp, fun _ _ => rfl⟩
  | cons target all ih =>
      obtain ⟨listed, middle, hstamp, hrest⟩ := exists_of_on_bind h
      obtain ⟨others, last, hothers, hgives⟩ := exists_of_on_bind hrest
      cases hgives
      obtain ⟨content, -, hfolder, hcontent⟩ := turns_of_on_stamp hstamp
      obtain ⟨hfolder', hlisted, helsewhere⟩ := ih hothers
      refine ⟨hfolder'.trans hfolder, ?_, ?_⟩
      · intro path hmem
        rcases List.mem_append.1 hmem with hfirst | hmem
        · split at hfirst
          · exact ⟨target, List.mem_cons_self, (List.mem_singleton.1 hfirst).symm⟩
          · cases hfirst
        · obtain ⟨other, hother, hpath⟩ := hlisted path hmem
          exact ⟨other, List.mem_cons_of_mem _ hother, hpath⟩
      · intro place hplace
        obtain ⟨hne, hnot⟩ := List.forall_mem_cons.1 hplace
        rw [helsewhere place (hfolder.symm ▸ hnot), hcontent, Function.update_of_ne hne.symm]

/-- A target whose file is that of no other one is stamped as if it were the only one. -/
theorem exists_turn (h : (stampEach version (front ++ target :: back)).on host =
      (.ok stamped, after))
    (halone : ∀ other ∈ front ++ back,
      other.path.location host.folder ≠ target.path.location host.folder) :
    ∃ listed content,
      Turns version target (host.disk.content? (target.path.location host.folder)) listed content ∧
      after.disk.content? (target.path.location host.folder) = some content ∧
      (target.path ∈ stamped ↔ listed = true) := by
  obtain ⟨hfront, hback⟩ := List.forall_mem_append.1 halone
  have hpaths : ∀ other ∈ front ++ back, other.path ≠ target.path :=
    fun other hother heq => halone other hother (by rw [heq])
  rw [stampEach_append] at h
  obtain ⟨first, before, hfirst, hrest⟩ := exists_of_on_bind h
  obtain ⟨rest, last, hlast, hgives⟩ := exists_of_on_bind hrest
  cases hgives
  obtain ⟨listed, middle, hstamp, hmore⟩ := exists_of_on_bind hlast
  obtain ⟨others, last, hbehind, hgives⟩ := exists_of_on_bind hmore
  cases hgives
  obtain ⟨hfolder, hlisted, hsame⟩ := elsewhere_of_on_stampEach hfirst
  obtain ⟨content, hturns, hfolder', hcontent⟩ := turns_of_on_stamp hstamp
  obtain ⟨-, hlisted', hsame'⟩ := elsewhere_of_on_stampEach hbehind
  rw [hfolder] at hturns hcontent hfolder'
  rw [hsame _ hfront] at hturns
  refine ⟨listed, content, hturns, ?_, ?_⟩
  · rw [hsame' _ (hfolder'.symm ▸ hback), hcontent, Function.update_self]
  · have hnot : ∀ path ∈ first ++ others, path ≠ target.path := by
      intro path hmem
      rcases List.mem_append.1 hmem with hmem | hmem
      · obtain ⟨other, hother, rfl⟩ := hlisted path hmem
        exact hpaths other (List.mem_append_left _ hother)
      · obtain ⟨other, hother, rfl⟩ := hlisted' path hmem
        exact hpaths other (List.mem_append_right _ hother)
    have hleft : target.path ∉ first := fun hmem =>
      hnot _ (List.mem_append_left _ hmem) rfl
    have hright : target.path ∉ others := fun hmem =>
      hnot _ (List.mem_append_right _ hmem) rfl
    cases listed <;> simp [hleft, hright]

theorem on_versionOr (given : Option String) (host : Host) :
    (versionOr given).on host = (.ok (match given with
      | some version => if version.isEmpty then host.clock.version else version
      | none => host.clock.version), host) := by
  cases given with
  | none => rfl
  | some version =>
      unfold versionOr
      rw [on_bind, on_get]
      rfl

theorem all_of_on_versionOr {given : Option String} {test : Char → Bool}
    (h : (versionOr given).on host = (.ok version, after))
    (hgiven : ∀ version ∈ given, version.toList.all test = true)
    (hclock : host.clock.version.toList.all test = true) :
    after = host ∧ version.toList.all test = true := by
  rw [on_versionOr, Prod.mk.injEq, Except.ok.injEq] at h
  obtain ⟨hversion, rfl⟩ := h
  refine ⟨rfl, ?_⟩
  rw [← hversion]
  split
  · split
    · exact hclock
    · exact hgiven _ rfl
  · exact hclock

end Runs

end SetupForge.Stamping

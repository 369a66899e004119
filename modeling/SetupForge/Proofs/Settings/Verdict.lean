import Mathlib
import SetupForge.Proofs.Host.Twins
import SetupForge.Proofs.Settings.Lineage
import SetupForge.Proofs.Settings.Malformed
import SetupForge.Proofs.Text.LineFeeds
import SetupForge.Settings.Check

/-! # What becomes of simple settings

Simple settings are resolved or refused, and checking a file that holds them gives a report, unless
they upset the resolving. The one number that a check writes is the .NET major version of an action;
it comes from an entry and can be written.
-/

namespace SetupForge

open Job

/-! ## Major versions of a tree -/

theorem hasText_of_majorOfValue {place : String} {value : Value} {major : Int}
    (hsimple : value.isSimple = true) (htext : value.hasText = true)
    (h : majorOfValue place value = .ok major) : Text.hasText major = true := by
  have hrefused {fault : String → SettingsFault} :
      (value.refuse fault : Except Failure Int) ≠ .ok major := by
    unfold Value.refuse
    split <;> simp
  unfold majorOfValue at h
  dsimp only at h
  split at h
  · cases h
    exact Text.hasText_of_digit (by decide)
  · split at h
    · cases h
      exact Text.hasText_of_digit (by decide)
    · cases h
      exact htext
    · cases h
    · split at h
      · rename_i truncated htruncated
        cases h
        exact Binary64.hasText_of_truncate? hsimple htruncated
      · exact absurd h hrefused
    · split at h
      · rename_i read hread
        cases h
        exact Text.hasText_of_integer? hread
      · exact absurd h hrefused
    · cases hsimple
    · exact absurd h hrefused

namespace Action

variable {place : String} {action after : Action}

theorem hasText_of_assign {key : SettingKey} {value : Value} (hsimple : value.isSimple = true)
    (hmishap : ¬ Mishap (key, value) .tooManyDigits) (hmajor : Text.hasText action.major = true)
    (h : action.assign place (key, value) = .ok after) : Text.hasText after.major = true := by
  cases key with
  | netMajorVersion =>
      have htext : value.hasText = true := by
        by_contra hnone
        exact hmishap (.digits (by simp) (by simpa using hnone))
      obtain ⟨major, hvalue, rfl⟩ := exists_of_map h
      exact hasText_of_majorOfValue hsimple htext hvalue
  | actions =>
      cases h
      exact hmajor
  | _ =>
      obtain ⟨_, -, rfl⟩ := exists_of_map h
      exact hmajor

theorem hasText_of_ofEntries {entries : Entries}
    (hsimple : ∀ entry ∈ entries, entry.2.isSimple = true)
    (hmishap : ∀ entry ∈ entries, ¬ Mishap entry .tooManyDigits)
    (hmajor : Text.hasText action.major = true) (h : ofEntries place action entries = .ok after) :
    Text.hasText after.major = true := by
  induction entries generalizing action with
  | nil =>
      cases h
      exact hmajor
  | cons entry entries ih =>
      obtain ⟨hentry, hentries⟩ := List.forall_mem_cons.1 hsimple
      obtain ⟨hfirst, hrest⟩ := List.forall_mem_cons.1 hmishap
      rw [ofEntries] at h
      split at h
      · rename_i assigned hassign
        exact ih hentries hrest (hasText_of_assign hentry hfirst hmajor hassign) h
      · cases h

theorem major_of_expandedIn {around : Surroundings} {fields : List TextField}
    (h : expandedIn around action fields = .ok after) : after.major = action.major := by
  induction fields generalizing action with
  | nil =>
      cases h
      rfl
  | cons field fields ih =>
      obtain ⟨text, -, hrest⟩ := exists_of_bind h
      have hmajor := ih hrest
      exact hmajor

end Action

namespace ActionTree

mutual

def Holds (p : Action → Prop) : ActionTree → Prop
  | .node own children => p own ∧ AllHold p children

def AllHold (p : Action → Prop) : List ActionTree → Prop
  | [] => True
  | tree :: trees => Holds p tree ∧ AllHold p trees

end

variable {p : Action → Prop}

theorem allHold_of_forall {trees : List ActionTree} (h : ∀ tree ∈ trees, Holds p tree) :
    AllHold p trees := by
  induction trees with
  | nil => trivial
  | cons tree trees ih =>
      obtain ⟨htree, htrees⟩ := List.forall_mem_cons.1 h
      exact ⟨htree, ih htrees⟩

mutual

theorem forall_mem_flatten (hp : ∀ parent own, p parent → p own → p (Action.inherit parent own))
    {parent : Option Action} (hparent : ∀ around ∈ parent, p around) {tree : ActionTree}
    (h : Holds p tree) : ∀ action ∈ flatten parent tree, p action := by
  cases tree with
  | node own children =>
      obtain ⟨hown, hchildren⟩ := h
      cases parent with
      | none =>
          rw [flatten]
          refine List.forall_mem_append.2 ⟨forall_mem_flattenAll hp hown hchildren, ?_⟩
          split <;> simp [hown]
      | some parent =>
          have hfilled := hp parent own (hparent parent rfl) hown
          rw [flatten]
          refine List.forall_mem_append.2 ⟨forall_mem_flattenAll hp hfilled hchildren, ?_⟩
          split <;> simp [hfilled]

theorem forall_mem_flattenAll
    (hp : ∀ parent own, p parent → p own → p (Action.inherit parent own))
    {parent : Action} (hparent : p parent) {trees : List ActionTree} (h : AllHold p trees) :
    ∀ action ∈ flattenAll parent trees, p action := by
  cases trees with
  | nil => simp [flattenAll]
  | cons tree trees =>
      rw [flattenAll]
      exact List.forall_mem_append.2
        ⟨forall_mem_flatten hp (by simpa using hparent) h.1, forall_mem_flattenAll hp hparent h.2⟩

end

variable {value : Value} {tree : ActionTree}

/-- A tree that was read from entries without too many digits has major versions with a text. -/
theorem holds_of_ofValueFuel {room : Nat} {place : String} (hsimple : value.isSimple = true)
    (hmishap : ∀ entry, value.Writes entry → ¬ Mishap entry .tooManyDigits)
    (h : (ofValueFuel room place value).1 = .ok tree) :
    tree.Holds fun action => Text.hasText action.major = true := by
  induction room generalizing place value tree with
  | zero => cases h
  | succ room ih =>
      rcases ofValueFuel_cases hsimple room place with
        ⟨fault, hfault⟩ | ⟨entries, items, hentries, hitems, hread⟩
      · rw [hfault] at h
        cases h
      · rw [hread] at h
        obtain ⟨children, hchildren, h⟩ := exists_of_bind h
        obtain ⟨own, hown, h⟩ := exists_of_bind h
        cases h
        refine ⟨?_, allHold_of_forall fun child hchild => ?_⟩
        · exact Action.hasText_of_ofEntries
            (fun entry => Entries.isSimple_of_entries? hsimple hentries)
            (fun entry hmem => hmishap entry (Value.writes_of_mem hentries hmem))
            (Text.hasText_of_digit (by decide)) hown
        · obtain ⟨item, hitem, place, hchild⟩ := exists_ok_of_ofItems hchildren child hchild
          exact ih (Entries.isSimple_of_child hsimple hentries hitems hitem)
            (fun entry hentry => hmishap entry (hentry.inside hentries hitems hitem)) hchild

/-- What a simple value without too many digits is resolved to has major versions with a text. -/
theorem hasText_of_resolve {around : Surroundings} {workingPath : Option Path}
    {actions : List Action} (hsimple : value.isSimple = true)
    (hmishap : ∀ entry, value.Writes entry → ¬ Mishap entry .tooManyDigits)
    (h : (resolve around workingPath value).1 = .ok actions) :
    ∀ action ∈ actions, Text.hasText action.major = true := by
  have hzero : Text.hasText 0 = true := Text.hasText_of_digit (by decide)
  have hinherit (parent own : Action) (hparent : Text.hasText parent.major = true)
      (hown : Text.hasText own.major = true) :
      Text.hasText (Action.inherit parent own).major = true := by
    unfold Action.inherit
    dsimp only
    split
    · exact hparent
    · exact hown
  unfold resolve at h
  cases hread : ofValue "root" value with
  | mk result warnings =>
      rw [hread] at h
      cases result with
      | error other => cases h
      | ok tree =>
          have hvalue : (ofValueFuel deepest "root" value).1 = .ok tree := by
            rw [ofValue] at hread
            rw [hread]
          have htree := holds_of_ofValueFuel hsimple hmishap hvalue
          have hroot : (tree.mapOwn (Action.withRootDefaults workingPath)).Holds
              fun action => Text.hasText action.major = true := by
            cases tree with
            | node own children =>
                obtain ⟨hown, hchildren⟩ := htree
                refine ⟨?_, hchildren⟩
                rw [Action.withRootDefaults_eq]
                exact hinherit (Action.aroundRoot workingPath) own hzero hown
          intro action haction
          obtain ⟨source, hsource, hexpanded⟩ := exists_of_mem_mapM h action haction
          have hmajor : action.major = source.major := Action.major_of_expandedIn hexpanded
          rw [hmajor]
          exact forall_mem_flatten hinherit (by simp) hroot source hsource

end ActionTree

/-! ## Checking actions -/

namespace Job

/-- Whether a job comes to its end on every host, but for certain failures. -/
def FailsOnly {α : Type} (allowed : Failure → Prop) (job : Job α) : Prop :=
  ∀ host failure, (job.on host).1 = .error failure → allowed failure

variable {α β : Type} {allowed : Failure → Prop}

theorem failsOnly_pure (value : α) : FailsOnly allowed (pure value) := fun _ _ h => by cases h

theorem failsOnly_say (utterance : Utterance) : FailsOnly allowed (say utterance) :=
  fun _ _ h => by cases h

theorem FailsOnly.bind {job : Job α} {next : α → Job β} (h : FailsOnly allowed job)
    (hnext : ∀ value, FailsOnly allowed (next value)) : FailsOnly allowed (job >>= next) := by
  intro host failure hfailure
  rw [on_bind] at hfailure
  cases hjob : job.on host with
  | mk result after =>
      rw [hjob] at hfailure
      cases result with
      | error other =>
          cases hfailure
          exact h host failure (by rw [hjob])
      | ok value => exact hnext value after failure hfailure

theorem failsOnly_requireText {n : Int} (h : Text.hasText n = false → allowed .tooManyDigits) :
    FailsOnly allowed (requireText n) := by
  intro host failure hfailure
  unfold requireText at hfailure
  split at hfailure
  · cases hfailure
  · rename_i htext
    cases hfailure
    exact h (by simpa using htext)

end Job

namespace Check

variable {allowed : Failure → Prop}

theorem failsOnly_progress (verbose : Bool) (line : String) :
    FailsOnly allowed (progress verbose line) := by
  unfold progress
  split
  · exact failsOnly_say _
  · exact failsOnly_pure ()

theorem exists_on_progress (verbose : Bool) (line : String) (host : Host) :
    ∃ other, (progress verbose line).on host = (.ok (), other) ∧ host.Twins .any other := by
  cases verbose with
  | true => exact ⟨_, rfl, ⟨rfl, rfl, rfl, rfl, rfl, rfl, rfl, rfl, rfl, rfl, trivial⟩⟩
  | false => exact ⟨host, rfl, Host.Twins.refl trivial⟩

theorem failsOnly_checkAction {subject : Action}
    (h : Text.hasText subject.major = false → allowed .tooManyDigits) (verbose : Bool) :
    FailsOnly allowed (checkAction verbose subject) := by
  unfold checkAction
  split
  · have hfindings : FailsOnly allowed (do
        if (action subject).errors.isEmpty then
          progress verbose s!"  [OK] {subject.displayName} ({subject.kind.name})"
        pure (action subject)) := by
      split
      · exact (failsOnly_progress verbose _).bind fun _ => failsOnly_pure _
      · exact failsOnly_pure _
    split
    · exact (failsOnly_requireText h).bind fun _ => hfindings
    · exact hfindings
  · exact (failsOnly_say _).bind fun _ => failsOnly_pure _

theorem failsOnly_checkActions {actions : List Action}
    (h : ∀ subject ∈ actions, Text.hasText subject.major = false → allowed .tooManyDigits)
    (verbose : Bool) : FailsOnly allowed (checkActions verbose actions) := by
  induction actions with
  | nil => exact failsOnly_pure _
  | cons subject rest ih =>
      obtain ⟨hsubject, hrest⟩ := List.forall_mem_cons.1 h
      exact (failsOnly_checkAction hsubject verbose).bind fun _ =>
        (ih hrest).bind fun _ => failsOnly_pure _

end Check

/-! ## Loading on twins -/

namespace SettingsFile

variable {likeness : Likeness}

theorem alike_readValue (path : Path) : Alike likeness (readValue path) (readValue path) := by
  refine (alike_hasPath path).bind fun there => ?_
  split
  · refine (alike_readText path).bind fun text => ?_
    split
    · exact alike_fail _
    · exact alike_reject _
    · exact alike_pure _
  · exact alike_reject _

theorem alike_setVariables (content : Bytes) :
    Alike likeness (setVariables content) (setVariables content) := by
  unfold setVariables
  split
  · exact alike_fail _
  · refine alike_get_bind fun host other h => ?_
    rw [h.environment]
    refine (alike_set (h.withEnvironment _)).bind fun _ => ?_
    split
    · exact alike_fail _
    · exact alike_pure ()

theorem alike_loadVariables (path : Path) :
    Alike likeness (loadVariables path) (loadVariables path) := by
  refine (alike_status _).bind fun node? => ?_
  split
  · refine alike_get_bind fun host other h => ?_
    rw [h.environment]
    split
    · exact alike_pure ()
    · exact alike_setVariables _
  · exact alike_pure ()

/-- Loading a file whose value was read fails with its variables, or because the value is no
mapping. -/
theorem on_load_cases {path : Path} {value : Value} {host after other : Host}
    (hread : (readValue path).on host = (.ok value, after)) (htwins : host.Twins .any other) :
    (∃ failure, ((loadVariables path).on after).1 = .error failure ∧
        ((load path).on other).1 = .error failure) ∨
      (∃ fault, ((load path).on other).1 = .error (.settings fault)) ∨
      ((load path).on other).1 = .ok value ∧ ((load path).on other).2.surroundings =
        ((loadVariables path).on after).2.surroundings := by
  obtain ⟨hvalue, hafter⟩ := alike_readValue path host other htwins
  rw [hread] at hvalue hafter
  rw [load, on_bind]
  cases hother : (readValue path).on other with
  | mk result reached =>
      rw [hother] at hvalue hafter
      dsimp only at hvalue hafter
      subst hvalue
      dsimp only
      obtain ⟨hresult, hready⟩ := alike_loadVariables path after reached hafter
      rw [on_bind, hresult]
      cases hvariables : (loadVariables path).on reached with
      | mk result ready =>
          rw [hvariables] at hready
          cases result with
          | error failure => exact Or.inl ⟨failure, rfl, rfl⟩
          | ok _ =>
              dsimp only
              split
              · exact Or.inr (Or.inr ⟨rfl, hready.surroundings⟩)
              · exact Or.inr (Or.inl ⟨_, rfl⟩)

end SettingsFile

namespace Check

variable {path : Path} {value : Value} {host after other : Host}

/-- What can stop checking a file whose value was read, with the host as it was then. -/
def Upset (path : Path) (value : Value) (after : Host) (failure : Failure) : Prop :=
  ((SettingsFile.loadVariables path).on after).1 = .error failure ∨
    value.Upsets ((SettingsFile.loadVariables path).on after).2.surroundings failure

def readingOf (around : Surroundings) (workingPath : Option Path) :
    Except Failure Value → Reading (List Action)
  | .error failure => (.error failure, [])
  | .ok value => ActionTree.resolve around workingPath value

/-- What a check makes of a reading: a fault of the settings is a message. -/
def judged : Reading (List Action) → Except Failure (Except String (List Action) × List String)
  | (.ok actions, warnings) => .ok (.ok actions, warnings)
  | (.error (.settings fault), warnings) => .ok (.error fault.message, warnings)
  | (.error failure, _) => .error failure

theorem error_of_judged {reading : Reading (List Action)} {failure : Failure}
    (h : judged reading = .error failure) :
    reading.1 = .error failure ∧ ∀ fault, failure ≠ .settings fault := by
  unfold judged at h
  split at h
  · cases h
  · cases h
  · rename_i hother
    cases h
    exact ⟨rfl, hother⟩

theorem ok_of_judged {reading : Reading (List Action)} {actions : List Action}
    {warnings : List String} (h : judged reading = .ok (.ok actions, warnings)) :
    reading.1 = .ok actions := by
  unfold judged at h
  split at h <;> cases h
  rfl

theorem on_loadForCheck (path : Path) (workingPath : Option Path) (host : Host) :
    ((loadForCheck path workingPath).on host).1 =
      judged (readingOf ((SettingsFile.load path).on host).2.surroundings workingPath
        ((SettingsFile.load path).on host).1) := by
  rw [loadForCheck, on_bind, on_attempt]
  dsimp only
  rw [on_bind, on_get]
  dsimp only
  generalize ((SettingsFile.load path).on host).2.surroundings = around
  cases ((SettingsFile.load path).on host).1 with
  | error failure => cases failure <;> rfl
  | ok value =>
      rw [readingOf]
      dsimp only
      cases ActionTree.resolve around workingPath value with
      | mk result warnings =>
          rcases result with failure | actions
          · cases failure <;> rfl
          · rfl

/-- Reading fails with a fault of the settings unless it is upset, and actions that it gives have
major versions with a text unless too many digits upset it. -/
theorem readingOf_cases (hsimple : value.isSimple = true)
    (hread : (SettingsFile.readValue path).on host = (.ok value, after))
    (htwins : host.Twins .any other) (workingPath : Option Path) :
    let reading := readingOf ((SettingsFile.load path).on other).2.surroundings workingPath
      ((SettingsFile.load path).on other).1
    (∀ failure, reading.1 = .error failure →
      (∃ fault, failure = .settings fault) ∨ Upset path value after failure) ∧
    ∀ actions, reading.1 = .ok actions → ∀ subject ∈ actions,
      Text.hasText subject.major = false → Upset path value after .tooManyDigits := by
  rcases SettingsFile.on_load_cases hread htwins with
    ⟨failure, hvariables, hloaded⟩ | ⟨fault, hloaded⟩ | ⟨hloaded, hsurroundings⟩
  · rw [hloaded]
    refine ⟨?_, nofun⟩
    rintro _ ⟨⟩
    exact Or.inr (Or.inl hvariables)
  · rw [hloaded]
    refine ⟨?_, nofun⟩
    rintro _ ⟨⟩
    exact Or.inl ⟨fault, rfl⟩
  · rw [hloaded, hsurroundings]
    refine ⟨fun failure hfailure => ?_, fun actions hactions subject hsubject htext => ?_⟩
    · exact (ActionTree.upsets_of_resolve hsimple hfailure).imp_right Or.inr
    · by_contra hupset
      have hmishap : ∀ entry, value.Writes entry → ¬ Mishap entry .tooManyDigits :=
        fun entry hentry hmishap => hupset (Or.inr (Or.inl (.entry hentry hmishap)))
      have hnumber := ActionTree.hasText_of_resolve hsimple hmishap hactions subject hsubject
      rw [htext] at hnumber
      cases hnumber

theorem on_settingsFile_cases (hsimple : value.isSimple = true)
    (hread : (SettingsFile.readValue path).on host = (.ok value, after))
    (workingPath : Option Path) (verbose : Bool) :
    (∃ report, ((settingsFile path workingPath verbose).on host).1 = .ok report) ∨
      ∃ failure, ((settingsFile path workingPath verbose).on host).1 = .error failure ∧
        Upset path value after failure := by
  have hend : ∀ failure, ((settingsFile path workingPath verbose).on host).1 = .error failure →
      Upset path value after failure := by
    intro failure hfailure
    obtain ⟨ready, hready, htwins⟩ :=
      exists_on_progress verbose s!"Validating settings: {path}" host
    rw [settingsFile, on_bind, hready] at hfailure
    dsimp only at hfailure
    rw [on_bind] at hfailure
    obtain ⟨hfails, hnumbers⟩ := readingOf_cases hsimple hread htwins workingPath
    have hjudged := on_loadForCheck path workingPath ready
    cases hload : (loadForCheck path workingPath).on ready with
    | mk loaded checked =>
        rw [hload] at hjudged hfailure
        rcases loaded with other | ⟨message | actions, warnings⟩
        · cases hfailure
          obtain ⟨hreading, hnone⟩ := error_of_judged hjudged.symm
          exact (hfails failure hreading).resolve_left fun ⟨fault, hfault⟩ => hnone fault hfault
        · cases hfailure
        · dsimp only at hfailure
          refine (?_ : FailsOnly (Upset path value after) _) checked failure hfailure
          exact (failsOnly_progress verbose _).bind fun _ =>
            (failsOnly_checkActions (hnumbers actions (ok_of_judged hjudged.symm)) verbose).bind
              fun _ => (failsOnly_progress verbose _).bind fun _ => failsOnly_pure _
  cases hresult : ((settingsFile path workingPath verbose).on host).1 with
  | ok report => exact Or.inl ⟨report, rfl⟩
  | error failure => exact Or.inr ⟨failure, rfl, hend failure hresult⟩

end Check

namespace Value

/-- Simple settings are resolved or refused, and a file that holds them is reported on, unless they
upset the resolving or the variables beside the file cannot be loaded. -/
theorem resolved_and_reported_unless_upset {value : Value} (hsimple : value.isSimple = true) :
    (∀ around workingPath,
      (∃ actions, (ActionTree.resolve around workingPath value).1 = .ok actions) ∨
        (∃ fault,
          (ActionTree.resolve around workingPath value).1 = .error (.settings fault)) ∨
        ∃ failure, (ActionTree.resolve around workingPath value).1 = .error failure ∧
          value.Upsets around failure) ∧
      ∀ host after path workingPath verbose,
        (SettingsFile.readValue path).on host = (.ok value, after) →
        (∃ report, ((Check.settingsFile path workingPath verbose).on host).1 = .ok report) ∨
          ∃ failure, ((Check.settingsFile path workingPath verbose).on host).1 = .error failure ∧
            Check.Upset path value after failure := by
  refine ⟨fun around workingPath => ?_, fun host after path workingPath verbose hread =>
    Check.on_settingsFile_cases hsimple hread workingPath verbose⟩
  cases hresult : (ActionTree.resolve around workingPath value).1 with
  | ok actions => exact Or.inl ⟨actions, rfl⟩
  | error failure =>
      rcases ActionTree.upsets_of_resolve hsimple hresult with ⟨fault, rfl⟩ | hupsets
      · exact Or.inr (Or.inl ⟨fault, rfl⟩)
      · exact Or.inr (Or.inr ⟨failure, rfl, hupsets⟩)

/-- Actions whose entries are of several kinds; the major version of the last is no number. -/
def mixedActions : List Value :=
  [.mapping [(.text "ProjectBuildLevel", .integer 2), (.text "remarks", .mapping [])],
    .mapping [(.text "active", .null), (.text "net_major_version", .text "eight")]]

def mixedSettings : Value :=
  .mapping [(.text "Name", .integer 7), (.text "active", .text "yes"),
    (.text "options", .list [.text "MODE=a", .bool true, .null]),
    (.text "actions", .list mixedActions)]

def mixedText : List Char :=
  "\x7b\"Name\":7,\"active\":\"yes\",\"options\":[\"MODE=a\",true,null],".toList ++
    "\"actions\":[\x7b\"ProjectBuildLevel\":2,\"remarks\":\x7b\x7d\x7d,".toList ++
    "\x7b\"active\":null,\"net_major_version\":\"eight\"\x7d]\x7d".toList

def mixedPath : Path := ⟨.current, ["s.json"]⟩

def mixedHost : Host where
  disk := ⟨[(["s.json"], .file (Utf8.encode mixedText))]⟩
  accountHome := some "/home/tester"

theorem readText_mixed : (readText mixedPath).on mixedHost = (.ok mixedText, mixedHost) := by
  have hread : mixedHost.disk.read mixedHost.folder mixedPath = .ok (Utf8.encode mixedText) := rfl
  have hplain : Text.asRead mixedText = mixedText := by decide +kernel
  rw [on_readText rfl hread, hplain]

theorem readValue_mixed :
    (SettingsFile.readValue mixedPath).on mixedHost = (.ok mixedSettings, mixedHost) := by
  have hthere : (hasPath mixedPath).on mixedHost = (.ok true, mixedHost) := rfl
  have hjson : SettingsFile.isJson mixedPath = true := by decide
  have hread : Json.read mixedText = .ok mixedSettings := by cbv
  have hvalue : SettingsFile.valueOf mixedPath mixedText = .ok mixedSettings := by
    rw [SettingsFile.valueOf, if_pos hjson, hread]
    rfl
  rw [SettingsFile.readValue, on_bind, hthere]
  dsimp only
  rw [if_pos rfl, on_bind, readText_mixed]
  dsimp only
  rw [hvalue]
  rfl

/-- What is written in the actions of the settings, less the list of them. -/
def mixedEntries : Entries :=
  [(.name, .integer 7), (.active, .text "yes"),
    (.options, .list [.text "MODE=a", .bool true, .null]),
    (.projectBuildLevel, .integer 2), (.remarks, .mapping []),
    (.active, .null), (.netMajorVersion, .text "eight")]

theorem entries_mixed :
    mixedSettings.entries? = some (mixedEntries.take 3 ++ [(.actions, .list mixedActions)]) := by
  cbv

theorem entries_of_mem_mixed {item : Value} (h : item ∈ mixedActions) :
    ∃ entries, item.entries? = some entries ∧ entries ⊆ mixedEntries ∧
      ActionTree.childValues? entries = some [] := by
  rcases List.mem_cons.1 h with rfl | h
  · exact ⟨[(.projectBuildLevel, .integer 2), (.remarks, .mapping [])], by cbv,
      by simp [mixedEntries], rfl⟩
  · obtain rfl := List.mem_singleton.1 h
    exact ⟨[(.active, .null), (.netMajorVersion, .text "eight")], by cbv,
      by simp [mixedEntries], rfl⟩

theorem nests_mixed {depth : Nat} {inner : Value} (h : mixedSettings.Nests depth inner) :
    depth = 0 ∧ inner = mixedSettings ∨ depth = 1 ∧ inner ∈ mixedActions := by
  cases h with
  | here => exact Or.inl ⟨rfl, rfl⟩
  | inside hentries hitems hitem hinner =>
      obtain rfl := Option.some.inj (entries_mixed.symm.trans hentries)
      obtain rfl := Option.some.inj ((rfl : some mixedActions = _).trans hitems)
      cases hinner with
      | here => exact Or.inr ⟨rfl, hitem⟩
      | inside hinner hnone hmem _ =>
          obtain ⟨entries, hheld, -, hchildren⟩ := entries_of_mem_mixed hitem
          obtain rfl := Option.some.inj (hheld.symm.trans hinner)
          obtain rfl := Option.some.inj (hchildren.symm.trans hnone)
          cases hmem

theorem writes_mixed {entry : SettingKey × Value} (h : mixedSettings.Writes entry) :
    entry.1 = .actions ∨ entry ∈ mixedEntries := by
  obtain ⟨depth, inner, entries, hinner, hentries, hmem⟩ := h
  rcases nests_mixed hinner with ⟨-, rfl⟩ | ⟨-, hitem⟩
  · obtain rfl := Option.some.inj (entries_mixed.symm.trans hentries)
    rcases List.mem_append.1 hmem with hfirst | hlast
    · exact Or.inr (List.mem_of_mem_take hfirst)
    · exact Or.inl (by rw [List.mem_singleton.1 hlast])
  · obtain ⟨others, hheld, hsub, -⟩ := entries_of_mem_mixed hitem
    obtain rfl := Option.some.inj (hheld.symm.trans hentries)
    exact Or.inr (hsub hmem)

theorem not_mishap_mixed {entry : SettingKey × Value} (failure : Failure)
    (hentry : mixedSettings.Writes entry) : ¬ Mishap entry failure := by
  have hplain : mixedEntries.all (fun entry =>
      entry.2.hasText && (entry.1 != .projectBuildLevel || entry.2.isLevelForm)) = true := by
    decide +kernel
  rw [List.all_eq_true] at hplain
  intro hmishap
  rcases writes_mixed hentry with hactions | hmem
  · cases hmishap with
    | digits hkey _ => exact hkey hactions
    | _ => cases hactions
  · cases hmishap with
    | digits _ htext => simpa [htext] using hplain _ hmem
    | level hform => simpa [hform] using hplain _ hmem
    | infinite negative => simp [mixedEntries] at hmem

theorem not_upset_mixed (failure : Failure) :
    ¬ Check.Upset mixedPath mixedSettings mixedHost failure := by
  rintro (hvariables | (⟨hentry, hmishap⟩ | hdeep) | ⟨-, hhome⟩)
  · cases hvariables
  · exact not_mishap_mixed failure hentry hmishap
  · rcases nests_mixed hdeep with ⟨hdepth, -⟩ | ⟨hdepth, -⟩ <;> cases hdepth
  · cases hhome

/-- These settings are refused and their file is reported on, as nothing in them upsets either. -/
theorem mixed_settings_reported :
    mixedSettings.isSimple = true ∧
      (SettingsFile.readValue mixedPath).on mixedHost = (.ok mixedSettings, mixedHost) ∧
      (∃ fault, (ActionTree.resolve mixedHost.surroundings none mixedSettings).1 =
        .error (.settings fault)) ∧
      ∃ report, ((Check.settingsFile mixedPath none true).on mixedHost).1 = .ok report := by
  have hsimple : mixedSettings.isSimple = true := by decide
  obtain ⟨hresolved, hreported⟩ := resolved_and_reported_unless_upset hsimple
  refine ⟨hsimple, readValue_mixed, ?_, ?_⟩
  · have hresult : (ActionTree.resolve mixedHost.surroundings none mixedSettings).1 =
        .error (.settings (.majorNotInteger "root.actions[1]" "'eight'")) := by cbv
    rcases hresolved mixedHost.surroundings none with
      ⟨actions, hactions⟩ | hfault | ⟨failure, -, hupsets⟩
    · rw [hresult] at hactions
      cases hactions
    · exact hfault
    · exact absurd (Or.inr hupsets) (not_upset_mixed failure)
  · rcases hreported mixedHost mixedHost mixedPath none true readValue_mixed with
      hreport | ⟨failure, -, hupset⟩
    · exact hreport
    · exact absurd hupset (not_upset_mixed failure)

def halfLevel : Value :=
  .mapping [(.text "project_build_level", .real (.finite false 6755399441055744 (-52)))]

/-- A build level that is no integer is neither taken nor refused. -/
theorem half_level_not_refused :
    halfLevel.isSimple = true ∧
      (ActionTree.resolve {} none halfLevel).1 = .error .levelWithoutText := by
  exact ⟨by decide, rfl⟩

end Value

end SetupForge

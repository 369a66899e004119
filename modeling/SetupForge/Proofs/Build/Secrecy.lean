import Mathlib.Data.List.Forall2
import SetupForge.Proofs.Build.Twins

/-! # The password of the certificate

Of all that publishing says, only what it says when the signing tool is started to sign with a
certificate file depends on the password. Command lines are logged as they are, so there the password
can be read; without a certificate file it is in no message.
-/

namespace SetupForge

open Job

namespace Likeness

/-- The closeness of logs that go on from the same start, one message related to one other. -/
def upTo (before : List Utterance) (relates : Utterance → Utterance → Prop)
    (hrefl : ∀ utterance, relates utterance utterance) : Likeness where
  rel said other := ∃ more twin, said = before ++ more ∧ other = before ++ twin ∧
    List.Forall₂ relates more twin
  append {said other} added h := by
    obtain ⟨more, twin, rfl, rfl, hrelated⟩ := h
    refine ⟨more ++ added, twin ++ added, List.append_assoc .., List.append_assoc .., ?_⟩
    exact List.rel_append hrelated (List.forall₂_same.2 fun utterance _ => hrefl utterance)

variable {before : List Utterance} {relates : Utterance → Utterance → Prop}
  {hrefl : ∀ utterance, relates utterance utterance}

theorem rel_upTo_self : (upTo before relates hrefl).rel before before :=
  ⟨[], [], (List.append_nil _).symm, (List.append_nil _).symm, .nil⟩

theorem admits_upTo {utterance twin : Utterance} (h : relates utterance twin) :
    (upTo before relates hrefl).Admits utterance twin := by
  rintro _ _ ⟨more, others, rfl, rfl, hrelated⟩
  refine ⟨more ++ [utterance], others ++ [twin], List.append_assoc .., List.append_assoc .., ?_⟩
  exact List.rel_append hrelated (.cons h .nil)

end Likeness

namespace SigningSettings

def withPassword (settings : SigningSettings) (password : String) : SigningSettings :=
  { settings with password }

variable {settings : SigningSettings} {password other : String}

theorem mode_withPassword_congr (hpassword : password ≠ "") (hother : other ≠ "") :
    (settings.withPassword password).mode = (settings.withPassword other).mode := by
  have hset : password.isEmpty = false := by simpa using hpassword
  have hotherSet : other.isEmpty = false := by simpa using hother
  unfold mode withPassword
  dsimp only
  rw [hset, hotherSet]

theorem mode_ne_file (h : settings.certificate = "") : settings.mode ≠ .file := by
  have hempty : settings.certificate.isEmpty = true := String.isEmpty_iff.2 h
  unfold mode
  simp only [hempty, Bool.not_true, Bool.false_and, Bool.false_eq_true, if_false]
  split <;> simp

end SigningSettings

namespace Signing

/-- Whether two utterances are the same, or tell that the tool is started to sign the same file with
a certificate file, each with its own settings. -/
inductive SameButSettings (settings other : SigningSettings) : Utterance → Utterance → Prop
  | same (utterance : Utterance) : SameButSettings settings other utterance utterance
  | start (target : Path) (h : settings.mode = .file) :
      SameButSettings settings other (.note (startNote target settings))
        (.note (startNote target other))

variable {settings : SigningSettings} {password other : String}

/-- The password is an argument in the mode of a certificate file only. -/
theorem startNote_withPassword_congr (hmode : (settings.withPassword password).mode ≠ .file)
    (hsame : (settings.withPassword password).mode = (settings.withPassword other).mode)
    (target : Path) :
    startNote target (settings.withPassword password) =
      startNote target (settings.withPassword other) := by
  unfold startNote signArguments
  rw [← hsame]
  cases hfound : (settings.withPassword password).mode with
  | file => exact absurd hfound hmode
  | thumbprint => rfl
  | automatic => rfl

theorem sameButSettings_startNote (hpassword : password ≠ "") (hother : other ≠ "")
    (target : Path) :
    SameButSettings (settings.withPassword password) (settings.withPassword other)
      (.note (startNote target (settings.withPassword password)))
      (.note (startNote target (settings.withPassword other))) := by
  by_cases hmode : (settings.withPassword password).mode = .file
  · exact .start target hmode
  · rw [startNote_withPassword_congr hmode
      (SigningSettings.mode_withPassword_congr hpassword hother) target]
    exact .same _

theorem matches_withPassword (hpassword : password ≠ "") (hother : other ≠ "")
    (before : List Utterance) :
    Matches (.upTo before (SameButSettings (settings.withPassword password)
      (settings.withPassword other)) .same) (settings.withPassword password)
      (settings.withPassword other) where
  tool := rfl
  mode := (SigningSettings.mode_withPassword_congr hpassword hother).symm
  timestampUrl := rfl
  start target := Likeness.admits_upTo (sameButSettings_startNote hpassword hother target)

/-- Without a certificate file the settings do not show. -/
theorem eq_of_sameButSettings {settings other : SigningSettings}
    (hmode : settings.mode ≠ .file) {said twin : List Utterance}
    (h : List.Forall₂ (SameButSettings settings other) said twin) : said = twin := by
  induction h with
  | nil => rfl
  | cons hfirst _ ih =>
      cases hfirst with
      | same utterance => rw [ih]
      | start target hfile => exact absurd hfile hmode

end Signing

namespace Action

def withPassword (action : Action) (password : String) : Action :=
  action.withText .certPassword password

variable (action : Action) (password : String)

theorem text_withPassword {field : TextField} (h : field ≠ .certPassword) :
    (action.withPassword password).text field = action.text field :=
  text_withText_of_ne password h

theorem signingOn_withPassword (host : Host) :
    (action.withPassword password).signingOn host =
      (action.signingOn host).withPassword password := by
  unfold signingOn located
  simp only [text_withPassword action password (by decide : TextField.certFilename ≠ _),
    text_withPassword action password (by decide : TextField.workingPath ≠ _),
    text_withPassword action password (by decide : TextField.signToolFilename ≠ _),
    text_withPassword action password (by decide : TextField.shaThumbprint ≠ _),
    text_withPassword action password (by decide : TextField.certTimestampUrl ≠ _)]
  rw [withPassword, text_withText_self]
  split <;> rfl

theorem requiredField_withPassword {field : TextField} (h : field ≠ .certPassword)
    (canCreate : Bool) :
    SettingsPath.requiredField (action.withPassword password) field canCreate =
      SettingsPath.requiredField action field canCreate := by
  unfold SettingsPath.requiredField
  rw [action.text_withPassword password h,
    action.text_withPassword password (by decide : TextField.workingPath ≠ _)]

theorem signing_withPassword :
    (action.withPassword password).signing =
      action.signing >>= fun signing => pure (signing.withPassword password) := by
  unfold signing SettingsPath.optionalField
  simp only [text_withPassword action password (by decide : TextField.certFilename ≠ _),
    text_withPassword action password (by decide : TextField.workingPath ≠ _),
    text_withPassword action password (by decide : TextField.signToolFilename ≠ _),
    text_withPassword action password (by decide : TextField.shaThumbprint ≠ _),
    text_withPassword action password (by decide : TextField.certTimestampUrl ≠ _), bind_assoc,
    pure_bind]
  refine bind_congr fun certificate => ?_
  rw [withPassword, text_withText_self]
  split <;> rfl

theorem runtime_withPassword : (action.withPassword password).runtime = action.runtime := by
  unfold runtime
  rw [action.text_withPassword password (by decide : TextField.runtimeDownloadUrl ≠ _),
    action.text_withPassword password (by decide : TextField.runtimeResourceDir ≠ _),
    action.text_withPassword password (by decide : TextField.workingPath ≠ _)]

end Action

/-! ## Publishing with either password -/

namespace Publish

variable (action : Action) (password : String)

def Plan.withPassword (plan : Plan) (password : String) : Plan :=
  plan.withSigning (plan.signing.withPassword password)

theorem plan_withPassword :
    plan (action.withPassword password) =
      plan action >>= fun plan => pure (plan.withPassword password) := by
  unfold plan
  simp only [action.requiredField_withPassword password
      (by decide : TextField.csharpProjectFilename ≠ _),
    action.requiredField_withPassword password (by decide : TextField.exeFilename ≠ _),
    action.requiredField_withPassword password (by decide : TextField.setupFilename ≠ _),
    action.requiredField_withPassword password (by decide : TextField.innoScriptFilename ≠ _),
    action.requiredField_withPassword password
      (by decide : TextField.innoSetupCompilerFilename ≠ _),
    action.signing_withPassword password, action.runtime_withPassword password, bind_assoc,
    pure_bind]
  rfl

theorem opening_withPassword :
    opening (action.withPassword password) =
      opening action >>= fun opened => pure (opened.1.withPassword password, opened.2) := by
  have hlacks : lacksMajor (action.withPassword password) = lacksMajor action := rfl
  have hname : (action.withPassword password).displayName = action.displayName := rfl
  have hlevel : (action.withPassword password).level = action.level := rfl
  unfold opening
  rw [hlacks, hname, hlevel, plan_withPassword]
  cases lacksMajor action with
  | true => simp only [if_true, bind_assoc, pure_bind]; rfl
  | false => simp only [Bool.false_eq_true, if_false, bind_assoc, pure_bind]; rfl

theorem preparing_withPassword (plan : Plan) (script : Script) :
    preparing (action.withPassword password) plan script = preparing action plan script := by
  have hstamp : stamp (action.withPassword password) plan script.lines =
      stamp action plan script.lines := by
    unfold stamp
    rw [action.text_withPassword password (by decide : TextField.innoVersionVariable ≠ _)]
    rfl
  unfold preparing
  rw [hstamp]
  rfl

/-- The password is looked at by the settings for signing only. -/
theorem run_withPassword :
    run (action.withPassword password) = opening action >>= fun opened =>
      preparing action (opened.1.withPassword password) opened.2 >>= fun prepared =>
        finishing action (opened.1.withPassword password) prepared.1 prepared.2 := by
  rw [run_eq, opening_withPassword]
  simp only [bind_assoc, pure_bind, preparing_withPassword]
  rfl

/-- What is said on the way to a setup depends on the password where the signing tool is started
with a certificate file, and nowhere else. -/
theorem run_says_same_but_password (action : Action) (host : Host) {password other : String}
    (hpassword : password ≠ "") (hother : other ≠ "") :
    let mine := action.withPassword password
    let theirs := action.withPassword other
    ((run mine).on host).1 = ((run theirs).on host).1 ∧
      ∃ said twin, ((run mine).on host).2.said = host.said ++ said ∧
        ((run theirs).on host).2.said = host.said ++ twin ∧
        List.Forall₂ (Signing.SameButSettings (mine.signingOn host) (theirs.signingOn host))
          said twin ∧
        (action.text .certFilename = "" → said = twin) := by
  intro mine theirs
  have hmine : mine.signingOn host = (action.signingOn host).withPassword password :=
    action.signingOn_withPassword password host
  have htheirs : theirs.signingOn host = (action.signingOn host).withPassword other :=
    action.signingOn_withPassword other host
  let likeness : Likeness := .upTo host.said (Signing.SameButSettings
    ((action.signingOn host).withPassword password) ((action.signingOn host).withPassword other))
    .same
  have hmatches : Signing.Matches likeness _ _ :=
    Signing.matches_withPassword hpassword hother host.said
  have hopened : Alike likeness (opening action) (opening action) := alike_opening action
  have hplan : Works (.lax host fun _ => True) (opening action) (IsOpened _ action) :=
    works_opening action
  have halike : ((run mine).on host).1 = ((run theirs).on host).1 ∧
      ((run mine).on host).2.Twins likeness ((run theirs).on host).2 := by
    have hrun : run mine = _ := run_withPassword action password
    have hrun' : run theirs = _ := run_withPassword action other
    rw [hrun, hrun', on_bind, on_bind]
    obtain ⟨-, hafter⟩ := hopened host host (.refl Likeness.rel_upTo_self)
    obtain ⟨-, hgives, -⟩ := hplan host [] (Limits.allows_origin _)
    cases hopening : (opening action).on host with
    | mk result after =>
        rw [hopening] at hafter hgives
        cases result with
        | error failure => exact ⟨rfl, hafter⟩
        | ok opened =>
            have hsigning : opened.1.signing = action.signingOn host := by
              rw [(hgives opened rfl).plan]
              rfl
            dsimp only
            rw [Plan.withPassword, Plan.withPassword, hsigning]
            have hrest := (alike_preparing hmatches action opened.1 opened.2).bind fun prepared =>
              alike_finishing hmatches action opened.1 prepared.1 prepared.2
            exact hrest after after hafter
  obtain ⟨hresult, htwins⟩ := halike
  obtain ⟨said, twin, hsaid, htwin, hrelated⟩ := htwins.said
  refine ⟨hresult, said, twin, hsaid, htwin, ?_, fun hcertificate => ?_⟩
  · rw [hmine, htheirs]
    exact hrelated
  · have hnone : ((action.signingOn host).withPassword password).certificate = "" := by
      unfold Action.signingOn
      simp only [hcertificate]
      split <;> rfl
    exact Signing.eq_of_sameButSettings (SigningSettings.mode_ne_file hnone) hrelated

def certifiedAction : Action where
  kind := .compileAndPublish
  text
    | .csharpProjectFilename => "App.csproj"
    | .exeFilename => "a.exe"
    | .setupFilename => "setup.exe"
    | .innoScriptFilename => "setup.iss"
    | .innoSetupCompilerFilename => "ISCC.exe"
    | .signToolFilename => "/signtool.exe"
    | .certFilename => "c.pfx"
    | _ => ""

/-- A host on which the project is built, and the signing tool cannot be started. -/
def unsignedHost : Host where
  disk := ⟨[(["App.csproj"], .file []), (["a.exe"], .file []), (["setup.iss"], .file []),
    (["ISCC.exe"], .file []), (["signtool.exe"], .file []), (["c.pfx"], .file [])]⟩
  toolRuns := [⟨.finished " Restored a" "" 0, []⟩,
    ⟨.finished "Build succeeded.\n 0 Warning(s)\n 0 Error(s)" "" 0, []⟩]

theorem run_says_same_but_password_certified :
    "one" ≠ "" ∧ "two" ≠ "" ∧
      let mine := certifiedAction.withPassword "one"
      let theirs := certifiedAction.withPassword "two"
      ((run mine).on unsignedHost).1 = ((run theirs).on unsignedHost).1 ∧
        ∃ said twin, ((run mine).on unsignedHost).2.said = unsignedHost.said ++ said ∧
          ((run theirs).on unsignedHost).2.said = unsignedHost.said ++ twin ∧
          List.Forall₂ (Signing.SameButSettings (mine.signingOn unsignedHost)
            (theirs.signingOn unsignedHost)) said twin ∧
          (certifiedAction.text .certFilename = "" → said = twin) :=
  ⟨by decide, by decide,
    run_says_same_but_password certifiedAction unsignedHost (by decide) (by decide)⟩

/-- The command line that signs is said with the password in it. -/
theorem password_is_said :
    notesOf ((run (certifiedAction.withPassword "one")).on unsignedHost).2.said ≠
      notesOf ((run (certifiedAction.withPassword "two")).on unsignedHost).2.said := by
  decide +kernel

end Publish

end SetupForge

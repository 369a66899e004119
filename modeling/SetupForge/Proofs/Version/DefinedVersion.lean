import SetupForge.Proofs.Version.VersionLines

/-! # Definitions of the version

A line defines a variable if a blank, a quote or nothing follows the variable. Where blanks follow,
the line defines the version after stamping. The version does not bring a blank of its own, so that
it stands right behind a variable without a value, and behind the name of a macro it takes the place
of the parameters.
-/

namespace SetupForge.ScriptVersion

open Text

/-! ## Lines that define a variable -/

def EndsName (rest : List Char) : Prop := rest = [] ∨ StartsBlank rest ∨ rest.head? = some '"'

instance (rest : List Char) : Decidable (EndsName rest) :=
  inferInstanceAs (Decidable (rest = [] ∨ StartsBlank rest ∨ rest.head? = some '"'))

def Defines (name line : String) : Prop :=
  ∃ head rest, IsHead name.toList head ∧ line.toList = head ++ rest ∧ EndsName rest

/-- A line defines the version if it defined the variable, and stays as it is otherwise. -/
structure Restates (name version old new : String) : Prop where
  defined {head rest : List Char} (hhead : IsHead name.toList head)
    (hold : old.toList = head ++ rest) (hends : EndsName rest) :
    ∃ blanks, blanks ≠ [] ∧ AllBlank blanks ∧ new.toList = head ++ (blanks ++ quoted version)
  other (hnot : ¬ Defines name old) : new = old

/-- What may follow the name of a variable if the version is put in as a definition of it. -/
inductive Fits (version : String) (head : List Char) : (rest : List Char) → Prop where
  /-- Blanks follow, and the value ends with the line. -/
  | spaced {rest : List Char} (hedge : isWordEdge head rest = true) (hstarts : StartsBlank rest)
      (hline : '\n' ∉ dropBlanks rest) : Fits version head rest
  /-- The word goes on, as in a longer name. -/
  | longer {rest : List Char} (hends : ¬ EndsName rest) (hedge : isWordEdge head rest = false) :
      Fits version head rest
  /-- A line feed inside of the text keeps it from being a value. -/
  | broken {rest : List Char} (hends : ¬ EndsName rest) (hline : '\n' ∈ rest.dropLast) :
      Fits version head rest
  /-- A name whose last character is no part of a word has no edge of a word in front of a blank,
  but it may have the version already. -/
  | already {blanks : List Char} (hedge : isWordEdge head (blanks ++ quoted version) = false)
      (hblanks : AllBlank blanks) (hne : blanks ≠ []) : Fits version head (blanks ++ quoted version)

variable {name version old new : String} {head rest : List Char}

theorem takeWhile_ne_nil_iff_startsBlank : rest.takeWhile isBlankChar ≠ [] ↔ StartsBlank rest := by
  cases rest with
  | nil => exact iff_of_false (fun h => h rfl) not_startsBlank_nil
  | cons c rest =>
      rw [startsBlank_cons, List.takeWhile_cons]
      split <;> simp_all

theorem endsName_append_quoted {blanks : List Char} (hblanks : AllBlank blanks) (hne : blanks ≠ []) :
    EndsName (blanks ++ quoted version) := by
  cases blanks with
  | nil => exact absurd rfl hne
  | cons c blanks => exact Or.inr (Or.inl (startsBlank_cons.2 (hblanks c List.mem_cons_self)))

theorem newline_not_mem_quoted (hversion : '\n' ∉ version.toList) : '\n' ∉ quoted version := by
  simp [quoted, hversion]

theorem fits_iff_of_edge (hends : EndsName rest) (hedge : isWordEdge head rest = true) :
    Fits version head rest ↔ StartsBlank rest ∧ '\n' ∉ dropBlanks rest := by
  constructor
  · intro h
    cases h with
    | spaced _ hstarts hline => exact ⟨hstarts, hline⟩
    | longer hnot => exact absurd hends hnot
    | broken hnot => exact absurd hends hnot
    | already hnot => exact absurd (hedge.symm.trans hnot) (by decide)
  · exact fun h => .spaced hedge h.1 h.2

theorem fits_iff_of_not_edge (hends : EndsName rest) (hedge : isWordEdge head rest = false) :
    Fits version head rest ↔
      ∃ blanks, blanks ≠ [] ∧ AllBlank blanks ∧ rest = blanks ++ quoted version := by
  constructor
  · intro h
    cases h with
    | spaced hnot => exact absurd (hnot.symm.trans hedge) (by decide)
    | longer hnot => exact absurd hends hnot
    | broken hnot => exact absurd hends hnot
    | already _ hblanks hne => exact ⟨_, hne, hblanks, rfl⟩
  · rintro ⟨blanks, hne, hblanks, rfl⟩
    exact .already hedge hblanks hne

theorem fits_iff_of_not_endsName (hends : ¬ EndsName rest) :
    Fits version head rest ↔ isWordEdge head rest = false ∨ '\n' ∈ rest.dropLast := by
  constructor
  · intro h
    cases h with
    | spaced _ hstarts => exact absurd (Or.inr (Or.inl hstarts)) hends
    | longer _ hedge => exact Or.inl hedge
    | broken _ hline => exact Or.inr hline
    | already _ hblanks hne => exact absurd (endsName_append_quoted hblanks hne) hends
  · exact fun h => h.elim (.longer hends) (.broken hends)

/-! ## One line -/

theorem restates_iff_of_not_defines (hnot : ¬ Defines name old) :
    Restates name version old new ↔ new = old := by
  constructor
  · exact fun h => h.other hnot
  · intro h
    constructor
    · exact fun hhead hold hends => absurd ⟨_, _, hhead, hold, hends⟩ hnot
    · exact fun _ => h

theorem stampLine_of_not_head (hname : name ≠ "")
    (h : ∀ head rest, IsHead name.toList head → old.toList ≠ head ++ rest) :
    stampLine name version old = old := by
  have hspan : span? name old.toList = none := by
    rw [span?, if_neg (by simpa using hname), Option.eq_none_iff_forall_ne_some]
    rintro ⟨lead, after⟩ hsome
    obtain ⟨head, rest, hhead, hsplit, -⟩ := isHead_of_defineSpan? (by simpa using hname) hsome
    exact h head rest hhead hsplit
  rw [stampLine, hspan]

section Head

variable (hblank : ¬ StartsBlank name.toList) (hhead : IsHead name.toList head)
  (hold : old.toList = head ++ rest)

include hblank hhead hold

theorem restates_iff_of_endsName (hends : EndsName rest) : Restates name version old new ↔
    ∃ blanks, blanks ≠ [] ∧ AllBlank blanks ∧ new.toList = head ++ (blanks ++ quoted version) := by
  constructor
  · exact fun h => h.defined hhead hold hends
  · intro h
    constructor
    · intro other text hother hold' _
      rw [← hhead.inj hblank hother (hold.symm.trans hold')]
      exact h
    · exact fun hnot => absurd ⟨head, rest, hhead, hold, hends⟩ hnot

theorem restates_self_iff (hends : EndsName rest) : Restates name version old old ↔
    ∃ blanks, blanks ≠ [] ∧ AllBlank blanks ∧ rest = blanks ++ quoted version := by
  rw [restates_iff_of_endsName hblank hhead hold hends, hold]
  simp only [List.append_cancel_left_eq]

theorem not_defines_of_not_endsName (hends : ¬ EndsName rest) : ¬ Defines name old := by
  rintro ⟨other, text, hother, hold', hends'⟩
  have hsplit := hold.symm.trans hold'
  obtain rfl := hhead.inj hblank hother hsplit
  exact hends (List.append_cancel_left hsplit ▸ hends')

theorem forall_fits_iff :
    (∀ head rest, IsHead name.toList head → old.toList = head ++ rest → Fits version head rest) ↔
      Fits version head rest := by
  constructor
  · exact fun h => h head rest hhead hold
  · intro h other text hother hold'
    have hsplit := hold.symm.trans hold'
    obtain rfl := hhead.inj hblank hother hsplit
    exact List.append_cancel_left hsplit ▸ h

variable (hname : name ≠ "")

include hname

theorem toList_stampLine {after : List Char} (hedge : isWordEdge head rest = true)
    (hafter : afterValue? (dropBlanks rest) = some after) :
    (stampLine name version old).toList =
      head ++ (rest.takeWhile isBlankChar ++ (quoted version ++ after)) := by
  have hspan : span? name old.toList = some (head ++ rest.takeWhile isBlankChar, after) := by
    rw [span?, if_neg (by simpa using hname), hold,
      defineSpan?_append (by simpa using hname) hblank hhead, if_pos hedge, valueSpan?, hafter]
    rfl
  rw [stampLine, hspan]
  simp [quoted]

theorem stampLine_of_not_edge
    (h : isWordEdge head rest = true → afterValue? (dropBlanks rest) = none) :
    stampLine name version old = old := by
  have hspan : span? name old.toList = none := by
    rw [span?, if_neg (by simpa using hname), hold,
      defineSpan?_append (by simpa using hname) hblank hhead]
    split
    · rename_i hedge
      rw [valueSpan?, h hedge]
      rfl
    · rfl
  rw [stampLine, hspan]

/-- A definition that is stamped defines the version if blanks follow the variable and the value
ends with the line. -/
theorem restates_stampLine_of_value (hends : EndsName rest) {after : List Char}
    (hedge : isWordEdge head rest = true) (hafter : afterValue? (dropBlanks rest) = some after) :
    Restates name version old (stampLine name version old) ↔ StartsBlank rest ∧ after = [] := by
  rw [restates_iff_of_endsName hblank hhead hold hends,
    toList_stampLine hblank hhead hold hname hedge hafter]
  have hquoted := not_startsBlank_quoted version
  have hstart : ¬ StartsBlank (quoted version ++ after) := by
    rwa [quoted, List.cons_append, startsBlank_cons, ← startsBlank_cons]
  constructor
  · rintro ⟨blanks, hne, hblanks, hnew⟩
    obtain ⟨rfl, hbehind⟩ := blanks_inj (allBlank_takeWhile rest) hblanks hstart hquoted
      (List.append_cancel_left hnew)
    exact ⟨takeWhile_ne_nil_iff_startsBlank.1 hne, List.append_right_eq_self.1 hbehind⟩
  · rintro ⟨hstarts, rfl⟩
    exact ⟨rest.takeWhile isBlankChar, takeWhile_ne_nil_iff_startsBlank.2 hstarts,
      allBlank_takeWhile rest, by rw [List.append_nil]⟩

/-- No text that the name of a variable does not end in front of starts like the version. -/
theorem stampLine_ne_of_value (hends : ¬ EndsName rest) {after : List Char}
    (hedge : isWordEdge head rest = true) (hafter : afterValue? (dropBlanks rest) = some after) :
    stampLine name version old ≠ old := by
  intro hsame
  have hnew : (stampLine name version old).toList = _ :=
    toList_stampLine hblank hhead hold hname hedge hafter
  have hstart : ¬ StartsBlank rest := fun h => hends (Or.inr (Or.inl h))
  rw [hsame, hold, takeWhile_of_not_startsBlank hstart, List.nil_append] at hnew
  apply hends
  rw [List.append_cancel_left hnew]
  exact Or.inr (Or.inr rfl)

theorem restates_stampLine_of_edge (hversion : '\n' ∉ version.toList) (hends : EndsName rest)
    (hedge : isWordEdge head rest = true) :
    Restates name version old (stampLine name version old) ↔
      StartsBlank rest ∧ '\n' ∉ dropBlanks rest := by
  rw [← afterValue?_eq_some_nil_iff]
  cases hafter : afterValue? (dropBlanks rest) with
  | some after =>
      rw [restates_stampLine_of_value hblank hhead hold hname hends hedge hafter, Option.some.injEq]
  | none =>
      rw [stampLine_of_not_edge hblank hhead hold hname fun _ => hafter,
        restates_self_iff hblank hhead hold hends]
      refine iff_of_false ?_ fun h => by cases h.2
      -- the version alone would be a value
      rintro ⟨blanks, -, hblanks, rfl⟩
      rw [dropBlanks_append hblanks (not_startsBlank_quoted version),
        afterValue?_eq_some_nil_iff.2 (newline_not_mem_quoted hversion)] at hafter
      cases hafter

/-- A line that does not define the variable stays if the word goes on behind the name or if what
follows is no value. -/
theorem stampLine_eq_self_iff (hends : ¬ EndsName rest) : stampLine name version old = old ↔
    isWordEdge head rest = false ∨ '\n' ∈ rest.dropLast := by
  have hrest : dropBlanks rest = rest :=
    dropBlanks_of_not_startsBlank fun h => hends (Or.inr (Or.inl h))
  rw [← afterValue?_eq_none_iff]
  by_cases hstays : isWordEdge head rest = false ∨ afterValue? rest = none
  · refine iff_of_true (stampLine_of_not_edge hblank hhead hold hname fun hedge => ?_) hstays
    rw [hrest]
    exact hstays.resolve_left fun h => absurd (hedge.symm.trans h) (by decide)
  · obtain ⟨hedge, hvalue⟩ := not_or.1 hstays
    obtain ⟨after, hafter⟩ := Option.ne_none_iff_exists'.1 hvalue
    rw [← hrest] at hafter
    exact iff_of_false (stampLine_ne_of_value hblank hhead hold hname hends
      (eq_true_of_ne_false hedge) hafter) hstays

/-- A line with the start of a definition defines the version afterwards, or stays if it is no
definition of the variable, exactly if what follows the name fits. -/
theorem restates_stampLine_iff_fits (hversion : '\n' ∉ version.toList) :
    Restates name version old (stampLine name version old) ↔ Fits version head rest := by
  by_cases hends : EndsName rest
  · by_cases hedge : isWordEdge head rest = true
    · rw [restates_stampLine_of_edge hblank hhead hold hname hversion hends hedge,
        fits_iff_of_edge hends hedge]
    · rw [stampLine_of_not_edge hblank hhead hold hname fun h => absurd h hedge,
        restates_self_iff hblank hhead hold hends,
        fits_iff_of_not_edge hends (Bool.eq_false_iff.2 hedge)]
  · rw [restates_iff_of_not_defines (not_defines_of_not_endsName hblank hhead hold hends),
      stampLine_eq_self_iff hblank hhead hold hname hends, fits_iff_of_not_endsName hends]

end Head

/-- What follows the name decides on each line. A line without the start of a definition stays. -/
theorem restates_stampLine_iff (hname : name ≠ "") (hblank : ¬ StartsBlank name.toList)
    (hversion : '\n' ∉ version.toList) (old : String) :
    Restates name version old (stampLine name version old) ↔
      ∀ head rest, IsHead name.toList head → old.toList = head ++ rest →
        Fits version head rest := by
  by_cases hsome : ∃ head rest, IsHead name.toList head ∧ old.toList = head ++ rest
  · obtain ⟨head, rest, hhead, hold⟩ := hsome
    rw [restates_stampLine_iff_fits hblank hhead hold hname hversion,
      forall_fits_iff hblank hhead hold]
  · have hnone : ∀ head rest, IsHead name.toList head → old.toList ≠ head ++ rest :=
      fun head rest hhead hold => hsome ⟨head, rest, hhead, hold⟩
    rw [stampLine_of_not_head hname hnone]
    refine iff_of_true ?_ fun head rest hhead hold => absurd hold (hnone head rest hhead)
    rw [restates_iff_of_not_defines]
    rintro ⟨head, rest, hhead, hold, -⟩
    exact hnone head rest hhead hold

/-! ## Documents -/

/-- For a variable that does not start with a blank, a version of one line and any document: no line
comes or goes, and a line that defined the variable defines the version, and any other line stays,
exactly if what follows the name of the variable fits. -/
theorem stamp_restates_iff (hname : name ≠ "") (hblank : ¬ StartsBlank name.toList)
    (hversion : '\n' ∉ version.toList) (lines : List String) :
    (stamp name version lines).1.length = lines.length ∧
      ∀ (i : Nat) (old : String), lines[i]? = some old → ∃ new : String,
        (stamp name version lines).1[i]? = some new ∧
        (Restates name version old new ↔
          ∀ head rest, IsHead name.toList head → old.toList = head ++ rest →
            Fits version head rest) := by
  refine ⟨length_stamp name version lines, ?_⟩
  intro i old hold
  refine ⟨stampLine name version old, by simp [stamp, hold], ?_⟩
  exact restates_stampLine_iff hname hblank hversion old

/-- The start of a definition as it is written most of the time. -/
theorem isHead_plain {name : List Char} (hname : name ≠ []) :
    IsHead name (define ++ ([' '] ++ name)) := by
  have hindent : AllBlank [] := by simp [AllBlank]
  have hspace : AllBlank [' '] := List.forall_mem_singleton.2 (by decide)
  have hself : ∀ word : List Char, AgreeAnyCase word word :=
    fun word => List.forall₂_same.2 fun c _ => sameLetter_self c
  exact .definition hname hindent (hself define) hspace (by simp) (hself name)

/-- A version that is renewed, a longer name, and a variable without a value. -/
theorem stamp_restates_iff_renewed :
    let name := "MyAppVersion"
    let lines := ["#define MyAppVersion  1.0", "#define MyAppVersionLong 1", "#define MyAppVersion"]
    let stamped :=
      ["#define MyAppVersion  \"2.0\"", "#define MyAppVersionLong 1", "#define MyAppVersion\"2.0\""]
    name ≠ "" ∧ ¬ StartsBlank name.toList ∧ '\n' ∉ "2.0".toList ∧
      stamp name "2.0" lines = (stamped, 2) ∧
      Restates name "2.0" "#define MyAppVersion  1.0" "#define MyAppVersion  \"2.0\"" ∧
      Restates name "2.0" "#define MyAppVersionLong 1" "#define MyAppVersionLong 1" ∧
      ¬ Restates name "2.0" "#define MyAppVersion" "#define MyAppVersion\"2.0\"" := by
  intro name lines stamped
  have hname : name ≠ "" := by decide
  have hblank : ¬ StartsBlank name.toList := by decide
  have hversion : '\n' ∉ "2.0".toList := by decide
  have hstamp : stamp name "2.0" lines = (stamped, 2) := by decide +kernel
  have hhead : IsHead name.toList (define ++ ([' '] ++ name.toList)) := isHead_plain (by decide)
  have hold₁ : "#define MyAppVersion  1.0".toList =
      (define ++ ([' '] ++ name.toList)) ++ "  1.0".toList := by decide
  have hold₂ : "#define MyAppVersionLong 1".toList =
      (define ++ ([' '] ++ name.toList)) ++ "Long 1".toList := by decide
  have hold₃ : "#define MyAppVersion".toList = (define ++ ([' '] ++ name.toList)) ++ [] := by
    decide
  obtain ⟨-, hall⟩ := stamp_restates_iff hname hblank hversion lines
  rw [hstamp] at hall
  obtain ⟨_, hrenewed, hrenewedIff⟩ := hall 0 _ rfl
  obtain ⟨_, hlonger, hlongerIff⟩ := hall 1 _ rfl
  obtain ⟨_, hplain, hplainIff⟩ := hall 2 _ rfl
  cases hrenewed
  cases hlonger
  cases hplain
  rw [forall_fits_iff hblank hhead hold₁, fits_iff_of_edge (by decide) (by decide)] at hrenewedIff
  rw [forall_fits_iff hblank hhead hold₂, fits_iff_of_not_endsName (by decide)] at hlongerIff
  rw [forall_fits_iff hblank hhead hold₃, fits_iff_of_edge (by decide) (by decide)] at hplainIff
  refine ⟨hname, hblank, hversion, hstamp, hrenewedIff.2 ?_, hlongerIff.2 ?_, fun h => ?_⟩
  · decide
  · decide
  · exact not_startsBlank_nil (hplainIff.1 h).1

/-- Behind a variable without a value the version stands without a blank, and a macro, which does
not define the variable, is made a definition of it. -/
theorem version_glued_to_name :
    let name := "MyAppVersion"
    let glued := "#define MyAppVersion\"2.0\""
    stamp name "2.0" ["#define MyAppVersion", "#define MyAppVersion(x) x"] = ([glued, glued], 2) ∧
      Defines name "#define MyAppVersion" ∧ ¬ Restates name "2.0" "#define MyAppVersion" glued ∧
      ¬ Defines name "#define MyAppVersion(x) x" ∧
      ¬ Restates name "2.0" "#define MyAppVersion(x) x" glued := by
  intro name glued
  have hname : name ≠ "" := by decide
  have hblank : ¬ StartsBlank name.toList := by decide
  have hhead : IsHead name.toList (define ++ ([' '] ++ name.toList)) := isHead_plain (by decide)
  have hplain : "#define MyAppVersion".toList = (define ++ ([' '] ++ name.toList)) ++ [] := by
    decide
  have hmacro : "#define MyAppVersion(x) x".toList =
      (define ++ ([' '] ++ name.toList)) ++ "(x) x".toList := by decide
  have hnot : ¬ Defines name "#define MyAppVersion(x) x" :=
    not_defines_of_not_endsName hblank hhead hmacro (by decide)
  refine ⟨by decide +kernel, ⟨_, _, hhead, hplain, by decide⟩, fun h => ?_, hnot, fun h => ?_⟩
  · have hstamped : glued = stampLine name "2.0" "#define MyAppVersion" := by decide +kernel
    rw [hstamped, restates_stampLine_iff_fits hblank hhead hplain hname (by decide),
      fits_iff_of_edge (by decide) (by decide)] at h
    exact not_startsBlank_nil h.1
  · exact absurd (h.other hnot) (by decide)

end SetupForge.ScriptVersion

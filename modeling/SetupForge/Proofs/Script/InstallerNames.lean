import Mathlib.Data.List.Forall2
import SetupForge.Policy.Runtime
import SetupForge.Proofs.Script.FilesBody

/-! # The names of installers

The files section and the run section tell the installers of a family by different rules. A file
is installed as a payload if its name has the stem of the family, which is the text up to the
first hyphen. An install step is removed if the name in it starts with the family, letter by
letter. What stands behind the first hyphen counts for the second rule only. That the stem ends
with a family without a hyphen counts for the first rule only.
-/

namespace SetupForge

/-! ## Letters and patterns -/

namespace Text

theorem lt_of_mem_siblingTable :
    ∀ entry ∈ siblingTable, 0x5d < entry.1 ∧ ∀ code ∈ entry.2, 0x5d < code := by decide +kernel

theorem isSign_of_mem_siblings {x c : Char} (h : c ∈ siblings x) : isSign c = false := by
  unfold siblings at h
  split at h
  · rename_i entry hfind
    have hmem := List.mem_of_find?_eq_some hfind
    obtain ⟨code, hcode, rfl⟩ := List.mem_map.1 h
    exact isSign_ofNat ((lt_of_mem_siblingTable entry hmem).2 code hcode)
  · simp at h

theorem siblings_of_isSign {c : Char} (h : isSign c = true) : siblings c = [] := by
  have hlow := toNat_le_of_isSign h
  have hnone : siblingTable.find? (·.1 == c.toNat) = none := by
    rw [List.find?_eq_none]
    intro entry hmem heq
    have hbig := (lt_of_mem_siblingTable entry hmem).1
    rw [beq_iff_eq] at heq
    omega
  rw [siblings, hnone]

theorem sameLetter_iff_of_isSign {p c : Char} (h : isSign p = true ∨ isSign c = true) :
    sameLetter p c = true ↔ p = c := by
  constructor
  · intro hsame
    rw [sameLetter, Bool.or_eq_true, beq_iff_eq, decide_eq_true_eq] at hsame
    rcases h with h | h
    · rw [lowerLetter_of_isSign h, siblings_of_isSign h] at hsame
      have hlower := hsame.resolve_right (by simp)
      rw [← hlower, lowerLetter_eq_self_of_isSign (hlower ▸ h)]
    · rw [lowerLetter_of_isSign h] at hsame
      rcases hsame with hlower | hmem
      · rw [hlower, lowerLetter_eq_self_of_isSign (hlower ▸ h)]
      · rw [isSign_of_mem_siblings hmem] at h
        cases h
  · rintro rfl
    exact sameLetter_self p

def AgreeAnyCase (pattern text : List Char) : Prop :=
  List.Forall₂ (fun p c => sameLetter p c = true) pattern text

def StartsAnyCase (pattern text : List Char) : Prop :=
  ∃ first, first <+: text ∧ AgreeAnyCase pattern first

variable {pattern text rest : List Char} {p c stop : Char}

@[simp] theorem agreeAnyCase_nil_left : AgreeAnyCase [] text ↔ text = [] :=
  List.forall₂_nil_left_iff

@[simp] theorem agreeAnyCase_nil_right : AgreeAnyCase pattern [] ↔ pattern = [] :=
  List.forall₂_nil_right_iff

theorem agreeAnyCase_cons :
    AgreeAnyCase (p :: pattern) (c :: text) ↔
      sameLetter p c = true ∧ AgreeAnyCase pattern text :=
  List.forall₂_cons

theorem startsAnyCase_nil (text : List Char) : StartsAnyCase [] text :=
  ⟨[], List.nil_prefix, List.Forall₂.nil⟩

theorem not_startsAnyCase_cons_nil : ¬ StartsAnyCase (p :: pattern) [] := by
  rintro ⟨first, hfirst, hagree⟩
  rw [List.prefix_nil.1 hfirst] at hagree
  cases hagree

theorem startsAnyCase_cons :
    StartsAnyCase (p :: pattern) (c :: text) ↔
      sameLetter p c = true ∧ StartsAnyCase pattern text := by
  constructor
  · rintro ⟨first, hfirst, hagree⟩
    cases first with
    | nil => cases hagree
    | cons d first =>
        obtain ⟨rfl, hrest⟩ := List.cons_prefix_cons.1 hfirst
        rw [agreeAnyCase_cons] at hagree
        exact ⟨hagree.1, first, hrest, hagree.2⟩
  · rintro ⟨hc, first, hfirst, hagree⟩
    exact ⟨c :: first, List.cons_prefix_cons.2 ⟨rfl, hfirst⟩, agreeAnyCase_cons.2 ⟨hc, hagree⟩⟩

theorem isSome_dropLeadingAnyCase? :
    (dropLeadingAnyCase? pattern text).isSome = true ↔ StartsAnyCase pattern text := by
  induction pattern generalizing text with
  | nil => simp [dropLeadingAnyCase?, startsAnyCase_nil]
  | cons p pattern ih =>
      cases text with
      | nil => simp [dropLeadingAnyCase?, not_startsAnyCase_cons_nil]
      | cons c text =>
          rw [startsAnyCase_cons, ← ih, dropLeadingAnyCase?]
          cases sameLetter p c <;> simp

/-- A sign that the pattern lacks ends what the pattern can agree with. -/
theorem startsAnyCase_append_cons (hstop : isSign stop = true) (hnot : stop ∉ pattern) :
    StartsAnyCase pattern (text ++ stop :: rest) ↔ StartsAnyCase pattern text := by
  induction pattern generalizing text with
  | nil => exact iff_of_true (startsAnyCase_nil _) (startsAnyCase_nil _)
  | cons p pattern ih =>
      rw [List.mem_cons, not_or] at hnot
      cases text with
      | nil =>
          rw [List.nil_append, startsAnyCase_cons, sameLetter_iff_of_isSign (Or.inr hstop)]
          exact iff_of_false (fun h => hnot.1 h.1.symm) not_startsAnyCase_cons_nil
      | cons c text => rw [List.cons_append, startsAnyCase_cons, startsAnyCase_cons, ih hnot.2]

/-! ## Texts of ASCII letters -/

def isAscii (text : List Char) : Bool := text.all fun c => c.toNat < 0x80

theorem le_of_mem_siblingTable : ∀ entry ∈ siblingTable, entry.1 < 0x80 →
    ∀ code ∈ entry.2, 0x80 ≤ (Char.ofNat code).toNat := by decide +kernel

theorem toNat_lowerLetter_lt (h : c.toNat < 0x80) : (lowerLetter c).toNat < 0x80 :=
  of_toNat_lt (fun c => (lowerLetter c).toNat < 0x80) (by decide) h

theorem lowerFrom_of_isAscii (afterCased : Bool) (h : isAscii text = true) :
    lowerFrom afterCased text = text.map lowerLetter := by
  induction text generalizing afterCased with
  | nil => rfl
  | cons c text ih =>
      simp only [isAscii, List.all_cons, Bool.and_eq_true, decide_eq_true_eq] at h
      have hsigma : c ≠ 'Σ' := by
        rintro rfl
        exact absurd h.1 (by decide)
      have hdotted : c ≠ 'İ' := by
        rintro rfl
        exact absurd h.1 (by decide)
      rw [lowerFrom, if_neg hsigma, if_neg hdotted, ih _ h.2, List.map_cons]

theorem sameLetter_iff_of_lt (hp : p.toNat < 0x80) (hc : c.toNat < 0x80) :
    sameLetter p c = true ↔ lowerLetter p = lowerLetter c := by
  have hnot : lowerLetter c ∉ siblings (lowerLetter p) := by
    unfold siblings
    split
    · rename_i entry hfind
      intro hmem
      obtain ⟨code, hcode, heq⟩ := List.mem_map.1 hmem
      have hkey := List.find?_some hfind
      rw [beq_iff_eq] at hkey
      have hbig := le_of_mem_siblingTable entry (List.mem_of_find?_eq_some hfind)
        (hkey ▸ toNat_lowerLetter_lt hp) code hcode
      rw [heq] at hbig
      have hsmall := toNat_lowerLetter_lt hc
      omega
    · simp
  rw [sameLetter, Bool.or_eq_true, beq_iff_eq, decide_eq_true_eq, or_iff_left hnot, eq_comm]

theorem agreeAnyCase_iff (hpattern : isAscii pattern = true) (htext : isAscii text = true) :
    AgreeAnyCase pattern text ↔ lowerChars text = lowerChars pattern := by
  rw [lowerChars, lowerChars, lowerFrom_of_isAscii _ hpattern, lowerFrom_of_isAscii _ htext]
  induction pattern generalizing text with
  | nil => simp
  | cons p pattern ih =>
      cases text with
      | nil => simp
      | cons c text =>
          simp only [isAscii, List.all_cons, Bool.and_eq_true, decide_eq_true_eq] at hpattern htext
          rw [agreeAnyCase_cons, sameLetter_iff_of_lt hpattern.1 htext.1,
            ih hpattern.2 htext.2, List.map_cons, List.map_cons, List.cons.injEq, eq_comm]

/-! ## Lengths of lowercase texts -/

/-- Only the dotted capital becomes two characters. -/
theorem length_lowerFrom (afterCased : Bool) (text : List Char) :
    (lowerFrom afterCased text).length = text.length + text.count 'İ' := by
  induction text generalizing afterCased with
  | nil => rfl
  | cons c text ih =>
      rw [lowerFrom]
      split
      · rename_i hc
        have hne : c ≠ 'İ' := by
          rw [hc]
          decide
        rw [List.length_cons, ih, List.length_cons, List.count_cons_of_ne hne]
        omega
      · split
        · rename_i hc
          rw [hc, List.length_cons, List.length_cons, ih, List.length_cons, List.count_cons_self]
          omega
        · rename_i hne
          rw [List.length_cons, ih, List.length_cons, List.count_cons_of_ne hne]
          omega

theorem length_lowerChars (text : List Char) :
    (lowerChars text).length = text.length + text.count 'İ' :=
  length_lowerFrom false text

end Text

open Text

/-! ## Stems -/

namespace Installer

/-- A name up to its first hyphen. -/
def stem (name : List Char) : List Char := name.takeWhile (· ≠ '-')

def behindStem (name : List Char) : List Char := name.dropWhile (· ≠ '-')

variable {family name : List Char} {c : Char}

theorem isSign_hyphen : isSign '-' = true := by decide

theorem stem_cons : stem (c :: name) = if c = '-' then [] else c :: stem name := by
  by_cases hc : c = '-' <;> simp [stem, hc]

theorem behindStem_cons :
    behindStem (c :: name) = if c = '-' then c :: name else behindStem name := by
  by_cases hc : c = '-' <;> simp [behindStem, hc]

theorem stem_eq_self (h : '-' ∉ name) : stem name = name := by
  rw [stem, List.takeWhile_eq_self_iff]
  intro c hmem
  simpa using fun hc : c = '-' => h (hc ▸ hmem)

/-- A name starts with a family that has a hyphen exactly if the stems agree and what is behind
the name's stem starts with what is behind the family's. -/
theorem startsAnyCase_iff_of_hyphen (h : '-' ∈ family) :
    StartsAnyCase family name ↔
      AgreeAnyCase (stem family) (stem name) ∧
        StartsAnyCase (behindStem family) (behindStem name) := by
  induction family generalizing name with
  | nil => cases h
  | cons p family ih =>
      rw [stem_cons, behindStem_cons]
      by_cases hp : p = '-'
      · -- the name has an empty stem too, since it starts with the hyphen
        subst hp
        rw [if_pos rfl, if_pos rfl, agreeAnyCase_nil_left]
        cases name with
        | nil =>
            exact iff_of_false not_startsAnyCase_cons_nil fun h => not_startsAnyCase_cons_nil h.2
        | cons c name =>
            rw [stem_cons, behindStem_cons]
            by_cases hc : c = '-'
            · simp [hc]
            · rw [if_neg hc, if_neg hc, startsAnyCase_cons,
                sameLetter_iff_of_isSign (Or.inl isSign_hyphen)]
              exact iff_of_false (fun h => hc h.1.symm) (by simp)
      · have hmem : '-' ∈ family := by simpa [Ne.symm hp] using h
        rw [if_neg hp, if_neg hp]
        cases name with
        | nil => exact iff_of_false not_startsAnyCase_cons_nil (by simp [stem])
        | cons c name =>
            rw [stem_cons, behindStem_cons, startsAnyCase_cons, ih hmem]
            by_cases hc : c = '-'
            · rw [if_pos hc, sameLetter_iff_of_isSign (Or.inr (hc ▸ isSign_hyphen)), hc]
              exact iff_of_false (fun h => hp h.1) (by simp)
            · rw [if_neg hc, if_neg hc, agreeAnyCase_cons, and_assoc]

/-- The stem of a name agrees with a family without a hyphen exactly if the name starts with the
family and goes on, if at all, with a hyphen. -/
theorem agreeAnyCase_stem_iff (h : '-' ∉ family) :
    AgreeAnyCase family (stem name) ↔
      StartsAnyCase family name ∧ ∀ c ∈ (name.drop family.length).head?, c = '-' := by
  induction family generalizing name with
  | nil =>
      rw [agreeAnyCase_nil_left, and_iff_right (startsAnyCase_nil name)]
      cases name with
      | nil => simp [stem]
      | cons c name => simp [stem_cons]
  | cons p family ih =>
      rw [List.mem_cons, not_or] at h
      cases name with
      | nil => exact iff_of_false (by simp [stem]) fun h => not_startsAnyCase_cons_nil h.1
      | cons c name =>
          rw [stem_cons, startsAnyCase_cons, List.length_cons, List.drop_succ_cons]
          by_cases hc : c = '-'
          · rw [if_pos hc, sameLetter_iff_of_isSign (Or.inr (hc ▸ isSign_hyphen)), hc]
            exact iff_of_false (by simp) fun hboth => h.1 hboth.1.1.symm
          · rw [if_neg hc, agreeAnyCase_cons, ih h.2, and_assoc]

/-! ## The two rules -/

/-- A file is installed as a payload of the family. -/
def IsPayload (family name : String) : Prop :=
  FileEntry.of? family name = some (FileEntry.payload name)

/-- The install step of a file is removed as a step of the family. -/
def IsStep (family name : String) : Prop :=
  RunStep.removeAll family [RunStep.entry name] = []

end Installer

namespace RunStep

variable {family name : String}

theorem trim_entry (name : String) : trim (entry name) = entry name := by
  have hfirst : "Filename: ".toList = 'F' :: "ilename: ".toList := by decide
  have hlast : closing.toList =
      "\"; Parameters: \"/install /quiet /norestart\"; Check: NeedsDotNe".toList ++ ['t'] := by
    decide
  have hends : isBlankChar 'F' = false ∧ isBlankChar 't' = false := by decide
  have hsame := trimChars_eq_self hends.1 hends.2
    ("ilename: ".toList ++ (opening.toList ++ (name.toList ++
      "\"; Parameters: \"/install /quiet /norestart\"; Check: NeedsDotNe".toList)))
  rw [← String.toList_inj, toList_trim, toList_entry, hfirst, hlast]
  simpa using hsame

theorem isUnnamed_entry : isUnnamed (entry name) = true ↔ name = "" := by
  constructor
  · intro h
    rw [isUnnamed, beq_iff_eq, trim_entry, ← String.toList_inj, toList_lower, toList_lower] at h
    have hlength := congrArg List.length h
    simp only [length_lowerChars, toList_entry, List.length_append, List.count_append,
      String.toList_empty, List.length_nil, List.count_nil] at hlength
    have hnil : name.toList.length = 0 := by omega
    rw [← String.toList_inj, List.length_eq_zero_iff.1 hnil, String.toList_empty]
  · rintro rfl
    rw [isUnnamed, trim_entry, beq_self_eq_true]

end RunStep

namespace Installer

variable {family name : String}

theorem isPayload_iff :
    IsPayload family name ↔ stem family.toList ≠ [] ∧
      lowerChars (stem name.toList) = lowerChars (stem family.toList) := by
  have hempty : (lowerChars (stem family.toList)).isEmpty = true ↔ stem family.toList = [] := by
    rw [List.isEmpty_iff]
    constructor
    · intro h
      by_contra hne
      exact lowerFrom_ne_nil hne h
    · intro h
      rw [h, lowerChars_nil]
  rw [IsPayload, FileEntry.of?_eq_some_payload_iff, and_iff_left rfl]
  show (!(lowerChars (stem family.toList)).isEmpty &&
    lowerChars (stem name.toList) == lowerChars (stem family.toList)) = true ↔ _
  rw [Bool.and_eq_true, beq_iff_eq, Bool.not_eq_true', ← Bool.not_eq_true, hempty]

theorem of?_eq_some_application_iff (h : FileEntry.isApplication name = true) :
    FileEntry.of? family name = some (FileEntry.application name) ↔ ¬ IsPayload family name := by
  rw [IsPayload, FileEntry.of?]
  split
  · simpa using (FileEntry.application_ne_payload name name).symm
  · simpa [h] using FileEntry.application_ne_payload name name

theorem isStep_iff :
    IsStep family name ↔
      name = "" ∨ StartsAnyCase family.toList (name.toList ++ RunStep.closing.toList) := by
  have hremoved : IsStep family name ↔ RunStep.isStep family (RunStep.entry name) = true := by
    simp [IsStep, RunStep.removeAll]
  rw [hremoved, RunStep.isStep, Bool.or_eq_true, RunStep.launches_entry_eq,
    isSome_dropLeadingAnyCase?, RunStep.isUnnamed_entry, or_comm]

/-- A family without a quotation mark is looked for in the name only. -/
theorem isStep_iff_of_not_mem (hquote : '"' ∉ family.toList) (hname : name ≠ "") :
    IsStep family name ↔ StartsAnyCase family.toList name.toList := by
  obtain ⟨rest, hrest⟩ : ∃ rest, RunStep.closing.toList = '"' :: rest :=
    ⟨_, String.toList_ofList⟩
  rw [isStep_iff, or_iff_right hname, hrest, startsAnyCase_append_cons (by decide) hquote]

/-- The rule of the files section reads the stems, the rule of the run section reads how the name
starts. For ASCII stems the second rule is the stricter one if the family has a hyphen, and the
first rule is the stricter one if it has none. -/
theorem payload_and_step_rules (family name : String) :
    (IsPayload family name ↔ stem family.toList ≠ [] ∧
      lowerChars (stem name.toList) = lowerChars (stem family.toList)) ∧
    (FileEntry.isApplication name = true →
      (FileEntry.of? family name = some (FileEntry.application name) ↔
        ¬ IsPayload family name)) ∧
    (IsStep family name ↔
      name = "" ∨ StartsAnyCase family.toList (name.toList ++ RunStep.closing.toList)) ∧
    ('"' ∉ family.toList → name ≠ "" →
      (IsStep family name ↔ StartsAnyCase family.toList name.toList) ∧
      (stem family.toList ≠ [] → isAscii (stem family.toList) = true →
        isAscii (stem name.toList) = true →
        ('-' ∈ family.toList → (IsStep family name ↔ IsPayload family name ∧
          StartsAnyCase (behindStem family.toList) (behindStem name.toList))) ∧
        ('-' ∉ family.toList → (IsPayload family name ↔ IsStep family name ∧
          ∀ c ∈ (name.toList.drop family.toList.length).head?, c = '-')))) := by
  refine ⟨isPayload_iff, of?_eq_some_application_iff, isStep_iff, ?_⟩
  intro hquote hname
  have hstep := isStep_iff_of_not_mem hquote hname
  refine ⟨hstep, ?_⟩
  intro hstem hfamily hascii
  have hpayload : IsPayload family name ↔
      AgreeAnyCase (stem family.toList) (stem name.toList) := by
    rw [isPayload_iff, and_iff_right hstem, agreeAnyCase_iff hfamily hascii]
  constructor
  · intro hhyphen
    rw [hstep, hpayload, startsAnyCase_iff_of_hyphen hhyphen]
  · intro hhyphen
    rw [hstep, hpayload, stem_eq_self hhyphen, agreeAnyCase_stem_iff hhyphen]

theorem payload_and_step_rules_capitals :
    IsPayload runtimeFamily "WindowsDesktop-Runtime-8.0.23.exe" ∧
      IsStep runtimeFamily "WindowsDesktop-Runtime-8.0.23.exe" := by
  obtain ⟨hpayload, -, -, hrest⟩ :=
    payload_and_step_rules runtimeFamily "WindowsDesktop-Runtime-8.0.23.exe"
  obtain ⟨-, hrest⟩ := hrest (by decide) (by decide)
  obtain ⟨hstep, -⟩ := hrest (by decide) (by decide) (by decide)
  have hinstalled := hpayload.2 ⟨by decide, by decide⟩
  exact ⟨hinstalled, (hstep (by decide)).2 ⟨hinstalled, isSome_dropLeadingAnyCase?.1 (by decide)⟩⟩

/-- A program file with the stem of the runtime's family goes to the temporary folder, though the
step that starts it is kept. -/
theorem helper_is_payload_and_not_step :
    runtimeFamily ≠ "" ∧ FileEntry.isApplication "windowsdesktop-helper.dll" = true ∧
      IsPayload runtimeFamily "windowsdesktop-helper.dll" ∧
      ¬ StartsAnyCase runtimeFamily.toList "windowsdesktop-helper.dll".toList ∧
      ¬ IsStep runtimeFamily "windowsdesktop-helper.dll" := by
  have hstart : ¬ StartsAnyCase runtimeFamily.toList "windowsdesktop-helper.dll".toList := by
    rw [← isSome_dropLeadingAnyCase?]
    decide
  refine ⟨by decide, by decide +kernel, isPayload_iff.2 ⟨by decide, by decide⟩, hstart, ?_⟩
  rw [isStep_iff_of_not_mem (by decide) (by decide)]
  exact hstart

end Installer

end SetupForge

import SetupForge.Proofs.Script.InstallerNames
import SetupForge.Proofs.Script.Rereading
import SetupForge.Proofs.Settings.Lineage

/-! # Options along a lineage

The options of an action are its own and then those of the actions around it, without the texts that
are there already. Looking an option up finds what a walk from the action up to the root finds
first: what merging leaves out has the name of an option that stands before it.
-/

namespace SetupForge

open Text

/-! ## Names of options -/

namespace Action

def optionName (option : String) : List Char := option.toList.takeWhile (· ≠ ':')

/-- What an option says behind its first colon, without the blanks at the ends. -/
def optionText (option : String) : String :=
  String.ofList (trimChars ((option.toList.dropWhile (· ≠ ':')).drop 1))

/-- Whether two ASCII names are the same but for case and for blanks at the ends. -/
def sameName (name other : List Char) : Bool :=
  (trimChars name).map Char.toLower == (trimChars other).map Char.toLower

def hasName (name option : String) : Bool := sameName (optionName option) name.toList

variable {name option other : String} {text : List Char}

theorem lowerLetter_of_lt {c : Char} (h : c.toNat < 0x80) : lowerLetter c = c.toLower := by
  rw [lowerLetter, if_pos h]

theorem forall_of_isAscii (h : isAscii text = true) : ∀ c ∈ text, c.toNat < 0x80 := by
  simpa [isAscii] using h

theorem lowerChars_of_isAscii (h : isAscii text = true) :
    lowerChars text = text.map Char.toLower := by
  rw [lowerChars, lowerFrom_of_isAscii _ h]
  exact List.map_congr_left fun c hc => lowerLetter_of_lt (forall_of_isAscii h c hc)

theorem isAscii_of_subset {part : List Char} (h : isAscii text = true) (hpart : part ⊆ text) :
    isAscii part = true :=
  List.all_eq_true.2 fun c hc => List.all_eq_true.1 h c (hpart hc)

theorem optionKey_eq (h : isAscii text = true) :
    optionKey text = (trimChars text).map Char.toLower :=
  lowerChars_of_isAscii (isAscii_of_subset h fun _ => Section.mem_of_mem_trimChars)

theorem getD_cut? (text : List Char) :
    (cut? [':'] text).getD (text, []) =
      (text.takeWhile (· ≠ ':'), (text.dropWhile (· ≠ ':')).drop 1) := by
  induction text with
  | nil => rfl
  | cons c text ih =>
      by_cases hc : c = ':'
      · subst hc
        rfl
      · have hnot : ([':'] : List Char).isPrefixOf (c :: text) = false := by
          simp [List.isPrefixOf, Ne.symm hc]
        rw [cut?, if_neg (by simp [hnot]), List.takeWhile_cons_of_pos (by simpa using hc),
          List.dropWhile_cons_of_pos (by simpa using hc)]
        cases hcut : cut? [':'] text with
        | none =>
            rw [hcut] at ih
            simpa using ih
        | some cut =>
            rw [hcut, Option.getD_some] at ih
            rw [Option.map_some, Option.getD_some, ih]

theorem optionValue?_eq (hname : isAscii name.toList = true)
    (hoption : isAscii option.toList = true) :
    optionValue? name option = if hasName name option then some (optionText option) else none := by
  have hbefore : isAscii (optionName option) = true :=
    isAscii_of_subset hoption (List.takeWhile_sublist _).subset
  unfold optionValue?
  rw [getD_cut?]
  dsimp only
  rw [optionKey_eq hname, ← optionName, optionKey_eq hbefore]
  rfl

/-! ## Options that are left out -/

theorem toLower_eq_colon_iff {c : Char} (h : c.toNat < 0x80) : c.toLower = ':' ↔ c = ':' :=
  of_toNat_lt (fun c => c.toLower = ':' ↔ c = ':') (by decide) h

theorem isBlankChar_toLower {c : Char} (h : c.toNat < 0x80) :
    isBlankChar c.toLower = isBlankChar c :=
  of_toNat_lt (fun c => isBlankChar c.toLower = isBlankChar c) (by decide) h

theorem map_toLower_takeWhile (h : isAscii text = true) :
    (text.takeWhile (· ≠ ':')).map Char.toLower =
      (text.map Char.toLower).takeWhile (· ≠ ':') := by
  induction text with
  | nil => rfl
  | cons c text ih =>
      rw [isAscii, List.all_cons, Bool.and_eq_true, decide_eq_true_eq] at h
      have hcolon := toLower_eq_colon_iff h.1
      rw [List.map_cons, List.takeWhile_cons, List.takeWhile_cons]
      by_cases hc : c = ':'
      · simp [hc]
      · simpa [hc, mt hcolon.1 hc] using ih h.2

theorem map_toLower_optionName (h : isAscii option.toList = true) :
    (trimChars (optionName option)).map Char.toLower =
      trimChars ((lower option).toList.takeWhile (· ≠ ':')) := by
  have hblank : ∀ c ∈ optionName option, isBlankChar c.toLower = isBlankChar c := fun c hc =>
    isBlankChar_toLower (forall_of_isAscii h c ((List.takeWhile_sublist _).subset hc))
  rw [← trimChars_map hblank, toList_lower, lowerChars_of_isAscii h, optionName,
    map_toLower_takeWhile h]

theorem hasName_congr (hoption : isAscii option.toList = true) (hother : isAscii other.toList = true)
    (h : lower option = lower other) (name : String) : hasName name option = hasName name other := by
  rw [hasName, hasName, sameName, sameName, map_toLower_optionName hoption,
    map_toLower_optionName hother, h]

/-- Merging leaves out only what is found before it. -/
theorem find?_mergeOptions (name : String) {own added : List String}
    (hown : ∀ option ∈ own, isAscii option.toList = true)
    (hadded : ∀ option ∈ added, isAscii option.toList = true) :
    (mergeOptions own added).find? (hasName name) = (own ++ added).find? (hasName name) := by
  induction added generalizing own with
  | nil => rw [mergeOptions, List.append_nil]
  | cons option rest ih =>
      obtain ⟨hoption, hrest⟩ := List.forall_mem_cons.1 hadded
      rw [mergeOptions]
      split
      · rename_i hthere
        obtain ⟨other, hmem, hsame⟩ := List.any_eq_true.1 hthere
        rw [ih hown hrest, List.find?_append, List.find?_append, List.find?_cons]
        have hname : hasName name other = hasName name option :=
          hasName_congr (hown other hmem) hoption (beq_iff_eq.1 hsame) name
        cases hfound : hasName name option with
        | false => rfl
        | true =>
            have hsome : (own.find? (hasName name)).isSome :=
              List.find?_isSome.2 ⟨other, hmem, hname.trans hfound⟩
            rw [Option.or_of_isSome hsome, Option.or_of_isSome hsome]
      · have hmore : ∀ other ∈ own ++ [option], isAscii other.toList = true := by
          simpa [or_imp, forall_and] using ⟨hown, hoption⟩
        rw [ih hmore hrest, List.append_assoc, List.singleton_append]

theorem mem_of_mem_mergeOptions {own added : List String} (h : option ∈ mergeOptions own added) :
    option ∈ own ++ added := by
  induction added generalizing own with
  | nil => rwa [List.append_nil]
  | cons first rest ih =>
      rw [mergeOptions] at h
      split at h
      · exact List.mem_append.2 ((List.mem_append.1 (ih h)).imp_right (List.mem_cons_of_mem _))
      · simpa using ih h

theorem option_eq {action : Action} (hname : isAscii name.toList = true)
    (hoptions : ∀ option ∈ action.options, isAscii option.toList = true) :
    action.option name = ((action.options.find? (hasName name)).map optionText).getD "" := by
  rw [Action.option]
  congr 1
  generalize action.options = options at hoptions
  induction options with
  | nil => rfl
  | cons option rest ih =>
      obtain ⟨hoption, hrest⟩ := List.forall_mem_cons.1 hoptions
      rw [List.findSome?_cons, List.find?_cons, optionValue?_eq hname hoption]
      cases hasName name option with
      | true => rfl
      | false => exact ih hrest

end Action

/-! ## The nearest option -/

namespace Lineage

/-- The options on the way from an action up to the root, each action's own in their order. -/
def options (lineage : Lineage) : List String := lineage.path.flatMap Action.options

/-- The text of the first option of a name on the way, or the empty text. -/
def nearestOption (lineage : Lineage) (name : String) : String :=
  ((lineage.options.find? (Action.hasName name)).map Action.optionText).getD ""

def HasAsciiOptions (lineage : Lineage) : Prop :=
  ∀ option ∈ lineage.options, isAscii option.toList = true

theorem Means.option_eq {around : Surroundings} {workingPath : Option Path}
    {lineage : Lineage} {action : Action} (h : lineage.Means around workingPath action)
    (hoptions : lineage.HasAsciiOptions) {name : String} (hname : isAscii name.toList = true) :
    action.option name = lineage.nearestOption name := by
  have hsplit : lineage.options =
      lineage.own.options ++ lineage.around.flatMap Action.options := List.flatMap_cons
  rw [HasAsciiOptions, hsplit] at hoptions
  have hmerged : ∀ option ∈ action.options, isAscii option.toList = true := by
    rw [h.options]
    exact fun option hmem => hoptions option (Action.mem_of_mem_mergeOptions hmem)
  obtain ⟨hown, haround⟩ := List.forall_mem_append.1 hoptions
  rw [Action.option_eq hname hmerged, h.options, Action.find?_mergeOptions name hown haround,
    nearestOption, hsplit]

end Lineage

namespace ActionTree

/-- On every resolved action a name stands for the nearest option that has it, as it would if
merging left nothing out. -/
theorem options_are_nearest {around : Surroundings} {workingPath : Option Path} {value : Value}
    {tree : ActionTree} {actions : List Action} (htree : (ofValue "root" value).1 = .ok tree)
    (hactions : (resolve around workingPath value).1 = .ok actions) :
    List.Forall₂
      (fun lineage action => lineage.HasAsciiOptions →
        ∀ name : String, isAscii name.toList = true →
          action.option name = lineage.nearestOption name ∧
            action.option name = { action with options := lineage.options }.option name)
      (tree.lineages.filter fun lineage => lineage.own.kind ≠ .none) actions := by
  refine List.Forall₂.imp ?_ ((resolve_eq_ok_iff_of_tree htree actions).1 hactions)
  intro lineage action hmeans hoptions name hname
  have hnearest := hmeans.option_eq hoptions hname
  have hall : ({ action with options := lineage.options } : Action).option name =
      lineage.nearestOption name := Action.option_eq hname hoptions
  exact ⟨hnearest, hnearest.trans hall.symm⟩

/-- Settings with an action that sets an option of the root again and repeats another one. -/
def layeredOptions : Value :=
  .mapping [
    (.text "sign_tool_filename", .text "signtool.exe"),
    (.text "options", .list [.text "Mode: slow", .text "Extra:1"]),
    (.text "actions", .list [
      .mapping [
        (.text "action_type", .text "set_version"),
        (.text "options", .list [.text "EXTRA:1", .text " mode :Fast"])]])]

def layeredLineage : Lineage where
  own := { kind := .setVersion, options := ["EXTRA:1", " mode :Fast"] }
  around := [
    ({ options := ["Mode: slow", "Extra:1"] } : Action).withText .signToolFilename "signtool.exe"]

theorem options_are_nearest_layered :
    ∃ tree action, (ofValue "root" layeredOptions).1 = .ok tree ∧
      (tree.lineages.filter fun lineage => lineage.own.kind ≠ .none) = [layeredLineage] ∧
      (resolve {} none layeredOptions).1 = .ok [action] ∧ layeredLineage.HasAsciiOptions ∧
      isAscii "MODE".toList = true ∧ action.option "MODE" = layeredLineage.nearestOption "MODE" ∧
      layeredLineage.nearestOption "MODE" = "Fast" := by
  have htree : ∃ tree, (ofValue "root" layeredOptions).1 = .ok tree ∧
      (tree.lineages.filter fun lineage => lineage.own.kind ≠ .none) = [layeredLineage] :=
    ⟨_, rfl, rfl⟩
  have haction : ∃ action, (resolve {} none layeredOptions).1 = .ok [action] := ⟨_, rfl⟩
  have hoptions : layeredLineage.HasAsciiOptions := by
    rw [Lineage.HasAsciiOptions]
    decide
  obtain ⟨tree, htree, hlineages⟩ := htree
  obtain ⟨action, haction⟩ := haction
  have hall := options_are_nearest htree haction
  rw [hlineages, List.forall₂_cons] at hall
  have hname : isAscii "MODE".toList = true := by decide
  exact ⟨tree, action, htree, hlineages, haction, hoptions, hname,
    (hall.1 hoptions "MODE" hname).1, by decide⟩

end ActionTree
end SetupForge

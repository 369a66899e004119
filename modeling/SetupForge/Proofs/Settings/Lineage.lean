import Mathlib.Data.List.Basic
import SetupForge.Proofs.Results
import SetupForge.Settings.Resolve

/-! # What resolving makes of a tree

Seen from one action, resolving a tree of actions is a walk from the action up to the root: what the
action leaves unset comes from the first action on the way that sets it, and then from the defaults
of the root. The pass from the root down, which fills every action from the one around it, comes to
the same.
-/

namespace SetupForge

/-- An action of a tree with the actions around it, the nearest first. -/
structure Lineage where
  own : Action
  around : List Action := []

namespace Lineage

def path (lineage : Lineage) : List Action := lineage.own :: lineage.around

/-- The first value on the way to the root that is set, or else a default. -/
def firstSet {α : Type} [DecidableEq α] (unset default : α) (value : Action → α)
    (lineage : Lineage) : α :=
  ((lineage.path.map value).find? fun found => found ≠ unset).getD default

/-- What the root gives for a field when nobody on the way to it sets the field. -/
def rootDefault (workingPath : Option Path) : TextField → String
  | .workingPath => (workingPath.map Path.toString).getD ""
  | .certTimestampUrl => Action.defaultTimestampUrl
  | .innoSetupCompilerFilename => Action.defaultSetupCompiler
  | .signToolFilename => Action.defaultSignTool
  | _ => ""

/-- The text of a field before any variable in it is expanded. -/
def text (workingPath : Option Path) (field : TextField) (lineage : Lineage) : String :=
  lineage.firstSet "" (rootDefault workingPath field) fun action => action.text field

/-- Whether an action is what a lineage means in its surroundings. -/
structure Means (around : Surroundings) (workingPath : Option Path) (lineage : Lineage)
    (action : Action) : Prop where
  name : action.name = lineage.own.name
  kind : action.kind = lineage.own.kind
  remarks : action.remarks = lineage.own.remarks
  active : action.active = true ↔ ∀ member ∈ lineage.path, member.active = true
  options : action.options =
    Action.mergeOptions lineage.own.options (lineage.around.flatMap Action.options)
  major : action.major = lineage.firstSet 0 0 Action.major
  level : action.level = lineage.firstSet .none .none Action.level
  /-- Variables are expanded at the end, and only in paths and secrets. -/
  text (field : TextField) :
    if field.isExpanded then
      Expand.expand around (lineage.text workingPath field) = .ok (action.text field)
    else action.text field = lineage.text workingPath field

end Lineage

namespace ActionTree

mutual

/-- The actions of a tree, each below the actions around the tree; children come first. -/
def lineagesBelow (around : List Action) : ActionTree → List Lineage
  | .node own children => lineagesOfAll (own :: around) children ++ [⟨own, around⟩]

def lineagesOfAll (around : List Action) : List ActionTree → List Lineage
  | [] => []
  | tree :: trees => lineagesBelow around tree ++ lineagesOfAll around trees

end

def lineages (tree : ActionTree) : List Lineage := lineagesBelow [] tree

end ActionTree

/-! ## Inheriting along a lineage -/

namespace Action

variable (base : Action)

/-- An action with all that it takes from the actions around it, and from a base around them. -/
def inheritAlong : Action → List Action → Action
  | own, [] => inherit base own
  | own, parent :: further => inherit (inheritAlong parent further) own

@[simp] theorem name_inheritAlong (own : Action) (around : List Action) :
    (inheritAlong base own around).name = own.name := by
  cases around <;> rfl

@[simp] theorem kind_inheritAlong (own : Action) (around : List Action) :
    (inheritAlong base own around).kind = own.kind := by
  cases around <;> rfl

@[simp] theorem remarks_inheritAlong (own : Action) (around : List Action) :
    (inheritAlong base own around).remarks = own.remarks := by
  cases around <;> rfl

theorem active_inheritAlong (h : base.active = true) (own : Action) (around : List Action) :
    (inheritAlong base own around).active = true ↔
      ∀ member ∈ own :: around, member.active = true := by
  induction around generalizing own with
  | nil => simp [inheritAlong, inherit, h]
  | cons parent further ih =>
      rw [List.forall_mem_cons, ← ih parent]
      simp [inheritAlong, inherit]

/-- What is filled in from the action around is the first value that is set on the way. -/
theorem value_inheritAlong {α : Type} [DecidableEq α] {unset : α} (value : Action → α)
    (h : ∀ parent own : Action,
      value (inherit parent own) = if value own = unset then value parent else value own)
    (own : Action) (around : List Action) :
    value (inheritAlong base own around) =
      (⟨own, around⟩ : Lineage).firstSet unset (value base) value := by
  induction around generalizing own with
  | nil =>
      by_cases hunset : value own = unset <;>
        simp [inheritAlong, Lineage.firstSet, Lineage.path, h, hunset]
  | cons parent further ih =>
      rw [inheritAlong, h, ih parent]
      by_cases hunset : value own = unset <;>
        simp [Lineage.firstSet, Lineage.path, hunset]

theorem text_inheritAlong (field : TextField) (own : Action) (around : List Action) :
    (inheritAlong base own around).text field =
      (⟨own, around⟩ : Lineage).firstSet "" (base.text field) fun action => action.text field := by
  have htext : ∀ parent own : Action, (inherit parent own).text field =
      if own.text field = "" then parent.text field else own.text field := by
    simp [text_inherit]
  exact value_inheritAlong base (fun action => action.text field) htext own around

theorem major_inheritAlong (own : Action) (around : List Action) :
    (inheritAlong base own around).major =
      (⟨own, around⟩ : Lineage).firstSet 0 base.major Action.major :=
  value_inheritAlong base Action.major (fun _ _ => rfl) own around

theorem level_inheritAlong (own : Action) (around : List Action) :
    (inheritAlong base own around).level =
      (⟨own, around⟩ : Lineage).firstSet .none base.level Action.level :=
  value_inheritAlong base Action.level (fun _ _ => rfl) own around

/-! ### Options -/

theorem mergeOptions_append (own first second : List String) :
    mergeOptions own (first ++ second) = mergeOptions (mergeOptions own first) second := by
  induction first generalizing own with
  | nil => rfl
  | cons option rest ih =>
      rw [List.cons_append, mergeOptions, mergeOptions]
      split
      · exact ih own
      · exact ih (own ++ [option])

theorem any_mergeOptions (own added : List String) (option : String) :
    ((mergeOptions own added).any fun other => Text.lower other == Text.lower option) =
      (own ++ added).any fun other => Text.lower other == Text.lower option := by
  induction added generalizing own with
  | nil => simp [mergeOptions]
  | cons first rest ih =>
      rw [mergeOptions]
      split
      · rename_i hthere
        rw [ih own]
        obtain ⟨other, hmem, hother⟩ := List.any_eq_true.1 hthere
        by_cases hsame : Text.lower first = Text.lower option
        · have hfound : own.any (fun other => Text.lower other == Text.lower option) = true :=
            List.any_eq_true.2 ⟨other, hmem, by rw [← hsame]; exact hother⟩
          simp [List.any_append, hfound]
        · have hother : (Text.lower first == Text.lower option) = false := by simpa using hsame
          simp [List.any_append, hother]
      · rw [ih (own ++ [first]), List.append_assoc]
        rfl

/-- It does not matter whether options are merged from the root down or from the action up. -/
theorem mergeOptions_mergeOptions (own first second : List String) :
    mergeOptions own (mergeOptions first second) = mergeOptions own (first ++ second) := by
  induction second generalizing first with
  | nil => rw [mergeOptions, List.append_nil]
  | cons option rest ih =>
      rw [mergeOptions]
      split
      · rename_i hthere
        have hpassed : (mergeOptions own first).any
            (fun other => Text.lower other == Text.lower option) = true := by
          rw [any_mergeOptions, List.any_append, hthere, Bool.or_true]
        rw [ih first, mergeOptions_append, mergeOptions_append, mergeOptions, if_pos hpassed]
      · rw [ih (first ++ [option]), List.append_assoc]
        rfl

theorem options_inheritAlong (h : base.options = []) (own : Action) (around : List Action) :
    (inheritAlong base own around).options =
      mergeOptions own.options (around.flatMap Action.options) := by
  induction around generalizing own with
  | nil => simp [inheritAlong, inherit, h]
  | cons parent further ih =>
      have hoptions : (inheritAlong base own (parent :: further)).options =
          mergeOptions own.options (inheritAlong base parent further).options := rfl
      rw [hoptions, ih parent, mergeOptions_mergeOptions, List.flatMap_cons]

/-! ### Root defaults -/

def aroundRoot (workingPath : Option Path) : Action := { text := Lineage.rootDefault workingPath }

theorem orText_eq (action : Action) (field : TextField) (text : String) :
    action.orText field text =
      { action with
        text := fun other =>
          if other = field ∧ action.text other = "" then text else action.text other } := by
  unfold orText withText
  split
  · rename_i hempty
    congr 1
    funext other
    by_cases hfield : other = field
    · simp [hfield, String.isEmpty_iff.1 hempty]
    · simp [hfield]
  · rename_i hset
    have hkept : (fun other =>
        if other = field ∧ action.text other = "" then text else action.text other) =
          action.text := by
      funext other
      rw [if_neg]
      rintro ⟨rfl, hempty⟩
      exact hset (String.isEmpty_iff.2 hempty)
    rw [hkept]

theorem withRootDefaults_eq (workingPath : Option Path) (action : Action) :
    action.withRootDefaults workingPath = inherit (aroundRoot workingPath) action := by
  have hmajor : (if action.major = 0 then 0 else action.major) = action.major := by
    split <;> simp_all
  have hlevel : (if action.level = .none then .none else action.level) = action.level := by
    split <;> simp_all
  cases workingPath <;>
    simp only [withRootDefaults, orText_eq, inherit, aroundRoot, Bool.and_true, mergeOptions,
      hmajor, hlevel, String.isEmpty_iff] <;>
    congr 1 <;> funext field <;> cases field <;>
    simp [Lineage.rootDefault]

/-! ### Expanding -/

theorem expandedIn_eq_ok_iff {around : Surroundings} {fields : List TextField}
    (hfields : fields.Nodup) {action expanded : Action} :
    expandedIn around action fields = .ok expanded ↔
      expanded = { action with text := expanded.text } ∧
        ∀ field, if field ∈ fields then
            Expand.expand around (action.text field) = .ok (expanded.text field)
          else expanded.text field = action.text field := by
  induction fields generalizing action with
  | nil =>
      simp only [expandedIn, Except.ok.injEq, List.not_mem_nil, if_false]
      constructor
      · rintro rfl
        exact ⟨rfl, fun _ => rfl⟩
      · rintro ⟨hrest, htext⟩
        rw [hrest, funext htext]
  | cons first rest ih =>
      obtain ⟨hfirst, hrest⟩ := List.nodup_cons.1 hfields
      rw [expandedIn]
      cases htext : Expand.expand around (action.text first) with
      | error failure =>
          refine ⟨(fun h => nomatch h), fun h => ?_⟩
          have hexpanded := h.2 first
          rw [if_pos List.mem_cons_self, htext] at hexpanded
          cases hexpanded
      | ok text =>
          have hstep : expandedIn around (action.withText first text) rest = .ok expanded ↔
              _ := ih hrest
          refine hstep.trans (and_congr Iff.rfl (forall_congr' fun field => ?_))
          by_cases hsame : field = first
          · subst hsame
            rw [if_neg hfirst, if_pos List.mem_cons_self, htext, text_withText_self,
              Except.ok.injEq, eq_comm]
          · simp only [text_withText_of_ne text hsame, List.mem_cons, hsame, false_or]

theorem expanded_eq_ok_iff {around : Surroundings} {action expanded : Action} :
    action.expanded around = .ok expanded ↔
      expanded = { action with text := expanded.text } ∧
        ∀ field : TextField, if field.isExpanded then
            Expand.expand around (action.text field) = .ok (expanded.text field)
          else expanded.text field = action.text field := by
  have hfields : (TextField.all.filter TextField.isExpanded).Nodup := by decide
  refine (expandedIn_eq_ok_iff hfields).trans (and_congr Iff.rfl (forall_congr' fun field => ?_))
  simp only [List.mem_filter, TextField.mem_all, true_and]

end Action

namespace ActionTree

variable (base : Action)

def parentOf (base : Action) : List Action → Action
  | [] => base
  | parent :: further => Action.inheritAlong base parent further

theorem inherit_parentOf (own : Action) (around : List Action) :
    Action.inherit (parentOf base around) own = Action.inheritAlong base own around := by
  cases around <;> rfl

mutual

theorem flatten_eq (around : List Action) (tree : ActionTree) :
    flatten (some (parentOf base around)) tree =
      ((tree.lineagesBelow around).filter fun lineage => lineage.own.kind ≠ .none).map
        fun lineage => Action.inheritAlong base lineage.own lineage.around := by
  cases tree with
  | node own children =>
      rw [flatten, lineagesBelow, inherit_parentOf]
      have hchildren := flattenAll_eq (own :: around) children
      rw [parentOf] at hchildren
      rw [hchildren, List.filter_append, List.map_append, Action.kind_inheritAlong]
      by_cases hkind : own.kind = .none <;> simp [hkind]

theorem flattenAll_eq (around : List Action) (trees : List ActionTree) :
    flattenAll (parentOf base around) trees =
      ((lineagesOfAll around trees).filter fun lineage => lineage.own.kind ≠ .none).map
        fun lineage => Action.inheritAlong base lineage.own lineage.around := by
  cases trees with
  | nil => simp [flattenAll, lineagesOfAll]
  | cons tree trees =>
      rw [flattenAll, lineagesOfAll, flatten_eq around tree, flattenAll_eq around trees,
        List.filter_append, List.map_append]

end

/-- The root with its defaults stands inside an action that holds them. -/
theorem flatten_withRootDefaults (workingPath : Option Path) (tree : ActionTree) :
    flatten none (tree.mapOwn (Action.withRootDefaults workingPath)) =
      (tree.lineages.filter fun lineage => lineage.own.kind ≠ .none).map fun lineage =>
        Action.inheritAlong (Action.aroundRoot workingPath) lineage.own lineage.around := by
  have hflat := flatten_eq (Action.aroundRoot workingPath) [] tree
  rw [lineages, ← hflat]
  cases tree with
  | node own children => rw [mapOwn, flatten, flatten, parentOf, Action.withRootDefaults_eq]

end ActionTree

namespace Lineage

variable {around : Surroundings} {workingPath : Option Path} {lineage : Lineage}
  {action : Action}

theorem text_eq (field : TextField) :
    (Action.inheritAlong (Action.aroundRoot workingPath) lineage.own lineage.around).text field =
      lineage.text workingPath field := Action.text_inheritAlong _ field _ _

theorem means_iff :
    lineage.Means around workingPath action ↔
      (Action.inheritAlong (Action.aroundRoot workingPath) lineage.own lineage.around).expanded
        around = .ok action := by
  have hactive := Action.active_inheritAlong (Action.aroundRoot workingPath) rfl lineage.own
    lineage.around
  have hoptions := Action.options_inheritAlong (Action.aroundRoot workingPath) rfl lineage.own
    lineage.around
  have hmajor := Action.major_inheritAlong (Action.aroundRoot workingPath) lineage.own
    lineage.around
  have hlevel := Action.level_inheritAlong (Action.aroundRoot workingPath) lineage.own
    lineage.around
  rw [Action.expanded_eq_ok_iff]
  simp only [text_eq]
  constructor
  · intro h
    refine ⟨?_, h.text⟩
    have hsame : action.active = (Action.inheritAlong (Action.aroundRoot workingPath) lineage.own
        lineage.around).active := Bool.eq_iff_iff.2 (h.active.trans hactive.symm)
    cases action
    simp only [Action.mk.injEq, Action.name_inheritAlong, Action.kind_inheritAlong,
      Action.remarks_inheritAlong, true_and]
    exact ⟨h.name, h.kind, hsame, h.remarks, h.options.trans hoptions.symm,
      h.major.trans hmajor.symm, h.level.trans hlevel.symm⟩
  · rintro ⟨hrest, htext⟩
    exact
      { name := by rw [hrest, Action.name_inheritAlong]
        kind := by rw [hrest, Action.kind_inheritAlong]
        remarks := by rw [hrest, Action.remarks_inheritAlong]
        active := by rw [hrest]; exact hactive
        options := by rw [hrest]; exact hoptions
        major := by rw [hrest]; exact hmajor
        level := by rw [hrest]; exact hlevel
        text := htext }

end Lineage

/-! ## Resolving -/

namespace ActionTree

theorem resolve_eq_ok_iff_of_tree {around : Surroundings} {workingPath : Option Path}
    {value : Value} {tree : ActionTree} (htree : (ofValue "root" value).1 = .ok tree)
    (actions : List Action) :
    (resolve around workingPath value).1 = .ok actions ↔
      List.Forall₂ (Lineage.Means around workingPath)
        (tree.lineages.filter fun lineage => lineage.own.kind ≠ .none) actions := by
  unfold resolve
  cases hvalue : ofValue "root" value with
  | mk result warnings =>
      rw [hvalue] at htree
      dsimp only at htree
      subst htree
      dsimp only
      rw [flatten_withRootDefaults, mapM_eq_ok_iff, List.forall₂_map_left_iff]
      constructor
      · exact List.Forall₂.imp fun _ _ => Lineage.means_iff.2
      · exact List.Forall₂.imp fun _ _ => Lineage.means_iff.1

end ActionTree

end SetupForge

import Mathlib.Data.List.Nodup
import SetupForge.Proofs.Script.FilledLine
import SetupForge.Proofs.Script.Heading

/-! # Blocks of generated routines

A generated block is a marker, a line below it and a body without markers, and it ends on its
last line. Every routine of the catalog is such a block, whatever quoteless values its
placeholders have, and only its second line looks like a heading.
-/

namespace SetupForge

open Text

namespace Routine

/-- Whether lines open with a marker directly above a line that carries the signature. -/
def opensCopy (signature : String) : List String → Bool
  | marker :: line :: _ => Marker.isMarker marker && carries signature line
  | _ => false

/-- A marker and unmarked lines below it that end their block on the last line. -/
inductive IsBlock : List String → Prop where
  | intro (marker head : String) (body : List String)
      (marked : Marker.isMarker marker = true)
      (unmarked : ∀ line ∈ head :: body, Marker.isMarker line = false)
      (closed : Pascal.blockLength? none false 0 (marker :: head :: body) =
        some (body.length + 1)) :
      IsBlock (marker :: head :: body)

/-- A line of a body: tidy code of some effect that does not look like a heading, with no
brace among its first two letters. -/
def isBodyText (text : List Char) (effect : Pascal.Effect) : Bool :=
  Pascal.isTidy false text && Pascal.effect? text == some effect &&
    !opensHeading (dropBlanks text) &&
      match dropBlanks text with
      | a :: b :: _ => a ≠ '{' && b ≠ '{'
      | _ => false

def initial (routine : Routine) : Option Char := routine.name.toList.head?.map lowerLetter

/-- A heading without braces that leaves the depth alone and whose name has an initial. -/
def isHeadingText (text : List Char) (initial : Option Char) : Bool :=
  !text.contains '{' && Pascal.effect? text == some .neutral &&
    (lowerChars (trimChars text)).take 2 == ['f', 'u'] &&
      (lowerChars (trimChars text))[9]? == initial

/-- A routine that is laid out as its marker, its heading and a body of some shape. -/
structure Laid (routine : Routine) (head : String) (body : List String)
    (shape : List Pascal.Effect) : Prop where
  lines_eq : routine.lines = Marker.line routine.name :: head :: body
  name_plain : '{' ∉ routine.name.toList ∧ '}' ∉ routine.name.toList
  heading : isHeadingText head.toList routine.initial = true
  body_lines : List.Forall₂ (fun line effect => isBodyText line.toList effect = true) body shape
  closed : Pascal.shapeLength? false 0 (.neutral :: .neutral :: shape) = some (shape.length + 1)

/-! ## Markers -/

theorem toList_markerLine (name : String) :
    (Marker.line name).toList =
      '{' :: ' ' :: (Marker.tag.toList ++ ' ' :: (name.toList ++ [' ', '}'])) := by
  simp [Marker.line, String.toList_append]

theorem toList_tag : ∃ rest, Marker.tag.toList = 'i' :: rest ∧ '{' ∉ rest ∧ '}' ∉ rest :=
  ⟨_, String.toList_ofList, by decide, by decide⟩

theorem isMarker_markerLine (name : String) : Marker.isMarker (Marker.line name) = true := by
  obtain ⟨rest, htag, -⟩ := toList_tag
  have hbrace : isBlankChar '{' = false := by decide
  have hblank : isBlankChar ' ' = true := by decide
  have hletter : isBlankChar 'i' = false := by decide
  have hdrop : dropBlanks (' ' :: (Marker.tag.toList ++ ' ' :: (name.toList ++ [' ', '}']))) =
      Marker.tag.toList ++ ' ' :: (name.toList ++ [' ', '}']) := by
    rw [dropBlanks_cons, if_pos hblank, htag, List.cons_append, dropBlanks_cons, hletter]
    rfl
  unfold Marker.isMarker
  rw [toList_markerLine, dropBlanks_cons, hbrace]
  simp only [Bool.false_eq_true, if_false, hdrop, dropLeadingAnyCase?_append_self]
  exact (show (!isWordChar ' ') = true by decide)

theorem effect?_markerLine {name : String} (h : '}' ∉ name.toList) :
    Pascal.effect? (Marker.line name).toList = some .neutral := by
  obtain ⟨rest, htag, -, hclose⟩ := toList_tag
  have hmem : '}' ∉ ' ' :: (Marker.tag.toList ++ ' ' :: (name.toList ++ [' '])) := by
    simp [htag, hclose, h]
  have hcode : Pascal.code none (Marker.line name).toList = ([' '], none) := by
    have hread := Pascal.code_braceComment hmem []
    rw [toList_markerLine]
    simpa using hread
  rw [Pascal.effect?, hcode]
  decide

/-! ## Filled routines -/

section Filled

variable {settings : RuntimeSettings} {major : Int}

theorem fill_of_not_mem {line : String} (h : '{' ∉ line.toList) :
    Placeholder.fill settings major line = line := by
  rw [← String.toList_inj, Placeholder.toList_fill, Placeholder.fillChars_of_not_mem h]

theorem fill_markerLine {name : String} (h : '{' ∉ name.toList) :
    Placeholder.fill settings major (Marker.line name) = Marker.line name := by
  obtain ⟨rest, htag, hopen, -⟩ := toList_tag
  have hmem : '{' ∉ Marker.tag.toList ++ ' ' :: (name.toList ++ [' ', '}']) := by
    simp [htag, hopen, h]
  rw [← String.toList_inj, Placeholder.toList_fill, toList_markerLine,
    Placeholder.fillChars_brace_blank hmem]

theorem dropBlanks_fillChars (settings : RuntimeSettings) (major : Int) {text : List Char}
    {a b : Char} {rest : List Char} (h : dropBlanks text = a :: b :: rest) (ha : a ≠ '{')
    (hb : b ≠ '{') :
    dropBlanks (Placeholder.fillChars settings major text) =
      a :: b :: Placeholder.fillChars settings major rest := by
  induction text with
  | nil => simp at h
  | cons c text ih =>
      rw [dropBlanks_cons] at h
      split at h
      · rename_i hc
        have hbrace : c ≠ '{' := by
          intro he
          subst he
          exact absurd hc (by decide)
        rw [Placeholder.fillChars_cons hbrace, dropBlanks_cons, if_pos hc, ih h]
      · rename_i hc
        simp only [List.cons.injEq] at h
        obtain ⟨rfl, rfl⟩ := h
        rw [Placeholder.fillChars_cons ha, Placeholder.fillChars_cons hb, dropBlanks_cons,
          if_neg hc]

theorem looksLikeHeading_fill {line : String} {effect : Pascal.Effect}
    (h : isBodyText line.toList effect = true) :
    looksLikeHeading (Placeholder.fill settings major line) = false := by
  simp only [isBodyText, Bool.and_eq_true, Bool.not_eq_true'] at h
  obtain ⟨⟨-, hheading⟩, hbrace⟩ := h
  split at hbrace
  · rename_i a b rest hdrop
    simp only [Bool.and_eq_true, decide_eq_true_eq] at hbrace
    rw [looksLikeHeading, Placeholder.toList_fill,
      dropBlanks_fillChars settings major hdrop hbrace.1 hbrace.2]
    rw [hdrop] at hheading
    exact hheading
  · simp at hbrace

theorem effect?_fill (hq : Placeholder.Quoteless settings major) {line : String}
    {effect : Pascal.Effect} (h : isBodyText line.toList effect = true) :
    Pascal.effect? (Placeholder.fill settings major line).toList = some effect := by
  simp only [isBodyText, Bool.and_eq_true, beq_iff_eq] at h
  obtain ⟨⟨⟨htidy, heffect⟩, -⟩, -⟩ := h
  rw [Placeholder.toList_fill, Pascal.effect?_congr (Pascal.code_fillChars hq _ htidy), heffect]

theorem isMarker_fill {line : String} {effect : Pascal.Effect}
    (h : isBodyText line.toList effect = true) :
    Marker.isMarker (Placeholder.fill settings major line) = false := by
  simp only [isBodyText, Bool.and_eq_true] at h
  obtain ⟨-, hbrace⟩ := h
  split at hbrace
  · rename_i a b rest hdrop
    simp only [Bool.and_eq_true, decide_eq_true_eq] at hbrace
    have hfilled := dropBlanks_fillChars settings major hdrop hbrace.1 hbrace.2
    rw [← Placeholder.toList_fill] at hfilled
    exact Marker.isMarker_of_dropBlanks hfilled hbrace.1
  · simp at hbrace

end Filled

/-! ## The catalog -/

theorem isBodyText_ofList {text : List Char} {effect : Pascal.Effect}
    (h : isBodyText text effect = true) :
    isBodyText (String.ofList text).toList effect = true := by
  rwa [String.toList_ofList]

theorem isHeadingText_ofList {text : List Char} {initial : Option Char}
    (h : isHeadingText text initial = true) :
    isHeadingText (String.ofList text).toList initial = true := by
  rwa [String.toList_ofList]

section Catalog

open Pascal.Effect

set_option maxRecDepth 4000

theorem exists_laid_runAndCaptureOutput :
    ∃ head body, Laid runAndCaptureOutput head body
      [neutral, neutral, neutral, opening, neutral, neutral, neutral, neutral, neutral,
        closing] := by
  refine ⟨_, _, rfl, by decide, isHeadingText_ofList (by decide), ?_, rfl⟩
  repeat refine .cons (isBodyText_ofList (by decide)) ?_
  exact .nil

theorem exists_laid_extractMajorVersion :
    ∃ head body, Laid extractMajorVersion head body
      [neutral, neutral, opening, neutral, neutral, neutral, neutral, neutral, closing] := by
  refine ⟨_, _, rfl, by decide, isHeadingText_ofList (by decide), ?_, rfl⟩
  repeat refine .cons (isBodyText_ofList (by decide)) ?_
  exact .nil

theorem exists_laid_isDotnetRuntimeInstalled :
    ∃ head body, Laid isDotnetRuntimeInstalled head body
      [neutral, neutral, neutral, neutral, opening, neutral, neutral, neutral, opening, neutral,
        opening, neutral, opening, neutral, neutral, closing, closing, closing, neutral,
        closing] := by
  refine ⟨_, _, rfl, by decide, isHeadingText_ofList (by decide), ?_, rfl⟩
  repeat refine .cons (isBodyText_ofList (by decide)) ?_
  exact .nil

theorem exists_laid_needsDotNet :
    ∃ head body, Laid needsDotNet head body [opening, neutral, closing] := by
  refine ⟨_, _, rfl, by decide, isHeadingText_ofList (by decide), ?_, rfl⟩
  repeat refine .cons (isBodyText_ofList (by decide)) ?_
  exact .nil

theorem exists_laid_prepareToInstall :
    ∃ head body, Laid prepareToInstall head body
      [opening, neutral, neutral, opening, opening, neutral, neutral, neutral, closing, closing,
        closing] := by
  refine ⟨_, _, rfl, by decide, isHeadingText_ofList (by decide), ?_, rfl⟩
  repeat refine .cons (isBodyText_ofList (by decide)) ?_
  exact .nil

end Catalog

theorem exists_laid_of_mem_catalog {routine : Routine} (h : routine ∈ catalog) :
    ∃ head body shape, Laid routine head body shape := by
  simp only [catalog, List.mem_cons, List.not_mem_nil, or_false] at h
  rcases h with rfl | rfl | rfl | rfl | rfl
  · obtain ⟨head, body, hlaid⟩ := exists_laid_runAndCaptureOutput
    exact ⟨head, body, _, hlaid⟩
  · obtain ⟨head, body, hlaid⟩ := exists_laid_extractMajorVersion
    exact ⟨head, body, _, hlaid⟩
  · obtain ⟨head, body, hlaid⟩ := exists_laid_isDotnetRuntimeInstalled
    exact ⟨head, body, _, hlaid⟩
  · obtain ⟨head, body, hlaid⟩ := exists_laid_needsDotNet
    exact ⟨head, body, _, hlaid⟩
  · obtain ⟨head, body, hlaid⟩ := exists_laid_prepareToInstall
    exact ⟨head, body, _, hlaid⟩

namespace Laid

variable {routine : Routine} {head : String} {body : List String} {shape : List Pascal.Effect}
  {settings : RuntimeSettings} {major : Int}

theorem signature?_eq (h : Laid routine head body shape) : routine.signature? = some head := by
  rw [signature?, h.lines_eq]
  rfl

theorem isSignature (h : Laid routine head body shape) : IsSignature head := by
  have hh := h.heading
  simp only [isHeadingText, Bool.and_eq_true, beq_iff_eq] at hh
  rw [IsSignature, toList_signatureKey]
  exact hh.1.2

theorem key_initial (h : Laid routine head body shape) :
    (signatureKey head).toList[9]? = routine.initial := by
  have hh := h.heading
  simp only [isHeadingText, Bool.and_eq_true, beq_iff_eq] at hh
  rw [toList_signatureKey]
  exact hh.2

theorem brace_not_mem (h : Laid routine head body shape) : '{' ∉ head.toList := by
  have hh := h.heading
  simp only [isHeadingText, Bool.and_eq_true] at hh
  simpa using hh.1.1.1

theorem effect?_head (h : Laid routine head body shape) :
    Pascal.effect? head.toList = some .neutral := by
  have hh := h.heading
  simp only [isHeadingText, Bool.and_eq_true, beq_iff_eq] at hh
  exact hh.1.1.2

theorem map_fill (h : Laid routine head body shape) :
    routine.lines.map (Placeholder.fill settings major) =
      Marker.line routine.name :: head :: body.map (Placeholder.fill settings major) := by
  rw [h.lines_eq, List.map_cons, List.map_cons, fill_markerLine h.name_plain.1,
    fill_of_not_mem h.brace_not_mem]

theorem exists_effect (h : Laid routine head body shape) {line : String} (hl : line ∈ body) :
    ∃ effect, isBodyText line.toList effect = true := by
  obtain ⟨i, hi, rfl⟩ := List.getElem_of_mem hl
  have hlen := h.body_lines.length_eq
  exact ⟨shape[i], h.body_lines.get hi (by omega)⟩

theorem isMarker_head (h : Laid routine head body shape) : Marker.isMarker head = false := by
  unfold Marker.isMarker
  split
  · rename_i text hl
    have hmem : '{' ∈ head.toList :=
      (List.dropWhile_sublist _).subset (by rw [dropBlanks] at hl; rw [hl]; simp)
    exact absurd hmem h.brace_not_mem
  · rfl

theorem isBlock (h : Laid routine head body shape) (hq : Placeholder.Quoteless settings major) :
    IsBlock (Marker.line routine.name :: head ::
      body.map (Placeholder.fill settings major)) := by
  refine .intro _ _ _ (isMarker_markerLine _) ?_ ?_
  · intro line hl
    rcases List.mem_cons.1 hl with rfl | hl
    · exact h.isMarker_head
    · obtain ⟨raw, hraw, rfl⟩ := List.mem_map.1 hl
      obtain ⟨effect, he⟩ := h.exists_effect hraw
      exact isMarker_fill he
  · have heffects : List.Forall₂ (fun line effect => Pascal.effect? line.toList = some effect)
        (Marker.line routine.name :: head :: body.map (Placeholder.fill settings major))
        (.neutral :: .neutral :: shape) := by
      refine .cons (effect?_markerLine h.name_plain.2) (.cons h.effect?_head ?_)
      rw [List.forall₂_map_left_iff]
      exact h.body_lines.imp fun _ _ => effect?_fill hq
    rw [Pascal.blockLength?_eq_shapeLength? heffects, h.closed, List.length_map,
      h.body_lines.length_eq]

theorem looksLikeHeading_body (h : Laid routine head body shape) {line : String}
    (hl : line ∈ body.map (Placeholder.fill settings major)) : looksLikeHeading line = false := by
  obtain ⟨raw, hraw, rfl⟩ := List.mem_map.1 hl
  obtain ⟨effect, he⟩ := h.exists_effect hraw
  exact looksLikeHeading_fill he

end Laid

/-- Only lines that look like headings carry a signature of the catalog. -/
theorem carries_of_mem_catalog {routine : Routine} {signature line : String}
    (h : routine ∈ catalog) (hs : routine.signature? = some signature)
    (hl : looksLikeHeading line = false) : carries signature line = false := by
  obtain ⟨head, _, _, hlaid⟩ := exists_laid_of_mem_catalog h
  rw [hlaid.signature?_eq, Option.some.injEq] at hs
  rw [← hs]
  exact carries_eq_false hlaid.isSignature hl

theorem nodup_map_initial : (catalog.map initial).Nodup := by decide

theorem nodup_catalog : catalog.Nodup := List.Nodup.of_map initial nodup_map_initial

theorem eq_of_carries {a b : Routine} {s t : String} (ha : a ∈ catalog) (hb : b ∈ catalog)
    (hs : a.signature? = some s) (ht : b.signature? = some t) (h : carries s t = true) :
    a = b := by
  obtain ⟨head, _, _, hlaid⟩ := exists_laid_of_mem_catalog ha
  obtain ⟨head', _, _, hlaid'⟩ := exists_laid_of_mem_catalog hb
  rw [hlaid.signature?_eq, Option.some.injEq] at hs
  rw [hlaid'.signature?_eq, Option.some.injEq] at ht
  have hkey : signatureKey t = signatureKey s := by simpa [carries] using h
  refine List.inj_on_of_nodup_map nodup_map_initial ha hb ?_
  rw [← hlaid.key_initial, ← hlaid'.key_initial, hs, ht, hkey]

end Routine

end SetupForge

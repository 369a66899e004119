import SetupForge.Script.Routine
import SetupForge.Script.RunStep
import SetupForge.Script.Section

/-! # Headings of routines

A line that carries the signature of a routine starts with the first letters of a function
heading. Blank lines, markers, section headers and install steps do not, so none of them
carries a signature.
-/

namespace SetupForge

namespace Text

theorem lowerFrom_eq_cons {afterCased : Bool} {text rest : List Char} {x : Char}
    (hx : x ≠ 'ς' ∧ x ≠ 'σ' ∧ x ≠ 'i') (h : lowerFrom afterCased text = x :: rest) :
    ∃ c tail next, text = c :: tail ∧ lowerLetter c = x ∧ lowerFrom next tail = rest := by
  obtain ⟨hfinal, hsigma, hi⟩ := hx
  cases text with
  | nil => simp [lowerFrom] at h
  | cons c tail =>
      rw [lowerFrom] at h
      split at h
      · simp only [List.cons.injEq] at h
        split at h
        · exact absurd h.1.symm hfinal
        · exact absurd h.1.symm hsigma
      · split at h
        · simp only [List.cons.injEq] at h
          exact absurd h.1.symm hi
        · simp only [List.cons.injEq] at h
          exact ⟨c, tail, _, rfl, h.1, h.2⟩

theorem lowerFrom_eq_i {afterCased : Bool} {text rest : List Char} {y : Char} (hy : y ≠ '\u0307')
    (h : lowerFrom afterCased text = 'i' :: y :: rest) :
    ∃ c tail, text = c :: tail ∧ lowerLetter c = 'i' := by
  cases text with
  | nil => simp [lowerFrom] at h
  | cons c tail =>
      rw [lowerFrom] at h
      split at h
      · simp only [List.cons.injEq] at h
        split at h
        · exact absurd h.1 (by decide)
        · exact absurd h.1 (by decide)
      · split at h
        · simp only [List.cons.injEq] at h
          exact absurd h.2.1.symm hy
        · simp only [List.cons.injEq] at h
          exact ⟨c, tail, rfl, h.1⟩

theorem dropLeadingAnyCase?_append (front pattern text : List Char) :
    dropLeadingAnyCase? (front ++ pattern) (front ++ text) = dropLeadingAnyCase? pattern text := by
  induction front with
  | nil => rfl
  | cons c front ih => simp [dropLeadingAnyCase?, ih]

theorem trimChars_prefix (text : List Char) : trimChars text <+: dropBlanks text := by
  have hsuffix := List.dropWhile_suffix isBlankChar (l := (dropBlanks text).reverse)
  have hprefix := List.reverse_prefix.2 hsuffix
  rwa [List.reverse_reverse] at hprefix

theorem trimChars_eq_self {first last : Char} (hfirst : isBlankChar first = false)
    (hlast : isBlankChar last = false) (text : List Char) :
    trimChars (first :: (text ++ [last])) = first :: (text ++ [last]) := by
  have hfront : dropBlanks (first :: (text ++ [last])) = first :: (text ++ [last]) := by
    rw [dropBlanks_cons, hfirst]
    rfl
  have hback : (first :: (text ++ [last])).reverse = last :: (text.reverse ++ [first]) := by
    simp
  rw [trimChars, hfront, dropTrailingBlanks, hback, dropBlanks_cons, hlast, ← hback]
  exact List.reverse_reverse _

end Text

open Text

theorem Marker.isMarker_of_dropBlanks {line : String} {c : Char} {text : List Char}
    (h : dropBlanks line.toList = c :: text) (hc : c ≠ '{') : isMarker line = false := by
  unfold isMarker
  rw [h]
  split
  · rename_i heq
    simp only [List.cons.injEq] at heq
    exact absurd heq.1 hc
  · rfl

namespace Routine

def opensHeading : List Char → Bool
  | a :: b :: _ => lowerLetter a == 'f' && lowerLetter b == 'u'
  | _ => false

def looksLikeHeading (line : String) : Bool := opensHeading (dropBlanks line.toList)

/-- Whether the form in which a signature is compared starts like a function heading. -/
def IsSignature (signature : String) : Prop :=
  (signatureKey signature).toList.take 2 = ['f', 'u']

theorem toList_signatureKey (line : String) :
    (signatureKey line).toList = lowerChars (trimChars line.toList) := by
  rw [signatureKey, toList_lower, toList_trim]

theorem opensHeading_of_lower {text : List Char}
    (h : (lowerChars (trimChars text)).take 2 = ['f', 'u']) :
    opensHeading (dropBlanks text) = true := by
  obtain ⟨rest, hrest⟩ : ∃ rest, lowerChars (trimChars text) = 'f' :: 'u' :: rest := by
    have hsplit := List.take_append_drop 2 (lowerChars (trimChars text))
    rw [h] at hsplit
    exact ⟨_, hsplit.symm⟩
  obtain ⟨a, tail, next, htext, ha, htail⟩ := lowerFrom_eq_cons (by decide) hrest
  obtain ⟨b, tail', _, rfl, hb, -⟩ := lowerFrom_eq_cons (by decide) htail
  obtain ⟨after, hafter⟩ := trimChars_prefix text
  rw [← hafter, htext]
  simp [opensHeading, ha, hb]

theorem looksLikeHeading_of_carries {signature line : String} (hs : IsSignature signature)
    (h : carries signature line = true) : looksLikeHeading line = true := by
  have hkey : signatureKey line = signatureKey signature := by simpa [carries] using h
  refine opensHeading_of_lower ?_
  rw [← toList_signatureKey, hkey]
  exact hs

theorem carries_eq_false {signature line : String} (hs : IsSignature signature)
    (h : looksLikeHeading line = false) : carries signature line = false := by
  cases hc : carries signature line with
  | false => rfl
  | true => rw [looksLikeHeading_of_carries hs hc] at h; simp at h

theorem opensHeading_cons {c : Char} (hc : lowerLetter c ≠ 'f') (text : List Char) :
    opensHeading (c :: text) = false := by
  cases text with
  | nil => rfl
  | cons d text => simp [opensHeading, hc]

theorem looksLikeHeading_of_isBlank {line : String} (h : isBlank line = true) :
    looksLikeHeading line = false := by
  have hnil : dropBlanks line.toList = [] :=
    dropBlanks_eq_nil_iff.2 (by simpa [isBlank] using h)
  rw [looksLikeHeading, hnil]
  rfl

theorem looksLikeHeading_of_isMarker {line : String} (h : Marker.isMarker line = true) :
    looksLikeHeading line = false := by
  unfold Marker.isMarker at h
  unfold looksLikeHeading
  split at h
  · rename_i text hl
    rw [hl]
    exact opensHeading_cons (by decide) text
  · simp at h

/-- Whether a line is neither a marker nor looks like a heading. -/
def Inert (line : String) : Prop :=
  Marker.isMarker line = false ∧ looksLikeHeading line = false

theorem inert_of_dropBlanks {line : String} {c : Char} {text : List Char}
    (h : dropBlanks line.toList = c :: text) (hbrace : c ≠ '{')
    (hheading : opensHeading (c :: text) = false) : Inert line :=
  ⟨Marker.isMarker_of_dropBlanks h hbrace, by rw [looksLikeHeading, h, hheading]⟩

end Routine

/-! ## Section headers -/

namespace Section

theorem dropBlanks_of_isHeaderFor {name line : String} (h : isHeaderFor name line = true) :
    ∃ c text, dropBlanks line.toList = c :: text ∧ lowerLetter c = '[' := by
  have hlower : lowerChars (trimChars line.toList) =
      lowerChars ('[' :: ((trim name).toList ++ [']'])) := by
    rw [isHeaderFor, beq_iff_eq, ← String.toList_inj] at h
    simpa [header] using h
  have hbracket : lowerChars ('[' :: ((trim name).toList ++ [']'])) =
      '[' :: lowerFrom false ((trim name).toList ++ [']']) := by
    rw [lowerChars, lowerFrom]
    rfl
  rw [hbracket] at hlower
  obtain ⟨c, text, _, htext, hc, -⟩ := lowerFrom_eq_cons (by decide) hlower
  obtain ⟨after, hafter⟩ := trimChars_prefix line.toList
  refine ⟨c, text ++ after, ?_, hc⟩
  rw [← hafter, htext]
  rfl

theorem inert_of_isHeaderFor {name line : String} (h : isHeaderFor name line = true) :
    Routine.Inert line := by
  obtain ⟨c, text, hdrop, hc⟩ := dropBlanks_of_isHeaderFor h
  refine Routine.inert_of_dropBlanks hdrop ?_ (Routine.opensHeading_cons ?_ text)
  · rintro rfl
    exact absurd hc (by decide)
  · rw [hc]
    decide

theorem isBlank_of_isHeaderFor {name line : String} (h : isHeaderFor name line = true) :
    isBlank line = false := by
  obtain ⟨c, text, hdrop, -⟩ := dropBlanks_of_isHeaderFor h
  cases hb : isBlank line with
  | false => rfl
  | true =>
      have hnil : dropBlanks line.toList = [] :=
        dropBlanks_eq_nil_iff.2 (by simpa [isBlank] using hb)
      rw [hnil] at hdrop
      simp at hdrop

end Section

/-! ## Install steps -/

namespace RunStep

def closing : String := "\"; Parameters: \"/install /quiet /norestart\"; Check: NeedsDotNet"

theorem toList_entry (installer : String) :
    (entry installer).toList = "Filename: ".toList ++
      (opening.toList ++ (installer.toList ++ closing.toList)) := by
  simp only [entry, closing, String.toList_append, List.append_assoc]

theorem dropBlanks_entry (installer : String) :
    ∃ text, dropBlanks (entry installer).toList = 'F' :: 'i' :: text := by
  have hopen : "Filename: ".toList = 'F' :: 'i' :: "lename: ".toList := by decide
  rw [toList_entry, hopen, List.cons_append, dropBlanks_cons, if_neg (by decide)]
  exact ⟨_, rfl⟩

theorem inert_entry (installer : String) : Routine.Inert (entry installer) := by
  obtain ⟨text, htext⟩ := dropBlanks_entry installer
  exact Routine.inert_of_dropBlanks htext (by decide)
    (show (lowerLetter 'F' == 'f' && lowerLetter 'i' == 'u') = false by decide)

theorem isHeaderFor_entry (name installer : String) :
    Section.isHeaderFor name (entry installer) = false := by
  cases h : Section.isHeaderFor name (entry installer) with
  | false => rfl
  | true =>
      obtain ⟨text, htext⟩ := dropBlanks_entry installer
      obtain ⟨c, text', hdrop, hc⟩ := Section.dropBlanks_of_isHeaderFor h
      rw [htext] at hdrop
      simp only [List.cons.injEq] at hdrop
      rw [← hdrop.1] at hc
      exact absurd hc (by decide)

theorem letters_of_launches {family line : String} (h : launches family line = true) :
    ∃ a b text, dropBlanks line.toList = a :: b :: text ∧ sameLetter 'F' a = true ∧
      sameLetter 'i' b = true := by
  have hkey : ∃ key, "Filename:".toList = 'F' :: 'i' :: key := ⟨_, String.toList_ofList⟩
  obtain ⟨key, hkey⟩ := hkey
  rw [launches, hkey] at h
  cases hd : dropBlanks line.toList with
  | nil => simp [hd, dropLeadingAnyCase?] at h
  | cons a text =>
      cases ha : sameLetter 'F' a with
      | false => simp [hd, dropLeadingAnyCase?, ha] at h
      | true =>
          cases text with
          | nil => simp [hd, dropLeadingAnyCase?, ha] at h
          | cons b text =>
              cases hb : sameLetter 'i' b with
              | false => simp [hd, dropLeadingAnyCase?, ha, hb] at h
              | true => exact ⟨a, b, text, rfl, ha, hb⟩

theorem letters_of_isStep {family line : String} (h : isStep family line = true) :
    ∃ a b text, dropBlanks line.toList = a :: b :: text ∧ sameLetter 'F' a = true ∧
      sameLetter 'i' b = true := by
  rw [isStep, Bool.or_eq_true] at h
  rcases h with h | h
  · exact letters_of_launches h
  · have hlower : lowerChars (trimChars line.toList) = lowerChars (entry "").toList := by
      rw [isUnnamed, beq_iff_eq, ← String.toList_inj] at h
      simpa using h
    have hentry : ∃ text, (entry "").toList = 'F' :: 'i' :: 'l' :: text := by
      have hopen : "Filename: ".toList = 'F' :: 'i' :: 'l' :: "ename: ".toList := by decide
      rw [entry]
      simp only [String.toList_append, hopen, List.cons_append]
      exact ⟨_, rfl⟩
    obtain ⟨text, hentry⟩ := hentry
    have hfirst : lowerChars ('F' :: 'i' :: 'l' :: text) =
        'f' :: 'i' :: 'l' :: lowerFrom true text := by
      simp only [lowerChars, lowerFrom]
      rfl
    rw [hentry, hfirst] at hlower
    obtain ⟨a, tail, next, htrim, ha, htail⟩ := lowerFrom_eq_cons (by decide) hlower
    obtain ⟨b, tail', rfl, hb⟩ := lowerFrom_eq_i (by decide) htail
    obtain ⟨after, hafter⟩ := trimChars_prefix line.toList
    refine ⟨a, b, tail' ++ after, by rw [← hafter, htrim]; rfl, ?_, ?_⟩
    · have hletter : lowerLetter 'F' = 'f' := by decide
      simp [sameLetter, ha, hletter]
    · have hletter : lowerLetter 'i' = 'i' := by decide
      simp [sameLetter, hb, hletter]

theorem isStep_eq_false {family line : String} {c : Char} {text : List Char}
    (h : dropBlanks line.toList = c :: text) (hc : sameLetter 'F' c = false) :
    isStep family line = false := by
  cases hs : isStep family line with
  | false => rfl
  | true =>
      obtain ⟨d, _, _, hdrop, hd, -⟩ := letters_of_isStep hs
      rw [h, List.cons.injEq] at hdrop
      rw [← hdrop.1, hc] at hd
      exact hd.symm

/-- The step of an installer starts a family's program if the installer's name and what is
behind it start with the family. -/
theorem launches_entry_eq (family installer : String) :
    launches family (entry installer) =
      (dropLeadingAnyCase? family.toList (installer.toList ++ closing.toList)).isSome := by
  have hkey : ∃ key, "Filename:".toList = 'F' :: key := ⟨_, String.toList_ofList⟩
  have hopening : ∃ text, opening.toList = '"' :: text := ⟨_, String.toList_ofList⟩
  obtain ⟨key, hkey⟩ := hkey
  obtain ⟨text, hopening⟩ := hopening
  have hsplit : "Filename: ".toList = "Filename:".toList ++ [' '] := by decide
  have hline : (entry installer).toList = "Filename:".toList ++
      (' ' :: (opening.toList ++ (installer.toList ++ closing.toList))) := by
    rw [toList_entry, hsplit, List.append_assoc, List.singleton_append]
  have hfirst : dropBlanks (entry installer).toList = (entry installer).toList := by
    rw [hline, hkey, List.cons_append, dropBlanks_cons, if_neg (by decide)]
  have hsecond : ∀ tail, dropBlanks (' ' :: (opening.toList ++ tail)) =
      opening.toList ++ tail := by
    intro tail
    rw [dropBlanks_cons, if_pos (by decide), hopening, List.cons_append, dropBlanks_cons,
      if_neg (by decide)]
  rw [launches, hfirst, hline, dropLeadingAnyCase?_append_self]
  dsimp only
  rw [hsecond, dropLeadingAnyCase?_append]

theorem launches_entry (family rest : String) :
    launches family (entry (family ++ rest)) = true := by
  rw [launches_entry_eq, String.toList_append, List.append_assoc,
    dropLeadingAnyCase?_append_self]
  rfl

theorem isStep_entry (family rest : String) : isStep family (entry (family ++ rest)) = true := by
  rw [isStep, launches_entry, Bool.true_or]

end RunStep

end SetupForge

import SetupForge.Proofs.Text.LeadingBlanks
import SetupForge.Version.Define

/-! # Lines that take a version

A line takes a version if it starts with the directive and an equals sign, or with the definition of
the variable. What stands before the value, with the blanks behind it, is kept, and the value is all
the rest. No other part of the line can be taken for what stands before the value, so stamping a
second time finds the same value and changes nothing.
-/

namespace SetupForge.ScriptVersion

open Text

/-! ## What stands before a value -/

/-- What a line starts with that takes a version: for an empty name the directive with its equals
sign, and otherwise the definition of a variable up to the variable. -/
inductive IsHead : (name head : List Char) → Prop where
  | directive {word blanks : List Char} (hword : AgreeAnyCase directive word)
      (hblanks : AllBlank blanks) : IsHead [] (word ++ (blanks ++ ['=']))
  | definition {name indent word blanks found : List Char} (hname : name ≠ [])
      (hindent : AllBlank indent) (hword : AgreeAnyCase define word) (hblanks : AllBlank blanks)
      (hne : blanks ≠ []) (hfound : AgreeAnyCase name found) :
      IsHead name (indent ++ (word ++ (blanks ++ found)))

/-- How a line that takes a version is divided into what is kept, which ends in all blanks that
follow, and the value. The name of a variable has to end where the word ends. -/
inductive Divides (name : List Char) : (lead value : List Char) → Prop where
  | intro {head blanks value : List Char} (hhead : IsHead name head) (hblanks : AllBlank blanks)
      (hvalue : ¬ StartsBlank value)
      (hedge : name ≠ [] → isWordEdge head (blanks ++ value) = true) :
      Divides name (head ++ blanks) value

def quoted (version : String) : List Char := '"' :: (version.toList ++ ['"'])

variable {name lead after head other text rest value line : List Char}

theorem not_startsBlank_quoted (version : String) : ¬ StartsBlank (quoted version) := by
  rw [quoted, startsBlank_cons]
  decide

theorem not_startsBlank_define : ¬ StartsBlank define := by decide

theorem not_startsBlank_of_forall (h : ∀ c ∈ name, isBlankChar c = false) :
    ¬ StartsBlank name := by
  rintro ⟨c, hc, hblank⟩
  rw [h c (List.mem_of_mem_head? hc)] at hblank
  cases hblank

theorem take_length_sub (text rest : List Char) :
    (text ++ rest).take ((text ++ rest).length - rest.length) = text := by
  rw [List.length_append, Nat.add_sub_cancel, List.take_left]

theorem afterValue?_cons (c : Char) (text : List Char) :
    afterValue? (c :: text) =
      if c = '\n' then (if text = [] then some ['\n'] else none) else afterValue? text := by
  by_cases hc : c = '\n'
  · subst hc
    rw [afterValue?, List.dropWhile_cons_of_neg (by simp), if_pos rfl]
    cases text <;> rfl
  · rw [afterValue?, List.dropWhile_cons_of_pos (by simpa using hc), if_neg hc]
    rfl

theorem afterValue?_eq_some_nil_iff : afterValue? text = some [] ↔ '\n' ∉ text := by
  induction text with
  | nil => exact iff_of_true rfl List.not_mem_nil
  | cons c text ih =>
      rw [afterValue?_cons, List.mem_cons, not_or]
      by_cases hc : c = '\n'
      · rw [if_pos hc]
        refine iff_of_false ?_ fun h => h.1 hc.symm
        split <;> simp
      · rw [if_neg hc, ih]
        exact (and_iff_right fun h => hc h.symm).symm

theorem afterValue?_eq_none_iff : afterValue? text = none ↔ '\n' ∈ text.dropLast := by
  induction text with
  | nil => exact iff_of_false (by simp [afterValue?]) List.not_mem_nil
  | cons c text ih =>
      rw [afterValue?_cons]
      by_cases htext : text = []
      · subst htext
        refine iff_of_false ?_ List.not_mem_nil
        split <;> simp [afterValue?]
      · rw [List.dropLast_cons_of_ne_nil htext, List.mem_cons, ← ih, if_neg htext]
        by_cases hc : c = '\n'
        · rw [if_pos hc]
          exact iff_of_true rfl (Or.inl hc.symm)
        · rw [if_neg hc, or_iff_right fun h => hc h.symm]

theorem valueSpan?_eq (hline : '\n' ∉ text) (before : List Char) :
    valueSpan? before text = some (before ++ text.takeWhile isBlankChar, []) := by
  have hrest : '\n' ∉ dropBlanks text := fun hmem =>
    hline ((List.dropWhile_sublist _).subset hmem)
  rw [valueSpan?, afterValue?_eq_some_nil_iff.2 hrest]
  rfl

theorem directiveSpan?_eq_some_iff (hline : '\n' ∉ line) :
    directiveSpan? line = some (lead, after) ↔
      after = [] ∧ ∃ value, line = lead ++ value ∧ Divides [] lead value := by
  rw [directiveSpan?, Option.bind_eq_bind, Option.bind_eq_some_iff]
  constructor
  · rintro ⟨rest, hdrop, h⟩
    obtain ⟨word, rfl, hword⟩ := dropLeadingAnyCase?_eq_some_iff.1 hdrop
    split at h
    · rename_i text hequals
      have hrest := takeWhile_append_dropBlanks rest
      rw [hequals] at hrest
      have hsplit : word ++ rest = (word ++ (rest.takeWhile isBlankChar ++ ['='])) ++ text := by
        rw [List.append_assoc, List.append_assoc, List.singleton_append, hrest]
      have htext : '\n' ∉ text := fun hmem => hline (by simp [hsplit, hmem])
      rw [valueSpan?_eq htext, hsplit, take_length_sub, Option.some.injEq,
        Prod.mk.injEq] at h
      obtain ⟨rfl, rfl⟩ := h
      refine ⟨rfl, dropBlanks text, ?_, .intro (.directive hword (allBlank_takeWhile _))
        (allBlank_takeWhile _) (not_startsBlank_dropBlanks _) fun h => absurd rfl h⟩
      rw [hsplit, List.append_assoc _ (text.takeWhile _), takeWhile_append_dropBlanks]
    · cases h
  · rintro ⟨rfl, value, rfl, hdivides⟩
    cases hdivides with
    | @intro head right _ hhead hright hvalue _ =>
        cases hhead with
        | definition hname => exact absurd rfl hname
        | @directive word blanks hword hblanks =>
            have hrest : ¬ StartsBlank ('=' :: (right ++ value)) := by
              rw [startsBlank_cons]
              decide
            have hline' : '\n' ∉ right ++ value := fun hmem =>
              hline (by rw [List.append_assoc]; exact List.mem_append_right _ hmem)
            refine ⟨blanks ++ '=' :: (right ++ value), ?_, ?_⟩
            · exact dropLeadingAnyCase?_eq_some_iff.2 ⟨word, by simp, hword⟩
            · rw [dropBlanks_append hblanks hrest]
              show valueSpan? _ (right ++ value) = _
              rw [valueSpan?_eq hline', takeWhile_append hright hvalue,
                List.append_assoc (word ++ _) right, take_length_sub]

/-- Of several counts only the greatest is of use. -/
theorem findSome?_counts {α : Type} {n : Nat} {f : Nat → Option α}
    (h : ∀ k < n, f k = none) :
    ((List.range n).reverse.map (· + 1)).findSome? f = if n = 0 then none else f n := by
  cases n with
  | zero => rfl
  | succ n =>
      have hrest : ((List.range n).reverse.map (· + 1)).findSome? f = none := by
        rw [List.findSome?_eq_none_iff]
        intro k hk
        obtain ⟨i, hi, rfl⟩ := List.mem_map.1 hk
        have hlt := List.mem_range.1 (List.mem_reverse.1 hi)
        exact h _ (by omega)
      rw [List.range_succ, List.reverse_append, List.map_append, List.reverse_singleton,
        List.map_singleton, List.singleton_append, List.findSome?_cons, hrest,
        if_neg (Nat.succ_ne_zero n)]
      cases f (n + 1) <;> rfl

/-- A variable stands behind all blanks. -/
theorem variableSpan?_of_blanks (hname : name ≠ []) (hblank : ¬ StartsBlank name) {count : Nat}
    (hcount : count < (rest.takeWhile isBlankChar).length) :
    variableSpan? name line rest count = none := by
  have hnone : dropLeadingAnyCase? name (rest.drop count) = none := by
    rw [Option.eq_none_iff_forall_ne_some]
    intro text hdrop
    obtain ⟨word, htext, hword⟩ := dropLeadingAnyCase?_eq_some_iff.1 hdrop
    have hsplit : rest.drop count =
        (rest.takeWhile isBlankChar).drop count ++ dropBlanks rest := by
      conv_lhs => rw [← takeWhile_append_dropBlanks rest]
      exact List.drop_append_of_le_length hcount.le
    have hstarts : StartsBlank (rest.drop count) := by
      rw [hsplit, List.drop_eq_getElem_cons hcount, List.cons_append, startsBlank_cons]
      exact allBlank_takeWhile rest _ (List.getElem_mem hcount)
    rw [htext] at hstarts
    exact not_startsBlank_append hblank hname hword text hstarts
  rw [variableSpan?, hnone]
  rfl

theorem allBlank_take {count : Nat} (h : count ≤ (text.takeWhile isBlankChar).length) :
    AllBlank (text.take count) := by
  have htake : text.take count = (text.takeWhile isBlankChar).take count := by
    conv_lhs => rw [← takeWhile_append_dropBlanks text]
    exact List.take_append_of_le_length h
  rw [htake]
  exact fun c hc => allBlank_takeWhile text c (List.mem_of_mem_take hc)

/-- Where a definition is found, the line starts with it, and the name ends where the word ends. -/
theorem isHead_of_defineSpan? (hname : name ≠ []) (h : defineSpan? name line = some (lead, after)) :
    ∃ head rest, IsHead name head ∧ line = head ++ rest ∧ isWordEdge head rest = true ∧
      valueSpan? head rest = some (lead, after) := by
  rw [defineSpan?, Option.bind_eq_bind, Option.bind_eq_some_iff] at h
  obtain ⟨rest, hdrop, h⟩ := h
  obtain ⟨word, hafter, hword⟩ := dropLeadingAnyCase?_eq_some_iff.1 hdrop
  obtain ⟨_, hmem, h⟩ := List.exists_of_findSome?_eq_some h
  obtain ⟨i, hi, rfl⟩ := List.mem_map.1 hmem
  have hcount : i + 1 ≤ (rest.takeWhile isBlankChar).length :=
    List.mem_range.1 (List.mem_reverse.1 hi)
  rw [variableSpan?, Option.bind_eq_bind, Option.bind_eq_some_iff] at h
  obtain ⟨text, hvariable, h⟩ := h
  obtain ⟨found, hbehind, hfound⟩ := dropLeadingAnyCase?_eq_some_iff.1 hvariable
  have hsplit : line = (line.takeWhile isBlankChar ++
      (word ++ (rest.take (i + 1) ++ found))) ++ text := by
    rw [List.append_assoc, List.append_assoc, List.append_assoc, ← hbehind,
      List.take_append_drop, ← hafter, takeWhile_append_dropBlanks]
  have hkept : line.take (line.length - text.length) = line.takeWhile isBlankChar ++
      (word ++ (rest.take (i + 1) ++ found)) := by
    conv_lhs => rw [hsplit]
    exact take_length_sub _ _
  dsimp only at h
  rw [hkept] at h
  have hne : rest.take (i + 1) ≠ [] := by
    rw [Ne, List.take_eq_nil_iff, not_or]
    refine ⟨Nat.succ_ne_zero i, ?_⟩
    rintro rfl
    simp at hcount
  split at h
  · rename_i hedge
    exact ⟨_, text, .definition hname (allBlank_takeWhile _) hword (allBlank_take hcount) hne
      hfound, hsplit, hedge, h⟩
  · cases h

theorem defineSpan?_append (hname : name ≠ []) (hblank : ¬ StartsBlank name)
    (hhead : IsHead name head) (rest : List Char) :
    defineSpan? name (head ++ rest) =
      if isWordEdge head rest then valueSpan? head rest else none := by
  have hdefine : ¬ StartsBlank define ∧ define ≠ [] := ⟨not_startsBlank_define, by decide⟩
  cases hhead with
  | directive => exact absurd rfl hname
  | @definition _ indent word blanks found _ hindent hword hblanks hne hfound =>
      have hfoundStart := not_startsBlank_append hblank hname hfound rest
      have hwordStart := not_startsBlank_append hdefine.1 hdefine.2 hword
        (blanks ++ (found ++ rest))
      have hsplit : indent ++ (word ++ (blanks ++ found)) ++ rest =
          indent ++ (word ++ (blanks ++ (found ++ rest))) := by
        simp only [List.append_assoc]
      have hdrop : dropLeadingAnyCase? define (word ++ (blanks ++ (found ++ rest))) =
          some (blanks ++ (found ++ rest)) := dropLeadingAnyCase?_eq_some_iff.2 ⟨word, rfl, hword⟩
      rw [defineSpan?, hsplit, dropBlanks_append hindent hwordStart, hdrop, ← hsplit]
      dsimp only [Option.bind_eq_bind, Option.bind_some]
      rw [findSome?_counts fun k hk => variableSpan?_of_blanks hname hblank hk,
        takeWhile_append hblanks hfoundStart, if_neg (by simpa using hne), variableSpan?,
        List.drop_left, dropLeadingAnyCase?_eq_some_iff.2 ⟨found, rfl, hfound⟩]
      dsimp only [Option.bind_eq_bind, Option.bind_some]
      rw [take_length_sub]

theorem divides_of_defineSpan? (hname : name ≠ []) (hline : '\n' ∉ line)
    (h : defineSpan? name line = some (lead, after)) :
    after = [] ∧ ∃ value, line = lead ++ value ∧ Divides name lead value := by
  obtain ⟨head, rest, hhead, rfl, hedge, hvalue⟩ := isHead_of_defineSpan? hname h
  rw [valueSpan?_eq fun hmem => hline (List.mem_append_right _ hmem), Option.some.injEq,
    Prod.mk.injEq] at hvalue
  obtain ⟨rfl, rfl⟩ := hvalue
  refine ⟨rfl, dropBlanks rest, ?_, .intro hhead (allBlank_takeWhile _)
    (not_startsBlank_dropBlanks _) fun _ => ?_⟩
  · rw [List.append_assoc, takeWhile_append_dropBlanks]
  · rwa [takeWhile_append_dropBlanks]

/-- A definition is found exactly where the line can be divided behind its variable. -/
theorem defineSpan?_eq_some_iff (hname : name ≠ []) (hblank : ¬ StartsBlank name)
    (hline : '\n' ∉ line) :
    defineSpan? name line = some (lead, after) ↔
      after = [] ∧ ∃ value, line = lead ++ value ∧ Divides name lead value := by
  constructor
  · exact divides_of_defineSpan? hname hline
  · rintro ⟨rfl, value, rfl, hdivides⟩
    cases hdivides with
    | @intro head right _ hhead hright hvalue hedge =>
        have hvalue' : '\n' ∉ right ++ value := fun hmem =>
          hline (by rw [List.append_assoc]; exact List.mem_append_right _ hmem)
        rw [List.append_assoc, defineSpan?_append hname hblank hhead, if_pos (hedge hname),
          valueSpan?_eq hvalue', takeWhile_append hright hvalue]

theorem divides_of_span? {name : String} (hline : '\n' ∉ line)
    (h : span? name line = some (lead, after)) :
    after = [] ∧ ∃ value, line = lead ++ value ∧ Divides name.toList lead value := by
  by_cases hname : name = ""
  · rw [span?, if_pos (by simp [hname])] at h
    rw [hname]
    exact (directiveSpan?_eq_some_iff hline).1 h
  · rw [span?, if_neg (by simpa using hname)] at h
    exact divides_of_defineSpan? (by simpa using hname) hline h

/-- What stands before and after the value of a line is told by the division of the line. -/
theorem span?_eq_some_iff {name : String} (hblank : ∀ c ∈ name.toList, isBlankChar c = false)
    (hline : '\n' ∉ line) :
    span? name line = some (lead, after) ↔
      after = [] ∧ ∃ value, line = lead ++ value ∧ Divides name.toList lead value := by
  by_cases hname : name = ""
  · rw [span?, if_pos (by simp [hname]), hname]
    exact directiveSpan?_eq_some_iff hline
  · rw [span?, if_neg (by simpa using hname)]
    exact defineSpan?_eq_some_iff (by simpa using hname) (not_startsBlank_of_forall hblank) hline

/-! ## One division of a line -/

theorem IsHead.inj (hblank : ¬ StartsBlank name) (h : IsHead name head) (h' : IsHead name other)
    (heq : head ++ text = other ++ rest) : head = other := by
  have hdefine : ¬ StartsBlank define ∧ define ≠ [] := ⟨not_startsBlank_define, by decide⟩
  have hequals : ∀ text, ¬ StartsBlank ('=' :: text) := fun text => by
    rw [startsBlank_cons]
    decide
  cases h with
  | directive hword hblanks =>
      cases h' with
      | definition hname => exact absurd rfl hname
      | directive hword' hblanks' =>
          simp only [List.append_assoc, List.singleton_append] at heq
          obtain ⟨rfl, hbehind⟩ := words_inj hword hword' heq
          rw [(blanks_inj hblanks hblanks' (hequals _) (hequals _) hbehind).1]
  | definition hname hindent hword hblanks _ hfound =>
      cases h' with
      | directive => exact absurd rfl hname
      | definition _ hindent' hword' hblanks' _ hfound' =>
          simp only [List.append_assoc] at heq
          obtain ⟨rfl, hinside⟩ := blanks_inj hindent hindent'
            (not_startsBlank_append hdefine.1 hdefine.2 hword _)
            (not_startsBlank_append hdefine.1 hdefine.2 hword' _) heq
          obtain ⟨rfl, hbehind⟩ := words_inj hword hword' hinside
          obtain ⟨rfl, hvariable⟩ := blanks_inj hblanks hblanks'
            (not_startsBlank_append hblank hname hfound _)
            (not_startsBlank_append hblank hname hfound' _) hbehind
          rw [(words_inj hfound hfound' hvariable).1]

theorem Divides.lead_eq {other : List Char} (hblank : ¬ StartsBlank name)
    (h : Divides name lead value) {quote : List Char} (hquote : ¬ StartsBlank quote)
    (h' : Divides name other rest) (heq : lead ++ quote = other ++ rest) : lead = other := by
  cases h with
  | intro hhead hright _ _ =>
      cases h' with
      | intro hhead' hright' hrest _ =>
          rw [List.append_assoc, List.append_assoc] at heq
          obtain rfl := hhead.inj hblank hhead' heq
          rw [(blanks_inj hright hright' hquote hrest (List.append_cancel_left heq)).1]

/-! ## Stamping -/

section Stamping

variable {name version line : String}

theorem stampLine_of_divides (hblank : ∀ c ∈ name.toList, isBlankChar c = false)
    (hline : '\n' ∉ line.toList) (hsplit : line.toList = lead ++ value)
    (h : Divides name.toList lead value) :
    stampLine name version line = String.ofList (lead ++ quoted version) := by
  have hspan := (span?_eq_some_iff hblank hline).2 ⟨rfl, value, hsplit, h⟩
  rw [stampLine, hspan]
  simp [quoted]

theorem stampLine_of_not_divides (hblank : ∀ c ∈ name.toList, isBlankChar c = false)
    (hline : '\n' ∉ line.toList)
    (h : ∀ lead value, line.toList = lead ++ value → ¬ Divides name.toList lead value) :
    stampLine name version line = line := by
  have hspan : span? name line.toList = none := by
    rw [Option.eq_none_iff_forall_ne_some]
    rintro ⟨lead, after⟩ hsome
    obtain ⟨-, value, hsplit, hdivides⟩ := (span?_eq_some_iff hblank hline).1 hsome
    exact h lead value hsplit hdivides
  rw [stampLine, hspan]

/-- A line that takes the version gets it behind what is kept, and any other line stays. -/
theorem stampLine_cases (hblank : ∀ c ∈ name.toList, isBlankChar c = false)
    (hline : '\n' ∉ line.toList) (version : String) :
    (∃ lead value, line.toList = lead ++ value ∧ Divides name.toList lead value ∧
      stampLine name version line = String.ofList (lead ++ quoted version)) ∨
    ((∀ lead value, line.toList = lead ++ value → ¬ Divides name.toList lead value) ∧
      stampLine name version line = line) := by
  by_cases h : ∃ lead value, line.toList = lead ++ value ∧ Divides name.toList lead value
  · obtain ⟨lead, value, hsplit, hdivides⟩ := h
    exact Or.inl ⟨lead, value, hsplit, hdivides,
      stampLine_of_divides hblank hline hsplit hdivides⟩
  · have hnone : ∀ lead value, line.toList = lead ++ value →
        ¬ Divides name.toList lead value :=
      fun lead value hsplit hdivides => h ⟨lead, value, hsplit, hdivides⟩
    exact Or.inr ⟨hnone, stampLine_of_not_divides hblank hline hnone⟩

theorem stampLine_stampLine (hblank : ∀ c ∈ name.toList, isBlankChar c = false)
    (hline : '\n' ∉ line.toList) (hversion : '\n' ∉ version.toList) :
    stampLine name version (stampLine name version line) = stampLine name version line := by
  rcases stampLine_cases hblank hline version with
    ⟨lead, value, hsplit, hdivides, hstamped⟩ | ⟨-, hsame⟩
  · have hlead : '\n' ∉ lead := fun hmem => hline (by simp [hsplit, hmem])
    have hnew : '\n' ∉ (String.ofList (lead ++ quoted version)).toList := by
      simp [quoted, hlead, hversion]
    rw [hstamped]
    rcases stampLine_cases hblank hnew version with
      ⟨other, rest, hagain, hother, hstamped'⟩ | ⟨-, hsame⟩
    · rw [String.toList_ofList] at hagain
      have hlead := hdivides.lead_eq (not_startsBlank_of_forall hblank)
        (not_startsBlank_quoted version) hother hagain
      rw [hstamped', hlead]
    · exact hsame
  · rw [hsame, hsame]

end Stamping

/-! ## Documents -/

/-- Changes are counted by their positions. -/
theorem length_filter_zip {old new : List String} (h : old.length = new.length) :
    ((old.zip new).filter fun (before, after) => before != after).length =
      (List.range old.length).countP fun i => old[i]? != new[i]? := by
  rw [← List.countP_eq_length_filter]
  induction old generalizing new with
  | nil => rfl
  | cons line old ih =>
      cases new with
      | nil => cases h
      | cons other new =>
          rw [List.zip_cons_cons, List.countP_cons, ih (Nat.succ.inj h), List.length_cons,
            List.range_succ_eq_map, List.countP_cons, List.countP_map]
          rfl

section Documents

variable {name version : String} {lines : List String}

/-- For a name without blanks, an empty one for the directive, and lines without line feeds: no line
comes or goes, the changes are as many as is told, each line that can be divided gets the version
behind what is kept, all others stay, and stamping again tells of no change and makes none. -/
theorem stamp_local_and_stable (hblank : ∀ c ∈ name.toList, isBlankChar c = false)
    (hlines : ∀ line ∈ lines, '\n' ∉ line.toList) (hversion : '\n' ∉ version.toList) :
    let stamped := (stamp name version lines).1
    stamped.length = lines.length ∧
      (stamp name version lines).2 =
        (List.range lines.length).countP (fun i => lines[i]? != stamped[i]?) ∧
      (∀ (i : Nat) (old : String), lines[i]? = some old → ∃ new : String,
        stamped[i]? = some new ∧
        ((∃ lead value, old.toList = lead ++ value ∧ Divides name.toList lead value ∧
            new.toList = lead ++ quoted version) ∨
          ((∀ lead value, old.toList = lead ++ value → ¬ Divides name.toList lead value) ∧
            new = old))) ∧
      stamp name version stamped = (stamped, 0) := by
  intro stamped
  have hlength : lines.length = stamped.length := (length_stamp name version lines).symm
  refine ⟨hlength.symm, length_filter_zip hlength, ?_, ?_⟩
  · intro i old hold
    have hline := hlines old (List.mem_of_getElem? hold)
    refine ⟨stampLine name version old, by simp [stamped, stamp, hold], ?_⟩
    rcases stampLine_cases hblank hline version with
      ⟨lead, value, hsplit, hdivides, hnew⟩ | ⟨hnone, hsame⟩
    · exact Or.inl ⟨lead, value, hsplit, hdivides, by rw [hnew, String.toList_ofList]⟩
    · exact Or.inr ⟨hnone, hsame⟩
  · have hagain : stamped.map (stampLine name version) = stamped := by
      refine (List.map_congr_left fun line hline => ?_).trans (List.map_id stamped)
      obtain ⟨old, hold, rfl⟩ := List.mem_map.1 hline
      exact stampLine_stampLine hblank (hlines old hold) hversion
    have hstamp : (stamp name version stamped).1 = stamped := hagain
    refine Prod.ext hstamp ?_
    have hcount : (stamp name version stamped).2 = ((stamped.zip stamped).filter
        fun (before, after) => before != after).length := by
      rw [stamp, hagain]
    rw [hcount, length_filter_zip rfl, List.countP_eq_zero]
    simp

/-- A definition in capitals with blanks of its own, a longer name, and the directive. -/
theorem stamp_local_and_stable_capitals :
    let lines :=
      ["\t#DEFINE  myappversion  1.0 ; old", "#define MyAppVersionLong 1", "AppVersion=1"]
    let stamped :=
      ["\t#DEFINE  myappversion  \"2.0\"", "#define MyAppVersionLong 1", "AppVersion=1"]
    (∀ c ∈ "MyAppVersion".toList, isBlankChar c = false) ∧
      (∀ line ∈ lines, '\n' ∉ line.toList) ∧ '\n' ∉ "2.0".toList ∧
      stamp "MyAppVersion" "2.0" lines = (stamped, 1) ∧
      stamp "MyAppVersion" "2.0" stamped = (stamped, 0) := by
  intro lines stamped
  have hall : "MyAppVersion".toList.all (fun c => !isBlankChar c) = true := by decide
  have hblank : ∀ c ∈ "MyAppVersion".toList, isBlankChar c = false := fun c hc => by
    simpa using List.all_eq_true.1 hall c hc
  have hlines : ∀ line ∈ lines, '\n' ∉ line.toList := by decide
  have hversion : '\n' ∉ "2.0".toList := by decide
  have hstamp : stamp "MyAppVersion" "2.0" lines = (stamped, 1) := by decide +kernel
  obtain ⟨-, -, -, hagain⟩ := stamp_local_and_stable hblank hlines hversion
  rw [hstamp] at hagain
  exact ⟨hblank, hlines, hversion, hstamp, hagain⟩

end Documents

end SetupForge.ScriptVersion

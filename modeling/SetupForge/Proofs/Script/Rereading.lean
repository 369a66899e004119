import SetupForge.Proofs.Script.Reloading
import SetupForge.Proofs.Script.Saving
import SetupForge.Proofs.Script.SectionBody

/-! # Scripts read back

What is read after a script was written: characters that its encoding lacks have become question
marks, line breaks inside of a line divide it, and an empty last line is gone. Lines that were read
from a file hold no other characters than those of the encoding and the replacement character, so
their headers are headers again.
-/

namespace SetupForge

open Text

/-! ## Lines of a text -/

namespace Text

theorem mem_of_mem_splitLineEnds {text line : List Char} {c : Char}
    (hline : line ∈ splitLineEnds text) (hc : c ∈ line) : c ∈ text := by
  fun_induction splitLineEnds text generalizing line with
  | case1 =>
      rw [List.mem_singleton] at hline
      rw [hline] at hc
      cases hc
  | case2 text ih =>
      rcases List.mem_cons.1 hline with rfl | hline
      · cases hc
      · exact List.mem_cons_of_mem _ (List.mem_cons_of_mem _ (ih hline hc))
  | case3 text _ ih =>
      rcases List.mem_cons.1 hline with rfl | hline
      · cases hc
      · exact List.mem_cons_of_mem _ (ih hline hc)
  | case4 text ih =>
      rcases List.mem_cons.1 hline with rfl | hline
      · cases hc
      · exact List.mem_cons_of_mem _ (ih hline hc)
  | case5 first text _ _ _ ih =>
      obtain ⟨line', lines, hlines⟩ := List.exists_cons_of_ne_nil (splitLineEnds_ne_nil text)
      rw [hlines, consFirst] at hline
      rw [hlines] at ih
      rcases List.mem_cons.1 hline with rfl | hline
      · rcases List.mem_cons.1 hc with rfl | hc
        · exact List.mem_cons_self
        · exact List.mem_cons_of_mem _ (ih List.mem_cons_self hc)
      · exact List.mem_cons_of_mem _ (ih (List.mem_cons_of_mem _ hline) hc)

theorem mem_of_mem_dropEmptyLast {line : List Char} {lines : List (List Char)}
    (h : line ∈ dropEmptyLast lines) : line ∈ lines := by
  rcases dropEmptyLast_cases lines with hsame | hlast
  · rwa [hsame] at h
  · rw [hlast]
    exact List.mem_append_left _ h

theorem head?_of_splitLineEnds {text line : List Char} {lines : List (List Char)} {c : Char}
    (h : splitLineEnds text = (c :: line) :: lines) : text.head? = some c := by
  rw [splitLineEnds.eq_def] at h
  split at h
  · cases h
  · cases h
  · cases h
  · cases h
  · rename_i first text _ _ _
    obtain ⟨line', lines', hlines⟩ := List.exists_cons_of_ne_nil (splitLineEnds_ne_nil text)
    rw [hlines, consFirst, List.cons.injEq, List.cons.injEq] at h
    rw [List.head?_cons, h.1.1]

theorem splitLineEnds_joinLines_append {front back : List (List Char)}
    (h : ∀ line ∈ front, isUnbroken line = true) (hback : back ≠ []) :
    splitLineEnds (joinLines (front ++ back)) = front ++ splitLineEnds (joinLines back) := by
  induction front with
  | nil => rfl
  | cons line front ih =>
      obtain ⟨hline, hfront⟩ := List.forall_mem_cons.1 h
      obtain ⟨next, rest, hnext⟩ := List.exists_cons_of_ne_nil
        (List.append_ne_nil_of_right_ne_nil front hback)
      rw [List.cons_append, List.cons_append, ← ih hfront, hnext, joinLines_cons,
        splitLineEnds_append hline]

theorem joinLines_map {f : Char → Char} (hr : f '\r' = '\r') (hn : f '\n' = '\n')
    (lines : List (List Char)) : joinLines (lines.map (List.map f)) = (joinLines lines).map f := by
  induction lines with
  | nil => rfl
  | cons line lines ih =>
      cases lines with
      | nil => rfl
      | cons next lines =>
          rw [List.map_cons, List.map_cons, joinLines_cons, ← List.map_cons, ih, joinLines_cons]
          simp [hr, hn]

theorem dropEmptyLast_append (front : List (List Char)) {back : List (List Char)}
    (h : back ≠ []) : dropEmptyLast (front ++ back) = front ++ dropEmptyLast back := by
  induction front with
  | nil => rfl
  | cons line front ih =>
      obtain ⟨next, rest, hnext⟩ := List.exists_cons_of_ne_nil
        (List.append_ne_nil_of_right_ne_nil front h)
      rw [List.cons_append, List.cons_append, ← ih, hnext]
      rfl

theorem dropEmptyLast_cons {line : List Char} (h : line ≠ []) (lines : List (List Char)) :
    dropEmptyLast (line :: lines) = line :: dropEmptyLast lines := by
  cases lines with
  | nil => simp [dropEmptyLast, h]
  | cons next lines => rfl

end Text

/-! ## Characters that an encoding lacks -/

theorem Windows1252.decodeByte_cases (b : UInt8) :
    (encodeChar? (decodeByte b)).isSome ∨ decodeByte b = Utf8.replacement := by
  by_cases hb : b ∈ undefinedBytes
  · have hall : ∀ b ∈ undefinedBytes, decodeByte b = Utf8.replacement := by decide +kernel
    exact Or.inr (hall b hb)
  · rw [encodeChar?_decodeByte hb]
    exact Or.inl rfl

theorem Utf8.dropMark_encode {text : List Char} (h : text.head? ≠ some '\ufeff') :
    dropMark (encode text) = (false, encode text) := by
  rw [dropMark, if_neg]
  intro hmark
  obtain ⟨rest, hrest⟩ := List.isPrefixOf_iff_prefix.1 hmark
  cases text with
  | nil => cases hrest
  | cons c text =>
      have hcode : encodeChar '\ufeff' = mark := by decide
      have hfirst := next?_encodeChar '\ufeff' rest
      rw [hcode, hrest, encode_cons, next?_encodeChar, Option.some.injEq, Prod.mk.injEq] at hfirst
      exact h (by rw [List.head?_cons, hfirst.1])

namespace Encoding

variable {encoding : Encoding} {c : Char} {line : String}

/-- The character that is read where a character was written. -/
def written (encoding : Encoding) (c : Char) : Char := if encoding.has c then c else '?'

theorem has_question (encoding : Encoding) : encoding.has '?' = true := by
  cases encoding <;> decide

theorem has_written (encoding : Encoding) (c : Char) :
    encoding.has (encoding.written c) = true := by
  unfold written
  split
  · assumption
  · exact has_question encoding

theorem written_of_has (h : encoding.has c = true) : encoding.written c = c := if_pos h

theorem written_of_not_has (h : ¬ encoding.has c = true) : encoding.written c = '?' := if_neg h

theorem map_written_utf8 (text : List Char) : text.map Encoding.utf8.written = text :=
  List.map_id'' (fun _ => rfl) text

theorem map_written_utf8Marked (text : List Char) :
    text.map Encoding.utf8Marked.written = text :=
  List.map_id'' (fun _ => rfl) text

theorem decode_encode_windows1252 (text : List Char) :
    Windows1252.decode (Windows1252.encode text) = text.map Encoding.windows1252.written := by
  induction text with
  | nil => rfl
  | cons c text ih =>
      rw [List.map_cons, ← ih]
      cases hc : Windows1252.encodeChar? c with
      | none =>
          have hread : Windows1252.decodeByte 63 = '?' := by decide
          rw [written_of_not_has (by simp [has, hc])]
          simp [Windows1252.encode, Windows1252.decode, hc, hread]
      | some b =>
          rw [written_of_has (by simp [has, hc])]
          simp [Windows1252.encode, Windows1252.decode, hc,
            Windows1252.decodeByte_of_encodeChar? hc]

/-- The line that is read where a line without line breaks was written. -/
def reread (encoding : Encoding) (line : String) : String :=
  String.ofList (line.toList.map encoding.written)

theorem reread_of_has (h : ∀ c ∈ line.toList, encoding.has c = true) :
    encoding.reread line = line := by
  rw [reread, List.map_congr_left fun c hc => written_of_has (h c hc), List.map_id',
    String.ofList_toList]

theorem isUnbroken_reread (h : isUnbroken line.toList = true) :
    isUnbroken (encoding.reread line).toList = true := by
  rw [reread, String.toList_ofList, isUnbroken, List.all_map]
  refine List.all_eq_true.2 fun c hc => ?_
  have hplain := List.all_eq_true.1 h c hc
  rw [Function.comp_apply, written]
  split
  · exact hplain
  · rfl

/-- Whether a line has no line break and no characters but those of an encoding and the replacement
character, like the lines that are read from a file. -/
def Gives (encoding : Encoding) (line : String) : Prop :=
  isUnbroken line.toList = true ∧
    ∀ c ∈ line.toList, encoding.has c = true ∨ c = Utf8.replacement

theorem isBlankChar_written (h : encoding.has c = true ∨ c = Utf8.replacement) :
    isBlankChar (encoding.written c) = isBlankChar c := by
  by_cases hc : encoding.has c = true
  · rw [written_of_has hc]
  · rw [written_of_not_has hc, h.resolve_left hc]
    decide

theorem written_eq_iff {bracket : Char} (hb : isBracket bracket = true)
    (h : encoding.has c = true ∨ c = Utf8.replacement) :
    encoding.written c = bracket ↔ c = bracket := by
  by_cases hc : encoding.has c = true
  · rw [written_of_has hc]
  · rw [written_of_not_has hc, h.resolve_left hc]
    refine iff_of_false ?_ ?_ <;> rintro rfl <;> simp [Utf8.replacement, isBracket] at hb

end Encoding

/-! ## Headers that are read back -/

namespace Text

theorem mem_lowerFrom {c : Char} (hself : lowerLetter c = c) (hsigma : c ≠ 'Σ') (hdotted : c ≠ 'İ')
    {text : List Char} (hc : c ∈ text) (afterCased : Bool) : c ∈ lowerFrom afterCased text := by
  induction text generalizing afterCased with
  | nil => cases hc
  | cons d text ih =>
      rw [lowerFrom]
      rcases List.mem_cons.1 hc with rfl | hc
      · rw [if_neg hsigma, if_neg hdotted, hself]
        exact List.mem_cons_self
      · split
        · exact List.mem_cons_of_mem _ (ih hc _)
        · split
          · exact List.mem_cons_of_mem _ (List.mem_cons_of_mem _ (ih hc _))
          · exact List.mem_cons_of_mem _ (ih hc _)

theorem mem_dropBlanks {c : Char} (hc : isBlankChar c = false) {text : List Char}
    (h : c ∈ text) : c ∈ dropBlanks text := by
  induction text with
  | nil => cases h
  | cons d text ih =>
      rw [dropBlanks_cons]
      split
      · rename_i hd
        rcases List.mem_cons.1 h with rfl | h
        · rw [hc] at hd
          cases hd
        · exact ih h
      · exact h

theorem mem_trimChars {c : Char} (hc : isBlankChar c = false) {text : List Char}
    (h : c ∈ text) : c ∈ trimChars text :=
  List.mem_reverse.2 (mem_dropBlanks hc (List.mem_reverse.2 (mem_dropBlanks hc h)))

theorem dropBlanks_map {f : Char → Char} {text : List Char}
    (h : ∀ c ∈ text, isBlankChar (f c) = isBlankChar c) :
    dropBlanks (text.map f) = (dropBlanks text).map f := by
  induction text with
  | nil => rfl
  | cons c text ih =>
      obtain ⟨hc, htext⟩ := List.forall_mem_cons.1 h
      rw [List.map_cons, dropBlanks_cons, dropBlanks_cons, hc]
      split
      · exact ih htext
      · rfl

theorem trimChars_map {f : Char → Char} {text : List Char}
    (h : ∀ c ∈ text, isBlankChar (f c) = isBlankChar c) :
    trimChars (text.map f) = (trimChars text).map f := by
  have hfront : ∀ c ∈ (dropBlanks text).reverse, isBlankChar (f c) = isBlankChar c :=
    fun c hc => h c ((List.dropWhile_sublist _).subset (List.mem_reverse.1 hc))
  rw [trimChars, dropBlanks_map h, dropTrailingBlanks, ← List.map_reverse, dropBlanks_map hfront,
    ← List.map_reverse]
  rfl

end Text

namespace Section

variable {encoding : Encoding} {line name : String}

theorem opensHeader_cons_iff {text : List Char} :
    opensHeader ('[' :: text) = true ↔ text.head? ≠ some ']' ∧ ']' ∈ text := by
  refine ⟨fun h => ?_, fun h => opensHeader_of_mem h.1 h.2⟩
  rw [opensHeader, Bool.and_eq_true_iff] at h
  obtain ⟨hinner, hclose⟩ := h
  constructor
  · intro hhead
    obtain ⟨rest, rfl⟩ := List.head?_eq_some_iff.1 hhead
    simp at hinner
  · have hhead : (text.dropWhile (· ≠ ']')).head? = some ']' := beq_iff_eq.1 hclose
    exact (List.dropWhile_sublist _).subset (List.mem_of_head? hhead)

/-- A map that keeps brackets apart from all other characters keeps headers. -/
theorem opensHeader_map {f : Char → Char} {text : List Char}
    (hf : ∀ c ∈ text, ∀ bracket, isBracket bracket = true → (f c = bracket ↔ c = bracket))
    (h : opensHeader text = true) : opensHeader (text.map f) = true := by
  have hopens := h
  unfold opensHeader at hopens
  split at hopens
  · rename_i rest
    obtain ⟨hopen, hrest⟩ := List.forall_mem_cons.1 hf
    obtain ⟨hfirst, hclose⟩ := opensHeader_cons_iff.1 h
    rw [List.map_cons, (hopen '[' rfl).2 rfl, opensHeader_cons_iff]
    refine ⟨?_, List.mem_map.2 ⟨']', hclose, (hrest _ hclose _ rfl).2 rfl⟩⟩
    cases rest with
    | nil => simp
    | cons c rest =>
        rw [List.map_cons, List.head?_cons, ne_eq, Option.some.injEq, hrest c List.mem_cons_self _ rfl]
        simpa using hfirst
  · cases hopens

theorem isHeader_reread (hline : encoding.Gives line) (h : isHeader line = true) :
    isHeader (encoding.reread line) = true := by
  have hblank : ∀ c ∈ line.toList, isBlankChar (encoding.written c) = isBlankChar c :=
    fun c hc => Encoding.isBlankChar_written (hline.2 c hc)
  rw [isHeader, Encoding.reread, String.toList_ofList, trimChars_map hblank]
  exact opensHeader_map (fun c hc bracket hb =>
    Encoding.written_eq_iff hb (hline.2 c (mem_of_mem_trimChars hc))) h

/-- A header of a name holds no other characters than blanks, brackets and those of the name. -/
theorem not_mem_of_isHeaderFor {c : Char} (hself : lowerLetter c = c) (hsigma : c ≠ 'Σ')
    (hdotted : c ≠ 'İ') (hblank : isBlankChar c = false) (hbracket : isBracket c = false)
    (hname : c ∉ lowerChars (trim name).toList) (h : isHeaderFor name line = true) :
    c ∉ line.toList := by
  intro hc
  have hlower : c ∈ lowerChars (trimChars line.toList) :=
    mem_lowerFrom hself hsigma hdotted (mem_trimChars hblank hc) false
  rw [lowerChars_of_isHeaderFor h, List.mem_cons, List.mem_append, List.mem_singleton] at hlower
  rcases hlower with rfl | hlower | rfl
  · cases hbracket
  · exact hname hlower
  · cases hbracket

theorem isHeaderFor_reread (hquestion : '?' ∉ lowerChars (trim name).toList)
    (hreplacement : Utf8.replacement ∉ lowerChars (trim name).toList)
    (hline : encoding.Gives line) :
    isHeaderFor name (encoding.reread line) = isHeaderFor name line := by
  by_cases hhas : ∀ c ∈ line.toList, encoding.has c = true
  · rw [Encoding.reread_of_has hhas]
  · obtain ⟨c, hc, hlacks⟩ : ∃ c ∈ line.toList, ¬ encoding.has c = true := by simpa using hhas
    obtain rfl : c = Utf8.replacement := (hline.2 c hc).resolve_left hlacks
    have hread : '?' ∈ (encoding.reread line).toList := by
      rw [Encoding.reread, String.toList_ofList]
      exact List.mem_map.2 ⟨_, hc, Encoding.written_of_not_has hlacks⟩
    have hold : isHeaderFor name line = false := by
      by_contra h
      exact not_mem_of_isHeaderFor (by decide +kernel) (by decide) (by decide) (by decide)
        (by decide) hreplacement (by simpa using h) hc
    have hnew : isHeaderFor name (encoding.reread line) = false := by
      by_contra h
      exact not_mem_of_isHeaderFor (by decide +kernel) (by decide) (by decide) (by decide)
        (by decide) hquestion (by simpa using h) hread
    rw [hold, hnew]

end Section

/-! ## Scripts that are read back -/

namespace Script

variable {bytes : Bytes} {script : Script} {lines : List String} {line : String}

def withoutEmptyLast (lines : List String) : List String :=
  (dropEmptyLast (lines.map String.toList)).map String.ofList

theorem withoutEmptyLast_append (front : List String) {back : List String} (h : back ≠ []) :
    withoutEmptyLast (front ++ back) = front ++ withoutEmptyLast back := by
  rw [withoutEmptyLast, List.map_append, dropEmptyLast_append _ (by simpa using h),
    List.map_append, List.map_map]
  simp [withoutEmptyLast]

theorem withoutEmptyLast_cons (h : line ≠ "") (lines : List String) :
    withoutEmptyLast (line :: lines) = line :: withoutEmptyLast lines := by
  have hne : line.toList ≠ [] := by simpa using h
  rw [withoutEmptyLast, List.map_cons, dropEmptyLast_cons hne, List.map_cons, String.ofList_toList]
  rfl

/-- Whether the bytes of a script are read in its encoding. Only bytes that are written in
Windows-1252 may be taken for another one. -/
def IsReadBack (script : Script) : Prop :=
  script.encoding = .windows1252 →
    (ofBytes script.toBytes).lines = (ofText (Windows1252.decode script.toBytes)).lines

/-- The text that is read has the characters that were written. -/
theorem lines_ofBytes_toBytes (hread : script.IsReadBack)
    (hmark : script.encoding = .utf8 → script.toText.head? ≠ some '\ufeff') :
    (ofBytes script.toBytes).lines =
      (scriptLines (script.toText.map script.encoding.written)).map String.ofList := by
  cases hencoding : script.encoding with
  | utf8 =>
      have hbytes : script.toBytes = Utf8.encode script.toText := by
        rw [toBytes, hencoding]
        rfl
      rw [ofBytes, hbytes, Utf8.dropMark_encode (hmark hencoding)]
      dsimp only
      rw [Utf8.decode?_encode, Encoding.map_written_utf8]
      rfl
  | utf8Marked =>
      have hbytes : script.toBytes = Utf8.mark ++ Utf8.encode script.toText := by
        rw [toBytes, hencoding]
        rfl
      have hdrop : Utf8.dropMark script.toBytes = (true, Utf8.encode script.toText) := by
        rw [hbytes, Utf8.dropMark, if_pos (by simp), List.drop_left]
      rw [ofBytes, hdrop]
      dsimp only
      rw [Utf8.decode?_encode, Encoding.map_written_utf8Marked]
      rfl
  | windows1252 =>
      have hbytes : script.toBytes = Windows1252.encode script.toText := by
        rw [toBytes, hencoding]
        rfl
      rw [hread hencoding, hbytes, Encoding.decode_encode_windows1252]
      rfl

theorem gives_of_mem_lines (h : line ∈ (ofBytes bytes).lines) :
    (ofBytes bytes).encoding.Gives line := by
  have hgives : ∀ text encoding, line ∈ (ofText text encoding).lines →
      (∀ c ∈ text, encoding.has c = true ∨ c = Utf8.replacement) → encoding.Gives line := by
    intro text encoding hline htext
    obtain ⟨piece, hpiece, rfl⟩ := List.mem_map.1 hline
    have hsplit := mem_of_mem_dropEmptyLast hpiece
    rw [Encoding.Gives, String.toList_ofList]
    exact ⟨isUnbroken_of_mem_splitLineEnds hsplit,
      fun c hc => htext c (mem_of_mem_splitLineEnds hsplit hc)⟩
  unfold ofBytes at h ⊢
  generalize Utf8.dropMark bytes = split at *
  obtain ⟨marked, body⟩ := split
  dsimp only at h ⊢
  cases hread : Utf8.decode? body with
  | some text =>
      simp only [hread] at h ⊢
      refine hgives text _ h fun c _ => Or.inl ?_
      cases marked <;> rfl
  | none =>
      simp only [hread] at h ⊢
      refine hgives _ .windows1252 h fun c hc => ?_
      obtain ⟨b, -, rfl⟩ := List.mem_map.1 hc
      exact Windows1252.decodeByte_cases b

theorem head?_of_lines {text : List Char} {encoding : Encoding} {c : Char}
    (h : (ofText text encoding).lines.head? = some line) (hc : line.toList.head? = some c) :
    text.head? = some c := by
  obtain ⟨lines, hlines⟩ := List.head?_eq_some_iff.1 h
  obtain ⟨piece, pieces, hpieces, rfl, -⟩ := List.map_eq_cons_iff.1 hlines
  rw [String.toList_ofList] at hc
  obtain ⟨letters, rfl⟩ := List.head?_eq_some_iff.1 hc
  rcases dropEmptyLast_cases (splitLineEnds text) with hsame | hlast
  · exact head?_of_splitLineEnds (hsame.symm.trans hpieces)
  · rw [scriptLines] at hpieces
    rw [hpieces, List.cons_append] at hlast
    exact head?_of_splitLineEnds hlast

theorem head?_ne_mark (hencoding : (ofBytes bytes).encoding = .utf8)
    (h : (ofBytes bytes).lines.head? = some line) : line.toList.head? ≠ some '\ufeff' := by
  intro hhead
  unfold ofBytes at hencoding h
  have hsplit := Utf8.dropMark_eq bytes
  cases hdrop : Utf8.dropMark bytes with
  | mk marked body =>
  rw [hdrop] at hencoding h hsplit
  dsimp only at hencoding h hsplit
  cases hread : Utf8.decode? body with
  | none =>
      simp only [hread] at hencoding
      cases hencoding
  | some text =>
      simp only [hread] at hencoding h
      cases marked with
      | true => cases hencoding
      | false =>
          obtain ⟨rest, htext⟩ := List.head?_eq_some_iff.1 (head?_of_lines h hhead)
          have hbody := Utf8.decode?_eq_some_iff.1 hread
          have hcode : Utf8.encodeChar '\ufeff' = Utf8.mark := by decide
          rw [htext, Utf8.encode_cons, hcode] at hbody
          rw [if_neg (by simp), ← hbody] at hsplit
          rw [hsplit, Utf8.dropMark, if_pos (by simp)] at hdrop
          cases hdrop

theorem head?_joinLines {c : Char} (hc : c ≠ '\r')
    (h : (joinLines (lines.map String.toList)).head? = some c) :
    ∃ line, lines.head? = some line ∧ line.toList.head? = some c := by
  cases lines with
  | nil => cases h
  | cons line lines =>
      refine ⟨line, rfl, ?_⟩
      cases lines with
      | nil => exact h
      | cons next lines =>
          rw [List.map_cons, List.map_cons, joinLines_cons, List.head?_append] at h
          cases hline : line.toList.head? with
          | some d => rwa [hline] at h
          | none =>
              rw [hline] at h
              exact absurd (Option.some.inj h) hc.symm

/-- A script that was read and starts with the same line is read back with the characters that were
written. -/
theorem lines_reread (hfirst : lines.head? = (ofBytes bytes).lines.head?)
    (hread : IsReadBack { ofBytes bytes with lines }) :
    (ofBytes (toBytes { ofBytes bytes with lines })).lines =
      (scriptLines ((joinLines (lines.map String.toList)).map
        (ofBytes bytes).encoding.written)).map String.ofList := by
  refine lines_ofBytes_toBytes hread fun hencoding hmark => ?_
  obtain ⟨line, hline, hhead⟩ := head?_joinLines (by decide) hmark
  exact head?_ne_mark hencoding (hfirst.symm.trans hline) hhead

theorem joinLines_written (encoding : Encoding) (lines : List String) :
    (joinLines (lines.map String.toList)).map encoding.written =
      joinLines ((lines.map encoding.reread).map String.toList) := by
  have hr : encoding.written '\r' = '\r' := by cases encoding <;> decide
  have hn : encoding.written '\n' = '\n' := by cases encoding <;> decide
  rw [← joinLines_map hr hn]
  simp [Encoding.reread, Function.comp_def]

theorem isUnbroken_of_mem_reread {encoding : Encoding}
    (h : ∀ line ∈ lines, isUnbroken line.toList = true) :
    ∀ piece ∈ (lines.map encoding.reread).map String.toList, isUnbroken piece = true := by
  intro piece hpiece
  rw [List.map_map, List.mem_map] at hpiece
  obtain ⟨line, hline, rfl⟩ := hpiece
  exact Encoding.isUnbroken_reread (h line hline)

theorem scriptLines_written (encoding : Encoding)
    (h : ∀ line ∈ lines, isUnbroken line.toList = true) :
    (scriptLines ((joinLines (lines.map String.toList)).map encoding.written)).map String.ofList =
      withoutEmptyLast (lines.map encoding.reread) := by
  rw [joinLines_written, scriptLines_joinLines (isUnbroken_of_mem_reread h)]
  rfl

theorem mem_scriptLines_written {encoding : Encoding} {front back : List String}
    (h : ∀ line ∈ front, isUnbroken line.toList = true) (hback : back ≠ []) (hline : line ∈ front) :
    encoding.reread line ∈
      (scriptLines ((joinLines ((front ++ back).map String.toList)).map encoding.written)).map
        String.ofList := by
  rw [joinLines_written, List.map_append, List.map_append, scriptLines,
    splitLineEnds_joinLines_append (isUnbroken_of_mem_reread h) (by simpa using hback),
    dropEmptyLast_append _ (splitLineEnds_ne_nil _), List.map_append]
  refine List.mem_append_left _ ?_
  simpa [Function.comp_def] using List.mem_map_of_mem hline

theorem keeps_of_mem_scriptLines {encoding : Encoding} {text : List Char}
    (h : line ∈ (scriptLines (text.map encoding.written)).map String.ofList) :
    encoding.keeps line = true := by
  obtain ⟨piece, hpiece, rfl⟩ := List.mem_map.1 h
  have hsplit := mem_of_mem_dropEmptyLast hpiece
  rw [Encoding.keeps, String.toList_ofList, Bool.and_eq_true_iff, List.all_eq_true]
  refine ⟨isUnbroken_of_mem_splitLineEnds hsplit, fun c hc => ?_⟩
  obtain ⟨d, -, rfl⟩ := List.mem_map.1 (mem_of_mem_splitLineEnds hsplit hc)
  exact Encoding.has_written encoding d

end Script

end SetupForge

import SetupForge.Proofs.Script.Rereading
import SetupForge.Proofs.Text.LineFeeds

/-! # Lines that read the same in every encoding

A script in Windows-1252 may be taken for UTF-8 when it is read again, if its other bytes happen to
be those of longer characters. A line without bytes that start a longer character comes back even
then: the CRLF in front of it, or the start of the text, ends all characters of the line above.
-/

namespace SetupForge

open Text

namespace Text

/-- Whether a part stands between two breaks, each of two letters, or between one and an end. -/
def IsLineOf {α : Type} (first second : α) (part whole : List α) : Prop :=
  ∃ front back, whole = front ++ (part ++ back) ∧
    (front = [] ∨ ∃ above, front = above ++ [first, second]) ∧
    (back = [] ∨ ∃ below, back = first :: second :: below)

section Parts

variable {α β : Type} {first second : α} {part whole mark : List α}

theorem IsLineOf.map (h : IsLineOf first second part whole) (f : α → β) :
    IsLineOf (f first) (f second) (part.map f) (whole.map f) := by
  obtain ⟨front, back, rfl, hfront, hback⟩ := h
  refine ⟨front.map f, back.map f, by simp, ?_, ?_⟩
  · rcases hfront with rfl | ⟨above, rfl⟩
    · exact Or.inl rfl
    · exact Or.inr ⟨above.map f, by simp⟩
  · rcases hback with rfl | ⟨below, rfl⟩
    · exact Or.inl rfl
    · exact Or.inr ⟨below.map f, by simp⟩

/-- A mark in front of the whole belongs to another line, or it starts the part. -/
theorem IsLineOf.of_append (h : IsLineOf first second part (mark ++ whole)) (hfirst : first ∉ mark)
    (hmark : mark ≠ []) (hpart : part ≠ []) (hhead : part.head? ≠ mark.head?) :
    IsLineOf first second part whole := by
  obtain ⟨front, back, hwhole, hfront, hback⟩ := h
  rcases hfront with rfl | ⟨above, rfl⟩
  · have heads := congrArg List.head? hwhole
    rw [List.nil_append, List.head?_append_of_ne_nil _ hmark,
      List.head?_append_of_ne_nil _ hpart] at heads
    exact absurd heads.symm hhead
  · rw [List.append_assoc] at hwhole
    rcases List.append_eq_append_iff.1 hwhole with ⟨above', rfl, hrest⟩ | ⟨tail, hmarked, hrest⟩
    · exact ⟨above' ++ [first, second], back, by rw [hrest, List.append_assoc],
        Or.inr ⟨above', rfl⟩, hback⟩
    · cases tail with
      | nil => exact ⟨[first, second], back, by simpa using hrest.symm, Or.inr ⟨[], rfl⟩, hback⟩
      | cons x tail =>
          have hsame : first = x := (List.cons.inj hrest).1
          rw [hmarked, hsame] at hfirst
          simp at hfirst

end Parts

variable {line text : List Char} {lines : List (List Char)}

theorem isLineOf_joinLines (h : line ∈ lines) : IsLineOf '\r' '\n' line (joinLines lines) := by
  induction lines with
  | nil => cases h
  | cons other lines ih =>
      cases lines with
      | nil =>
          rw [List.mem_singleton.1 h]
          exact ⟨[], [], by simp [joinLines], Or.inl rfl, Or.inl rfl⟩
      | cons next lines =>
          rw [joinLines_cons]
          rcases List.mem_cons.1 h with rfl | h
          · exact ⟨[], _, rfl, Or.inl rfl, Or.inr ⟨_, rfl⟩⟩
          · obtain ⟨front, back, htext, hfront, hback⟩ := ih h
            refine ⟨other ++ '\r' :: '\n' :: front, back, by simp [htext], Or.inr ?_, hback⟩
            rcases hfront with rfl | ⟨above, rfl⟩
            · exact ⟨other, rfl⟩
            · exact ⟨other ++ '\r' :: '\n' :: above, by simp⟩

/-- A text is divided at each CRLF. -/
theorem splitLineEnds_append_break (above text : List Char) :
    splitLineEnds (above ++ '\r' :: '\n' :: text) = splitLineEnds above ++ splitLineEnds text := by
  fun_induction splitLineEnds above with
  | case1 => rfl
  | case2 above ih => rw [List.cons_append, List.cons_append, splitLineEnds, ih]; rfl
  | case3 above hnot ih =>
      rw [List.cons_append, splitLineEnds.eq_3, ih]
      · rfl
      · intro rest hrest
        cases above with
        | nil => cases hrest
        | cons c above => exact hnot above (by rw [(List.cons.inj hrest).1])
  | case4 above ih => rw [List.cons_append, splitLineEnds, ih]; rfl
  | case5 c above hboth hr hn ih =>
      obtain ⟨line, lines, hlines⟩ := List.exists_cons_of_ne_nil (splitLineEnds_ne_nil above)
      rw [List.cons_append, splitLineEnds_cons hr hn, ih, hlines]
      rfl

theorem IsLineOf.mem_scriptLines (h : IsLineOf '\r' '\n' line text)
    (hline : isUnbroken line = true) (hne : line ≠ []) : line ∈ scriptLines text := by
  obtain ⟨front, back, rfl, hfront, hback⟩ := h
  have hbehind : line ∈ splitLineEnds (line ++ back) := by
    rcases hback with rfl | ⟨below, rfl⟩
    · rw [List.append_nil, splitLineEnds_of_isUnbroken hline]
      exact List.mem_singleton_self _
    · rw [splitLineEnds_append hline]
      exact List.mem_cons_self
  have hmem : line ∈ splitLineEnds (front ++ (line ++ back)) := by
    rcases hfront with rfl | ⟨above, rfl⟩
    · exact hbehind
    · rw [List.append_assoc]
      show line ∈ splitLineEnds (above ++ '\r' :: '\n' :: (line ++ back))
      rw [splitLineEnds_append_break]
      exact List.mem_append_right _ hbehind
  rcases dropEmptyLast_cases (splitLineEnds (front ++ (line ++ back))) with hsame | hlast
  · rwa [scriptLines, hsame]
  · rw [hlast, List.mem_append, List.mem_singleton] at hmem
    exact hmem.resolve_right hne

theorem IsLineOf.unmarked (h : IsLineOf '\r' '\n' line text) (hne : line ≠ [])
    (hmark : line.head? ≠ some markChar) : IsLineOf '\r' '\n' line (unmarked text) := by
  by_cases hhead : text.head? = some markChar
  · obtain ⟨rest, rfl⟩ := List.head?_eq_some_iff.1 hhead
    have hread : IsLineOf '\r' '\n' line ([markChar] ++ rest) := h
    exact hread.of_append (by decide) (by simp) hne hmark
  · rwa [unmarked_of_head?_ne hhead]

end Text

/-! ## Bytes of UTF-8 -/

namespace Utf8

variable {b : UInt8} {front part back bytes : Bytes} {text : List Char}

/-- A character is one byte of its own value, or all its bytes are higher ones, of which the first
is none of those that go on. -/
theorem encodeChar_cases (c : Char) :
    (∃ b, encodeChar c = [b] ∧ b.toNat < 0x80 ∧ c = Char.ofNat b.toNat) ∨
      ∃ first rest, encodeChar c = first :: rest ∧ 0xc0 ≤ first.toNat ∧
        ∀ b ∈ rest, 0x80 ≤ b.toNat := by
  have hmax : c.toNat < 0x110000 := by
    rcases c.valid with h | ⟨-, h⟩ <;> (unfold Char.toNat; omega)
  have hlow : ∀ n, 0x80 ≤ (byte (0x80 + n % 0x40)).toNat := fun n => by
    rw [toNat_byte (by omega)]
    omega
  unfold encodeChar
  dsimp only
  split
  · rename_i hone
    have hbyte : (byte c.toNat).toNat = c.toNat := toNat_byte (by omega)
    exact Or.inl ⟨_, rfl, by omega, by rw [hbyte, Char.ofNat_toNat]⟩
  split
  · refine Or.inr ⟨_, _, rfl, by rw [toNat_byte (by omega)]; omega, ?_⟩
    simp [hlow]
  split
  · refine Or.inr ⟨_, _, rfl, by rw [toNat_byte (by omega)]; omega, ?_⟩
    simp [hlow]
  · refine Or.inr ⟨_, _, rfl, by rw [toNat_byte (by omega)]; omega, ?_⟩
    simp [hlow]

/-- Bytes that start no longer character are characters of their own where a text starts with
them. -/
theorem exists_of_encode_eq_append (h : encode text = part ++ back)
    (hpart : ∀ b ∈ part, b.toNat < 0xc0) :
    (∀ b ∈ part, b.toNat < 0x80) ∧
      ∃ rest, text = part.map (fun b => Char.ofNat b.toNat) ++ rest ∧ encode rest = back := by
  induction part generalizing text with
  | nil =>
      refine ⟨fun b hb => ?_, text, rfl, h⟩
      cases hb
  | cons b part ih =>
      obtain ⟨hb, hrest⟩ := List.forall_mem_cons.1 hpart
      cases text with
      | nil => cases h
      | cons c text =>
          rw [encode_cons] at h
          rcases encodeChar_cases c with ⟨d, hcode, hd, rfl⟩ | ⟨first, others, hcode, hfirst, -⟩
          · rw [hcode, List.singleton_append, List.cons_append, List.cons.injEq] at h
            obtain ⟨rfl, h⟩ := h
            obtain ⟨hplain, rest, rfl, hback⟩ := ih h hrest
            exact ⟨List.forall_mem_cons.2 ⟨hd, hplain⟩, rest, rfl, hback⟩
          · rw [hcode, List.cons_append, List.cons_append, List.cons.injEq] at h
            rw [h.1] at hfirst
            omega

theorem exists_of_encode_eq (h : encode text = front ++ b :: back) (hb : b.toNat < 0x80) :
    ∃ before rest, text = before ++ Char.ofNat b.toNat :: rest ∧ encode rest = back := by
  induction text generalizing front with
  | nil => simp at h
  | cons c text ih =>
      rw [encode_cons] at h
      rcases List.append_eq_append_iff.1 h with ⟨front', rfl, htext⟩ | ⟨others, hcode, htext⟩
      · obtain ⟨before, rest, rfl, hrest⟩ := ih htext
        exact ⟨c :: before, rest, rfl, hrest⟩
      cases others with
      | nil =>
          have hstart : encode text = [] ++ b :: back := htext.symm
          obtain ⟨before, rest, rfl, hrest⟩ := ih hstart
          exact ⟨c :: before, rest, rfl, hrest⟩
      | cons b' others =>
          obtain ⟨rfl, hback⟩ : b = b' ∧ back = others ++ encode text :=
            List.cons.inj htext
          rcases encodeChar_cases c with ⟨d, hone, -, rfl⟩ | ⟨first, rest, hmore, hfirst, hrest⟩
          · rw [hone] at hcode
            obtain ⟨rfl, hnone⟩ : front = [] ∧ b :: others = [d] := by
              rcases List.append_eq_singleton_iff.1 hcode.symm with hleft | hright
              · exact hleft
              · cases hright.2
            obtain ⟨rfl, rfl⟩ : b = d ∧ others = [] := List.cons.inj hnone
            exact ⟨[], text, rfl, hback.symm⟩
          · have hhigh : ∀ d ∈ encodeChar c, 0x80 ≤ d.toNat := by
              rw [hmore]
              exact List.forall_mem_cons.2 ⟨by omega, hrest⟩
            have hmem := hhigh b (by simp [hcode])
            omega

theorem isLineOf_of_encode (h : IsLineOf 0x0d 0x0a part (encode text))
    (hpart : ∀ b ∈ part, b.toNat < 0xc0) :
    (∀ b ∈ part, b.toNat < 0x80) ∧
      IsLineOf '\r' '\n' (part.map fun b => Char.ofNat b.toNat) text := by
  obtain ⟨front, back, hbytes, hfront, hback⟩ := h
  have hbehind : ∀ rest, encode rest = back →
      rest = [] ∨ ∃ below, rest = '\r' :: '\n' :: below := by
    intro rest hrest
    rcases hback with rfl | ⟨below, rfl⟩
    · cases rest with
      | nil => exact Or.inl rfl
      | cons c rest => exact absurd (List.append_eq_nil_iff.1 hrest).1 (encodeChar_ne_nil c)
    · have hbreak : encode rest = [0x0d, 0x0a] ++ below := hrest
      obtain ⟨-, others, rfl, -⟩ := exists_of_encode_eq_append hbreak (by simp)
      exact Or.inr ⟨others, rfl⟩
  rcases hfront with rfl | ⟨above, rfl⟩
  · rw [List.nil_append] at hbytes
    obtain ⟨hplain, rest, rfl, hrest⟩ := exists_of_encode_eq_append hbytes hpart
    exact ⟨hplain, [], rest, rfl, Or.inl rfl, hbehind rest hrest⟩
  · have hreturn : encode text = above ++ 0x0d :: ((0x0a :: part) ++ back) := by
      rw [hbytes]
      simp
    obtain ⟨before, behind, rfl, hfeed⟩ := exists_of_encode_eq hreturn (by decide)
    obtain ⟨hplain, rest, rfl, hrest⟩ := exists_of_encode_eq_append hfeed
      (List.forall_mem_cons.2 ⟨by decide, hpart⟩)
    refine ⟨(List.forall_mem_cons.1 hplain).2, before ++ ['\r', '\n'], rest, ?_,
      Or.inr ⟨before, rfl⟩, hbehind rest hrest⟩
    rw [List.append_assoc]
    rfl

/-- A mark that some bytes happen to start with is no part of such a line. -/
theorem isLineOf_dropMark (h : IsLineOf 0x0d 0x0a part bytes) (hne : part ≠ [])
    (hpart : ∀ b ∈ part, b.toNat < 0xc0) : IsLineOf 0x0d 0x0a part (dropMark bytes).2 := by
  have hsplit := dropMark_eq bytes
  cases hmarked : (dropMark bytes).1 with
  | false =>
      rw [hmarked, if_neg (by simp)] at hsplit
      rwa [← hsplit]
  | true =>
      rw [hmarked, if_pos rfl] at hsplit
      rw [hsplit] at h
      refine h.of_append (by decide) (by decide) hne fun hhead => ?_
      exact absurd (hpart _ (List.mem_of_mem_head? hhead)) (by decide)

end Utf8

/-! ## Scripts -/

namespace Windows1252

/-- Whether a character has a byte in Windows-1252 that starts no longer character of UTF-8. -/
def IsLow (c : Char) : Prop := ∃ b, encodeChar? c = some b ∧ b.toNat < 0xc0

variable {line : List Char}

theorem decode_encode_of_isLow (h : ∀ c ∈ line, IsLow c) : decode (encode line) = line :=
  decode_encode fun c hc => by
    obtain ⟨b, hb, -⟩ := h c hc
    rw [hb]
    rfl

theorem lt_of_mem_encode (h : ∀ c ∈ line, IsLow c) : ∀ b ∈ encode line, b.toNat < 0xc0 := by
  intro b hb
  obtain ⟨c, hc, rfl⟩ := List.mem_map.1 hb
  obtain ⟨b, hcode, hlt⟩ := h c hc
  rwa [hcode]

end Windows1252

namespace Script

variable {bytes : Bytes} {text line : List Char}

theorem lines_ofBytes_of_some (h : Utf8.decode? (Utf8.dropMark bytes).2 = some text) :
    (ofBytes bytes).lines = (scriptLines text).map String.ofList := by
  unfold ofBytes
  simp only [h]
  rfl

theorem lines_ofBytes_of_none (h : Utf8.decode? (Utf8.dropMark bytes).2 = none) :
    (ofBytes bytes).lines =
      (scriptLines (Windows1252.decode (Utf8.dropMark bytes).2)).map String.ofList := by
  unfold ofBytes
  simp only [h]
  rfl

/-- Whatever a script in Windows-1252 is taken for, a line without high letters is read. -/
theorem mem_lines_of_windows1252 (h : IsLineOf '\r' '\n' line text)
    (hline : isUnbroken line = true) (hne : line ≠ [])
    (hlow : ∀ c ∈ line, Windows1252.IsLow c) :
    String.ofList line ∈ (ofBytes (Windows1252.encode text)).lines := by
  have hread := Windows1252.decode_encode_of_isLow hlow
  have hbytes := Windows1252.lt_of_mem_encode hlow
  have hwhole : IsLineOf 0x0d 0x0a (Windows1252.encode line) (Windows1252.encode text) :=
    h.map Windows1252.byteOf
  have hbody := Utf8.isLineOf_dropMark hwhole (by simpa [Windows1252.encode] using hne) hbytes
  cases hdecode : Utf8.decode? (Utf8.dropMark (Windows1252.encode text)).2 with
  | none =>
      rw [lines_ofBytes_of_none hdecode]
      have hlines := hbody.map Windows1252.decodeByte
      rw [← Windows1252.decode, hread] at hlines
      exact List.mem_map_of_mem (hlines.mem_scriptLines hline hne)
  | some other =>
      rw [lines_ofBytes_of_some hdecode]
      rw [← Utf8.decode?_eq_some_iff.1 hdecode] at hbody
      obtain ⟨hplain, hlines⟩ := Utf8.isLineOf_of_encode hbody hbytes
      have hsame : (Windows1252.encode line).map (fun b => Char.ofNat b.toNat) =
          Windows1252.decode (Windows1252.encode line) := by
        refine List.map_congr_left fun b hb => ?_
        have hlt := hplain b hb
        rw [Windows1252.decodeByte, if_neg (by omega)]
      rw [hsame, hread] at hlines
      exact List.mem_map_of_mem (hlines.mem_scriptLines hline hne)

/-- A line of a script is read again, whatever its bytes are taken for, if it is unbroken, starts
with no mark and has no high letters in Windows-1252. -/
theorem mem_lines_toBytes {script : Script} {line : String} (hmem : line ∈ script.lines)
    (hline : isUnbroken line.toList = true) (hne : line ≠ "")
    (hmark : line.toList.head? ≠ some markChar)
    (hlow : script.encoding = .windows1252 → ∀ c ∈ line.toList, Windows1252.IsLow c) :
    line ∈ (ofBytes script.toBytes).lines := by
  have hletters : line.toList ≠ [] := by simpa using hne
  have hpart : IsLineOf '\r' '\n' line.toList script.toText :=
    isLineOf_joinLines (List.mem_map_of_mem hmem)
  have hutf8 : ∀ text, script.toBytes = Utf8.encode text →
      IsLineOf '\r' '\n' line.toList (unmarked text) → line ∈ (ofBytes script.toBytes).lines := by
    intro text hbytes hlines
    have hread : Utf8.decode? (Utf8.dropMark script.toBytes).2 = some (unmarked text) := by
      rw [hbytes]
      exact Utf8.decodeMarked?_encode text
    rw [lines_ofBytes_of_some hread]
    exact List.mem_map.2 ⟨_, hlines.mem_scriptLines hline hletters, String.ofList_toList⟩
  cases hencoding : script.encoding with
  | utf8 =>
      refine hutf8 script.toText ?_ (hpart.unmarked hletters hmark)
      rw [toBytes, hencoding]
      rfl
  | utf8Marked =>
      refine hutf8 (markChar :: script.toText) ?_ (by rwa [unmarked_mark])
      rw [toBytes, hencoding]
      rfl
  | windows1252 =>
      have hread := mem_lines_of_windows1252 hpart hline hletters (hlow hencoding)
      rw [String.ofList_toList] at hread
      rw [toBytes, hencoding]
      exact hread

end Script

end SetupForge

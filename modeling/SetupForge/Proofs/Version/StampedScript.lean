import SetupForge.Proofs.Script.PlainLines
import SetupForge.Proofs.Script.TextAndLines
import SetupForge.Proofs.Version.ProjectText
import SetupForge.Proofs.Version.VersionLines

/-! # Scripts that carry a version

A line carries a version that stands between quotes behind the directive, or behind the definition
of the variable. A changed line does, and it is read again when the script has been written: in
Windows-1252 its letters are low ones if those of the name are ASCII.
-/

namespace SetupForge

open Text

/-! ## High letters -/

namespace Windows1252

/-- The characters that are read from bytes of Windows-1252 that start a longer character of UTF-8,
or stand for nothing. -/
def highLetters : List Char :=
  Utf8.replacement :: (List.range 0x40).map fun n => decodeByte (UInt8.ofNat (0xc0 + n))

variable {c p : Char}

theorem isLow_of_lt (h : c.toNat < 0x80) : IsLow c := by
  refine ⟨UInt8.ofNat c.toNat, by rw [encodeChar?]; exact if_pos (Or.inl h), ?_⟩
  rw [UInt8.toNat_ofNat']
  omega

theorem isLow_of_not_mem (hread : Encoding.windows1252.has c = true ∨ c = Utf8.replacement)
    (hhigh : c ∉ highLetters) : IsLow c := by
  have hreplacement : c ≠ Utf8.replacement := fun h => hhigh (h ▸ List.mem_cons_self)
  obtain ⟨b, hb⟩ := Option.isSome_iff_exists.1 (hread.resolve_right hreplacement)
  refine ⟨b, hb, ?_⟩
  by_contra hge
  have hlt := b.toNat_lt
  refine hhigh (List.mem_cons_of_mem _ (List.mem_map.2 ⟨b.toNat - 0xc0, ?_, ?_⟩))
  · rw [List.mem_range]
    omega
  · have hbyte : UInt8.ofNat (0xc0 + (b.toNat - 0xc0)) = b := by
      rw [Nat.add_sub_cancel' (by omega), UInt8.ofNat_toNat]
    rw [hbyte, decodeByte_of_encodeChar? hb]

theorem of_mem_highLetters (h : c ∈ highLetters) :
    isBlankChar c = false ∧ 0x80 ≤ (lowerLetter c).toNat := by
  have hall : highLetters.all (fun c => !isBlankChar c && decide (0x80 ≤ (lowerLetter c).toNat)) =
      true := by decide +kernel
  simpa using List.all_eq_true.1 hall c h

theorem sibling_not_mem : ∀ entry ∈ siblingTable, entry.1 < 0x80 →
    ∀ code ∈ entry.2, Char.ofNat code ∉ highLetters.map lowerLetter := by decide +kernel

theorem isLow_of_isBlankChar (hread : Encoding.windows1252.has c = true ∨ c = Utf8.replacement)
    (h : isBlankChar c = true) : IsLow c :=
  isLow_of_not_mem hread fun hmem => by
    rw [(of_mem_highLetters hmem).1] at h
    cases h

theorem isLow_of_sameLetter (hread : Encoding.windows1252.has c = true ∨ c = Utf8.replacement)
    (hp : p.toNat < 0x80) (h : sameLetter p c = true) : IsLow c := by
  refine isLow_of_not_mem hread fun hhigh => ?_
  have hlow := toNat_lowerLetter_lt hp
  rw [sameLetter, Bool.or_eq_true, beq_iff_eq, decide_eq_true_eq] at h
  rcases h with hsame | hmem
  · have hge := (of_mem_highLetters hhigh).2
    rw [hsame] at hge
    omega
  · unfold siblings at hmem
    split at hmem
    · rename_i entry hfind
      obtain ⟨code, hcode, heq⟩ := List.mem_map.1 hmem
      have hkey := List.find?_some hfind
      rw [beq_iff_eq] at hkey
      refine sibling_not_mem entry (List.mem_of_find?_eq_some hfind) (hkey ▸ hlow) code hcode ?_
      rw [heq]
      exact List.mem_map_of_mem hhigh
    · cases hmem

end Windows1252

theorem Moment.lt_of_isVersionChar {c : Char} (h : isVersionChar c = true) : c.toNat < 0x80 := by
  simp only [isVersionChar, Bool.or_eq_true, beq_iff_eq, Char.isDigit, Bool.and_eq_true,
    decide_eq_true_eq] at h
  rcases h with hdigit | rfl
  · exact lt_of_le_of_lt (UInt32.le_iff_toNat_le.1 hdigit.2) (by decide)
  · decide

/-! ## Lines that carry a version -/

namespace ScriptVersion

/-- Whether a line is the directive, or the definition of the variable, with a version behind it. -/
def LineCarries (name version : String) (line : String) : Prop :=
  ∃ head blanks, IsHead name.toList head ∧ AllBlank blanks ∧
    line.toList = head ++ (blanks ++ quoted version)

def Carries (name version : String) (lines : List String) : Prop :=
  ∃ line ∈ lines, LineCarries name version line

variable {name version line : String} {lines : List String} {head lead value word : List Char}

theorem stamp_snd_eq_zero_iff :
    (stamp name version lines).2 = 0 ↔ ∀ line ∈ lines, stampLine name version line = line := by
  rw [stamp, List.length_eq_zero_iff, List.filter_eq_nil_iff]
  dsimp only
  have hzip : lines.zip (lines.map (stampLine name version)) =
      lines.map fun line => (line, stampLine name version line) := by
    induction lines with
    | nil => rfl
    | cons line lines ih => rw [List.map_cons, List.zip_cons_cons, ih, List.map_cons]
  simp only [hzip, List.forall_mem_map, bne_iff_ne, ne_eq, not_not]
  exact forall_congr' fun line => imp_congr_right fun _ => eq_comm

theorem stampLine_of_ne (hline : '\n' ∉ line.toList) (h : stampLine name version line ≠ line) :
    ∃ lead value, line.toList = lead ++ value ∧ Divides name.toList lead value ∧
      stampLine name version line = String.ofList (lead ++ quoted version) := by
  unfold stampLine at h ⊢
  split
  · rename_i lead after hspan
    obtain ⟨rfl, value, hsplit, hdivides⟩ := divides_of_span? hline hspan
    exact ⟨lead, value, hsplit, hdivides, by simp [quoted]⟩
  · rename_i hspan
    rw [hspan] at h
    exact absurd rfl h

theorem lineCarries_of_divides (h : Divides name.toList lead value) :
    LineCarries name version (String.ofList (lead ++ quoted version)) := by
  cases h with
  | @intro head blanks _ hhead hblanks _ _ =>
      exact ⟨head, blanks, hhead, hblanks, by rw [String.toList_ofList, List.append_assoc]⟩

theorem exists_sameLetter {pattern : List Char} (h : AgreeAnyCase pattern word) :
    ∀ c ∈ word, ∃ p ∈ pattern, sameLetter p c = true := by
  induction h with
  | nil => simp
  | cons hc _ ih =>
      refine List.forall_mem_cons.2 ⟨⟨_, List.mem_cons_self, hc⟩, fun c hmem => ?_⟩
      obtain ⟨p, hp, hsame⟩ := ih c hmem
      exact ⟨p, List.mem_cons_of_mem _ hp, hsame⟩

/-- Whether a character may stand in front of a value: a blank, or a letter that agrees with one of
the directive, of the definition or of the name. -/
def IsLeadLetter (name : List Char) (c : Char) : Prop :=
  isBlankChar c = true ∨ ∃ p ∈ '=' :: (directive ++ define ++ name), sameLetter p c = true

theorem isLeadLetter_of_divides {name : List Char} (h : Divides name lead value) :
    ∀ c ∈ lead, IsLeadLetter name c := by
  have hblank : ∀ blanks, AllBlank blanks → ∀ c ∈ blanks, IsLeadLetter name c :=
    fun _ hblanks c hc => Or.inl (hblanks c hc)
  have hword : ∀ pattern word, AgreeAnyCase pattern word →
      pattern ⊆ '=' :: (directive ++ define ++ name) → ∀ c ∈ word, IsLeadLetter name c := by
    intro pattern word hagree hpattern c hc
    obtain ⟨p, hp, hsame⟩ := exists_sameLetter hagree c hc
    exact Or.inr ⟨p, hpattern hp, hsame⟩
  cases h with
  | intro hhead hblanks _ _ =>
      rw [List.forall_mem_append]
      refine ⟨?_, hblank _ hblanks⟩
      cases hhead with
      | directive hdirective hinner =>
          simp only [List.forall_mem_append, List.forall_mem_singleton]
          exact ⟨hword _ _ hdirective (by simp), hblank _ hinner,
            Or.inr ⟨'=', List.mem_cons_self, sameLetter_self '='⟩⟩
      | definition _ hindent hdefine hinner _ hfound =>
          simp only [List.forall_mem_append]
          exact ⟨hblank _ hindent, hword _ _ hdefine fun p hp => by simp [hp], hblank _ hinner,
            hword _ _ hfound fun p hp => by simp [hp]⟩

theorem IsHead.exists_cons {name : List Char} (h : IsHead name head) :
    ∃ c rest, head = c :: rest ∧ c ≠ markChar := by
  have hmark : isBlankChar markChar = false ∧ sameLetter 'A' markChar = false ∧
      sameLetter '#' markChar = false := by decide +kernel
  have hletter : ∀ p pattern word, sameLetter p markChar = false →
      AgreeAnyCase (p :: pattern) word → ∃ c rest, word = c :: rest ∧ c ≠ markChar := by
    intro p pattern word hp hagree
    obtain ⟨c, rest, hc, -, rfl⟩ := List.forall₂_cons_left_iff.1 hagree
    refine ⟨c, rest, rfl, ?_⟩
    rintro rfl
    rw [hp] at hc
    cases hc
  cases h with
  | directive hword hblanks =>
      obtain ⟨c, rest, rfl, hc⟩ := hletter 'A' _ _ hmark.2.1 hword
      exact ⟨c, _, rfl, hc⟩
  | @definition _ indent _ _ _ _ hindent hword _ _ _ =>
      cases indent with
      | nil =>
          obtain ⟨c, rest, rfl, hc⟩ := hletter '#' _ _ hmark.2.2 hword
          exact ⟨c, _, rfl, hc⟩
      | cons c indent =>
          refine ⟨c, _, rfl, ?_⟩
          rintro rfl
          have hblank := hindent _ List.mem_cons_self
          rw [hmark.1] at hblank
          cases hblank

theorem Divides.exists_cons {name : List Char} (h : Divides name lead value) :
    ∃ c rest, lead = c :: rest ∧ c ≠ markChar := by
  cases h with
  | intro hhead _ _ _ =>
      obtain ⟨c, rest, rfl, hc⟩ := hhead.exists_cons
      exact ⟨c, _, rfl, hc⟩

/-! ## Reading the stamped script again -/

section Reading

variable {bytes : Bytes}

theorem isLow_of_divides {name : List Char} (hname : isAscii name = true)
    (h : Divides name lead value)
    (hread : ∀ c ∈ lead, Encoding.windows1252.has c = true ∨ c = Utf8.replacement) :
    ∀ c ∈ lead, Windows1252.IsLow c := by
  intro c hc
  rcases isLeadLetter_of_divides h c hc with hblank | ⟨p, hp, hsame⟩
  · exact Windows1252.isLow_of_isBlankChar (hread c hc) hblank
  · have hfixed : isAscii ('=' :: (directive ++ define)) = true := by decide
    have hall : isAscii ('=' :: (directive ++ define) ++ name) = true := by
      rw [isAscii, List.all_append, Bool.and_eq_true]
      exact ⟨hfixed, hname⟩
    have hlt : p.toNat < 0x80 := by
      have hascii := List.all_eq_true.1 hall p hp
      simpa using hascii
    exact Windows1252.isLow_of_sameLetter (hread c hc) hlt hsame

variable (hversion : version.toList.all Moment.isVersionChar = true)
include hversion

theorem mem_quoted {c : Char} (h : c ∈ quoted version) :
    c = '"' ∨ Moment.isVersionChar c = true := by
  rw [quoted, List.mem_cons, List.mem_append, List.mem_singleton] at h
  rcases h with rfl | hmem | rfl
  · exact Or.inl rfl
  · exact Or.inr (List.all_eq_true.1 hversion c hmem)
  · exact Or.inl rfl

theorem not_mem_quoted {c : Char} (hquote : c ≠ '"') (hc : Moment.isVersionChar c = false) :
    c ∉ quoted version := by
  intro hmem
  rcases mem_quoted hversion hmem with rfl | hother
  · exact hquote rfl
  · rw [hc] at hother
    cases hother

theorem isUnbroken_quoted : isUnbroken (quoted version) = true :=
  isUnbroken_iff.2 ⟨not_mem_quoted hversion (by decide) (by decide),
    not_mem_quoted hversion (by decide) (by decide)⟩

theorem isLow_quoted : ∀ c ∈ quoted version, Windows1252.IsLow c := by
  intro c hc
  apply Windows1252.isLow_of_lt
  rcases mem_quoted hversion hc with rfl | hdigit
  · decide
  · exact Moment.lt_of_isVersionChar hdigit

/-- A line that changes is read again with the version, whatever the script is taken for. -/
theorem carries_of_changed (hname : (Script.ofBytes bytes).encoding = .windows1252 →
      isAscii name.toList = true)
    (hchanged : (stamp name version (Script.ofBytes bytes).lines).2 ≠ 0) :
    Carries name version (Script.ofBytes (Script.toBytes { Script.ofBytes bytes with
      lines := (stamp name version (Script.ofBytes bytes).lines).1 })).lines := by
  rw [Ne, stamp_snd_eq_zero_iff] at hchanged
  obtain ⟨line, hline⟩ := not_forall.1 hchanged
  obtain ⟨hmem, hne⟩ := Classical.not_imp.1 hline
  obtain ⟨hunbroken, hread⟩ := Script.gives_of_mem_lines hmem
  obtain ⟨lead, value, hsplit, hdivides, hstamped⟩ :=
    stampLine_of_ne (isUnbroken_iff.1 hunbroken).2 hne
  have hnew : (stampLine name version line).toList = lead ++ quoted version := by
    rw [hstamped, String.toList_ofList]
  obtain ⟨first, rest, hfirst, hmark⟩ := hdivides.exists_cons
  refine ⟨stampLine name version line, Script.mem_lines_toBytes ?_ ?_ ?_ ?_ ?_,
    hstamped ▸ lineCarries_of_divides hdivides⟩
  · exact List.mem_map_of_mem hmem
  · rw [hsplit, isUnbroken, List.all_append, Bool.and_eq_true] at hunbroken
    rw [hnew, isUnbroken, List.all_append, Bool.and_eq_true]
    exact ⟨hunbroken.1, isUnbroken_quoted hversion⟩
  · rw [hstamped, hfirst]
    simp
  · rw [hnew, hfirst]
    simpa using hmark
  · intro hencoding
    rw [hencoding] at hread
    rw [hnew, List.forall_mem_append]
    refine ⟨isLow_of_divides (hname hencoding) hdivides fun c hc => ?_, isLow_quoted hversion⟩
    exact hread c (by simp [hsplit, hc])

end Reading

end ScriptVersion

end SetupForge

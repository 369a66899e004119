import SetupForge.Proofs.Disk.Contents
import SetupForge.Proofs.Sync.Report
import SetupForge.Proofs.Text.UnifiedBreaks

/-! # Scripts read and written again

A script that is read without a loss and saved as it is has its old bytes, but for its line breaks:
all become CRLF, and the one at the end goes. A mark stays, and a script that is not UTF-8 stays in
its own encoding.
-/

namespace SetupForge

open Text

/-! ## Encodings and line breaks -/

theorem Utf8.codesMarks : CodesMarks Utf8.encodeChar '\r' '\n' 0x0d 0x0a where
  first_eq := rfl
  second_eq := rfl
  apart := by decide
  apart' := by decide
  other := by
    intro c hr hn
    refine ⟨Utf8.encodeChar_ne_nil c, ?_⟩
    have hcr : c.toNat ≠ 13 := fun h => hr (by rw [← Char.ofNat_toNat c, h])
    have hlf : c.toNat ≠ 10 := fun h => hn (by rw [← Char.ofNat_toNat c, h])
    have hmax : c.toNat < 0x110000 := by
      rcases c.valid with h | ⟨-, h⟩ <;> (unfold Char.toNat; omega)
    -- no byte of a longer form is a control character
    have hbyte : ∀ b ∈ Utf8.encodeChar c, b.toNat ≠ 13 ∧ b.toNat ≠ 10 := by
      intro b hb
      unfold Utf8.encodeChar at hb
      dsimp only at hb
      split at hb
      · rw [List.mem_singleton] at hb
        rw [hb, Utf8.toNat_byte (by omega)]
        exact ⟨hcr, hlf⟩
      split at hb
      · simp only [List.mem_cons, List.not_mem_nil, or_false] at hb
        rcases hb with rfl | rfl <;> rw [Utf8.toNat_byte (by omega)] <;> omega
      split at hb
      · simp only [List.mem_cons, List.not_mem_nil, or_false] at hb
        rcases hb with rfl | rfl | rfl <;> rw [Utf8.toNat_byte (by omega)] <;> omega
      · simp only [List.mem_cons, List.not_mem_nil, or_false] at hb
        rcases hb with rfl | rfl | rfl | rfl <;> rw [Utf8.toNat_byte (by omega)] <;> omega
    exact ⟨fun h => (hbyte _ h).1 rfl, fun h => (hbyte _ h).2 rfl⟩

namespace Windows1252

def byteOf (c : Char) : UInt8 := (encodeChar? c).getD (UInt8.ofNat '?'.toNat)

theorem encode_eq_flatMap (text : List Char) : encode text = text.flatMap fun c => [byteOf c] := by
  induction text with
  | nil => rfl
  | cons c text ih =>
      rw [List.flatMap_cons, ← ih]
      rfl

theorem byteOf_ne {c d : Char} {b : UInt8} (hd : decodeByte b = d) (hc : c ≠ d)
    (hb : b ≠ UInt8.ofNat '?'.toNat) : byteOf c ≠ b := by
  unfold byteOf
  cases hcode : encodeChar? c with
  | none => exact Ne.symm hb
  | some b' =>
      intro h
      rw [Option.getD_some] at h
      apply hc
      rw [← decodeByte_of_encodeChar? hcode, h, hd]

theorem codesMarks : CodesMarks (fun c => [byteOf c]) '\r' '\n' 0x0d 0x0a where
  first_eq := by decide
  second_eq := by decide
  apart := by decide
  apart' := by decide
  other := by
    intro c hr hn
    refine ⟨by simp, ?_, ?_⟩
    · rw [List.mem_singleton]
      exact Ne.symm (byteOf_ne (by decide) hr (by decide))
    · rw [List.mem_singleton]
      exact Ne.symm (byteOf_ne (by decide) hn (by decide))

end Windows1252

namespace Script

/-- Bytes with CRLF for every line break, be it CRLF, CR or LF, and without the last one. -/
def withCrlf (bytes : Bytes) : Bytes := withoutLastBreak 0x0d 0x0a (unifiedBreaks 0x0d 0x0a bytes)

theorem withCrlf_mark (bytes : Bytes) : withCrlf (Utf8.mark ++ bytes) =
    Utf8.mark ++ withCrlf bytes := by
  unfold withCrlf
  rw [unifiedBreaks_append (by decide) (by decide), withoutLastBreak_append (by decide)]

theorem encode_scriptLines (encoding : Encoding) (text : List Char) :
    encoding.encode (joinLines (scriptLines text)) = withCrlf (encoding.encode text) := by
  have hutf8 : Utf8.encode (joinLines (scriptLines text)) = withCrlf (Utf8.encode text) := by
    unfold withCrlf Utf8.encode
    rw [joinLines_scriptLines, Utf8.codesMarks.unifiedBreaks_flatMap,
      Utf8.codesMarks.withoutLastBreak_flatMap]
  cases encoding with
  | utf8 => exact hutf8
  | utf8Marked =>
      calc Encoding.utf8Marked.encode (joinLines (scriptLines text))
          = Utf8.mark ++ withCrlf (Utf8.encode text) := by rw [← hutf8]; rfl
        _ = withCrlf (Utf8.mark ++ Utf8.encode text) := (withCrlf_mark _).symm
  | windows1252 =>
      show Windows1252.encode _ = withCrlf (Windows1252.encode text)
      unfold withCrlf
      rw [joinLines_scriptLines, Windows1252.encode_eq_flatMap, Windows1252.encode_eq_flatMap,
        Windows1252.codesMarks.unifiedBreaks_flatMap,
        Windows1252.codesMarks.withoutLastBreak_flatMap]

theorem toText_ofText (text : List Char) (encoding : Encoding) :
    (ofText text encoding).toText = joinLines (scriptLines text) := by
  simp [toText]

theorem toBytes_ofText (text : List Char) (encoding : Encoding) :
    (ofText text encoding).toBytes = withCrlf (encoding.encode text) := by
  rw [← encode_scriptLines, ← toText_ofText text encoding]
  rfl

/-! ## Scripts that are read without a loss -/

def IsUtf8 (bytes : Bytes) : Prop := ∃ text, Utf8.encode text = bytes

/-- Whether bytes are read without a loss: behind a mark, if there is one, they are UTF-8, or they
have no mark and all stand for characters in Windows-1252. -/
def IsLegible (bytes : Bytes) : Prop :=
  IsUtf8 (Utf8.dropMark bytes).2 ∨
    ¬ Utf8.mark <+: bytes ∧ ∀ b ∈ bytes, b ∉ Windows1252.undefinedBytes

variable {bytes : Bytes}

theorem dropMark_fst : (Utf8.dropMark bytes).1 = true ↔ Utf8.mark <+: bytes := by
  unfold Utf8.dropMark
  rw [← List.isPrefixOf_iff_prefix]
  split <;> simp_all

theorem ofBytes_of_encode_eq {text : List Char}
    (h : Utf8.encode text = (Utf8.dropMark bytes).2) :
    ofBytes bytes = ofText text (if (Utf8.dropMark bytes).1 then .utf8Marked else .utf8) := by
  unfold ofBytes
  simp only [Utf8.decode?_eq_some_iff.2 h]

theorem ofBytes_of_not_isUtf8 (h : ¬ IsUtf8 (Utf8.dropMark bytes).2) :
    ofBytes bytes = ofText (Windows1252.decode (Utf8.dropMark bytes).2) .windows1252 := by
  unfold ofBytes
  cases hread : Utf8.decode? (Utf8.dropMark bytes).2 with
  | none => simp only [hread]
  | some text => exact absurd ⟨text, Utf8.decode?_eq_some_iff.1 hread⟩ h

/-- Bytes that are read without a loss are those that their encoding makes of the text. -/
theorem exists_text_of_isLegible (h : IsLegible bytes) :
    ∃ text encoding, ofBytes bytes = ofText text encoding ∧ encoding.encode text = bytes := by
  have hsplit := Utf8.dropMark_eq bytes
  by_cases hutf8 : IsUtf8 (Utf8.dropMark bytes).2
  · obtain ⟨text, htext⟩ := hutf8
    refine ⟨text, _, ofBytes_of_encode_eq htext, ?_⟩
    rw [← htext] at hsplit
    cases hmark : (Utf8.dropMark bytes).1 with
    | true =>
        rw [hmark, if_pos rfl] at hsplit
        exact hsplit.symm
    | false =>
        rw [hmark, if_neg (by simp)] at hsplit
        exact hsplit.symm
  · obtain ⟨hmark, hdefined⟩ := h.resolve_left hutf8
    have hbody : (Utf8.dropMark bytes).2 = bytes := by
      rw [← dropMark_fst, Bool.not_eq_true] at hmark
      rw [hmark, if_neg (by simp)] at hsplit
      exact hsplit.symm
    refine ⟨_, _, ofBytes_of_not_isUtf8 hutf8, ?_⟩
    rw [hbody]
    exact Windows1252.encode_decode hdefined

theorem toBytes_ofBytes (h : IsLegible bytes) : (ofBytes bytes).toBytes = withCrlf bytes := by
  obtain ⟨text, encoding, hread, hbytes⟩ := exists_text_of_isLegible h
  rw [hread, toBytes_ofText, hbytes]

/-! ## Loading and saving -/

variable {host : Host} {path : Path}

/-- Loading a script that is read without a loss and saving it, wherever this is, writes its bytes
with CRLF for every line break and without the last one. In its own place it can be saved. Its
mark stays, and so does an encoding that is not UTF-8. -/
theorem saved_as_loaded (htree : host.disk.IsTree) (husable : path.isUsable = true)
    (hread : host.disk.read host.folder path = .ok bytes) (h : IsLegible bytes) :
    (∀ target, (do Sync.saveScript target (← Sync.loadScript path) : Job Unit).on host =
        (Job.store target (withCrlf bytes)).on host) ∧
      (∃ after, (do Sync.saveScript path (← Sync.loadScript path) : Job Unit).on host =
          (.ok (), after) ∧
        after.disk.read after.folder path = .ok (withCrlf bytes)) ∧
      (Utf8.mark <+: bytes →
        (ofBytes bytes).encoding = .utf8Marked ∧ Utf8.mark <+: withCrlf bytes) ∧
      (¬ IsUtf8 (Utf8.dropMark bytes).2 → (ofBytes bytes).encoding = .windows1252) := by
  have hsaved : ∀ target, (do Sync.saveScript target (← Sync.loadScript path) : Job Unit).on host =
      (Job.store target (withCrlf bytes)).on host := by
    intro target
    rw [Job.on_bind, Sync.on_loadScript husable hread]
    dsimp only
    rw [Sync.saveScript, toBytes_ofBytes h]
  refine ⟨hsaved, ?_, ?_, fun hforeign => by rw [ofBytes_of_not_isUtf8 hforeign]; rfl⟩
  · obtain ⟨after, hwrite⟩ := Disk.exists_write_of_read htree hread (withCrlf bytes)
    refine ⟨host.withDisk after, ?_, Disk.read_write hwrite htree⟩
    rw [hsaved, Sync.on_store husable hwrite]
  · intro hmark
    obtain ⟨text, htext⟩ : IsUtf8 (Utf8.dropMark bytes).2 :=
      h.resolve_right fun hplain => hplain.1 hmark
    refine ⟨?_, ?_⟩
    · rw [ofBytes_of_encode_eq htext, dropMark_fst.2 hmark, if_pos rfl]
      rfl
    · obtain ⟨body, rfl⟩ := hmark
      rw [withCrlf_mark]
      exact List.prefix_append _ _

def oneScript (script : Bytes) : Host where
  disk := ⟨[(["setup.iss"], .file script)]⟩

theorem isTree_oneScript (script : Bytes) : (oneScript script).disk.IsTree :=
  Disk.isTree_of_nodes fun entry hentry => by
    rw [List.mem_singleton.1 hentry]
    rfl

/-- A script in Windows-1252 with a CR in front of a CRLF, and with a line break at its end. -/
theorem saved_as_loaded_foreign :
    let bytes : Bytes := [0xe9, 0x0d, 0x0d, 0x0a, 0x80, 0x0a]
    let host := oneScript bytes
    let path : Path := ⟨.current, ["setup.iss"]⟩
    host.disk.IsTree ∧ path.isUsable = true ∧ host.disk.read host.folder path = .ok bytes ∧
      IsLegible bytes ∧ (ofBytes bytes).encoding = .windows1252 ∧
      ∃ after, (do Sync.saveScript path (← Sync.loadScript path) : Job Unit).on host =
          (.ok (), after) ∧
        after.disk.read after.folder path = .ok [0xe9, 0x0d, 0x0a, 0x0d, 0x0a, 0x80] := by
  intro bytes host path
  have husable : path.isUsable = true := by decide
  have hread : host.disk.read host.folder path = .ok bytes := rfl
  have hlegible : IsLegible bytes := Or.inr (by decide +kernel)
  have hforeign : ¬ IsUtf8 (Utf8.dropMark bytes).2 := by
    rintro ⟨text, htext⟩
    have hsome := Utf8.decode?_eq_some_iff.2 htext
    have hnone : Utf8.decode? (Utf8.dropMark bytes).2 = none := by decide
    rw [hnone] at hsome
    cases hsome
  obtain ⟨-, hsaved, -, hencoding⟩ :=
    saved_as_loaded (isTree_oneScript bytes) husable hread hlegible
  exact ⟨isTree_oneScript bytes, husable, hread, hlegible, hencoding hforeign, hsaved⟩

end Script

end SetupForge

import SetupForge.Proofs.Disk.Jobs
import SetupForge.Proofs.Script.Rereading

/-! # Text files as they are read

A text file is read without the mark in front and with a line feed for each line end. What holds no
line break and no mark is found in the text that is read where it stands in the file, and nowhere
else.
-/

namespace SetupForge

namespace Text

variable {c : Char} {part rest text : List Char}

/-! ## Line feeds -/

theorem withLineFeeds_cons (h : c ≠ '\r') (text : List Char) :
    withLineFeeds (c :: text) = c :: withLineFeeds text := by
  rw [withLineFeeds.eq_def]
  split <;> simp_all

theorem withLineFeeds_return (text : List Char) :
    withLineFeeds ('\r' :: text) =
      if text.head? = some '\n' then withLineFeeds text else '\n' :: withLineFeeds text := by
  cases text with
  | nil => rfl
  | cons c text =>
      by_cases hc : c = '\n'
      · subst hc
        rw [List.head?_cons, if_pos rfl]
        rfl
      · rw [if_neg (by simpa using hc), withLineFeeds]
        intro text' h
        exact hc (List.cons.inj h).1

theorem return_not_mem_withLineFeeds (text : List Char) : '\r' ∉ withLineFeeds text := by
  induction text with
  | nil => simp
  | cons c text ih =>
      by_cases hc : c = '\r'
      · rw [hc, withLineFeeds_return]
        split
        · exact ih
        · simpa using ih
      · rw [withLineFeeds_cons hc, List.mem_cons, not_or]
        exact ⟨Ne.symm hc, ih⟩

/-- What stands before a text and holds no carriage return stays. -/
theorem withLineFeeds_append_of_not_mem (h : '\r' ∉ part) (text : List Char) :
    withLineFeeds (part ++ text) = part ++ withLineFeeds text := by
  induction part with
  | nil => rfl
  | cons c part ih =>
      obtain ⟨hc, hpart⟩ := List.ne_and_not_mem_of_not_mem_cons h
      rw [List.cons_append, withLineFeeds_cons hc.symm, ih hpart]
      rfl

theorem withLineFeeds_eq_self_iff : withLineFeeds text = text ↔ '\r' ∉ text := by
  constructor
  · intro h
    exact h ▸ return_not_mem_withLineFeeds text
  · intro h
    have hsame := withLineFeeds_append_of_not_mem h []
    rwa [List.append_nil, withLineFeeds_nil, List.append_nil] at hsame

/-- Texts are changed one by one unless the second starts with the line feed of a line end. -/
theorem withLineFeeds_append (h : rest.head? ≠ some '\n') (text : List Char) :
    withLineFeeds (text ++ rest) = withLineFeeds text ++ withLineFeeds rest := by
  induction text with
  | nil => rfl
  | cons c text ih =>
      by_cases hc : c = '\r'
      · subst hc
        rw [List.cons_append, withLineFeeds_return, withLineFeeds_return, ih]
        cases text with
        | nil => rw [List.nil_append, if_neg h]; rfl
        | cons d text =>
            rw [List.cons_append, List.head?_cons, List.head?_cons]
            split <;> rfl
      · rw [List.cons_append, withLineFeeds_cons hc, withLineFeeds_cons hc, ih]
        rfl

def withLineFeed (c : Char) : Char := if c = '\r' then '\n' else c

theorem head?_withLineFeeds (text : List Char) :
    (withLineFeeds text).head? = text.head?.map withLineFeed := by
  induction text with
  | nil => rfl
  | cons c text ih =>
      by_cases hc : c = '\r'
      · subst hc
        rw [withLineFeeds_return]
        split
        · rename_i hhead
          rw [ih, hhead]
          rfl
        · rfl
      · rw [withLineFeeds_cons hc, List.head?_cons, List.head?_cons, Option.map_some,
          withLineFeed, if_neg hc]

/-- What holds no line break starts a text exactly if it starts the text with line feeds. -/
theorem prefix_withLineFeeds_iff (h : isUnbroken part = true) :
    part <+: withLineFeeds text ↔ part <+: text := by
  induction part generalizing text with
  | nil => simp
  | cons c part ih =>
      obtain ⟨⟨hr, hn⟩, hpart⟩ := isUnbroken_cons.1 h
      cases text with
      | nil => simp
      | cons d text =>
          by_cases hd : d = '\r'
          · subst hd
            refine iff_of_false ?_ fun hfront => hr (List.cons_prefix_cons.1 hfront).1
            rintro ⟨rest, hrest⟩
            have hhead := head?_withLineFeeds ('\r' :: text)
            rw [← hrest] at hhead
            exact hn (Option.some.inj hhead)
          · rw [withLineFeeds_cons hd, List.cons_prefix_cons, List.cons_prefix_cons, ih hpart]

theorem infix_withLineFeeds_iff (h : isUnbroken part = true) (hne : part ≠ []) :
    part <:+: withLineFeeds text ↔ part <:+: text := by
  have hbreak : ∀ c text, c = '\r' ∨ c = '\n' → ¬ part <+: c :: text := by
    obtain ⟨d, part, rfl⟩ := List.exists_cons_of_ne_nil hne
    rintro c text hc hfront
    obtain ⟨hr, hn⟩ := (isUnbroken_cons.1 h).1
    rw [(List.cons_prefix_cons.1 hfront).1] at hr hn
    exact hc.elim hr hn
  induction text with
  | nil => rfl
  | cons c text ih =>
      by_cases hc : c = '\r'
      · rw [List.infix_cons_iff, or_iff_right (hbreak c text (Or.inl hc)), hc,
          withLineFeeds_return]
        split
        · exact ih
        · rw [List.infix_cons_iff, or_iff_right (hbreak _ _ (Or.inr rfl))]
          exact ih
      · rw [withLineFeeds_cons hc, List.infix_cons_iff, List.infix_cons_iff,
          ← withLineFeeds_cons hc, prefix_withLineFeeds_iff h]
        exact or_congr_right ih

theorem mem_withLineFeeds_iff (hr : c ≠ '\r') (hn : c ≠ '\n') :
    c ∈ withLineFeeds text ↔ c ∈ text := by
  have hwithin : [c] <:+: withLineFeeds text ↔ [c] <:+: text :=
    infix_withLineFeeds_iff (by simp [isUnbroken, hr, hn]) (by simp)
  have hmem : ∀ text : List Char, [c] <:+: text ↔ c ∈ text := fun text =>
    ⟨fun h => h.subset List.mem_cons_self, fun h => by
      obtain ⟨before, after, rfl⟩ := List.append_of_mem h
      exact ⟨before, after, by simp⟩⟩
  rwa [hmem, hmem] at hwithin

theorem getLast?_withLineFeeds (text : List Char) :
    (withLineFeeds text).getLast? = text.getLast?.map withLineFeed := by
  have hcons : ∀ (c d : Char) (text : List Char), withLineFeed c = d →
      (withLineFeeds text).getLast? = text.getLast?.map withLineFeed →
      (d :: withLineFeeds text).getLast? = (c :: text).getLast?.map withLineFeed := by
    intro c d text hc htext
    rw [List.getLast?_cons, List.getLast?_cons, htext, Option.map_some, ← hc]
    cases text.getLast? <;> rfl
  induction text with
  | nil => rfl
  | cons c text ih =>
      by_cases hc : c = '\r'
      · subst hc
        rw [withLineFeeds_return]
        split
        · rename_i hhead
          obtain ⟨rest, rfl⟩ := List.head?_eq_some_iff.1 hhead
          rw [ih, List.getLast?_cons_cons]
        · exact hcons '\r' '\n' text rfl ih
      · rw [withLineFeeds_cons hc]
        exact hcons c c text (if_neg hc) ih

/-- A text is taken apart at any character but a line feed as its file is. -/
theorem exists_of_withLineFeeds_eq (hn : c ≠ '\n') (h : withLineFeeds text = part ++ c :: rest) :
    ∃ part' rest', text = part' ++ c :: rest' ∧ withLineFeeds part' = part ∧
      withLineFeeds rest' = rest := by
  have hhead : ∀ {text part rest : List Char} {d : Char}, text = part ++ c :: rest → d = '\n' →
      (text.head? = some d ↔ part.head? = some d) := by
    rintro text part rest d rfl rfl
    cases part with
    | nil => simpa using hn
    | cons e part => rfl
  induction text generalizing part with
  | nil => simp at h
  | cons d text ih =>
      by_cases hd : d = '\r'
      · subst hd
        rw [withLineFeeds_return] at h
        split at h
        · rename_i hfeed
          obtain ⟨part', rest', htext, rfl, rfl⟩ := ih h
          refine ⟨'\r' :: part', rest', by rw [htext]; rfl, ?_, rfl⟩
          rw [withLineFeeds_return, if_pos ((hhead htext rfl).1 hfeed)]
        · rename_i hfeed
          cases part with
          | nil => exact absurd (List.cons.inj h).1.symm hn
          | cons e part =>
              obtain ⟨rfl, hbehind⟩ := List.cons.inj h
              obtain ⟨part', rest', htext, rfl, rfl⟩ := ih hbehind
              refine ⟨'\r' :: part', rest', by rw [htext]; rfl, ?_, rfl⟩
              rw [withLineFeeds_return, if_neg (mt (hhead htext rfl).2 hfeed)]
      · rw [withLineFeeds_cons hd] at h
        cases part with
        | nil =>
            obtain ⟨rfl, rfl⟩ := List.cons.inj h
            exact ⟨[], text, rfl, rfl, rfl⟩
        | cons e part =>
            obtain ⟨rfl, hbehind⟩ := List.cons.inj h
            obtain ⟨part', rest', rfl, rfl, rfl⟩ := ih hbehind
            exact ⟨d :: part', rest', rfl, withLineFeeds_cons hd part', rfl⟩

/-! ## The mark in front -/

/-- The character that marks a text as such where it stands in front. -/
def markChar : Char := '\ufeff'

def unmarked (text : List Char) : List Char :=
  if text.head? = some markChar then text.tail else text

theorem unmarked_mark (text : List Char) : unmarked (markChar :: text) = text := rfl

theorem unmarked_of_head?_ne (h : text.head? ≠ some markChar) : unmarked text = text :=
  if_neg h

theorem unmarked_eq_self_iff : unmarked text = text ↔ text.head? ≠ some markChar := by
  constructor
  · intro h hmark
    obtain ⟨rest, rfl⟩ := List.head?_eq_some_iff.1 hmark
    rw [unmarked_mark] at h
    exact absurd (congrArg List.length h) (by simp)
  · exact unmarked_of_head?_ne

/-! ## Both -/

/-- The text that is read from a file with a text. -/
def asRead (text : List Char) : List Char := withLineFeeds (unmarked text)

theorem asRead_eq_self_iff :
    asRead text = text ↔ text.head? ≠ some markChar ∧ '\r' ∉ text := by
  constructor
  · intro h
    have hreturn : '\r' ∉ text := h ▸ return_not_mem_withLineFeeds _
    refine ⟨unmarked_eq_self_iff.1 ?_, hreturn⟩
    have hkept : '\r' ∉ unmarked text := by
      unfold unmarked
      split
      · exact fun hmem => hreturn (List.mem_of_mem_tail hmem)
      · exact hreturn
    rwa [asRead, withLineFeeds_eq_self_iff.2 hkept] at h
  · rintro ⟨hmark, hreturn⟩
    rw [asRead, unmarked_of_head?_ne hmark, withLineFeeds_eq_self_iff.2 hreturn]

end Text

theorem Utf8.decodeMarked?_encode (text : List Char) :
    decodeMarked? (encode text) = some (Text.unmarked text) := by
  by_cases hmark : text.head? = some Text.markChar
  · obtain ⟨rest, rfl⟩ := List.head?_eq_some_iff.1 hmark
    have hcode : encodeChar Text.markChar = mark := by decide
    have hdrop : dropMark (encode (Text.markChar :: rest)) = (true, encode rest) := by
      rw [encode_cons, hcode, dropMark, if_pos (List.isPrefixOf_iff_prefix.2 ⟨_, rfl⟩),
        List.drop_left]
    rw [decodeMarked?, hdrop, Text.unmarked_mark]
    exact decode?_encode rest
  · rw [decodeMarked?, dropMark_encode hmark, Text.unmarked_of_head?_ne hmark]
    exact decode?_encode text

theorem Utf8.exists_of_decodeMarked? {bytes : Bytes} {text : List Char}
    (h : decodeMarked? bytes = some text) :
    ∃ raw, bytes = encode raw ∧ Text.unmarked raw = text := by
  have hraw : ∃ raw, bytes = encode raw := by
    have hsplit := dropMark_eq bytes
    rw [← decode?_eq_some_iff.1 h] at hsplit
    split at hsplit
    · exact ⟨Text.markChar :: text, hsplit⟩
    · exact ⟨text, hsplit⟩
  obtain ⟨raw, rfl⟩ := hraw
  rw [decodeMarked?_encode, Option.some.injEq] at h
  exact ⟨raw, rfl, h⟩

theorem Job.on_readText {host : Host} {path : Path} {text : List Char}
    (husable : path.isUsable = true)
    (hread : host.disk.read host.folder path = .ok (Utf8.encode text)) :
    (readText path).on host = (.ok (Text.asRead text), host) := by
  rw [readText, on_bind, on_load_of_read husable hread]
  simp only [Utf8.decodeMarked?_encode]
  rfl

end SetupForge

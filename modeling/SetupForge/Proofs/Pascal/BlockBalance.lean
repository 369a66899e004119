import Mathlib.Data.Nat.Find
import Mathlib.Tactic.Push
import SetupForge.Proofs.Pascal.BlockShape

/-! # Blocks end where they balance

The search for the end of a block counts a depth that never goes below zero. From the first line
that opens a block on, this depth is the number of lines that open one less the number of lines
that close one, as long as these numbers differ: so the block ends on the first line where they
agree, and the limit of the count at zero plays no part.
-/

namespace SetupForge.Pascal

/-! ## Lines that open and close -/

/-- The code text of a line when the reading begins at `start`, empty where there is no line. -/
def codeAt (lines : List String) (start i : Nat) : List Char :=
  ((codeLines none (lines.drop start))[i - start]?.map Prod.fst).getD []

def opensAt (lines : List String) (start i : Nat) : Bool := opensBlock (codeAt lines start i)

def closesAt (lines : List String) (start i : Nat) : Bool := closesBlock (codeAt lines start i)

/-- The number of positions between two, both included, that satisfy a test. -/
def countBetween (test : Nat → Bool) (first last : Nat) : Nat :=
  (List.range' first (last + 1 - first)).countP test

/-- Between two positions as many lines open a block as close one. -/
def Balanced (lines : List String) (start first last : Nat) : Prop :=
  countBetween (opensAt lines start) first last = countBetween (closesAt lines start) first last

instance (lines : List String) (start first last : Nat) :
    Decidable (Balanced lines start first last) := inferInstanceAs (Decidable (_ = _))

/-- The first line at or after `start` that opens a block. -/
structure IsFirstOpener (lines : List String) (start first : Nat) : Prop where
  start_le : start ≤ first
  lt_length : first < lines.length
  opens : opensAt lines start first = true
  before : ∀ i, start ≤ i → i < first → opensAt lines start i = false

/-- The depth behind a line, as the search from `start` counts it. -/
def depthAt (lines : List String) (start i : Nat) : Nat :=
  ((codeLines none (lines.drop start)).take (i + 1 - start)).foldl
    (fun depth scan => depthAfter scan.1 depth) 0

theorem IsFirstOpener.unique {lines : List String} {start first other : Nat}
    (h : IsFirstOpener lines start first) (ho : IsFirstOpener lines start other) :
    first = other := by
  have hle : ¬ first < other := fun hlt => by simpa [h.opens] using ho.before first h.start_le hlt
  have hge : ¬ other < first := fun hlt => by simpa [ho.opens] using h.before other ho.start_le hlt
  omega

theorem countBetween_self (test : Nat → Bool) (first : Nat) :
    countBetween test first first = if test first then 1 else 0 := by
  rw [countBetween, Nat.add_sub_cancel_left, List.range'_one, List.countP_singleton]

theorem countBetween_succ (test : Nat → Bool) {first last : Nat} (h : first ≤ last + 1) :
    countBetween test first (last + 1) =
      countBetween test first last + if test (last + 1) then 1 else 0 := by
  have hlen : last + 1 + 1 - first = last + 1 - first + 1 := by omega
  have hend : first + 1 * (last + 1 - first) = last + 1 := by omega
  rw [countBetween, hlen, List.range'_concat, List.countP_append, hend, List.countP_singleton,
    countBetween]

section Depth

variable {lines : List String} {start first i : Nat}

theorem opensAt_of_length_le (h : lines.length ≤ i) (hs : start ≤ i) :
    opensAt lines start i = false := by
  have hnone : (codeLines none (lines.drop start))[i - start]? = none := by
    rw [List.getElem?_eq_none_iff, length_codeLines, List.length_drop]
    omega
  rw [opensAt, codeAt, hnone]
  decide

theorem depthAfter_nil (depth : Nat) : depthAfter [] depth = depth := by
  have hopen : opensBlock [] = false := by decide
  have hclose : closesBlock [] = false := by decide
  simp [depthAfter, hopen, hclose]

theorem depthAt_self : depthAt lines start start = depthAfter (codeAt lines start start) 0 := by
  rw [depthAt, codeAt, Nat.add_sub_cancel_left, Nat.sub_self]
  cases codeLines none (lines.drop start) with
  | nil => exact (depthAfter_nil 0).symm
  | cons scan scans => rfl

theorem depthAt_succ (h : start ≤ i) : depthAt lines start (i + 1) =
    depthAfter (codeAt lines start (i + 1)) (depthAt lines start i) := by
  have hlen : i + 1 + 1 - start = i + 1 - start + 1 := by omega
  rw [depthAt, hlen, List.take_add_one, List.foldl_append, depthAt, codeAt]
  cases (codeLines none (lines.drop start))[i + 1 - start]? with
  | none => exact (depthAfter_nil _).symm
  | some scan => rfl

theorem depthAt_eq_zero (hs : start ≤ i)
    (h : ∀ j, start ≤ j → j ≤ i → opensAt lines start j = false) : depthAt lines start i = 0 := by
  have hzero : ∀ j, start ≤ j → j ≤ i → depthAfter (codeAt lines start j) 0 = 0 := by
    intro j hj hji
    have hno : opensBlock (codeAt lines start j) = false := h j hj hji
    simp [depthAfter, hno]
  induction i, hs using Nat.le_induction with
  | base => rw [depthAt_self, hzero start (Nat.le_refl _) (Nat.le_refl _)]
  | succ i hi ih =>
      rw [depthAt_succ hi, ih (fun j hj hji => h j hj (by omega)) fun j hj hji =>
        hzero j hj (by omega), hzero (i + 1) (by omega) (Nat.le_refl _)]

theorem depthAt_first (h : IsFirstOpener lines start first) :
    depthAt lines start first = depthAfter (codeAt lines start first) 0 := by
  obtain ⟨hs, -, -, hbefore⟩ := h
  rcases Nat.eq_or_lt_of_le hs with rfl | hlt
  · exact depthAt_self
  · obtain ⟨k, rfl⟩ : ∃ k, first = k + 1 := ⟨first - 1, by omega⟩
    rw [depthAt_succ (by omega), depthAt_eq_zero (by omega) fun j hj hjk =>
      hbefore j hj (by omega)]

/-- Below the surface, or where a block is opened, the limit at zero plays no part. -/
theorem depthAfter_add {text : List Char} (depth : Nat) (h : 0 < depth ∨ opensBlock text = true) :
    depthAfter text depth + (if closesBlock text then 1 else 0) =
      depth + if opensBlock text then 1 else 0 := by
  unfold depthAfter
  cases ho : opensBlock text <;> cases hc : closesBlock text <;> simp [ho] at h ⊢
  omega

/-- From the first opener on, up to the first balance, the depth is the number of openers less
the number of closers. -/
theorem depthAt_add (h : IsFirstOpener lines start first) (hi : first ≤ i)
    (hno : ∀ j, first ≤ j → j < i → ¬ Balanced lines start first j) :
    depthAt lines start i + countBetween (closesAt lines start) first i =
      countBetween (opensAt lines start) first i := by
  induction i, hi using Nat.le_induction with
  | base =>
      have hline := depthAfter_add 0 (Or.inr h.opens)
      rw [Nat.zero_add] at hline
      rw [depthAt_first h, countBetween_self, countBetween_self]
      exact hline
  | succ i hi ih =>
      have hdepth := ih fun j hj hji => hno j hj (by omega)
      have hpos : 0 < depthAt lines start i := by
        have hne := hno i hi (by omega)
        rw [Balanced] at hne
        omega
      have hline : depthAfter (codeAt lines start (i + 1)) (depthAt lines start i) +
            (if closesAt lines start (i + 1) then 1 else 0) =
          depthAt lines start i + if opensAt lines start (i + 1) then 1 else 0 :=
        depthAfter_add _ (Or.inl hpos)
      rw [depthAt_succ (Nat.le_trans h.start_le hi), countBetween_succ _ (by omega),
        countBetween_succ _ (by omega)]
      omega

end Depth

/-! ## Where the search stops -/

/-- The search may stop behind the line at position `n`: some line up to there opens a block, and
the depth is back at zero. -/
def Stops (pending : Option Comment) (used : Bool) (depth : Nat) (lines : List String)
    (n : Nat) : Prop :=
  (used || ((codeLines pending lines).take (n + 1)).any fun scan => opensBlock scan.1) = true ∧
    ((codeLines pending lines).take (n + 1)).foldl
      (fun depth scan => depthAfter scan.1 depth) depth = 0

/-- The search ends on the first line behind which it stops. -/
theorem blockLength?_eq_some_iff {pending : Option Comment} {used : Bool} {depth n : Nat}
    {lines : List String} :
    blockLength? pending used depth lines = some n ↔
      n < lines.length ∧ Stops pending used depth lines n ∧
        ∀ m, m < n → ¬ Stops pending used depth lines m := by
  induction lines generalizing pending used depth n with
  | nil => simp [blockLength?]
  | cons line lines ih =>
      have hzero : Stops pending used depth (line :: lines) 0 ↔
          ((used || opensBlock (code pending line.toList).1) &&
            depthAfter (code pending line.toList).1 depth == 0) = true := by
        simp [Stops, codeLines]
      have hsucc : ∀ m, Stops pending used depth (line :: lines) (m + 1) ↔
          Stops (code pending line.toList).2 (used || opensBlock (code pending line.toList).1)
            (depthAfter (code pending line.toList).1 depth) lines m := by
        intro m
        simp [Stops, codeLines, Bool.or_assoc]
      rw [blockLength?]
      split
      · rename_i hstop
        rw [Option.some.injEq]
        constructor
        · rintro rfl
          exact ⟨by simp, hzero.2 hstop, by simp⟩
        · rintro ⟨-, -, hfirst⟩
          by_contra hn
          exact hfirst 0 (by omega) (hzero.2 hstop)
      · rename_i hstop
        rw [Option.map_eq_some_iff]
        constructor
        · rintro ⟨m, hm, rfl⟩
          obtain ⟨hlt, hend, hfirst⟩ := ih.1 hm
          refine ⟨by simpa using hlt, (hsucc m).2 hend, ?_⟩
          rintro (- | k) hk
          · exact fun h => hstop (hzero.1 h)
          · exact fun h => hfirst k (by omega) ((hsucc k).1 h)
        · rintro ⟨hlt, hend, hfirst⟩
          cases n with
          | zero => exact absurd (hzero.1 hend) hstop
          | succ n =>
              refine ⟨n, ih.2 ⟨by simpa using hlt, (hsucc n).1 hend, ?_⟩, rfl⟩
              exact fun m hm h => hfirst (m + 1) (by omega) ((hsucc m).2 h)

section Search

variable {lines : List String} {start first last i : Nat}

theorem stops_iff (h : start ≤ i) :
    Stops none false 0 (lines.drop start) (i - start) ↔
      (∃ j, start ≤ j ∧ j ≤ i ∧ opensAt lines start j = true) ∧ depthAt lines start i = 0 := by
  have hlen : i - start + 1 = i + 1 - start := by omega
  rw [Stops, hlen, Bool.false_or]
  refine and_congr ?_ Iff.rfl
  rw [List.any_eq_true]
  constructor
  · rintro ⟨scan, hmem, hopen⟩
    obtain ⟨k, hk, rfl⟩ := List.getElem_of_mem hmem
    rw [List.length_take] at hk
    refine ⟨start + k, by omega, by omega, ?_⟩
    rw [opensAt, codeAt, Nat.add_sub_cancel_left, List.getElem?_eq_getElem (by omega)]
    simpa using hopen
  · rintro ⟨j, hj, hji, hopen⟩
    have hlt : j < lines.length := by
      by_contra hge
      rw [opensAt_of_length_le (by omega) hj] at hopen
      simp at hopen
    have hget : j - start < (codeLines none (lines.drop start)).length := by
      rw [length_codeLines, List.length_drop]
      omega
    rw [opensAt, codeAt, List.getElem?_eq_getElem hget] at hopen
    refine ⟨_, List.mem_take_iff_getElem.2 ⟨j - start, by omega, rfl⟩, hopen⟩

theorem blockEnd?_eq_some_iff :
    blockEnd? lines start = some last ↔ start ≤ last ∧ last < lines.length ∧
      Stops none false 0 (lines.drop start) (last - start) ∧
        ∀ i, start ≤ i → i < last → ¬ Stops none false 0 (lines.drop start) (i - start) := by
  rw [blockEnd?, Option.map_eq_some_iff]
  constructor
  · rintro ⟨n, hn, rfl⟩
    obtain ⟨hlt, hend, hfirst⟩ := blockLength?_eq_some_iff.1 hn
    rw [List.length_drop] at hlt
    refine ⟨by omega, by omega, by rwa [Nat.add_sub_cancel], ?_⟩
    exact fun i hi hin => hfirst (i - start) (by omega)
  · rintro ⟨hs, hlt, hend, hfirst⟩
    refine ⟨last - start, blockLength?_eq_some_iff.2 ⟨?_, hend, ?_⟩, by omega⟩
    · rw [List.length_drop]
      omega
    · intro m hm
      have hno := hfirst (start + m) (by omega) (by omega)
      rwa [Nat.add_sub_cancel_left] at hno

theorem exists_isFirstOpener {j : Nat} (hs : start ≤ j) (hopen : opensAt lines start j = true) :
    ∃ first, IsFirstOpener lines start first ∧ first ≤ j := by
  have hex : ∃ k, start ≤ k ∧ opensAt lines start k = true := ⟨j, hs, hopen⟩
  obtain ⟨hle, hfirst⟩ := Nat.find_spec hex
  refine ⟨Nat.find hex, ⟨hle, ?_, hfirst, ?_⟩, Nat.find_min' hex ⟨hs, hopen⟩⟩
  · by_contra hge
    rw [opensAt_of_length_le (by omega) hle] at hfirst
    simp at hfirst
  · intro i hi hlt
    have hno := Nat.find_min hex hlt
    simpa [hi] using hno

/-- Up to the first balance the search stops where the lines balance. -/
theorem stops_iff_balanced (h : IsFirstOpener lines start first) (hi : first ≤ i)
    (hno : ∀ j, first ≤ j → j < i → ¬ Balanced lines start first j) :
    Stops none false 0 (lines.drop start) (i - start) ↔ Balanced lines start first i := by
  have hdepth := depthAt_add h hi hno
  have hused : ∃ j, start ≤ j ∧ j ≤ i ∧ opensAt lines start j = true :=
    ⟨first, h.start_le, hi, h.opens⟩
  rw [stops_iff (Nat.le_trans h.start_le hi), and_iff_right hused, Balanced]
  omega

/-- The block ends on the first line where the openers and the closers balance. -/
theorem blockEnd?_eq_some_iff_balanced :
    blockEnd? lines start = some last ↔ ∃ first, IsFirstOpener lines start first ∧
      first ≤ last ∧ last < lines.length ∧ Balanced lines start first last ∧
        ∀ i, first ≤ i → i < last → ¬ Balanced lines start first i := by
  rw [blockEnd?_eq_some_iff]
  constructor
  · rintro ⟨hs, hlt, hend, hbefore⟩
    obtain ⟨⟨j, hj, hjl, hopen⟩, -⟩ := (stops_iff hs).1 hend
    obtain ⟨first, hfirst, hle⟩ := exists_isFirstOpener hj hopen
    have hno : ∀ i, first ≤ i → i < last → ¬ Balanced lines start first i := by
      intro i
      induction i using Nat.strong_induction_on with
      | h i ih =>
          intro hi hil hbalanced
          refine hbefore i (Nat.le_trans hfirst.start_le hi) hil ?_
          exact (stops_iff_balanced hfirst hi fun j hj hji =>
            ih j hji hj (by omega)).2 hbalanced
    have hfl : first ≤ last := by omega
    exact ⟨first, hfirst, hfl, hlt, (stops_iff_balanced hfirst hfl hno).1 hend, hno⟩
  · rintro ⟨first, hfirst, hle, hlt, hbalanced, hno⟩
    refine ⟨Nat.le_trans hfirst.start_le hle, hlt,
      (stops_iff_balanced hfirst hle hno).2 hbalanced, ?_⟩
    intro i hi hil hstop
    by_cases hfi : first ≤ i
    · exact hno i hfi hil ((stops_iff_balanced hfirst hfi fun j hj hji =>
        hno j hj (by omega)).1 hstop)
    · obtain ⟨⟨j, hj, hji, hopen⟩, -⟩ := (stops_iff hi).1 hstop
      rw [hfirst.before j hj (by omega)] at hopen
      simp at hopen

theorem blockEnd?_eq_none_iff_balanced :
    blockEnd? lines start = none ↔ lines.length ≤ start ∨
      (∀ i, start ≤ i → i < lines.length → opensAt lines start i = false) ∨
        ∃ first, IsFirstOpener lines start first ∧
          ∀ i, first ≤ i → i < lines.length → ¬ Balanced lines start first i := by
  constructor
  · intro hnone
    by_contra! hcon
    obtain ⟨hlt, ⟨j, hj, hjl, hopen⟩, hbalance⟩ := hcon
    rw [ne_eq, Bool.not_eq_false] at hopen
    obtain ⟨first, hfirst, -⟩ := exists_isFirstOpener hj hopen
    have hex := hbalance first hfirst
    obtain ⟨hle, hlast, hbalanced⟩ := Nat.find_spec hex
    have hsome : blockEnd? lines start = some (Nat.find hex) := by
      refine blockEnd?_eq_some_iff_balanced.2 ⟨first, hfirst, hle, hlast, hbalanced, ?_⟩
      intro i hi hil hb
      exact Nat.find_min hex hil ⟨hi, by omega, hb⟩
    rw [hnone] at hsome
    simp at hsome
  · rintro h
    by_contra hsome
    obtain ⟨last, hlast⟩ := Option.ne_none_iff_exists'.1 hsome
    obtain ⟨first, hfirst, hle, hlt, hbalanced, -⟩ := blockEnd?_eq_some_iff_balanced.1 hlast
    have hstart := hfirst.start_le
    rcases h with hout | hclosed | ⟨other, hother, hno⟩
    · omega
    · have hopen := hfirst.opens
      rw [hclosed first hstart hfirst.lt_length] at hopen
      simp at hopen
    · obtain rfl := hother.unique hfirst
      exact hno last hle hlt hbalanced

/-- The lines from the start to the end of a block decide where it ends. -/
theorem blockEnd?_congr {other : List String} (h : blockEnd? lines start = some last)
    (hsame : ∀ i, start ≤ i → i ≤ last → other[i]? = lines[i]?) :
    blockEnd? other start = some last := by
  rw [blockEnd?, Option.map_eq_some_iff] at h ⊢
  obtain ⟨n, hn, rfl⟩ := h
  have htake : (other.drop start).take (n + 1) = (lines.drop start).take (n + 1) := by
    refine List.ext_getElem? fun k => ?_
    rw [List.getElem?_take, List.getElem?_take, List.getElem?_drop, List.getElem?_drop]
    split
    · exact hsame (start + k) (by omega) (by omega)
    · rfl
  exact ⟨n, blockLength?_of_take_eq hn htake, rfl⟩

end Search

/-- The end of a block. It is the first line, from the first opener on, up to which as many lines
have opened a block as have closed one; there is none if the start is not among the lines, if no
line opens a block, or if the lines never balance. Up to there the depth that the search counts is
the number of openers less the number of closers, so its limit at zero plays no part, and the
lines from the start to the end alone decide. -/
theorem blockEndAt?_characterized (lines : List String) (start : Int) :
    (∀ last, blockEndAt? lines start = some last ↔ 0 ≤ start ∧
      ∃ first, IsFirstOpener lines start.toNat first ∧ first ≤ last ∧ last < lines.length ∧
        Balanced lines start.toNat first last ∧
          ∀ i, first ≤ i → i < last → ¬ Balanced lines start.toNat first i) ∧
    (blockEndAt? lines start = none ↔ start < 0 ∨ lines.length ≤ start ∨
      (∀ i : Nat, start ≤ i → i < lines.length → opensAt lines start.toNat i = false) ∨
        ∃ first, IsFirstOpener lines start.toNat first ∧
          ∀ i, first ≤ i → i < lines.length → ¬ Balanced lines start.toNat first i) ∧
    (∀ first i, IsFirstOpener lines start.toNat first → first ≤ i →
      (∀ j, first ≤ j → j < i → ¬ Balanced lines start.toNat first j) →
        depthAt lines start.toNat i + countBetween (closesAt lines start.toNat) first i =
          countBetween (opensAt lines start.toNat) first i) ∧
    (∀ last other, blockEndAt? lines start = some last →
      (∀ i : Nat, start ≤ i → i ≤ last → other[i]? = lines[i]?) →
        blockEndAt? other start = some last) := by
  by_cases hneg : start < 0
  · have hnone : ∀ other, blockEndAt? other start = none := fun other => if_pos hneg
    have hnot : ¬ 0 ≤ start := by omega
    refine ⟨fun last => ?_, ?_, fun first i hfirst hi hno => depthAt_add hfirst hi hno, ?_⟩
    · simp [hnone, hnot]
    · simp [hnone, hneg]
    · simp [hnone]
  · obtain ⟨n, rfl⟩ := Int.eq_ofNat_of_zero_le (Int.not_lt.1 hneg)
    have hsome : ∀ other, blockEndAt? other n = blockEnd? other n := fun other => if_neg hneg
    simp only [Int.toNat_natCast, hsome, Int.natCast_nonneg, true_and, hneg, false_or,
      Int.ofNat_le]
    exact ⟨fun last => blockEnd?_eq_some_iff_balanced, blockEnd?_eq_none_iff_balanced,
      fun first i hfirst hi hno => depthAt_add hfirst hi hno,
      fun last other hlast hsame => blockEnd?_congr hlast hsame⟩

end SetupForge.Pascal

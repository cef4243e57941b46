import VolatilityDesk.Proofs.Risk.Step
import VolatilityDesk.Proofs.Signal.Ranking
import VolatilityDesk.Signal.Report
/-!
# Summaries of limited length

A summary takes up the rows of its signals one by one, as long as a footer for the row and all
behind it would still fit. Which rows stand in it is fixed by that alone (`Cut`), and everything
else follows from lengths: a footer for fewer signals is not longer, and a row is longer than a
footer ever shrinks. So a summary keeps to its limit and says how many signals it leaves out
(`summary_accounts`); but it keeps room for a footer also behind its last row, where none comes, and
drops that row when only the room for the footer is missing (`full_iff_room_for_footer`).

* `summary_accounts` — a summary keeps to its limit and accounts for all signals.
* `full_iff_room_for_footer` — when all rows are shown.
* `exists_cut` — where a summary is cut.
-/

namespace VolatilityDesk

/-! ### Lengths of lines -/

theorem joinLines_append_singleton {lines : List String} (some_line : lines ≠ []) (line : String) :
    joinLines (lines ++ [line]) = joinLines lines ++ "\n" ++ line := by
  rw [joinLines, String.intercalate_append_of_ne_nil some_line (List.cons_ne_nil _ _),
    String.intercalate_singleton, joinLines]

theorem joinLines_pair {lines : List String} (some_line : lines ≠ []) (line : String) :
    joinLines [joinLines lines, line] = joinLines (lines ++ [line]) := by
  have single : joinLines [joinLines lines] = joinLines lines := String.intercalate_singleton
  have pair := joinLines_append_singleton (List.cons_ne_nil (joinLines lines) []) line
  rw [single] at pair
  rw [joinLines_append_singleton some_line]
  exact pair

theorem length_joinLines_append {lines : List String} (some_line : lines ≠ [])
    (more : List String) :
    (joinLines (lines ++ more)).length =
      (joinLines lines).length + (more.map fun line => line.length + 1).sum := by
  induction more generalizing lines with
  | nil => simp
  | cons line rest ih =>
    have first := joinLines_append_singleton some_line line
    have moved : lines ++ line :: rest = (lines ++ [line]) ++ rest := by simp
    have feed : "\n".length = 1 := rfl
    rw [moved, ih (by simp), first, String.length_append, String.length_append, feed, List.map_cons,
      List.sum_cons]
    omega

namespace Signal

/-! ### Rows and footers -/

theorem summaryFooter_eq (missing : Nat) :
    summaryFooter missing = "... and " ++ Nat.repr missing ++ " more" := rfl

theorem summaryRow_eq (s : Signal Float) :
    summaryRow s = "| " ++ s.direction.text ++ " | " ++ s.instrument ++ " | " ++ dollars s.entry ++
      " | " ++ (FixedFormat.cents.text s.expectedReturn ++ "% |") := rfl

theorem length_summaryFooter (missing : Nat) :
    (summaryFooter missing).length = 13 + (Nat.repr missing).length := by
  have before : "... and ".length = 8 := rfl
  have behind : " more".length = 5 := rfl
  rw [summaryFooter_eq, String.length_append, String.length_append, before, behind]
  omega

theorem length_summaryFooter_one : (summaryFooter 1).length = 14 := by
  rw [length_summaryFooter]
  rfl

/-- A footer for fewer signals is not longer. -/
theorem length_summaryFooter_le {few many : Nat} (fewer : few ≤ many) :
    (summaryFooter few).length ≤ (summaryFooter many).length := by
  have fits := (Nat.length_repr_le_iff (Nat.length_repr_pos (n := many))).mp le_rfl
  have digits := (Nat.length_repr_le_iff Nat.length_repr_pos).mpr (fewer.trans_lt fits)
  rw [length_summaryFooter, length_summaryFooter]
  omega

/-- A footer has at most one digit for each signal that it counts. -/
theorem length_summaryFooter_le_add {missing : Nat} (some_missing : 0 < missing) :
    (summaryFooter missing).length ≤ 13 + missing := by
  have digits := (Nat.length_repr_le_iff some_missing).mpr (Nat.lt_pow_self (by decide))
  rw [length_summaryFooter]
  omega

theorem length_summaryRow (s : Signal Float) : 18 ≤ (summaryRow s).length := by
  have direction : 3 ≤ s.direction.text.length := by cases s.direction <;> decide
  have lengths : "| ".length = 2 ∧ " | ".length = 3 ∧ "$".length = 1 ∧ "% |".length = 3 := by decide
  obtain ⟨opening, between, sign, closing⟩ := lengths
  simp only [summaryRow_eq, dollars, String.length_append, opening, between, sign, closing]
  omega

/-! ### Where a summary is cut -/

/-- The line about missing signals; there is none when none is missing. -/
def footerLines : Nat → List String
  | 0 => []
  | missing + 1 => [summaryFooter (missing + 1)]

/-- A summary with so many of its rows. -/
def withRows (heading : List String) (ordered : List (Signal Float)) (shown : Nat) : String :=
  joinLines (heading ++ (ordered.take shown).map summaryRow ++
    footerLines (ordered.length - shown))

/-- The characters with one row more, and with a footer for this row and all behind it. -/
def needed (heading : List String) (ordered : List (Signal Float)) (shown : Nat) : Nat :=
  (joinLines (heading ++ (ordered.take (shown + 1)).map summaryRow ++
    [summaryFooter (ordered.length - shown)])).length

/-- So many rows are shown: for each of them there was room with a footer, for the next one there is
none. -/
structure Cut (limit : Int) (heading : List String) (ordered : List (Signal Float))
    (shown : Nat) : Prop where
  shown_le : shown ≤ ordered.length
  room : ∀ i < shown, (needed heading ordered i : Int) ≤ limit
  full : shown < ordered.length → limit < needed heading ordered shown

section Cut

variable {limit : Int} {heading : List String} {s : Signal Float}
  {ordered rest : List (Signal Float)}
  {shown : Nat}

theorem needed_cons_succ (heading : List String) (s : Signal Float) (rest : List (Signal Float))
    (shown : Nat) :
    needed heading (s :: rest) (shown + 1) = needed (heading ++ [summaryRow s]) rest shown := by
  simp [needed]

theorem withRows_cons_succ (heading : List String) (s : Signal Float) (rest : List (Signal Float))
    (shown : Nat) :
    withRows heading (s :: rest) (shown + 1) = withRows (heading ++ [summaryRow s]) rest shown := by
  simp [withRows]

theorem Cut.cons (room : (needed heading (s :: rest) 0 : Int) ≤ limit)
    (cut : Cut limit (heading ++ [summaryRow s]) rest shown) :
    Cut limit heading (s :: rest) (shown + 1) where
  shown_le := Nat.succ_le_succ cut.shown_le
  room i before := by
    cases i with
    | zero => exact room
    | succ i =>
      rw [needed_cons_succ]
      exact cut.room i (Nat.lt_of_succ_lt_succ before)
  full missing := by
    rw [needed_cons_succ]
    exact cut.full (Nat.lt_of_succ_lt_succ missing)

/-- Adding rows one by one ends at the cut. -/
theorem exists_cut (limit : Int) (some_line : heading ≠ []) (ordered : List (Signal Float)) :
    ∃ shown, Cut limit heading ordered shown ∧
      appendRows limit (joinLines heading) ordered = withRows heading ordered shown := by
  induction ordered generalizing heading with
  | nil => exact ⟨0, ⟨le_rfl, nofun, nofun⟩, by simp [appendRows, withRows, footerLines]⟩
  | cons s rest ih =>
    have longer := joinLines_pair some_line (summaryRow s)
    have footed := joinLines_pair (List.append_ne_nil_of_left_ne_nil some_line [summaryRow s])
      (summaryFooter (rest.length + 1))
    have first : needed heading (s :: rest) 0 =
        (joinLines (heading ++ [summaryRow s] ++ [summaryFooter (rest.length + 1)])).length := rfl
    rw [appendRows, longer, footed, ← first]
    split
    · rename_i beyond
      refine ⟨0, ⟨Nat.zero_le _, nofun, fun _ => beyond⟩, ?_⟩
      rw [joinLines_pair some_line]
      simp [withRows, footerLines]
    · rename_i within
      obtain ⟨shown, cut, text⟩ := ih (List.append_ne_nil_of_left_ne_nil some_line [summaryRow s])
      refine ⟨shown + 1, cut.cons (not_lt.mp within), ?_⟩
      rw [text, withRows_cons_succ]

end Cut

/-! ### Lengths of summaries -/

/-- The characters that rows add to a text. -/
def rowsLength (rows : List (Signal Float)) : Nat :=
  (rows.map fun s => (summaryRow s).length + 1).sum

/-- The rows from a place on are as long as all rows less those before it. -/
theorem rowsLength_eq (ordered : List (Signal Float)) (shown : Nat) :
    rowsLength ordered = rowsLength (ordered.take shown) + rowsLength (ordered.drop shown) := by
  rw [rowsLength, rowsLength, rowsLength, ← List.sum_append, ← List.map_append,
    List.take_append_drop]

theorem le_rowsLength (rows : List (Signal Float)) : 19 * rows.length ≤ rowsLength rows := by
  induction rows with
  | nil => simp [rowsLength]
  | cons s rest ih =>
    have row := length_summaryRow s
    rw [rowsLength] at ih ⊢
    rw [List.map_cons, List.sum_cons, List.length_cons]
    omega

section Lengths

variable {limit : Int} {heading : List String} {ordered : List (Signal Float)} {shown : Nat}

theorem length_joinLines_rows (some_line : heading ≠ []) (rows : List (Signal Float)) :
    (joinLines (heading ++ rows.map summaryRow)).length =
      (joinLines heading).length + rowsLength rows := by
  rw [length_joinLines_append some_line, rowsLength, List.map_map]
  rfl

theorem length_joinLines_footer (some_line : heading ≠ []) (rows : List (Signal Float))
    (footer : List String) :
    (joinLines (heading ++ rows.map summaryRow ++ footer)).length =
      (joinLines heading).length + rowsLength rows +
        (footer.map fun line => line.length + 1).sum := by
  rw [length_joinLines_append (List.append_ne_nil_of_left_ne_nil some_line _),
    length_joinLines_rows some_line]

theorem needed_eq (some_line : heading ≠ []) (ordered : List (Signal Float)) (shown : Nat) :
    needed heading ordered shown = (joinLines heading).length +
      rowsLength (ordered.take (shown + 1)) +
        ((summaryFooter (ordered.length - shown)).length + 1) := by
  rw [needed, length_joinLines_footer some_line]
  simp

theorem length_withRows (some_line : heading ≠ []) (ordered : List (Signal Float)) (shown : Nat) :
    (withRows heading ordered shown).length = (joinLines heading).length +
      rowsLength (ordered.take shown) +
        ((footerLines (ordered.length - shown)).map fun line => line.length + 1).sum :=
  length_joinLines_footer some_line _ _

theorem withRows_all (heading : List String) (ordered : List (Signal Float)) :
    withRows heading ordered ordered.length =
      joinLines (heading ++ ordered.map summaryRow) := by
  simp [withRows, footerLines]

theorem withRows_of_lt (missing : shown < ordered.length) :
    withRows heading ordered shown =
      joinLines (heading ++ (ordered.take shown).map summaryRow ++
        [summaryFooter (ordered.length - shown)]) := by
  obtain ⟨rest, count⟩ := Nat.exists_eq_add_of_lt missing
  have left : ordered.length - shown = rest + 1 := by omega
  rw [withRows, left, footerLines]

/-- With one row more and a footer for the others, a summary is not longer than with this row and
the footer that was kept room for. -/
theorem length_withRows_succ_le (some_line : heading ≠ []) (ordered : List (Signal Float))
    (shown : Nat) :
    (withRows heading ordered (shown + 1)).length ≤ needed heading ordered shown := by
  rw [length_withRows some_line, needed_eq some_line]
  have shorter :
      ((footerLines (ordered.length - (shown + 1))).map fun line => line.length + 1).sum ≤
        (summaryFooter (ordered.length - shown)).length + 1 := by
    cases left : ordered.length - (shown + 1) with
    | zero => simp [footerLines]
    | succ missing =>
      have fewer : (summaryFooter (missing + 1)).length ≤
          (summaryFooter (ordered.length - shown)).length := length_summaryFooter_le (by omega)
      simpa [footerLines] using fewer
  omega

/-- A summary keeps to its limit where the heading and a footer for all signals do. -/
theorem Cut.length_le (cut : Cut limit heading ordered shown) (some_line : heading ≠ [])
    (some_signal : ordered ≠ [])
    (room : ((joinLines (heading ++ [summaryFooter ordered.length])).length : Int) ≤ limit) :
    ((withRows heading ordered shown).length : Int) ≤ limit := by
  cases shown with
  | zero =>
    rw [withRows_of_lt (List.length_pos_of_ne_nil some_signal)]
    simpa using room
  | succ shown =>
    have kept := cut.room shown (Nat.lt_succ_self shown)
    have shorter := length_withRows_succ_le some_line ordered shown
    omega

/-- Behind the last row room is kept for a footer about one signal. -/
theorem Cut.all_iff (cut : Cut limit heading ordered shown) (some_line : heading ≠ [])
    (some_signal : ordered ≠ []) :
    shown = ordered.length ↔
      ((joinLines (heading ++ ordered.map summaryRow)).length : Int) + 15 ≤ limit := by
  have positive := List.length_pos_of_ne_nil some_signal
  have whole := length_joinLines_rows some_line ordered
  constructor
  · intro all
    obtain ⟨before, count⟩ := Nat.exists_eq_succ_of_ne_zero positive.ne'
    have kept := cut.room before (by omega)
    have last : ordered.length - before = 1 := by omega
    have everything : ordered.take (before + 1) = ordered := List.take_of_length_le (by omega)
    rw [needed_eq some_line, last, length_summaryFooter_one, everything] at kept
    omega
  · intro fits
    by_contra notAll
    have missing : shown < ordered.length := lt_of_le_of_ne cut.shown_le notAll
    have beyond := cut.full missing
    have parts := rowsLength_eq ordered (shown + 1)
    have others := le_rowsLength (ordered.drop (shown + 1))
    have footer : (summaryFooter (ordered.length - shown)).length ≤ 13 + (ordered.length - shown) :=
      length_summaryFooter_le_add (by omega)
    rw [List.length_drop] at others
    rw [needed_eq some_line] at beyond
    omega

/-- Where all rows fit without a footer, at most the last one is left out. -/
theorem Cut.length_le_succ (cut : Cut limit heading ordered shown) (some_line : heading ≠ [])
    (fits : ((joinLines (heading ++ ordered.map summaryRow)).length : Int) ≤ limit) :
    ordered.length ≤ shown + 1 := by
  by_contra several
  have whole := length_joinLines_rows some_line ordered
  have beyond := cut.full (by omega)
  have parts := rowsLength_eq ordered (shown + 1)
  have others := le_rowsLength (ordered.drop (shown + 1))
  have footer : (summaryFooter (ordered.length - shown)).length ≤ 13 + (ordered.length - shown) :=
    length_summaryFooter_le_add (by omega)
  rw [List.length_drop] at others
  rw [needed_eq some_line] at beyond
  omega

end Lengths

/-! ### The summary of a scan -/

/-- The lines above the rows, the columns among them if there are rows. -/
def summaryHeading (now : Timestamp) (signals : List (Signal Float)) : List String :=
  summaryHead now signals.length ++ if signals.isEmpty then [] else summaryColumns

/-- The summary with all rows and no footer. -/
def fullSummary (now : Timestamp) (signals : List (Signal Float)) : String :=
  joinLines (summaryHeading now signals ++ (ranked signals).map summaryRow)

theorem summaryHeading_ne_nil (now : Timestamp) (signals : List (Signal Float)) :
    summaryHeading now signals ≠ [] := by
  simp [summaryHeading, summaryHead]

theorem ranked_ne_nil {signals : List (Signal Float)} (some_signal : signals ≠ []) :
    ranked signals ≠ [] := by
  rw [← List.length_pos_iff, length_ranked]
  exact List.length_pos_of_ne_nil some_signal

theorem summary_nil (now : Timestamp) (limit : Int) :
    summary now limit [] = fullSummary now [] := by
  simp [summary, fullSummary, summaryHeading, ranked]

theorem exists_cut_summary (now : Timestamp) (limit : Int) {signals : List (Signal Float)}
    (some_signal : signals ≠ []) :
    ∃ shown, Cut limit (summaryHeading now signals) (ranked signals) shown ∧
      summary now limit signals = withRows (summaryHeading now signals) (ranked signals) shown := by
  have some_row : signals.isEmpty = false := by simpa using some_signal
  have heading : summaryHeading now signals = summaryHead now signals.length ++ summaryColumns := by
    simp [summaryHeading, some_signal]
  obtain ⟨shown, cut, text⟩ :=
    exists_cut limit (summaryHeading_ne_nil now signals) (ranked signals)
  refine ⟨shown, cut, ?_⟩
  rw [← text, heading, summary, some_row]
  rfl

theorem exists_toList_summaryFooter (missing : Nat) :
    ∃ front, (summaryFooter missing).toList = front ++ ['e'] :=
  ⟨("... and " ++ Nat.repr missing ++ " mor").toList, by simp [summaryFooter_eq]⟩

theorem exists_toList_summaryRow (s : Signal Float) :
    ∃ front, (summaryRow s).toList = front ++ ['|'] :=
  ⟨("| " ++ s.direction.text ++ " | " ++ s.instrument ++ " | " ++ dollars s.entry ++ " | " ++
    (FixedFormat.cents.text s.expectedReturn ++ "% ")).toList, by simp [summaryRow_eq]⟩

/-- What ends in a row does not end in a footer. -/
theorem not_footer_suffix {heading : List String} (some_line : heading ≠ [])
    {rows : List (Signal Float)} (some_row : rows ≠ []) (missing : Nat) :
    ¬ (summaryFooter missing).toList <:+ (joinLines (heading ++ rows.map summaryRow)).toList := by
  rintro ⟨front, same⟩
  obtain ⟨before, s, rfl⟩ := (List.eq_nil_or_concat rows).resolve_left some_row
  have lines : heading ++ (before.concat s).map summaryRow =
      heading ++ before.map summaryRow ++ [summaryRow s] := by simp
  rw [lines, joinLines_append_singleton (List.append_ne_nil_of_left_ne_nil some_line _)] at same
  obtain ⟨footer, ending⟩ := exists_toList_summaryFooter missing
  obtain ⟨row, ending'⟩ := exists_toList_summaryRow s
  rw [String.toList_append, ending, ending', ← List.append_assoc, ← List.append_assoc] at same
  have last := (List.append_inj' same rfl).2
  simp at last

/-- **A summary fits and accounts for every signal.** Where there is room for the heading and a
footer about all signals, a summary keeps to its limit. It shows the first rows of the ranking, and
ends in the number of those that it leaves out, or in a row when it leaves out none. -/
theorem summary_accounts (now : Timestamp) {limit : Int} {signals : List (Signal Float)}
    (some_signal : signals ≠ [])
    (room : ((joinLines
      (summaryHeading now signals ++ [summaryFooter signals.length])).length : Int) ≤ limit) :
    ((summary now limit signals).length : Int) ≤ limit ∧
    (ranked signals).Perm signals ∧
    ((∀ s ∈ signals, s.Comparable) → Ranking signals (ranked signals)) ∧
    ∃ shown ≤ signals.length,
      (shown < signals.length → summary now limit signals =
        joinLines (summaryHeading now signals ++ ((ranked signals).take shown).map summaryRow ++
          [summaryFooter (signals.length - shown)])) ∧
      (shown = signals.length →
        summary now limit signals =
          joinLines (summaryHeading now signals ++ (ranked signals).map summaryRow) ∧
        ∀ missing, ¬ (summaryFooter missing).toList <:+ (summary now limit signals).toList) := by
  have some_line := summaryHeading_ne_nil now signals
  obtain ⟨shown, cut, text⟩ := exists_cut_summary now limit some_signal
  have fits := cut.length_le some_line (ranked_ne_nil some_signal) (by rwa [length_ranked])
  have bounded := cut.shown_le
  rw [length_ranked] at bounded
  rw [text]
  refine ⟨fits, List.mergeSort_perm _ _, ranking_ranked, shown, bounded, ?_, ?_⟩
  · intro missing
    rw [withRows_of_lt (by rwa [length_ranked]), length_ranked]
  · intro all
    rw [all, ← length_ranked signals, withRows_all]
    exact ⟨rfl, not_footer_suffix some_line (ranked_ne_nil some_signal)⟩

/-- A signal to buy and one to sell, of one rank. -/
def pair : List (Signal Float) :=
  [RiskDesk.sampleSignal "AAPL" .buy, RiskDesk.sampleSignal "MSFT" .sell]

/-- A summary of two signals that may have 160 characters shows both in their order, or the first of
them and how many are missing. -/
theorem summary_accounts_pair :
    let now := RiskDesk.noon 739446
    let heading := summaryHeading now pair
    pair ≠ [] ∧ ((joinLines (heading ++ [summaryFooter pair.length])).length : Int) ≤ 160 ∧
    (∀ s ∈ pair, s.Comparable) ∧ Ranking pair (ranked pair) ∧
    ((summary now 160 pair).length : Int) ≤ 160 ∧
    ∃ shown ≤ 2,
      (shown < 2 → summary now 160 pair =
        joinLines (heading ++ ((ranked pair).take shown).map summaryRow ++
          [summaryFooter (2 - shown)])) ∧
      (shown = 2 → summary now 160 pair = joinLines (heading ++ (ranked pair).map summaryRow)) := by
  intro now heading
  have some_signal : pair ≠ [] := by simp [pair]
  have room : ((joinLines (heading ++ [summaryFooter pair.length])).length : Int) ≤ 160 := by
    decide +kernel
  have comparable : ∀ s ∈ pair, s.Comparable := by
    intro s member
    simp only [pair, List.mem_cons, List.not_mem_nil, or_false] at member
    rcases member with rfl | rfl
    · exact ⟨by decide +kernel, by decide +kernel⟩
    · exact ⟨by decide +kernel, by decide +kernel⟩
  obtain ⟨fits, -, ranking, shown, bounded, cut, all⟩ := summary_accounts now some_signal room
  exact ⟨some_signal, room, comparable, ranking comparable, fits, shown, bounded, cut,
    fun whole => (all whole).1⟩

/-! ### Full summaries -/

theorem summary_eq_full_iff (now : Timestamp) (limit : Int) (signals : List (Signal Float)) :
    summary now limit signals = fullSummary now signals ↔
      signals = [] ∨ ((fullSummary now signals).length : Int) + 15 ≤ limit := by
  by_cases none : signals = []
  · subst none
    simp [summary_nil]
  · have some_line := summaryHeading_ne_nil now signals
    obtain ⟨shown, cut, text⟩ := exists_cut_summary now limit none
    rw [text, fullSummary, ← cut.all_iff some_line (ranked_ne_nil none)]
    simp only [none, false_or]
    constructor
    · intro full
      by_contra notAll
      have missing := lt_of_le_of_ne cut.shown_le notAll
      rw [withRows_of_lt missing] at full
      apply not_footer_suffix some_line (ranked_ne_nil none) ((ranked signals).length - shown)
      rw [← full, joinLines_append_singleton (List.append_ne_nil_of_left_ne_nil some_line _),
        String.toList_append]
      exact List.suffix_append _ _
    · intro all
      rw [all, withRows_all]

theorem summary_eq_without_last (now : Timestamp) {limit : Int} {signals : List (Signal Float)}
    (some_signal : signals ≠ [])
    (fits : ((fullSummary now signals).length : Int) ≤ limit)
    (short : limit < ((fullSummary now signals).length : Int) + 15) :
    summary now limit signals =
      joinLines (summaryHeading now signals ++ (ranked signals).dropLast.map summaryRow ++
        [summaryFooter 1]) := by
  have some_line := summaryHeading_ne_nil now signals
  obtain ⟨shown, cut, text⟩ := exists_cut_summary now limit some_signal
  have most := cut.length_le_succ some_line fits
  have notAll := mt (cut.all_iff some_line (ranked_ne_nil some_signal)).mp (not_le.mpr short)
  have bounded := cut.shown_le
  have left : (ranked signals).length - shown = 1 := by omega
  have before : (ranked signals).length - 1 = shown := by omega
  rw [text, withRows_of_lt (by omega), left, List.dropLast_eq_take, before]

/-- **A summary is full when a footer would still fit behind it.** It shows all rows exactly where
15 characters more than these are allowed, for a line about one signal; where all rows fit and that
line does not, it stands in the place of the last row. -/
theorem full_iff_room_for_footer (now : Timestamp) (limit : Int) (signals : List (Signal Float)) :
    (summary now limit signals = fullSummary now signals ↔
      signals = [] ∨ ((fullSummary now signals).length : Int) + 15 ≤ limit) ∧
    (signals ≠ [] → ((fullSummary now signals).length : Int) ≤ limit →
      limit < ((fullSummary now signals).length : Int) + 15 →
      summary now limit signals =
        joinLines (summaryHeading now signals ++ (ranked signals).dropLast.map summaryRow ++
          [summaryFooter 1])) :=
  ⟨summary_eq_full_iff now limit signals, summary_eq_without_last now⟩

/-- One signal to buy. -/
def single : List (Signal Float) := [RiskDesk.sampleSignal "AAPL" .buy]

theorem length_fullSummary_single :
    (fullSummary (RiskDesk.noon 739446) single).length = 141 := by
  have alone : ranked single = single := List.mergeSort_singleton _
  rw [fullSummary, alone]
  decide +kernel

/-- The summary of one signal has 141 characters, and is cut down to a footer where 150 are
allowed. -/
theorem single_dropped_within_limit :
    single ≠ [] ∧ ((fullSummary (RiskDesk.noon 739446) single).length : Int) ≤ 150 ∧
      (150 : Int) < ((fullSummary (RiskDesk.noon 739446) single).length : Int) + 15 ∧
      summary (RiskDesk.noon 739446) 150 single =
        joinLines (summaryHeading (RiskDesk.noon 739446) single ++ [summaryFooter 1]) := by
  have length := length_fullSummary_single
  have some_signal : single ≠ [] := by simp [single]
  have fits : ((fullSummary (RiskDesk.noon 739446) single).length : Int) ≤ 150 := by omega
  have short : (150 : Int) < ((fullSummary (RiskDesk.noon 739446) single).length : Int) + 15 := by
    omega
  refine ⟨some_signal, fits, short, ?_⟩
  rw [(full_iff_room_for_footer _ _ _).2 some_signal fits short]
  have alone : ranked single = single := List.mergeSort_singleton _
  rw [alone]
  rfl

/-- Not every summary that fits is full. -/
theorem not_every_fitting_full :
    ¬ ∀ (now : Timestamp) (limit : Int) (signals : List (Signal Float)),
      ((fullSummary now signals).length : Int) ≤ limit →
        summary now limit signals = fullSummary now signals := by
  intro every
  have length := length_fullSummary_single
  have full := every (RiskDesk.noon 739446) 141 single (by omega)
  rcases (summary_eq_full_iff _ _ _).mp full with none | room
  · simp [single] at none
  · omega

end Signal

end VolatilityDesk

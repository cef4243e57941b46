import VolatilityDesk.Proofs.Csv.Records
import VolatilityDesk.Proofs.Decimal.Literal
import VolatilityDesk.Proofs.Json.Reading
import VolatilityDesk.Proofs.Risk.Step
import VolatilityDesk.Proofs.Signal.Ranking
/-!
# Exports that lose nothing

Interchange text and comma-separated records of the same signals are read back as what they were
made from: the objects of the signals, and a heading with a record for each signal, in both in the
order of the ranking. The texts of the signals are free; of the numbers it is asked that they have a
value, since the words for the other doubles are not the same in both.

* `Export.exports_read_back` — both texts are read back in the order of the ranking.
* `Export.cells_eq_members` — the records tell what the objects tell.
-/

namespace VolatilityDesk

/-- The names of the indicators in objects. -/
def Indicators.names : List String :=
  ["price", "sma", "upper_band", "lower_band", "rsi", "volume_ratio", "price_change"]

/-- The indicators in the order of their names. -/
def Indicators.numbers (i : Indicators Float) : List Float :=
  [i.price, i.average, i.upperBand, i.lowerBand, i.strength, i.volumeRatio, i.priceChange]

namespace Signal

/-- The numbers of a signal. -/
def numbers (s : Signal Float) : List Float :=
  [s.entry, s.target, s.stop, s.expectedReturn, s.confidence] ++ s.indicators.numbers

/-- Every number of the signal has a value. -/
def Finite (s : Signal Float) : Prop := ∀ x ∈ s.numbers, ∃ v, Double.value? x = some v

theorem Finite.comparable {s : Signal Float} (finite : s.Finite) : s.Comparable := by
  have number : ∀ x ∈ s.numbers, Number.isNan x = false := by
    intro x inside
    obtain ⟨v, value⟩ := finite x inside
    rw [← Bool.not_eq_true, Double.isNan_iff]
    intro nan
    rw [Double.value?, nan] at value
    cases value
  exact ⟨number _ (by simp [numbers]), number _ (by simp [numbers])⟩

end Signal

namespace Export

variable {s : Signal Float}

/-! ### Objects and records -/

theorem proper_ofFloat {x : Float} (finite : ∃ v, Double.value? x = some v) :
    (Json.ofFloat x).Proper := by
  obtain ⟨v, value⟩ := finite
  exact .number (Shortest.isNumeral_text value .upper)

theorem proper_record (finite : s.Finite) : (record s).Proper := by
  have number : ∀ x ∈ s.numbers, (Json.ofFloat x).Proper := fun x inside =>
    proper_ofFloat (finite x inside)
  simp only [Signal.numbers, Indicators.numbers, List.cons_append, List.nil_append,
    List.forall_mem_cons] at number
  obtain ⟨entry, target, stop, expectedReturn, confidence, indicators⟩ := number
  have inner : s.indicators.record.Proper := by
    refine .object ?_
    simpa using indicators
  refine .object ?_
  simp only [List.forall_mem_cons]
  exact ⟨.text _, .text _, .text _, entry, target, stop, expectedReturn, confidence, .text _, inner,
    .text _, List.forall_mem_nil _⟩

/-- What stands in a cell for a value without structure. -/
def plain? : Json → Option String
  | .text value => some value
  | .number literal => some literal
  | _ => none

/-- The cells of a signal are the members of its object that the headings name. -/
theorem cells_eq_members (finite : s.Finite) :
    columns.map (fun name => ((record s).member? name).bind plain?) = (cells s).map some := by
  have same : ∀ x ∈ s.numbers, Shortest.text .upper x = Shortest.text .lower x := by
    intro x inside
    obtain ⟨v, value⟩ := finite x inside
    exact Shortest.text_upper value
  simp only [Signal.numbers, List.cons_append, List.nil_append, List.forall_mem_cons] at same
  obtain ⟨entry, target, stop, expectedReturn, confidence, -⟩ := same
  unfold cells
  dsimp only
  rw [← entry, ← target, ← stop, ← expectedReturn, ← confidence]
  rfl

/-- An object holds all indicators of its signal, under their names. -/
theorem member?_indicators (s : Signal Float) : (record s).member? "indicators" =
    some (.object (Indicators.names.zip (s.indicators.numbers.map Json.ofFloat))) := rfl

/-- Headings and records have cells. -/
theorem filled_records (signals : List (Signal Float)) :
    ∀ r ∈ columns :: (Signal.ranked signals).map cells, r ≠ [] := by
  intro r inside
  rcases List.mem_cons.mp inside with rfl | inside
  · exact List.cons_ne_nil _ _
  · obtain ⟨s, -, rfl⟩ := List.mem_map.mp inside
    exact List.cons_ne_nil _ _

/-- **The exports lose nothing and agree.** Signals whose numbers have values are listed in
descending order, those of one rank in the order in which they came. The interchange text is read
back as their objects in this order, and the comma-separated text as the headings and a record for
each of them in the same order, without a limit for the length of cells and, as long as no cell
passes it, under the limit of files. The cells are the members of the objects that the headings
name; the one member more is an object with the values of the seven indicators under their names. -/
theorem exports_read_back {signals : List (Signal Float)} (finite : ∀ s ∈ signals, s.Finite) :
    Signal.Ranking signals (Signal.ranked signals) ∧
    Json.read? (json signals) = some (.list ((Signal.ranked signals).map record)) ∧
    Csv.entriesWithin none (csv signals).toList =
      (columns :: (Signal.ranked signals).map cells).map .ok ∧
    ((∀ s ∈ signals, ∀ cell ∈ cells s, cell.length ≤ Csv.cellLimit) →
      Csv.entries (csv signals).toList =
        (columns :: (Signal.ranked signals).map cells).map .ok) ∧
    ∀ s ∈ signals,
      columns.map (fun name => ((record s).member? name).bind plain?) = (cells s).map some ∧
      (record s).member? "indicators" =
        some (.object (Indicators.names.zip (s.indicators.numbers.map Json.ofFloat))) := by
  have ranked : ∀ {s}, s ∈ Signal.ranked signals → s ∈ signals := List.mem_mergeSort.mp
  refine ⟨Signal.ranking_ranked fun s inside => (finite s inside).comparable, ?_, ?_, ?_, ?_⟩
  · apply Json.read?_indented
    refine .list fun v inside => ?_
    obtain ⟨s, member, rfl⟩ := List.mem_map.mp inside
    exact proper_record (finite s (ranked member))
  · refine Csv.entriesWithin_text (filled_records signals) fun cells _ cell _ most bound => ?_
    cases bound
  · intro fits
    have headings : ∀ cell ∈ columns, cell.length ≤ Csv.cellLimit := by decide
    rw [← Csv.entriesWithin_cellLimit]
    refine Csv.entriesWithin_text (filled_records signals) fun r inside cell here most bound => ?_
    cases bound
    rcases List.mem_cons.mp inside with rfl | inside
    · exact headings cell here
    · obtain ⟨s, member, rfl⟩ := List.mem_map.mp inside
      exact fits s (ranked member) cell here
  · exact fun s inside => ⟨cells_eq_members (finite s inside), member?_indicators s⟩

open RiskDesk (sampleSignal)

/-- A signal with marks of both formats, line ends, and characters beyond the basic plane in its
texts. -/
def oddSignal : Signal Float :=
  { sampleSignal "B,\"C\"" .sell with
    id := "1\\2\r\n3"
    timeframe := "\x00 𝄞"
    confidence := 0.9 }

/-- The odd signal has the higher confidence, so both exports list it first. -/
theorem exports_read_back_of_odd :
    let signals := [sampleSignal "AAPL" .buy, oddSignal]
    let listed := [oddSignal, sampleSignal "AAPL" .buy]
    (∀ s ∈ signals, s.Finite) ∧ Signal.ranked signals = listed ∧
      Json.read? (json signals) = some (.list (listed.map record)) ∧
      Csv.entries (csv signals).toList = (columns :: listed.map cells).map .ok := by
  intro signals listed
  have values : ∀ s ∈ signals, ∀ x ∈ s.numbers, (Double.value? x).isSome = true := by
    simp only [signals, List.forall_mem_cons]
    exact ⟨by decide +kernel, by decide +kernel, List.forall_mem_nil _⟩
  have finite : ∀ s ∈ signals, s.Finite := fun s inside x member =>
    Option.isSome_iff_exists.mp (values s inside x member)
  have order : Signal.ranked signals = listed := by
    have below : Signal.ranksBelow (sampleSignal "AAPL" .buy) oddSignal = true := by decide +kernel
    simp [Signal.ranked, signals, listed, List.mergeSort, below]
  have short : ∀ s ∈ signals, ∀ cell ∈ cells s, cell.length ≤ Csv.cellLimit := by
    simp only [signals, List.forall_mem_cons]
    exact ⟨by decide +kernel, by decide +kernel, List.forall_mem_nil _⟩
  obtain ⟨-, json, -, csv, -⟩ := exports_read_back finite
  rw [order] at json csv
  exact ⟨finite, order, json, csv short⟩

end Export

end VolatilityDesk

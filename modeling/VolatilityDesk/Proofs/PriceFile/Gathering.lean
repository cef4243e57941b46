import VolatilityDesk.Proofs.Lookup
import VolatilityDesk.Proofs.PriceFile.Records
import Mathlib.Data.List.Nodup
import Mathlib.Data.List.Pairwise
import Mathlib.Data.List.Perm.Basic
/-!
# Series of a price file

What is read from a price file is nothing but its records: there is one series for every instrument
that a record names, and its samples are those of the instrument's records, each once, by their
instants and at one instant in the order of the file. So the order of the records plays no part but
for those of one instrument at one instant.

* `series_of_records` — the series of a file and the records that they collect.
* `gather_eq_of_rearranged` — what the order of the records decides.
-/

namespace VolatilityDesk

open Fallible

/-! ### Stable order -/

section Order

variable {β : Type} {key : β → Int} {given sorted sorted' : List β}

/-- The items of a list in the order of their keys; items with one key stay as they stand there. -/
structure InOrder (key : β → Int) (given sorted : List β) : Prop where
  perm : sorted.Perm given
  ordered : sorted.Pairwise fun a b => key a ≤ key b
  stable : ∀ k, sorted.filter (key · = k) = given.filter (key · = k)

theorem inOrder_mergeSort (key : β → Int) (given : List β) :
    InOrder key given (given.mergeSort fun a b => decide (key a ≤ key b)) where
  perm := List.mergeSort_perm _ _
  ordered := by
    have sorted : (given.mergeSort fun a b => decide (key a ≤ key b)).Pairwise
        fun a b => decide (key a ≤ key b) = true :=
      List.pairwise_mergeSort (fun a b c => by simpa using Int.le_trans)
        (fun a b => by simpa using Int.le_total _ _) given
    exact sorted.imp of_decide_eq_true
  stable := by
    intro k
    -- The items with one key are in order as they stand, so sorting keeps them as they stand.
    have equal : (given.filter (key · = k)).Pairwise fun a b => decide (key a ≤ key b) = true := by
      refine List.pairwise_of_forall_mem_list ?_
      intro a first b second
      simp_all
    have kept : (given.filter (key · = k)).Sublist
        (given.mergeSort fun a b => decide (key a ≤ key b)) :=
      List.sublist_mergeSort (fun a b c => by simpa using Int.le_trans)
        (fun a b => by simpa using Int.le_total _ _) equal List.filter_sublist
    have inside := kept.filter (key · = k)
    rw [List.filter_filter] at inside
    refine (List.Sublist.eq_of_length ?_ ?_).symm
    · simpa using inside
    · exact (((List.mergeSort_perm given _).filter _).length_eq).symm

/-- The first key of a list in order is not above the keys that the list holds. -/
theorem le_head_of_filter_eq {a b : β} {rest rest' : List β}
    (ordered : (b :: rest').Pairwise fun a b => key a ≤ key b)
    (same : (a :: rest).filter (key · = key a) = (b :: rest').filter (key · = key a)) :
    key b ≤ key a := by
  have present : a ∈ (b :: rest').filter (key · = key a) := by
    rw [← same]
    simp
  rcases List.mem_cons.mp (List.mem_of_mem_filter present) with rfl | member
  · exact Int.le_refl _
  · exact (List.pairwise_cons.mp ordered).1 a member

/-- Keys and the order at one key leave no choice. -/
theorem eq_of_pairwise_of_filter_eq (ordered : sorted.Pairwise fun a b => key a ≤ key b)
    (ordered' : sorted'.Pairwise fun a b => key a ≤ key b)
    (same : ∀ k, sorted.filter (key · = k) = sorted'.filter (key · = k)) : sorted = sorted' := by
  induction sorted generalizing sorted' with
  | nil =>
    cases sorted' with
    | nil => rfl
    | cons b rest => simpa using same (key b)
  | cons a rest ih =>
    cases sorted' with
    | nil => simpa using same (key a)
    | cons b rest' =>
      have below : key b ≤ key a := le_head_of_filter_eq ordered' (same (key a))
      have above : key a ≤ key b := le_head_of_filter_eq ordered (same (key b)).symm
      have level : key a = key b := Int.le_antisymm above below
      have heads : a :: rest.filter (key · = key a) = b :: rest'.filter (key · = key a) := by
        simpa [level] using same (key a)
      obtain ⟨rfl, -⟩ := List.cons.inj heads
      rw [ih ordered.of_cons ordered'.of_cons]
      intro k
      have whole := same k
      by_cases here : key a = k
      · simpa [here] using whole
      · simpa [List.filter_cons, here] using whole

theorem InOrder.unique {given' : List β} (first : InOrder key given sorted)
    (second : InOrder key given' sorted')
    (same : ∀ k, given'.filter (key · = k) = given.filter (key · = k)) : sorted' = sorted := by
  refine eq_of_pairwise_of_filter_eq second.ordered first.ordered ?_
  intro k
  rw [second.stable, same, first.stable]

end Order

/-! ### Names -/

theorem mem_distinct {name : String} {names : List String} :
    name ∈ distinct names ↔ name ∈ names := by
  induction names with
  | nil => simp [distinct]
  | cons first rest ih =>
    by_cases here : name = first <;> simp [distinct, ih, here]

theorem nodup_distinct (names : List String) : (distinct names).Nodup := by
  induction names with
  | nil => exact List.nodup_nil
  | cons first rest ih =>
    refine List.nodup_cons.mpr ⟨?_, ih.filter _⟩
    simp

namespace PriceFile

/-- The instruments of samples, in order. -/
def sortedNames (samples : List (String × Sample)) : List String :=
  (distinct (samples.map (·.1))).mergeSort fun a b => decide (a ≤ b)

theorem mem_sortedNames {name : String} {samples : List (String × Sample)} :
    name ∈ sortedNames samples ↔ name ∈ samples.map (·.1) := by
  rw [sortedNames, (List.mergeSort_perm _ _).mem_iff, mem_distinct]

theorem ascending_sortedNames (samples : List (String × Sample)) :
    (sortedNames samples).Pairwise (· < ·) := by
  have perm : (sortedNames samples).Perm (distinct (samples.map (·.1))) := List.mergeSort_perm _ _
  exact ascending_of_nodup (pairwise_mergeSort_key id _) (perm.nodup_iff.mpr (nodup_distinct _))

/-- Names that occur in both lists stand in the same order. -/
theorem sortedNames_eq_of_perm {samples samples' : List (String × Sample)}
    (perm : samples'.Perm samples) : sortedNames samples' = sortedNames samples := by
  refine List.Perm.eq_of_pairwise ?_ (ascending_sortedNames _) (ascending_sortedNames _) ?_
  · intro a b _ _ below above
    exact absurd below (String.lt_asymm above)
  · refine (List.perm_ext_iff_of_nodup ?_ ?_).mpr ?_
    · exact (ascending_sortedNames _).imp String.ne_of_lt
    · exact (ascending_sortedNames _).imp String.ne_of_lt
    · intro name
      rw [mem_sortedNames, mem_sortedNames, (perm.map _).mem_iff]

/-! ### Samples of a series -/

/-- The samples of an instrument as they stand in a file. -/
def rowsOf (instrument : String) (samples : List (String × Sample)) : List Sample :=
  samples.filterMap fun (name, sample) => if name = instrument then some sample else none

/-- The instant of a sample. -/
def instantOf (sample : Sample) : Int := sample.time.instant

theorem inOrder_samplesOf (instrument : String) (samples : List (String × Sample)) :
    InOrder instantOf (rowsOf instrument samples) (samplesOf instrument samples) :=
  inOrder_mergeSort instantOf (rowsOf instrument samples)

/-- Rows that stand in order already stay as they are. -/
theorem samplesOf_of_ordered {instrument : String} {samples : List (String × Sample)}
    (ordered : (rowsOf instrument samples).Pairwise fun a b => instantOf a ≤ instantOf b) :
    samplesOf instrument samples = rowsOf instrument samples :=
  List.mergeSort_of_pairwise (ordered.imp fun before => decide_eq_true before)

end PriceFile

/-- The samples of a series: its times with the prices and the volumes beside them. -/
def Series.samples (s : Series Float) : List Sample :=
  (s.timestamps.zip (s.prices.zip s.volumes)).map fun (time, price, volume) => ⟨time, price, volume⟩

namespace PriceFile

theorem samples_seriesOf (instrument : String) (samples : List Sample) :
    (seriesOf instrument samples).samples = samples := by
  induction samples with
  | nil => rfl
  | cons sample rest ih =>
    simp only [Series.samples, seriesOf, List.map_cons, List.zip_cons_cons] at ih ⊢
    rw [ih]

/-- What a series of a price file is: the records of its instrument in the order of their instants,
prices, volumes and times side by side. -/
structure Collects (samples : List (String × Sample)) (instrument : String)
    (series : Series Float) : Prop where
  named : series.instrument = instrument
  volumes : series.volumes.length = series.prices.length
  timestamps : series.timestamps.length = series.prices.length
  rows : InOrder instantOf (rowsOf instrument samples) series.samples

theorem collects_seriesOf (samples : List (String × Sample)) (instrument : String) :
    Collects samples instrument (seriesOf instrument (samplesOf instrument samples)) where
  named := rfl
  volumes := by simp [seriesOf]
  timestamps := by simp [seriesOf]
  rows := by
    rw [samples_seriesOf]
    exact inOrder_samplesOf instrument samples

theorem gather_eq (samples : List (String × Sample)) :
    gather samples = (sortedNames samples).map fun name =>
      (name, seriesOf name (samplesOf name samples)) := rfl

theorem keys_gather (samples : List (String × Sample)) :
    (gather samples).map (·.1) = sortedNames samples := by
  rw [gather_eq, List.map_map]
  exact List.map_id _

theorem collects_of_mem_gather {samples : List (String × Sample)} {name : String}
    {series : Series Float} (member : (name, series) ∈ gather samples) :
    Collects samples name series := by
  rw [gather_eq] at member
  obtain ⟨_, -, same⟩ := List.mem_map.mp member
  cases same
  exact collects_seriesOf samples name

/-! ### Records in another order -/

/-- The instrument and the sample of a record, if it gives one. -/
def sample? (headings cells : List String) : Option (String × Sample) :=
  (readRow "" 0 (Row.ofCells headings cells)).toOption

/-- The instrument and the instant of a record, if it gives a sample. -/
def mark? (headings cells : List String) : Option (String × Int) :=
  (sample? headings cells).map fun (name, sample) => (name, instantOf sample)

/-- The same records in another order, in which those of one instrument at one instant keep
theirs. -/
structure Rearranged (headings : List String) (records records' : List (List String)) : Prop where
  perm : records'.Perm records
  kept : ∀ mark, records'.filter (mark? headings · = some mark) =
    records.filter (mark? headings · = some mark)

theorem given_iff {headings cells : List String} {entry : String × Sample} :
    Given headings cells entry ↔ sample? headings cells = some entry := by
  have read : readRow "" 0 (Row.ofCells headings cells) = .ok entry ↔ Given headings cells entry :=
    readRow_eq_ok_iff
  rw [← read, sample?]
  cases readRow "" 0 (Row.ofCells headings cells) <;> simp [Except.toOption]

/-- The samples of records are what each of them gives. -/
theorem forall₂_given_iff {headings : List String} {records : List (List String)}
    {samples : List (String × Sample)} :
    List.Forall₂ (Given headings) records samples ↔
      records.map (sample? headings) = samples.map some := by
  have same : Given headings = fun cells entry => sample? headings cells = some entry := by
    funext cells entry
    exact propext given_iff
  rw [same, ← List.forall₂_eq_eq_eq, List.forall₂_map_left_iff, List.forall₂_map_right_iff]

/-- The samples of an instrument at an instant are those of the records so marked. -/
theorem filter_rowsOf {headings : List String} {records : List (List String)}
    {samples : List (String × Sample)} (each : List.Forall₂ (Given headings) records samples)
    (name : String) (instant : Int) :
    (rowsOf name samples).filter (instantOf · = instant) =
      (records.filter (mark? headings · = some (name, instant))).filterMap
        fun cells => (sample? headings cells).map (·.2) := by
  induction each with
  | nil => rfl
  | @cons cells entry records samples given _ ih =>
    obtain ⟨instrument, sample⟩ := entry
    have found := given_iff.mp given
    have mark : mark? headings cells = some (instrument, instantOf sample) := by
      rw [mark?, found]
      rfl
    by_cases here : instrument = name
    · by_cases now : instantOf sample = instant
      · simp_all [rowsOf]
      · simp_all [rowsOf]
    · simp_all [rowsOf]

/-- The names of samples are those that their records name. -/
theorem mem_names_iff {headings : List String} {records : List (List String)}
    {samples : List (String × Sample)} (each : List.Forall₂ (Given headings) records samples)
    {name : String} : name ∈ samples.map (·.1) ↔
      ∃ cells ∈ records, (Row.ofCells headings cells).Names name := by
  induction each with
  | nil => simp
  | @cons cells entry records samples given _ ih =>
    have first : name = entry.1 ↔ (Row.ofCells headings cells).Names name :=
      ⟨fun same => same ▸ given.names, fun names => names.unique given.names⟩
    simp only [List.map_cons, List.mem_cons, ih, first, exists_eq_or_imp]

/-- Records give samples in any order if they do in one. -/
theorem given_of_perm {headings : List String} {records records' : List (List String)}
    {samples : List (String × Sample)} (each : List.Forall₂ (Given headings) records samples)
    (perm : records'.Perm records) :
    ∃ samples', List.Forall₂ (Given headings) records' samples' := by
  obtain ⟨samples', each', -⟩ := List.perm_comp_forall₂ perm each
  exact ⟨samples', each'⟩

theorem gather_eq_of_rearranged {headings : List String} {records records' : List (List String)}
    {samples samples' : List (String × Sample)}
    (each : List.Forall₂ (Given headings) records samples)
    (each' : List.Forall₂ (Given headings) records' samples')
    (rearranged : Rearranged headings records records') : gather samples' = gather samples := by
  have perm : samples'.Perm samples := by
    have marked := rearranged.perm.map (sample? headings)
    rw [forall₂_given_iff.mp each, forall₂_given_iff.mp each'] at marked
    exact (List.map_perm_map_iff fun _ _ => Option.some.inj).mp marked
  have series (name : String) : samplesOf name samples' = samplesOf name samples := by
    refine (inOrder_samplesOf name samples).unique (inOrder_samplesOf name samples') ?_
    intro instant
    rw [filter_rowsOf each, filter_rowsOf each', rearranged.kept]
  simp only [gather_eq, sortedNames_eq_of_perm perm, series]

/-! ### Series of a file -/

/-- **The series of a price file.** A file that is read gives one series for every instrument that
its records name, in the order of the names, and each series is made of the records of its
instrument. Another file with the same records, rearranged, gives the same. -/
theorem series_of_records {file : String} {bytes : List Nat} {snapshot : Snapshot Float}
    (read_ok : read file bytes = .ok snapshot) :
    ∃ headings records samples, Holds bytes headings records ∧ Complete headings ∧
      List.Forall₂ (Given headings) (filled records) samples ∧
      (snapshot.map (·.1)).Pairwise (· < ·) ∧
      (∀ name, name ∈ snapshot.map (·.1) ↔
        ∃ cells ∈ filled records, (Row.ofCells headings cells).Names name) ∧
      (∀ entry ∈ snapshot, Collects samples entry.1 entry.2) ∧
      ∀ file' bytes' records', Holds bytes' headings records' →
        Rearranged headings (filled records) (filled records') →
          read file' bytes' = .ok snapshot := by
  obtain ⟨headings, records, samples, holds, complete, each, rfl⟩ := read_eq_ok_iff.mp read_ok
  refine ⟨headings, records, samples, holds, complete, each, ?_, ?_, ?_, ?_⟩
  · rw [keys_gather]
    exact ascending_sortedNames samples
  · intro name
    rw [keys_gather, mem_sortedNames]
    exact mem_names_iff each
  · intro entry member
    exact collects_of_mem_gather member
  · intro file' bytes' records' holds' rearranged
    obtain ⟨samples', each'⟩ := given_of_perm each rearranged.perm
    rw [← gather_eq_of_rearranged each each' rearranged]
    exact read_eq_ok_iff.mpr ⟨headings, records', samples', holds', complete, each', rfl⟩

/-- Headings of a price file. -/
def usualHeadings : List String := ["timestamp", "instrument", "price", "volume"]

/-- Records out of order, with one instrument written in two ways and times at two offsets. -/
def unsortedRecords : List (List String) :=
  [["2025-07-15T10:01:00-04:00", " msft ", "500.5", "70"],
    ["2025-07-15T14:00:00", "Aapl", "201", "10"],
    ["2025-07-15T14:00:00Z", "AAPL", "202", "20"]]

def unsortedFile : List Nat := bytesOf <|
  "timestamp,instrument,price,volume\n2025-07-15T10:01:00-04:00, msft ,500.5,70\n" ++
  "2025-07-15T14:00:00,Aapl,201,10\n2025-07-15T14:00:00Z,AAPL,202,20\n"

/-- The same records in order, with a blank line among them and other line ends. -/
def sortedFile : List Nat := bytesOf <|
  "timestamp,instrument,price,volume\n2025-07-15T14:00:00,Aapl,201,10\n\n" ++
  "2025-07-15T14:00:00Z,AAPL,202,20\r\n2025-07-15T10:01:00-04:00, msft ,500.5,70"

theorem marks_unsortedRecords : unsortedRecords.map (mark? usualHeadings) =
    [some ("MSFT", 63888184860000000), some ("AAPL", 63888184800000000),
      some ("AAPL", 63888184800000000)] := by decide +kernel

theorem same_series_when_sorted : ∃ snapshot, read "prices.csv" unsortedFile = .ok snapshot ∧
    "AAPL" ∈ snapshot.map (·.1) ∧ read "prices.csv" sortedFile = .ok snapshot := by
  have unsorted : Holds unsortedFile usualHeadings unsortedRecords :=
    ⟨by decide +kernel, by decide +kernel⟩
  have sorted : Holds sortedFile usualHeadings
      [["2025-07-15T14:00:00", "Aapl", "201", "10"], [],
        ["2025-07-15T14:00:00Z", "AAPL", "202", "20"],
        ["2025-07-15T10:01:00-04:00", " msft ", "500.5", "70"]] :=
    ⟨by decide +kernel, by decide +kernel⟩
  have succeeds : (read "prices.csv" unsortedFile).isOk = true := by decide +kernel
  obtain ⟨snapshot, read_ok⟩ := isOk_iff.mp succeeds
  obtain ⟨headings, records, samples, holds, -, -, -, names, -, same⟩ := series_of_records read_ok
  obtain ⟨rfl, rfl⟩ := holds.unique unsorted
  refine ⟨snapshot, read_ok, (names "AAPL").mpr ?_, same _ _ _ sorted ⟨by decide, ?_⟩⟩
  · refine ⟨["2025-07-15T14:00:00", "Aapl", "201", "10"], by decide, "Aapl", ?_, ?_⟩
    · decide +kernel
    · decide +kernel
  · intro mark
    have marks := marks_unsortedRecords
    simp only [unsortedRecords, List.map_cons, List.map_nil, List.cons.injEq, and_true] at marks
    obtain ⟨first, second, third⟩ := marks
    by_cases other : mark = ("MSFT", 63888184860000000)
    · simp [unsortedRecords, filled, first, second, third, other]
    · simp [unsortedRecords, filled, List.filter_cons, first, second, third, Ne.symm other]

end PriceFile

end VolatilityDesk

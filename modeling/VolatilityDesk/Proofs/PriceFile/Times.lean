import VolatilityDesk.Proofs.PriceFile.Gathering
/-!
# Times of a price file

Every series of a price file has at least one sample, and every sample has a time whose offset is
known, also where the file writes none. So any two times of a file can be compared, and those of one
series do not descend.

* `chronicle_of_read` — every series of a file is a chronicle.
-/

namespace VolatilityDesk

/-- A series with a time for each of its samples, in order. -/
structure Series.Chronicle (s : Series Float) : Prop where
  filled : 0 < s.size
  timed : s.timestamps.length = s.size
  universal : ∀ t ∈ s.timestamps, t.offset.isSome = true
  ordered : s.timestamps.Pairwise fun a b => a.instant ≤ b.instant

namespace PriceFile

theorem mem_rowsOf {samples : List (String × Sample)} {name : String} {sample : Sample} :
    sample ∈ rowsOf name samples ↔ (name, sample) ∈ samples := by
  simp only [rowsOf, List.mem_filterMap]
  constructor
  · rintro ⟨⟨other, _⟩, member, found⟩
    by_cases same : other = name
    · obtain rfl := Option.some.inj ((if_pos same).symm.trans found)
      exact same ▸ member
    · simp [same] at found
  · intro member
    exact ⟨_, member, if_pos rfl⟩

theorem Given.universal {headings cells : List String} {entry : String × Sample}
    (given : Given headings cells entry) : entry.2.time.offset.isSome = true := by
  obtain ⟨_, written, -, -, same⟩ := given.time
  rw [same]
  rfl

/-- The series of samples with known offsets are chronicles. -/
theorem chronicle_of_mem_gather {samples : List (String × Sample)}
    (universal : ∀ entry ∈ samples, entry.2.time.offset.isSome = true) {name : String}
    {s : Series Float} (member : (name, s) ∈ gather samples) : s.Chronicle := by
  rw [gather_eq] at member
  obtain ⟨_, listed, same⟩ := List.mem_map.mp member
  cases same
  have sorted := inOrder_samplesOf name samples
  obtain ⟨⟨_, sample⟩, inside, rfl⟩ := List.mem_map.mp (mem_sortedNames.mp listed)
  refine ⟨?filled, ?timed, ?universal, ?ordered⟩
  case filled =>
    have present := sorted.perm.mem_iff.mpr (mem_rowsOf.mpr inside)
    simpa [Series.size, seriesOf] using List.length_pos_of_mem present
  case timed => simp [Series.size, seriesOf]
  case universal =>
    intro t timed
    obtain ⟨sample, there, rfl⟩ := List.mem_map.mp timed
    exact universal _ (mem_rowsOf.mp (sorted.perm.mem_iff.mp there))
  case ordered => exact List.pairwise_map.mpr sorted.ordered

/-- An instrument that a record of a price file names has a series. -/
theorem mem_keys_of_read {file : String} {bytes : List Nat} {recorded : Snapshot Float}
    (read_ok : read file bytes = .ok recorded) {headings cells : List String}
    {records : List (List String)} (holds : Holds bytes headings records)
    (listed : cells ∈ filled records) {name : String}
    (names : (Row.ofCells headings cells).Names name) : name ∈ recorded.map (·.1) := by
  obtain ⟨_, _, samples, holds', -, each, rfl⟩ := read_eq_ok_iff.mp read_ok
  obtain ⟨rfl, rfl⟩ := holds'.unique holds
  rw [keys_gather, mem_sortedNames]
  exact (mem_names_iff each).mpr ⟨cells, listed, names⟩

/-- The series of a price file are chronicles. -/
theorem chronicle_of_read {file : String} {bytes : List Nat} {recorded : Snapshot Float}
    (read_ok : read file bytes = .ok recorded) {name : String} {s : Series Float}
    (member : (name, s) ∈ recorded) : s.Chronicle := by
  obtain ⟨headings, records, samples, -, -, each, rfl⟩ := read_eq_ok_iff.mp read_ok
  refine chronicle_of_mem_gather ?_ member
  intro entry listed
  have given := List.mem_map_of_mem (f := some) listed
  rw [← forall₂_given_iff.mp each] at given
  obtain ⟨cells, -, gives⟩ := List.mem_map.mp given
  exact (given_iff.mpr gives).universal

end PriceFile

end VolatilityDesk

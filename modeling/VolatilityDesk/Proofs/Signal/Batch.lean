import VolatilityDesk.Proofs.Fallible
import VolatilityDesk.Signal.Classify
/-!
# Batches of signals

A batch evaluates every series of a snapshot once, in the order of the keys. Where every key is the
instrument of its series, a batch has at most one signal on each instrument.

* `instruments_sublist` — the instruments of a batch are among the keys, in their order.
* `nodup_instruments` — no two signals of a batch are on one instrument.
-/

namespace VolatilityDesk

open Fallible

variable {α : Type}

/-- Every series of a snapshot is found under its instrument, and no instrument has two. -/
structure Snapshot.Keyed (s : Snapshot α) : Prop where
  distinct : (s.map (·.1)).Nodup
  named : ∀ entry ∈ s, entry.2.instrument = entry.1

namespace Classify

variable [Number α] [Root α] {rules : SignalRules α} {now : Timestamp}

/-- A signal is on the instrument of its series. -/
theorem instrument_of_signal? {series : Series α} {signal : Signal α}
    (found : signal? rules series now = .ok (some signal)) :
    signal.instrument = series.instrument := by
  unfold signal? at found
  cases decided : verdict? rules series with
  | none =>
    rw [decided] at found
    cases found
  | some verdict =>
    simp only [decided] at found
    obtain ⟨id, -, parts⟩ := bind_eq_ok_iff.mp found
    cases parts
    rfl

/-- The signals on some series come in the order of the series, at most one on each. -/
theorem instruments_sublist {entries : List (String × Series α)}
    {found : List (Option (Signal α))} (named : ∀ entry ∈ entries, entry.2.instrument = entry.1)
    (evaluated : List.Forall₂ (fun entry result => signal? rules entry.2 now = .ok result)
      entries found) :
    ((found.filterMap id).map (·.instrument)).Sublist (entries.map (·.1)) := by
  induction evaluated with
  | nil => exact .slnil
  | @cons entry result rest others first _ ih =>
    have later := ih fun other inside => named other (.tail _ inside)
    cases result with
    | none => exact later.cons _
    | some signal =>
      have here : signal.instrument = entry.1 :=
        (instrument_of_signal? first).trans (named entry (.head _))
      simp only [List.filterMap_cons, id_eq, List.map_cons, here]
      exact later.cons_cons _

/-- The signals of a batch come in the order of the keys, at most one under each. -/
theorem instruments_sublist_sorted {snapshot : Snapshot α} {signals : List (Signal α)}
    (keyed : snapshot.Keyed) (evaluated : Classify.signals rules snapshot now = .ok signals) :
    (signals.map (·.instrument)).Sublist ((sortedByKey snapshot).map (·.1)) := by
  obtain ⟨found, each, parts⟩ := bind_eq_ok_iff.mp evaluated
  obtain rfl := pure_eq_ok_iff.mp parts
  have sorted : (sortedByKey snapshot).Perm snapshot := List.mergeSort_perm _ _
  have named : ∀ entry ∈ sortedByKey snapshot, entry.2.instrument = entry.1 := by
    intro entry inside
    exact keyed.named entry (sorted.mem_iff.mp inside)
  exact instruments_sublist named (mapM_eq_ok_iff.mp each)

/-- A batch has at most one signal on each instrument. -/
theorem nodup_instruments {snapshot : Snapshot α} {signals : List (Signal α)}
    (keyed : snapshot.Keyed) (evaluated : Classify.signals rules snapshot now = .ok signals) :
    (signals.map (·.instrument)).Nodup := by
  -- Sorting by key neither adds nor loses an entry, so the keys are still distinct.
  have sorted : (sortedByKey snapshot).Perm snapshot := List.mergeSort_perm _ _
  have distinct : ((sortedByKey snapshot).map (·.1)).Nodup :=
    (sorted.map _).nodup_iff.mpr keyed.distinct
  exact distinct.sublist (instruments_sublist_sorted keyed evaluated)

end Classify

end VolatilityDesk

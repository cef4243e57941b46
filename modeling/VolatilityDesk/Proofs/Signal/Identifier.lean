import VolatilityDesk.Proofs.Fallible
import VolatilityDesk.Proofs.Time.Local
import VolatilityDesk.Signal
import VolatilityDesk.Time.ZoneTable
/-!
# Identifiers of signals

An identifier joins an instrument, a direction and a time by hyphens, and the instrument may be any
text, with hyphens, digits or the words for directions in it. It is taken apart from its end: the
stamp of the time has no hyphen, nor has the word for a direction, and what is left is the
instrument. So two signals have one identifier only if they agree in all three. The time is the
universal one that the machine finds, so for times without an offset it matters what the machine's
clock shows.

* `Signal.identifier_eq_iff` — identifiers are equal exactly for equal instruments, directions and
  instants.
* `Signal.universalTime_eq_ok_iff` — the times that a machine on universal time finds an instant of.
-/

namespace VolatilityDesk

open Fallible

theorem Direction.text_injective : Function.Injective Direction.text := by
  intro d e same
  have read := Direction.ofText?_text d
  rw [same, Direction.ofText?_text] at read
  exact (Option.some.inj read).symm

theorem Direction.hyphen_notMem_text (d : Direction) : '-' ∉ d.text.toList := by
  cases d <;> decide

theorem Timestamp.hyphen_notMem_stamp {t : Timestamp} (nonneg : 0 ≤ t.wall) :
    '-' ∉ t.stamp.toList := by
  intro member
  have digit := isDigit_of_mem_stamp nonneg member
  revert digit
  decide

namespace Signal

variable {host : Zone} {i j : String} {d e : Direction} {s t u v : Timestamp}

/-- The universal time of a creation is the instant of the time that the machine reads. -/
theorem exists_readLocal_of_universalTime (converted : universalTime host t = .ok u) :
    ∃ read, host.readLocal t = .ok read ∧ u = .ofInstant read.instant ∧
      Timestamp.inRange read.instant = true := by
  obtain ⟨read, found, shifted⟩ := bind_eq_ok_iff.mp converted
  exact ⟨read, found, Timestamp.toUniversal_eq_ok_iff.mp shifted⟩

/-- On a machine on universal time the universal time of a creation is its instant. -/
theorem instant_universalTime (converted : universalTime host t = .ok u)
    (meant : t.offset = none → host.IsUniversal) : u.instant = t.instant := by
  obtain ⟨read, found, rfl, -⟩ := exists_readLocal_of_universalTime converted
  rw [Timestamp.instant_ofInstant, Zone.instant_readLocal found meant]

/-- A machine on universal time converts the times of the calendar, but for those without an offset
on its first day. -/
theorem universalTime_eq_ok_iff (always : host.IsUniversal) : universalTime host t = .ok u ↔
    u = .ofInstant t.instant ∧ Timestamp.inRange t.instant = true ∧
      (t.offset = none → Micros.perDay ≤ t.wall) := by
  constructor
  · intro converted
    obtain ⟨read, found, rfl, ranged⟩ := exists_readLocal_of_universalTime converted
    obtain ⟨rfl, inside⟩ := (Zone.readLocal_universal_iff always).mp found
    exact ⟨rfl, ranged, fun unset => (inside unset).1⟩
  · rintro ⟨rfl, ranged, later⟩
    have inside : t.offset = none → Micros.perDay ≤ t.wall ∧ t.wall < Timestamp.limit := by
      intro unset
      have below := (Timestamp.inRange_iff.mp ranged).2
      rw [Timestamp.instant, unset, Option.getD_none, Int.sub_zero] at below
      exact ⟨later unset, below⟩
    refine bind_eq_ok_iff.mpr ⟨t.assumeUniversal, ?_, ?_⟩
    · exact (Zone.readLocal_universal_iff always).mpr ⟨rfl, inside⟩
    · exact Timestamp.toUniversal_eq_ok_iff.mpr ⟨rfl, ranged⟩

theorem identifier_of_universalTime (converted : universalTime host t = .ok u) :
    identifier host i d t = .ok ("SIG-" ++ i ++ "-" ++ d.text ++ "-" ++ u.stamp) := by
  unfold identifier
  rw [converted]
  rfl

/-- Parts that were joined can be told apart again. -/
theorem parts_eq_of_joined {a b : String} (left : '-' ∉ a.toList) (right : '-' ∉ b.toList)
    (same : "SIG-" ++ i ++ "-" ++ d.text ++ "-" ++ a = "SIG-" ++ j ++ "-" ++ e.text ++ "-" ++ b) :
    i = j ∧ d = e ∧ a = b := by
  obtain ⟨fronts, stamps⟩ := Text.append_hyphen_inj left right same
  obtain ⟨named, directions⟩ :=
    Text.append_hyphen_inj d.hyphen_notMem_text e.hyphen_notMem_text fronts
  have lists := congrArg String.toList named
  rw [String.toList_append, String.toList_append] at lists
  exact ⟨String.toList_injective (List.append_cancel_left lists),
    Direction.text_injective directions, stamps⟩

/-- **Identifiers identify signals.** Creation times that a machine can convert to universal time
give identifiers, and two of these are equal exactly when the instruments are, the directions are,
and the times are one instant there. A time with an offset denotes its instant whatever the clocks
of the machine show; so do times without an offset, which mean universal time, where the machine's
clocks show universal time. -/
theorem identifier_eq_iff (i j : String) (d e : Direction) (first : universalTime host s = .ok u)
    (second : universalTime host t = .ok v) :
    ∃ a b, identifier host i d s = .ok a ∧ identifier host j e t = .ok b ∧
      (a = b ↔ i = j ∧ d = e ∧ u.instant = v.instant) ∧
      ((s.offset = none ∨ t.offset = none → host.IsUniversal) →
        (a = b ↔ i = j ∧ d = e ∧ s.instant = t.instant)) := by
  obtain ⟨read, -, left, ranged⟩ := exists_readLocal_of_universalTime first
  obtain ⟨read', -, right, ranged'⟩ := exists_readLocal_of_universalTime second
  have nonneg : 0 ≤ u.wall := by
    rw [left]
    exact (Timestamp.inRange_iff.mp ranged).1
  have nonneg' : 0 ≤ v.wall := by
    rw [right]
    exact (Timestamp.inRange_iff.mp ranged').1
  have universal : u.wall = u.instant ∧ v.wall = v.instant := by
    rw [left, right, Timestamp.instant_ofInstant, Timestamp.instant_ofInstant]
    exact ⟨rfl, rfl⟩
  have same : "SIG-" ++ i ++ "-" ++ d.text ++ "-" ++ u.stamp =
      "SIG-" ++ j ++ "-" ++ e.text ++ "-" ++ v.stamp ↔ i = j ∧ d = e ∧ u.instant = v.instant := by
    constructor
    · intro same
      obtain ⟨instruments, directions, stamps⟩ := parts_eq_of_joined
        (Timestamp.hyphen_notMem_stamp nonneg) (Timestamp.hyphen_notMem_stamp nonneg') same
      have walls := Timestamp.wall_eq_of_stamp_eq nonneg nonneg' stamps
      rw [universal.1, universal.2] at walls
      exact ⟨instruments, directions, walls⟩
    · rintro ⟨rfl, rfl, instants⟩
      rw [left, right, Timestamp.instant_ofInstant, Timestamp.instant_ofInstant] at instants
      rw [left, right, instants]
  refine ⟨_, _, identifier_of_universalTime first, identifier_of_universalTime second, same, ?_⟩
  intro meant
  rw [same, instant_universalTime first fun unset => meant (.inl unset),
    instant_universalTime second fun unset => meant (.inr unset)]

/-- It matters that the machine's clocks show universal time: those of New York went from half past
one to half past three on the ninth of March 2025. -/
example :
    let night : Timestamp := ⟨739318 * Micros.perDay + 90 * Micros.perMinute, none⟩
    let later : Timestamp := ⟨739318 * Micros.perDay + 150 * Micros.perMinute, none⟩
    identifier ZoneTable.newYork.zone "AAPL" .buy night =
      identifier ZoneTable.newYork.zone "AAPL" .buy later ∧ night.instant ≠ later.instant := by
  decide +kernel

/-- Three in the afternoon of universal time is eleven in the morning four hours west of it: a
signal that sells "BUY-1" has the same identifier on both clocks, and another one than a signal that
buys "BUY-1-SELL", also on a machine in New York. On a machine on universal time it has that
identifier also with a time that has no offset. -/
theorem identifier_eq_across_clocks :
    let host := ZoneTable.newYork.zone
    let afternoon : Timestamp := ⟨739446 * Micros.perDay + 15 * Micros.perHour, some 0⟩
    let bare : Timestamp := { afternoon with offset := none }
    let morning : Timestamp :=
      ⟨739446 * Micros.perDay + 11 * Micros.perHour, some (-4 * Micros.perHour)⟩
    universalTime host afternoon = .ok afternoon ∧ universalTime host morning = .ok afternoon ∧
    (∃ a b, identifier host "BUY-1" .sell afternoon = .ok a ∧
      identifier host "BUY-1" .sell morning = .ok b ∧ a = b) ∧
    (∃ a b, identifier host "BUY-1" .sell afternoon = .ok a ∧
      identifier host "BUY-1-SELL" .buy morning = .ok b ∧ a ≠ b) ∧
    ∃ a b, identifier .universal "BUY-1" .sell bare = .ok a ∧
      identifier .universal "BUY-1" .sell morning = .ok b ∧ a = b := by
  intro host afternoon bare morning
  have first : universalTime host afternoon = .ok afternoon := by decide
  have second : universalTime host morning = .ok afternoon := by decide
  have meant : afternoon.offset = none ∨ morning.offset = none → host.IsUniversal := by
    rintro (unset | unset)
    · cases unset
    · cases unset
  refine ⟨first, second, ?_, ?_, ?_⟩
  · obtain ⟨a, b, left, right, -, same⟩ :=
      identifier_eq_iff "BUY-1" "BUY-1" .sell .sell first second
    exact ⟨a, b, left, right, (same meant).mpr ⟨rfl, rfl, by decide⟩⟩
  · obtain ⟨a, b, left, right, -, same⟩ :=
      identifier_eq_iff "BUY-1" "BUY-1-SELL" .sell .buy first second
    exact ⟨a, b, left, right, fun equal => absurd ((same meant).mp equal).2.1 (by decide)⟩
  · have third : universalTime .universal bare = .ok afternoon := by decide +kernel
    have fourth : universalTime .universal morning = .ok afternoon := by decide
    obtain ⟨a, b, left, right, -, same⟩ :=
      identifier_eq_iff "BUY-1" "BUY-1" .sell .sell third fourth
    have universal := same fun _ => Zone.isUniversal_universal
    exact ⟨a, b, left, right, universal.mpr ⟨rfl, rfl, by decide⟩⟩

end Signal

end VolatilityDesk

import VolatilityDesk.Proofs.Number.Extended
import VolatilityDesk.Proofs.Signal.Levels
import VolatilityDesk.Proofs.Tick.Step
/-!
# Looser thresholds

Thresholds of the strength, the volume and the change say when a sign of volatility is seen, and a
fifth one says what the signs must weigh together; nothing else of a decision reads them. Where they
ask for less, every sign that was seen is seen again, so the score is not lower, and a decision that
was made is made again with the same direction, levels and return.

* `signal_kept_when_loosened` — looser rules give every signal again.
* `score_le` — no score is lower by them.
-/

namespace VolatilityDesk.Classify

open Fallible

/-! ### Thresholds -/

/-- The first threshold is the second one or does not lie above it. One that is not a number is
comparable to none, not even to itself. -/
def NoHigher (x y : Float) : Prop := x = y ∨ x ≤ y

section NoHigher

variable {x y z : Float}

theorem NoHigher.lt_of_lt (low : NoHigher x y) (above : y < z) : x < z := by
  rcases low with rfl | le
  · exact above
  · exact Double.lt_of_le_of_lt le above

theorem NoHigher.lt_of_gt (low : NoHigher x y) (below : z < x) : z < y := by
  rcases low with rfl | le
  · exact below
  · exact Double.lt_of_lt_of_le below le

end NoHigher

/-- The first rules ask for no more volatility than the second ones, and for the same in all
else. -/
structure Loosens (loose strict : SignalRules Float) : Prop where
  overbought : NoHigher loose.overbought strict.overbought
  oversold : NoHigher strict.oversold loose.oversold
  volumeThreshold : NoHigher loose.volumeThreshold strict.volumeThreshold
  minChange : NoHigher loose.minChange strict.minChange
  minConfidence : NoHigher loose.minConfidence strict.minConfidence
  same : loose =
    { strict with
      overbought := loose.overbought
      oversold := loose.oversold
      volumeThreshold := loose.volumeThreshold
      minChange := loose.minChange
      minConfidence := loose.minConfidence }

/-! ### Scores -/

/-- The score of the signs that are seen: of the band, the strength, the volume and the change. -/
def weight (near strong surging moving : Bool) : Float :=
  Number.round4 (weigh (weigh (weigh (weigh 0.0 0.30 near) 0.25 strong) 0.25 surging) 0.20 moving)

theorem score_eq (r : SignalRules Float) (i : Indicators Float) :
    score r i = weight (nearUpper i || nearLower i)
      (decide (r.overbought < i.strength ∨ i.strength < r.oversold))
      (decide (r.volumeThreshold < i.volumeRatio))
      (decide (r.minChange < Number.magnitude i.priceChange)) := rfl

/-- Further signs never lower a score, also after it is rounded. -/
theorem weight_le : ∀ near strong surging moving strong' surging' moving' : Bool,
    strong ≤ strong' → surging ≤ surging' → moving ≤ moving' →
      weight near strong surging moving ≤ weight near strong' surging' moving' := by
  decide +kernel

section Loosening

variable {loose strict : SignalRules Float}

theorem score_le (looser : Loosens loose strict) (i : Indicators Float) :
    score strict i ≤ score loose i := by
  have seen {p q : Prop} [Decidable p] [Decidable q] (still : p → q) : decide p ≤ decide q :=
    fun sees => decide_eq_true (still (of_decide_eq_true sees))
  rw [score_eq, score_eq]
  apply weight_le
  · refine seen fun beyond => ?_
    rcases beyond with above | below
    · exact .inl (looser.overbought.lt_of_lt above)
    · exact .inr (looser.oversold.lt_of_gt below)
  · exact seen looser.volumeThreshold.lt_of_lt
  · exact seen looser.minChange.lt_of_lt

/-- A score that suffices for the stricter rules suffices for the looser ones. -/
theorem confident_of_loosens (looser : Loosens loose strict) {i : Indicators Float}
    (confident : ¬ score strict i < strict.minConfidence) :
    ¬ score loose i < loose.minConfidence := by
  intro short
  have short : score loose i < strict.minConfidence := looser.minConfidence.lt_of_gt short
  exact confident (Double.lt_of_le_of_lt (score_le looser i) short)

end Loosening

/-! ### Decisions -/

section Decisions

variable {loose strict : SignalRules Float} {s : Series Float}

/-- The looser rules make the same decision, with their own score. -/
theorem Decided.loosen {v : Verdict Float} (decided : Decided strict s v)
    (looser : Loosens loose strict) :
    Decided loose s { v with confidence := score loose v.indicators } := by
  have confident := decided.confident
  rw [decided.confidence] at confident
  have confident := confident_of_loosens looser confident
  obtain ⟨overbought, oversold, volumeThreshold, minChange, minConfidence, same⟩ := looser
  exact
    { history := by rw [same]; exact decided.history
      indicators := by rw [same]; exact decided.indicators
      positive := decided.positive
      confident := confident
      profitable := by rw [same]; exact decided.profitable
      placed := decided.placed
      directed := decided.directed
      levels := by rw [same]; exact decided.levels
      gain := decided.gain
      confidence := rfl }

/-- **Looser thresholds keep every signal.** A signal that rules give is given by rules that ask for
no more volatility: the same signal, with a confidence that is not lower. -/
theorem signal_kept_when_loosened (looser : Loosens loose strict) {now : Timestamp}
    {signal : Signal Float} (given : signal? strict s now = .ok (some signal)) :
    ∃ confidence, signal.confidence ≤ confidence ∧
      signal? loose s now = .ok (some { signal with confidence := confidence }) := by
  unfold signal? at given
  cases found : verdict? strict s with
  | none =>
    rw [found] at given
    cases given
  | some v =>
    simp only [found] at given
    obtain ⟨id, named, parts⟩ := bind_eq_ok_iff.mp given
    cases parts
    have decided := verdict?_eq_some_iff.mp found
    refine ⟨score loose v.indicators, ?_, ?_⟩
    · rw [decided.confidence]
      exact score_le looser v.indicators
    · unfold signal?
      rw [verdict?_eq_some_iff.mpr (decided.loosen looser)]
      have sameZone : loose.localZone = strict.localZone := by rw [looser.same]
      refine bind_eq_ok_iff.mpr ⟨id, ?_, ?_⟩
      · rw [sameZone]
        exact named
      · rw [looser.same]
        rfl

end Decisions

/-! ### A price that swings -/

open RiskDesk (sampleSeries sampleRules noon)

/-- A price that comes back to 101 through its band, at a steady volume. -/
def swinging : Series Float := sampleSeries "AAPL" [99.5, 101.0, 99.0, 101.0]

/-- Rules that just let the band and the change suffice. -/
def strictRules : SignalRules Float := { sampleRules with minConfidence := 0.5 }

/-- Rules to which a steady volume is a surge. -/
def looseRules : SignalRules Float :=
  { sampleRules with minConfidence := 0.4, volumeThreshold := 50.0 }

/-- The volume adds to the score of the looser rules. -/
theorem signal_kept_with_surge :
    ∃ signal confidence, Loosens looseRules strictRules ∧ signal.confidence ≤ confidence ∧
      signal? strictRules swinging (noon 739446) = .ok (some signal) ∧
      signal? looseRules swinging (noon 739446) =
        .ok (some { signal with confidence := confidence }) := by
  have looser : Loosens looseRules strictRules :=
    { overbought := .inl rfl
      oversold := .inl rfl
      volumeThreshold := .inr (by decide +kernel)
      minChange := .inl rfl
      minConfidence := .inr (by decide +kernel)
      same := rfl }
  have buys : (signal? strictRules swinging (noon 739446)).toOption.map
      (fun found => found.map (·.direction)) = some (some .buy) := by decide +kernel
  obtain ⟨found, given, directed⟩ := map_toOption_eq_some_iff.mp buys
  obtain ⟨signal, rfl, -⟩ := Option.map_eq_some_iff.mp directed
  obtain ⟨confidence, higher, kept⟩ := signal_kept_when_loosened looser given
  exact ⟨signal, confidence, looser, higher, given, kept⟩

end VolatilityDesk.Classify

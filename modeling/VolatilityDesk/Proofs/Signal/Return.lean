import VolatilityDesk.Proofs.Signal.Gain
import VolatilityDesk.Proofs.Signal.Levels
import VolatilityDesk.Proofs.Tick.Step
/-!
# The return gate

A target is as far from the entry as the rate of return asks for unless the band on that side is
nearer. With room in the band a return can still miss the rate, because the target and the return
are rounded to four places: by half a place of the return and by what half a place is of the entry,
which is much for prices of a few cents. From a hundred on, a rate with four places is reached, and
then no decision is dropped for its return.

* `return_in_room` — how far a return with room in the band can miss the rate.
* `return_not_reached` — a return that misses it.
-/

namespace VolatilityDesk.Classify

open Double

/-- The band on the profitable side leaves room for the whole return. -/
def Room (i : Indicators Float) (entry rate : Float) : Direction → Prop
  | .buy => entry * (1.0 + rate / 100.0) ≤ i.upperBand
  | .sell => i.lowerBand ≤ entry * (1.0 - rate / 100.0)

instance (i : Indicators Float) (entry rate : Float) (d : Direction) :
    Decidable (Room i entry rate d) :=
  match d with
  | .buy => inferInstanceAs (Decidable (_ ≤ _))
  | .sell => inferInstanceAs (Decidable (_ ≤ _))

/-- What a trade gains from entry to target. -/
def gain (entry target : Float) : Direction → Float
  | .buy => target - entry
  | .sell => entry - target

section Gate

variable {rules : SignalRules Float} {i : Indicators Float} {entry : Float} {d : Direction}
  {r e : ℚ}

theorem expectedReturn_eq (price : value? entry = some e) (pos : 0 < e) (target : Float) :
    expectedReturn entry target d = Number.round4 (gain entry target d / entry * 100.0) := by
  have above : ¬ entry ≤ 0.0 := by
    rw [le_iff_value price value_zero]
    exact not_le.mpr pos
  unfold expectedReturn
  rw [if_neg above]
  cases d <;> rfl

theorem gain_bounds (rate : value? rules.minReturn = some (100 * r)) (rate_pos : 0 < r)
    (price : value? entry = some e) (pos : 0 < e) (room : Room i entry rules.minReturn d) :
    AtLeast (-3 * e) (gain entry (levels rules i entry d).target d) ∧
      AtLeast (e * r - (9 * (e * (1 + r)) + 5) / 2 ^ 53 - 1 / 20000)
        (gain entry (levels rules i entry d).target d) := by
  cases d with
  | buy =>
    obtain ⟨safe, bound⟩ := above_bounds rate rate_pos price pos
    exact bought_bounds price pos rate_pos (atLeast_least safe room) (atLeast_least bound room)
  | sell =>
    obtain ⟨safe, bound⟩ := below_bounds rate rate_pos price pos
    exact sold_bounds price pos rate_pos (atMost_greatest safe room) (atMost_greatest bound room)

theorem gain_exactly {m : Nat} (rate : value? rules.minReturn = some (100 * r)) (rate_pos : 0 < r)
    (price : value? entry = some e) (room : Room i entry rules.minReturn d) (ge : 100 ≤ e)
    (lt : e < 100 + 1 / 250000) (m_pos : 0 < m) (small : m ≤ 10000000)
    (close : |100 * r - m / 10000| ≤ 1001 / 2 ^ 53) :
    AtLeast ((m : ℚ) / 10000 - 1 / 250000 - 2300 / 2 ^ 53)
      (gain entry (levels rules i entry d).target d) := by
  have pos : 0 < e := by linarith
  cases d with
  | buy =>
    obtain ⟨-, bound⟩ := above_bounds rate rate_pos price pos
    exact bought_exactly price ge lt m_pos small close (atLeast_least bound room)
  | sell =>
    obtain ⟨-, bound⟩ := below_bounds rate rate_pos price pos
    exact sold_exactly price ge lt m_pos small close (atMost_greatest bound room)

/-- With room in the band, the expected return is what was asked for but for the two roundings. -/
theorem expectedReturn_bound (rate : value? rules.minReturn = some r) (rate_pos : 0 < r)
    (price : value? entry = some e) (pos : 0 < e) (room : Room i entry rules.minReturn d) :
    AtLeast (r - 1 / 20000 - 1 / (200 * e) - (1 + r + 1 / e) / 10 ^ 12)
      (expectedReturn entry (levels rules i entry d).target d) := by
  have part : r = 100 * (r / 100) := by ring
  rw [part] at rate
  obtain ⟨safe, bound⟩ := gain_bounds rate (by positivity) price pos room
  rw [expectedReturn_eq price pos, part]
  exact return_bound price pos (by positivity) safe bound

/-- From a hundred on, a rate with four places is reached. -/
theorem not_expectedReturn_lt {m : Nat} (places : rules.minReturn = Binary64.nearest false m 10000)
    (m_pos : 0 < m) (small : m ≤ 10000000) (price : value? entry = some e) (ge : 100 ≤ e)
    (room : Room i entry rules.minReturn d) :
    ¬ expectedReturn entry (levels rules i entry d).target d < rules.minReturn := by
  have pos : 0 < e := by linarith
  have m_ge : (1 : ℚ) ≤ m := by exact_mod_cast m_pos
  obtain ⟨v, rate, close⟩ := exists_rate small
  have part : v = 100 * (v / 100) := by ring
  rw [← places, part] at rate
  rw [part] at close
  have rate_pos : 0 < v / 100 := by linarith [(abs_le.mp close).1]
  obtain ⟨q, above, percent⟩ : ∃ q : ℚ, (m : ℚ) - 1 / 2 < 10000 * q ∧
      AtLeast q (gain entry (levels rules i entry d).target d / entry * 100.0) := by
    rcases lt_or_ge e (100 + 1 / 250000) with lt | large
    · exact percentage_of_exact price ge lt m_pos small
        (gain_exactly rate rate_pos price room ge lt m_pos small close)
    · obtain ⟨safe, bound⟩ := gain_bounds rate rate_pos price pos room
      exact percentage_of_large price large rate_pos small close safe bound
  rw [expectedReturn_eq price pos, places]
  exact not_lt_of_percentage m_pos small above percent

/-- A series passes all gates but the one of the return. -/
structure OtherGates (rules : SignalRules Float) (s : Series Float) (d : Direction) : Prop where
  history : rules.periods.required ≤ (s.size : Int)
  confident : ¬ score rules (Indicator.compute rules.periods s) < rules.minConfidence
  directed : direction? (Indicator.compute rules.periods s) = some d
  placed : Straddles s.latestPrice
    (levels rules (Indicator.compute rules.periods s) s.latestPrice d).target
    (levels rules (Indicator.compute rules.periods s) s.latestPrice d).stop d

/-- Behind the other gates, a decision depends on the return alone. -/
theorem verdict?_ne_none {s : Series Float} (gates : OtherGates rules s d)
    (price : value? s.latestPrice = some e) (pos : 0 < e)
    (reached : ¬ expectedReturn s.latestPrice
      (levels rules (Indicator.compute rules.periods s) s.latestPrice d).target d <
        rules.minReturn) :
    verdict? rules s ≠ none := by
  have latest : (Indicator.compute rules.periods s).price = s.latestPrice := rfl
  have above : ¬ s.latestPrice ≤ 0.0 := by
    rw [le_iff_value price value_zero]
    exact not_le.mpr pos
  unfold verdict?
  simp only [latest]
  rw [if_neg (Int.not_lt.mpr gates.history), if_neg above, if_neg gates.confident, gates.directed]
  simp only
  rw [if_neg reached, if_pos (ordered_iff.mpr gates.placed)]
  exact Option.some_ne_none _

theorem signal?_ne_none {s : Series Float} {now : Timestamp} (decided : verdict? rules s ≠ none) :
    signal? rules s now ≠ .ok none := by
  intro dropped
  obtain ⟨v, found⟩ := Option.ne_none_iff_exists'.mp decided
  simp only [signal?, found] at dropped
  obtain ⟨id, -, parts⟩ := Fallible.bind_eq_ok_iff.mp dropped
  cases parts

/-- **The return comes near to the rate.** With room in the band, the return falls short of the rate
by no more than half a place of the return and what half a place is of the entry. At entries of a
hundred and more a rate with four places, up to a thousand, is reached, and a decision is not
dropped for its return. -/
theorem return_in_room (rate : value? rules.minReturn = some r) (rate_pos : 0 < r)
    (price : value? entry = some e) (pos : 0 < e) (room : Room i entry rules.minReturn d) :
    AtLeast (r - 1 / 20000 - 1 / (200 * e) - (1 + r + 1 / e) / 10 ^ 12)
        (expectedReturn entry (levels rules i entry d).target d) ∧
      ∀ m : Nat, 0 < m → m ≤ 10000000 → rules.minReturn = Binary64.nearest false m 10000 → 100 ≤ e →
        ¬ expectedReturn entry (levels rules i entry d).target d < rules.minReturn ∧
        ∀ (s : Series Float) (now : Timestamp), Indicator.compute rules.periods s = i →
          s.latestPrice = entry → OtherGates rules s d → signal? rules s now ≠ .ok none := by
  refine ⟨expectedReturn_bound rate rate_pos price pos room, ?_⟩
  intro m m_pos small places ge
  have reached := not_expectedReturn_lt places m_pos small price ge room
  refine ⟨reached, ?_⟩
  rintro s now rfl rfl gates
  exact signal?_ne_none (verdict?_ne_none gates price pos reached)

end Gate

/-- A price that has risen back to 101, with a band up to 102. -/
def risen : Series Float := RiskDesk.sampleSeries "AAPL" [99.5, 101.0, 99.0, 101.0]

theorem signal_in_room :
    signal? RiskDesk.sampleRules risen (RiskDesk.noon 739446) ≠ .ok none := by
  have rate : value? RiskDesk.sampleRules.minReturn = some (3602879701896397 / 2 ^ 55) := by
    have stands : exact RiskDesk.sampleRules.minReturn =
        .finite .positive 7205759403792794 (-56) (by decide) := rfl
    rw [value?, stands, number?, factor]
    norm_num
  have price : value? 101.0 = some 101 := by
    have stands : exact 101.0 = .finite .positive 7107243161944064 (-46) (by decide) := rfl
    rw [value?, stands, number?, factor]
    norm_num
  have room : Room (Indicator.compute RiskDesk.sampleRules.periods risen) 101.0
      RiskDesk.sampleRules.minReturn .buy := by decide +kernel
  have places : RiskDesk.sampleRules.minReturn = Binary64.nearest false 1000 10000 := by
    decide +kernel
  have gates : OtherGates RiskDesk.sampleRules risen .buy :=
    { history := by decide
      confident := by decide +kernel
      directed := by decide +kernel
      placed := by
        rw [← ordered_iff]
        decide +kernel }
  exact ((return_in_room rate (by norm_num) price (by norm_num) room).2 1000 (by decide)
    (by decide) places (by norm_num)).2 risen _ rfl rfl gates

/-- Indicators at a price just below a hundred, with a band that is far from it. -/
def wideBand : Indicators Float where
  price := 99.99
  average := 100.0
  upperBand := 110.0
  lowerBand := 90.0
  strength := 60.0
  volumeRatio := 200.0
  priceChange := 1.5

/-- Just below a hundred the return of the default rules can be missed: 1.4999 for 1.5. -/
theorem return_not_reached : Room wideBand 99.99 Settings.defaults.rules.minReturn .buy ∧
    expectedReturn 99.99 (levels Settings.defaults.rules wideBand 99.99 .buy).target .buy <
      Settings.defaults.rules.minReturn := by
  constructor
  · decide +kernel
  · decide +kernel

end VolatilityDesk.Classify

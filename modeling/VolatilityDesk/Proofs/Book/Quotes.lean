import VolatilityDesk.Trading.Book
/-!
# What the book reads of prices

The book looks prices up and does nothing else with them: a rule asks for the price of its
position, and the unrealized result for the prices of the open ones. So prices that agree on every
instrument, in whatever order they are listed, are the same to the book, and to a position it is
enough that they agree on its instrument.

* `scanStops_congr`, `flatten_congr`, `unrealized_congr` — prices that agree are the same to the
  book.
-/

namespace VolatilityDesk

variable {α : Type} {prices prices' : Prices α}

/-- The prices quote the same for every instrument. -/
def Prices.Agree (prices prices' : Prices α) : Prop :=
  ∀ instrument, prices.lookup instrument = prices'.lookup instrument

namespace Book

variable [Number α] {limit : α} {now : Timestamp}

section Position

variable {p : Position α} (same : prices.lookup p.instrument = prices'.lookup p.instrument)

include same

theorem stopRule_congr : stopRule prices limit now p = stopRule prices' limit now p := by
  unfold stopRule
  rw [same]

theorem flattenRule_congr : flattenRule prices now p = flattenRule prices' now p := by
  unfold flattenRule
  rw [same]

end Position

section Agreeing

variable (agree : prices.Agree prices') (b : Book α)

include agree

theorem scanStops_congr : b.scanStops prices limit now = b.scanStops prices' limit now := by
  have rules : stopRule prices limit now = stopRule prices' limit now := by
    funext p
    exact stopRule_congr (agree p.instrument)
  rw [scanStops, scanStops, rules]

theorem flatten_congr : b.flatten prices now = b.flatten prices' now := by
  have rules : flattenRule prices now = flattenRule prices' now := by
    funext p
    exact flattenRule_congr (agree p.instrument)
  rw [flatten, flatten, rules]

theorem unrealized_congr : b.unrealized prices = b.unrealized prices' := by
  unfold unrealized
  congr 1
  funext total p
  rw [agree p.instrument]

end Agreeing

end Book

end VolatilityDesk

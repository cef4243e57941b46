import VolatilityDesk.Market.Series
/-!
# Price feeds

A feed is fetched from again and again and gives a snapshot of the market each time, or fails.

A replay hands out recorded series one sample further with every fetch: each series up to a common
place, or the last few samples of it. Once the longest series is used up, every fetch gives the
same.

A script hands out prepared results one after the other, and the last one for ever.
-/

namespace VolatilityDesk

/-- A fetch failed, for a reason in words. -/
structure FeedFault where
  message : String
  deriving DecidableEq, Repr

/-- What one fetch gives. -/
structure Fetched where
  series : Except FeedFault (Snapshot Float)
  /-- During the fetch the desk was told to stop. -/
  stop : Bool := false

/-- A source of price windows: a fetch names the instruments that are wanted. -/
class PriceFeed (φ : Type) where
  fetch : φ → List String → Fetched × φ

/-! ### Recorded prices -/

/-- Recorded series and how far they are handed out. -/
structure Replay where
  recorded : Snapshot Float
  /-- The most samples of a series that a fetch gives; none or zero for all of them. -/
  window : Option Int := none
  /-- The number of samples handed out. -/
  cursor : Nat := 0

namespace Replay

/-- The instruments that are recorded. -/
def instruments (r : Replay) : List String := r.recorded.map (·.1)

/-- The number of samples of the longest series. -/
def length (r : Replay) : Nat := r.recorded.foldl (fun n (_, s) => max n s.size) 0

/-- All samples have been given out. -/
def exhausted (r : Replay) : Bool := r.length ≤ r.cursor

/-- One sample further, unless all are used up. -/
def advance (r : Replay) : Replay := if r.exhausted then r else { r with cursor := r.cursor + 1 }

/-- Where a window of samples that ends at a place begins. -/
def windowStart (window : Option Int) (stop : Nat) : Nat :=
  match window with
  | none => 0
  | some size => if size = 0 then 0 else (max 0 ((stop : Int) - size)).toNat

/-- What an instrument's series shows at the cursor, if it shows anything. -/
def visible? (r : Replay) (instrument : String) : Option (String × Series Float) :=
  match r.recorded.lookup instrument with
  | none => none
  | some s =>
    let stop := min r.cursor s.size
    if stop = 0 then none
    else some (instrument,
      { s.slice (windowStart r.window stop) stop with instrument := instrument })

/-- One sample further: what the requested series show there, and the replay after it. -/
def fetch (r : Replay) (instruments : List String) : Snapshot Float × Replay :=
  let r := r.advance
  ((distinct instruments).filterMap r.visible?, r)

end Replay

instance : PriceFeed Replay where
  fetch r instruments :=
    let (found, r) := r.fetch instruments
    ({ series := .ok found }, r)

/-! ### Prepared results -/

/-- Prepared results of fetches. -/
structure Script where
  items : List Fetched

namespace Script

/-- A script that has ended gives no series. -/
def ended : Fetched := { series := .ok [] }

/-- The script after a fetch: its last item stays. -/
def advance (s : Script) : Script :=
  match s.items with
  | _ :: next :: rest => ⟨next :: rest⟩
  | items => ⟨items⟩

/-- Only instruments that are wanted are handed over. -/
def only (instruments : List String) (f : Fetched) : Fetched :=
  { f with series := f.series.map fun s => s.filter fun (key, _) => instruments.contains key }

/-- Gives the next item, restricted to the instruments asked for. -/
def fetch (s : Script) (instruments : List String) : Fetched × Script :=
  (only instruments (s.items.head?.getD ended), s.advance)

end Script

instance : PriceFeed Script where
  fetch := Script.fetch

end VolatilityDesk

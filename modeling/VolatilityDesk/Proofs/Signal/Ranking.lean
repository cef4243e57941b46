import VolatilityDesk.Proofs.Number.Extended
import VolatilityDesk.Signal.Export
/-!
# The ranking of signals

Signals are listed by confidence and then by expected return, the highest first. Where both are
numbers or infinities, they are points of a line, and the pairs of points are in order by their
first place and then by their second. Sorting by that order leaves signals of one rank as they came:
`ranking_ranked`.

* `ranking_ranked` — the ranked list has the same signals, in order, ties as they came.
-/

namespace VolatilityDesk

namespace Signal

open Double

/-- Neither the confidence nor the expected return is without a value. -/
def Comparable (s : Signal Float) : Prop :=
  Number.isNan s.confidence = false ∧ Number.isNan s.expectedReturn = false

/-- The first signal ranks with the second or above it. -/
def RanksAtLeast (a b : Signal Float) : Prop :=
  b.confidence < a.confidence ∨
    (a.confidence == b.confidence) = true ∧ b.expectedReturn ≤ a.expectedReturn

/-- A list holds the same signals in descending order, and any of them that were in descending order
before, such as those of one rank, in the order that they had. -/
structure Ranking (signals ranking : List (Signal Float)) : Prop where
  perm : ranking.Perm signals
  descending : ranking.Pairwise RanksAtLeast
  stable : ∀ part : List (Signal Float),
    part.Sublist signals → part.Pairwise RanksAtLeast → part.Sublist ranking

/-! ### Ranks as points -/

/-- Where a signal stands: by its confidence, then by its expected return. -/
def rank (s : Signal Float) : Extended ×ₗ Extended :=
  toLex ((extended? s.confidence).getD ⊥, (extended? s.expectedReturn).getD ⊥)

section Rank

variable {a b : Signal Float}

theorem ranksAtLeast_iff (left : a.Comparable) (right : b.Comparable) :
    RanksAtLeast a b ↔ rank b ≤ rank a := by
  obtain ⟨p, confidence⟩ := exists_extended? left.1
  obtain ⟨q, confidence'⟩ := exists_extended? right.1
  obtain ⟨u, gain⟩ := exists_extended? left.2
  obtain ⟨v, gain'⟩ := exists_extended? right.2
  rw [RanksAtLeast, lt_iff_points confidence' confidence, beq_iff_points confidence confidence',
    le_iff_points gain' gain, @eq_comm _ p q, rank, rank, Prod.Lex.toLex_le_toLex, confidence,
    confidence', gain, gain']
  rfl

theorem ranksBelow_iff (left : a.Comparable) (right : b.Comparable) :
    ranksBelow a b = true ↔ rank a < rank b := by
  obtain ⟨p, confidence⟩ := exists_extended? left.1
  obtain ⟨q, confidence'⟩ := exists_extended? right.1
  obtain ⟨u, gain⟩ := exists_extended? left.2
  obtain ⟨v, gain'⟩ := exists_extended? right.2
  rw [rank, rank, Prod.Lex.toLex_lt_toLex, confidence, confidence', gain, gain']
  unfold ranksBelow
  by_cases same : p = q
  · rw [if_pos ((beq_iff_points confidence confidence').mpr same), decide_eq_true_iff,
      lt_iff_points gain gain']
    simp [same]
  · rw [if_neg (mt (beq_iff_points confidence confidence').mp same), decide_eq_true_iff,
      lt_iff_points confidence confidence']
    simp [same]

end Rank

/-! ### Sorting -/

/-- Comparable signals are sorted by their ranks. -/
theorem ranked_eq_mergeSort_rank {signals : List (Signal Float)}
    (comparable : ∀ s ∈ signals, s.Comparable) :
    ranked signals = signals.mergeSort fun a b => decide (rank b ≤ rank a) := by
  have same : ∀ a ∈ signals, ∀ b ∈ signals,
      (!ranksBelow a b) = decide (rank b ≤ rank a) := by
    intro a left b right
    have below := ranksBelow_iff (comparable a left) (comparable b right)
    rw [Bool.eq_iff_iff, Bool.not_eq_true', ← Bool.not_eq_true, below, not_lt, decide_eq_true_iff]
  simpa [ranked] using List.map_mergeSort (f := fun s => s) same

/-- **Ranking.** Signals whose confidence and return compare are listed in descending order, those
of one rank in the order in which they came. -/
theorem ranking_ranked {signals : List (Signal Float)}
    (comparable : ∀ s ∈ signals, s.Comparable) : Ranking signals (ranked signals) := by
  have trans : ∀ a b c : Signal Float, decide (rank b ≤ rank a) = true →
      decide (rank c ≤ rank b) = true → decide (rank c ≤ rank a) = true := by
    intro a b c first second
    rw [decide_eq_true_iff] at first second ⊢
    exact second.trans first
  have total : ∀ a b : Signal Float,
      (decide (rank b ≤ rank a) || decide (rank a ≤ rank b)) = true := by
    intro a b
    rw [Bool.or_eq_true, decide_eq_true_iff, decide_eq_true_iff]
    exact le_total (rank b) (rank a)
  rw [ranked_eq_mergeSort_rank comparable]
  refine ⟨List.mergeSort_perm _ _, ?_, ?_⟩
  · refine (List.pairwise_mergeSort trans total signals).imp_of_mem ?_
    intro a b left right ordered
    rw [ranksAtLeast_iff (comparable a (List.mem_mergeSort.mp left))
      (comparable b (List.mem_mergeSort.mp right))]
    exact of_decide_eq_true ordered
  · intro part inside ordered
    refine List.sublist_mergeSort trans total (ordered.imp_of_mem ?_) inside
    intro a b left right above
    rw [ranksAtLeast_iff (comparable a (inside.subset left))
      (comparable b (inside.subset right))] at above
    exact decide_eq_true above

theorem length_ranked (signals : List (Signal Float)) :
    (ranked signals).length = signals.length := List.length_mergeSort signals

end Signal

end VolatilityDesk

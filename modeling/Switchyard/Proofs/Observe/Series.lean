import Mathlib.Algebra.Ring.Nat
import Mathlib.Algebra.BigOperators.Group.List.Lemmas
import Mathlib.Data.List.Forall2
import Switchyard.Observe.Observation

/-!
  Counter series, and sums over several of them.

  A series is a name with labels, and its value is the number of its increments (`Observation.value`).  The
  sum over all series of a kind that a record has is the number of increments of that kind
  (`sumOver_eq_countP`); so for sums over series, too, it only matters which increments there are.
-/

namespace Switchyard.Observation

/-- The value of a series: the number of its increments in the record. -/
def value (m : Metric) (record : List Observation) : Nat := (metrics record).count m

/-- The series of a record, each once. -/
def seriesOf (record : List Observation) : List Metric := (metrics record).dedup

/-- The sum of the values of all series of a kind. -/
def sumOver (kind : Metric → Bool) (record : List Observation) : Nat :=
  (((seriesOf record).filter kind).map fun m => value m record).sum

/-- **The sum over all series of a kind is the number of increments of that kind.** -/
theorem sumOver_eq_countP (kind : Metric → Bool) (record : List Observation) :
    sumOver kind record = (metrics record).countP kind :=
  List.sum_map_count_dedup_filter_eq_countP kind (metrics record)

/-- The value of a counter is how often it was counted. -/
theorem value_eq_countP (m : Metric) (record : List Observation) :
    value m record = (metrics record).countP (· == m) := rfl

/-- What was counted in two records one after the other was counted in one or the other. -/
theorem metrics_append (r r' : List Observation) : metrics (r ++ r') = metrics r ++ metrics r' :=
  List.filterMap_append

/-- Two lists of which the items correspond have as many of a kind. -/
theorem countP_of_forall₂ {α β : Type} {R : α → β → Prop} {kind : α → Bool} {kind' : β → Bool}
    (h : ∀ a b, R a b → kind a = kind' b) {as : List α} {bs : List β} (hall : List.Forall₂ R as bs) :
    as.countP kind = bs.countP kind' := by
  induction hall with
  | nil => rfl
  | cons hab _ ih => rw [List.countP_cons, List.countP_cons, h _ _ hab, ih]

end Switchyard.Observation

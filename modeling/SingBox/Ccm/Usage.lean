/-
**The cost of recorded usage** (`service/ccm/service_usage.go`).

Cache-creation tokens are counted as a total and, in newer files, also by lifetime. `calculateCost` takes the split as
soon as one of its counters is positive, and the total otherwise. `usage_additive_iff`: a record adds its own cost
exactly if what the counters lose by overflow, and what the two sides lose by being measured another way than before,
costs nothing together.

Counters are those of `int64`, also negative ones of a stored file. Prices are exact, the cost is the one before rounding,
and the table behind `getPricing` is a parameter.
-/

import SingBox.Adapter.Metadata
import Mathlib.Algebra.Order.Ring.Rat
import Mathlib.Algebra.Order.Field.Rat
import Mathlib.Data.NNRat.Defs
import Mathlib.Tactic.Linarith

namespace SingBox.Ccm

structure UsageStats where
  (requestCount messagesCount inputTokens outputTokens cacheReadInputTokens cacheCreationInputTokens : Int64 := 0)
  (cacheCreation5MinuteInputTokens cacheCreation1HourInputTokens : Int64 := 0)

structure ModelPricing where
  (inputPrice outputPrice cacheReadPrice cacheWritePrice5Minute cacheWritePrice1Hour : ℚ≥0)

/-- A user without an entry has empty statistics. -/
structure CostCombination where
  model : Bytes
  contextWindow : Int
  weekStartUnix : Int
  total : UsageStats := {}
  byUser : Bytes → UsageStats := fun _ => {}

/-- The arguments of `addUsageToCombinations`. The token counts of a response are not negative. -/
structure Usage where
  model : Bytes
  contextWindow : Int
  weekStartUnix : Int
  (messagesCount inputTokens outputTokens cacheReadTokens cacheCreationTokens : Int64 := 0)
  (cacheCreation5MinuteTokens cacheCreation1HourTokens : Int64 := 0)
  user : Bytes
  nonNegative : ∀ count ∈ [inputTokens, outputTokens, cacheReadTokens, cacheCreationTokens,
    cacheCreation5MinuteTokens, cacheCreation1HourTokens], 0 ≤ count

variable (pricing : ModelPricing) (s : UsageStats) (u : Usage)

/-- `float64(tokens) * price`, exactly. -/
def cost (tokens : Int64) (price : ℚ≥0) : ℚ := tokens.toInt * price

namespace UsageStats

def split : Bool := s.cacheCreation5MinuteInputTokens > 0 || s.cacheCreation1HourInputTokens > 0

/-- The cache-creation tokens by lifetime, or by their total. -/
def measured (split : Bool) : ℚ :=
  if split then
    cost s.cacheCreation5MinuteInputTokens pricing.cacheWritePrice5Minute +
      cost s.cacheCreation1HourInputTokens pricing.cacheWritePrice1Hour
  else cost s.cacheCreationInputTokens pricing.cacheWritePrice5Minute

def cacheCreationCost : ℚ := s.measured pricing s.split

def otherCost : ℚ :=
  cost s.inputTokens pricing.inputPrice + cost s.outputTokens pricing.outputPrice +
    cost s.cacheReadInputTokens pricing.cacheReadPrice

def calculateCost : ℚ := (s.otherCost pricing + s.cacheCreationCost pricing) / 1000000

def add : UsageStats where
  requestCount := s.requestCount + 1
  messagesCount := s.messagesCount + u.messagesCount
  inputTokens := s.inputTokens + u.inputTokens
  outputTokens := s.outputTokens + u.outputTokens
  cacheReadInputTokens := s.cacheReadInputTokens + u.cacheReadTokens
  cacheCreationInputTokens := s.cacheCreationInputTokens +
    if u.cacheCreationTokens = 0 then u.cacheCreation5MinuteTokens + u.cacheCreation1HourTokens else u.cacheCreationTokens
  cacheCreation5MinuteInputTokens := s.cacheCreation5MinuteInputTokens + u.cacheCreation5MinuteTokens
  cacheCreation1HourInputTokens := s.cacheCreation1HourInputTokens + u.cacheCreation1HourTokens

end UsageStats

open UsageStats

def Usage.alone : UsageStats := add {} u

def CostCombination.matches (c : CostCombination) : Bool :=
  c.model = u.model && c.contextWindow = u.contextWindow && c.weekStartUnix = u.weekStartUnix

def CostCombination.add (c : CostCombination) : CostCombination :=
  { c with
    total := c.total.add u
    byUser := if u.user = [] then c.byUser else Function.update c.byUser u.user ((c.byUser u.user).add u) }

def newCombination : CostCombination := { u with }

def addUsageToCombinations : List CostCombination → List CostCombination
  | [] => [(newCombination u).add u]
  | c :: combinations => if c.matches u then c.add u :: combinations else c :: addUsageToCombinations combinations

/-- The combination of a record: the first that matches, or a new one. -/
def matchedCombination (combinations : List CostCombination) : CostCombination :=
  (combinations.find? (·.matches u)).getD (newCombination u)

theorem matchedCombination_add (combinations : List CostCombination) :
    matchedCombination u (addUsageToCombinations u combinations) = (matchedCombination u combinations).add u := by
  induction combinations with
  | nil => simp [matchedCombination, addUsageToCombinations, CostCombination.matches, CostCombination.add, newCombination]
  | cons c combinations ih =>
    rw [addUsageToCombinations]
    split_ifs with here
    · have added : (c.add u).matches u = true := here
      simp [matchedCombination, here, added]
    · simpa [matchedCombination, here] using ih

/-- **The cost grows** by that of the record alone. -/
def Grows (before after : UsageStats) : Prop :=
  before.calculateCost pricing ≤ after.calculateCost pricing ∧
    after.calculateCost pricing = before.calculateCost pricing + u.alone.calculateCost pricing

/-! ### What is lost -/

/-- What a sum loses by overflow: nothing if it fits into 64 bits. -/
def overflow (a b : Int64) (price : ℚ≥0) : ℚ := (a.toInt + b.toInt - (a + b).toInt : ℤ) * price

theorem cost_add (a b : Int64) (price : ℚ≥0) : cost (a + b) price = cost a price + cost b price - overflow a b price := by
  simp only [cost, overflow]
  push_cast
  ring

/-- The counters of the record, each with the price of its counter, that overflow; of the cache-creation counters those
that are measured. -/
def overflowCost (split : Bool) : ℚ :=
  overflow s.inputTokens u.inputTokens pricing.inputPrice +
    overflow s.outputTokens u.outputTokens pricing.outputPrice +
    overflow s.cacheReadInputTokens u.cacheReadTokens pricing.cacheReadPrice +
    if split then
      overflow s.cacheCreation5MinuteInputTokens u.cacheCreation5MinuteTokens pricing.cacheWritePrice5Minute +
        overflow s.cacheCreation1HourInputTokens u.cacheCreation1HourTokens pricing.cacheWritePrice1Hour
    else overflow s.cacheCreationInputTokens u.alone.cacheCreationInputTokens pricing.cacheWritePrice5Minute

/-- What statistics lose when they are measured with or without the split. -/
def remeasured (split : Bool) : ℚ := s.cacheCreationCost pricing - s.measured pricing split

/-- **Nothing is lost**: what overflows, and what the statistics and the record lose by the measure of their sum, costs
nothing together. -/
def Lossless : Prop :=
  let split : Bool := s.cacheCreation5MinuteInputTokens + u.cacheCreation5MinuteTokens > 0 ||
    s.cacheCreation1HourInputTokens + u.cacheCreation1HourTokens > 0
  overflowCost pricing s u split + remeasured pricing s split + remeasured pricing u.alone split = 0

theorem alone_calculateCost_nonneg : 0 ≤ u.alone.calculateCost pricing := by
  have known := u.nonNegative
  simp only [List.mem_cons, List.not_mem_nil, or_false, forall_eq_or_imp, forall_eq] at known
  obtain ⟨input, output, read, created, minutes, hour⟩ := known
  have nonneg {tokens : Int64} (known : 0 ≤ tokens) (price : ℚ≥0) : 0 ≤ cost tokens price :=
    mul_nonneg (mod_cast Int64.le_iff_toInt_le.mp known) price.2
  have creation : 0 ≤ u.alone.cacheCreationCost pricing := by
    simp only [cacheCreationCost, measured, split, Usage.alone, UsageStats.add, Int64.zero_add]
    split_ifs with splits unset
    · exact add_nonneg (nonneg minutes _) (nonneg hour _)
    · simp only [gt_iff_lt, Bool.or_eq_true, decide_eq_true_eq, not_or, Int64.not_lt] at splits
      rw [Int64.le_antisymm splits.1 minutes, Int64.le_antisymm splits.2 hour]
      exact nonneg (by decide) _
    · exact nonneg created _
  refine div_nonneg (add_nonneg ?_ creation) (by norm_num)
  simp only [otherCost, Usage.alone, UsageStats.add, Int64.zero_add]
  exact add_nonneg (add_nonneg (nonneg input _) (nonneg output _)) (nonneg read _)

theorem grows_iff : Grows pricing u s (s.add u) ↔ Lossless pricing s u := by
  have exact : (s.add u).calculateCost pricing = s.calculateCost pricing + u.alone.calculateCost pricing ↔
      Lossless pricing s u := by
    have sum : (s.add u).otherCost pricing + (s.add u).cacheCreationCost pricing =
        s.otherCost pricing + s.cacheCreationCost pricing +
          (u.alone.otherCost pricing + u.alone.cacheCreationCost pricing) -
          (overflowCost pricing s u (s.add u).split + remeasured pricing s (s.add u).split +
            remeasured pricing u.alone (s.add u).split) := by
      rw [cacheCreationCost.eq_def pricing (s.add u)]
      cases (s.add u).split <;>
        simp only [overflowCost, remeasured, otherCost, measured, Usage.alone, UsageStats.add, cost_add, Int64.zero_add,
          if_true, if_false, Bool.false_eq_true] <;>
        ring
    rw [calculateCost, calculateCost, calculateCost, ← add_div, div_left_inj' (by norm_num), sum, sub_eq_self]
    rfl
  refine ⟨fun grows => exact.mp grows.2, fun fits => ⟨?_, exact.mpr fits⟩⟩
  rw [exact.mpr fits]
  exact le_add_of_nonneg_right (alone_calculateCost_nonneg pricing u)

end SingBox.Ccm

import SensorAlerting.Detection.Statistics

set_option autoImplicit false

/-!
Statistics of samples as they were given: whole numbers of any size, doubles and flags. Whole
numbers are added up exactly. Anything else among the samples is a misuse.
-/

namespace SensorAlerting.Detection.Samples

open SensorAlerting.Number

def addSample (sum : Quantity) (sample : Value) : Except Misuse Quantity := do
  let amount <- sample.asQuantity
  (sum.plus amount).mapError .ofFault

def mean (samples : Value) : Except Misuse Float :=
  if samples.isEmpty then .ok 0
  else do
    let items <- samples.asItems
    let total <- items.foldlM addSample (.whole 0)
    (total.share items.length).mapError .ofFault

def squaredDeviation (average : Float) (sample : Value) : Except Misuse Float := do
  let amount <- sample.asQuantity
  (do square (<- (<- amount.minus (.real average)).toFloat)).mapError .ofFault

def deviationAbout (average : Float) (samples : Value) : Except Misuse Float :=
  if samples.isEmpty then .ok 0
  else do
    let items <- samples.asItems
    let squares <- items.mapM (squaredDeviation average)
    .ok (divideBy (total squares) items.length).sqrt

def populationDeviation (samples : Value) : Except Misuse Float := do
  deviationAbout (<- mean samples) samples

def addChanges : Quantity -> List Value -> Except Misuse Quantity
  | sum, first :: second :: rest => do
    let later <- second.asQuantity
    let change <- (later.minus (<- first.asQuantity)).mapError .ofFault
    addChanges (<- (sum.plus change.size).mapError .ofFault) (second :: rest)
  | sum, _ => .ok sum

/-- The mean distance between successive samples, 0 of fewer than two. The fields of a mapping have
no places. -/
def meanChange (samples : Value) : Except Misuse Float := do
  let items <- samples.asItems
  if items.length < 2 then .ok 0
  else match samples with
  | .mapping _ => .error .noSuchKey
  | _ => do
    let total <- addChanges (.whole 0) items
    (total.share (items.length - 1)).mapError .ofFault

def summarize (samples : Value) : Except Misuse Summary := do
  let average <- mean samples
  let count <- samples.asCount
  let deviation <- deviationAbout average samples
  .ok { count, mean := average, deviation }

def amountTexts (samples : Value) : Except Misuse (List String) := do
  (<- samples.asItems).mapM Value.asAmountText

end SensorAlerting.Detection.Samples

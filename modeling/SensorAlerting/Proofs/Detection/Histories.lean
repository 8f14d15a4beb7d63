import SensorAlerting.Proofs.Detection.Agreement
import SensorAlerting.Proofs.Entries
import SensorAlerting.Proofs.Items

set_option autoImplicit false

/-!
The bounded histories of the anomaly detector against full logs. In a run of the detector each
device has a log of all its readings since it was last cleared. What the detector finds in its
histories is what is to be found in the logs, however much of them it keeps.
-/

namespace SensorAlerting.Detection

open SensorAlerting.Number SensorAlerting.Time

def newest? {Item : Type} (count : Nat) (log : List Item) : Option (List Item) :=
  if log.length < count then none else some (lastItems count log)

def Window.holding {Item : Type} (samples : List (Moment × Item)) : Window Item :=
  { capacity := samples.length, samples }

def numbers (log : List (Moment × Reading)) : List Float := log.map fun entry => entry.2.value

def spikeOrDropIn (log : List (Moment × Reading)) (value : Float) :
    Except Fault (Option Finding) :=
  match newest? spikeWindow log with
  | some prior => spikeOrDrop (numbers prior) value
  | none => .ok none

/-- A pattern in exactly the last readings of a log. -/
def patternIn (count : Nat) (look : Window Reading -> Option Finding)
    (log : List (Moment × Reading)) : Option Finding :=
  (newest? count log).bind fun recent => look (.holding recent)

/-- A pattern in the last few values of a window, and in nothing else of it. -/
structure LooksBack (count : Nat) (look : Window Reading -> Option Finding) : Prop where
  few : ∀ window, window.size < count -> look window = none
  only : ∀ window other, count <= window.size -> count <= other.size ->
    window.last count = other.last count -> look window = look other

theorem looksBack_flatline : LooksBack flatlineWindow flatline where
  few window few := by simp [flatline, few]
  only window other enough enoughOther same := by
    simp [flatline, Nat.not_lt.mpr enough, Nat.not_lt.mpr enoughOther, same]

-- One undefined object ten times is constant, and ten of them are not.
example :
    let undefined := fun origins : List Nat => Window.holding (origins.map fun origin =>
      (universal 0, ({ value := undefinedFloat, origin := some origin } : Reading)))
    (flatline (undefined (List.replicate 10 0))).isSome = true ∧
      flatline (undefined (List.range 10)) = none := by
  decide +kernel

theorem looksBack_rapidFluctuation : LooksBack fluctuationWindow rapidFluctuation where
  few window few := by simp [rapidFluctuation, few]
  only window other enough enoughOther same := by
    simp [rapidFluctuation, Nat.not_lt.mpr enough, Nat.not_lt.mpr enoughOther, same]

theorem spikeOrDrop_lastItems (log : List (Moment × Reading)) (value : Float) :
    spikeOrDrop (numbers (lastItems spikeWindow log)) value = spikeOrDropIn log value := by
  by_cases few : log.length < spikeWindow
  next =>
    have short : (numbers (lastItems spikeWindow log)).length < spikeWindow := by
      rw [numbers, List.length_map, length_lastItems]
      omega
    rw [spikeOrDropIn, newest?, if_pos few, spikeOrDrop, if_pos short]
    rfl
  next => rw [spikeOrDropIn, newest?, if_neg few]

theorem last_lastItems {Item : Type} {count capacity : Nat} (roomy : count <= capacity)
    (log : List (Moment × Item)) :
    ({ capacity, samples := lastItems capacity log } : Window Item).last count =
      (lastItems count log).map Prod.snd := by
  rw [Window.last, Window.values, <- map_lastItems, lastItems_lastItems, Nat.min_eq_left roomy]

theorem numbers_lastItems (count : Nat) (log : List (Moment × Reading)) :
    numbers (lastItems count log) = lastItems count (numbers log) := map_lastItems ..

theorem map_last (window : Window Reading) (count : Nat) :
    (window.last count).map Reading.value = lastItems count (numbers window.samples) := by
  rw [Window.last, Window.values, map_lastItems, List.map_map]
  rfl

theorem map_last_lastItems {count capacity : Nat} (roomy : count <= capacity)
    (log : List (Moment × Reading)) :
    (({ capacity, samples := lastItems capacity log } : Window Reading).last count).map
        Reading.value = numbers (lastItems count log) := by
  rw [last_lastItems roomy, List.map_map]
  rfl

theorem LooksBack.eq_patternIn {count capacity : Nat} {look : Window Reading -> Option Finding}
    (looks : LooksBack count look) (roomy : count <= capacity) (log : List (Moment × Reading)) :
    look { capacity, samples := lastItems capacity log } = patternIn count look log := by
  have size : ({ capacity, samples := lastItems capacity log } : Window Reading).size =
      min capacity log.length := length_lastItems capacity log
  by_cases few : log.length < count
  next =>
    rw [patternIn, newest?, if_pos few, looks.few _ (by omega)]
    rfl
  next =>
    rw [patternIn, newest?, if_neg few, Option.bind_some]
    have held : (Window.holding (lastItems count log)).size = min count log.length :=
      length_lastItems count log
    refine looks.only _ _ (by omega) (by omega) ?_
    have whole : (lastItems count log).length <= count := by
      rw [length_lastItems]
      exact Nat.min_le_left _ _
    rw [last_lastItems roomy, Window.last, Window.values, Window.holding, <- map_lastItems,
      lastItems_of_length_le whole]

namespace AnomalyDetector

def findingsIn (ranges : Entries String Value) (log : List (Moment × Reading)) (now : Moment)
    (sensorType : String) (reading : Reading) : Except EvaluationFault (List Finding) := do
  let grown := log ++ [(now, reading)]
  let spike <- (spikeOrDropIn log reading.value).mapError .number
  let range <- (outOfRange ranges sensorType reading.value).mapError .misuse
  return [spike, patternIn flatlineWindow flatline grown, range,
    patternIn fluctuationWindow rapidFluctuation grown].filterMap id

def judged (settings : AnomalySettings) (log : List (Moment × Reading)) (now : Moment)
    (serial : Nat) (event : Event) : Except EvaluationFault (List Submission) :=
  match extractReading event, Window.capacityOf settings.maxHistorySize with
  | .error fault, _ => .error (.number fault)
  | .ok none, _ => .ok []
  | .ok (some _), .error fault => .error (.window fault)
  | .ok (some reading), .ok _ =>
    (findingsIn settings.validRanges log now event.sensorType reading).map fun found =>
      Evaluation.numbered serial (found.map fun finding serial =>
        { alert := alertOf now event finding serial, channels := settings.channels })

inductive Call where
  | process (now : Moment) (serial : Nat) (event : Event)
  | clear (deviceId : String)
  | clearAll

def after (detector : AnomalyDetector) : Call -> AnomalyDetector
  | .process now serial event => (detector.process now serial event).state
  | .clear deviceId => detector.clear deviceId
  | .clearAll => detector.clearAll

def run (detector : AnomalyDetector) (calls : List Call) : AnomalyDetector :=
  calls.foldl after detector

/-- What an event adds to the log of its device: the reading that it has, unless there can be no
window for it. -/
def recorded (settings : AnomalySettings) (now : Moment) (event : Event) :
    List (Moment × Reading) :=
  match extractReading event, Window.capacityOf settings.maxHistorySize with
  | .ok (some reading), .ok _ => [(now, reading)]
  | _, _ => []

def Call.isAbout (deviceId : String) : Call -> Bool
  | .process _ _ event => event.deviceId == deviceId
  | .clear named => named == deviceId
  | .clearAll => true

def logAfter (settings : AnomalySettings) (deviceId : String) (log : List (Moment × Reading))
    (call : Call) : List (Moment × Reading) :=
  if call.isAbout deviceId then
    match call with
    | .process now _ event => log ++ recorded settings now event
    | _ => []
  else log

def logOf (settings : AnomalySettings) (deviceId : String) (calls : List Call) :
    List (Moment × Reading) :=
  calls.foldl (logAfter settings deviceId) []

def windowOn (settings : AnomalySettings) (log : List (Moment × Reading)) :
    Except EvaluationFault (Window Reading) :=
  ((Window.capacityOf settings.maxHistorySize).mapError .window).map fun capacity =>
    { capacity, samples := lastItems capacity log }

theorem create_eq_windowOn (settings : AnomalySettings) :
    (Window.create settings.maxHistorySize).mapError EvaluationFault.window =
      windowOn settings [] := by
  cases stated : Window.capacityOf settings.maxHistorySize <;>
    simp [Window.create, windowOn, stated, Except.map, Window.empty, lastItems]

structure Keeps (detector : AnomalyDetector) (settings : AnomalySettings)
    (log : String -> List (Moment × Reading)) : Prop where
  settled : detector.settings = settings
  exact : ∀ deviceId, detector.windowOf deviceId = windowOn settings (log deviceId)

theorem keeps_start (settings : AnomalySettings) : (start settings).Keeps settings fun _ => [] where
  settled := rfl
  exact _ := create_eq_windowOn settings

theorem windowOf_put (detector : AnomalyDetector) (lastSeen : Entries String Moment)
    (named deviceId : String) (window : Window Reading) :
    windowOf { detector with history := Entries.put detector.history named window, lastSeen }
        deviceId =
      if named = deviceId then .ok window else detector.windowOf deviceId := by
  by_cases same : named = deviceId
  next =>
    subst same
    simp [windowOf]
  next => simp [windowOf, same, Entries.get?_put_other _ _ same]

theorem windowOf_clear (detector : AnomalyDetector) (named deviceId : String) :
    (detector.clear named).windowOf deviceId =
      if named = deviceId then windowOn detector.settings [] else detector.windowOf deviceId := by
  by_cases same : named = deviceId <;>
    simp [windowOf, clear, Entries.get?_remove, same, create_eq_windowOn]

/-- What an event leaves behind, however its evaluation ends: a reading is recorded if there is a
window for it. -/
theorem process_state (detector : AnomalyDetector) (now : Moment) (serial : Nat) (event : Event) :
    let lastSeen := Entries.put detector.lastSeen event.deviceId now
    (detector.process now serial event).state =
      match extractReading event, detector.windowOf event.deviceId with
      | .ok (some reading), .ok window =>
        let history := Entries.put detector.history event.deviceId (window.append now reading)
        { detector with history, lastSeen }
      | _, _ => { detector with lastSeen } := by
  intro lastSeen
  have same : windowOf { detector with lastSeen } event.deviceId =
      detector.windowOf event.deviceId := rfl
  unfold process
  simp only [lastSeen] at same
  rcases read : extractReading event with fault | _ | reading
  next => rfl
  next => rfl
  next =>
    dsimp only
    rw [same]
    cases found : detector.windowOf event.deviceId with
    | error fault => rfl
    | ok window =>
      dsimp only
      split <;> rfl

theorem append_windowOn {settings : AnomalySettings} {log : List (Moment × Reading)}
    {window : Window Reading} (held : windowOn settings log = .ok window) (now : Moment)
    (reading : Reading) :
    windowOn settings (log ++ [(now, reading)]) = .ok (window.append now reading) := by
  unfold windowOn at held ⊢
  cases stated : Window.capacityOf settings.maxHistorySize with
  | error fault => simp [stated, Except.map] at held
  | ok capacity =>
    obtain rfl : { capacity, samples := lastItems capacity log } = window := by
      simpa [stated, Except.map] using held
    simp [Except.map, Window.append, lastItems_grown]

namespace Keeps

variable {detector : AnomalyDetector} {settings : AnomalySettings}
  {log : String -> List (Moment × Reading)}

theorem process (keeps : detector.Keeps settings log) (now : Moment) (serial : Nat)
    (event : Event) :
    (detector.process now serial event).state.Keeps settings fun deviceId =>
      logAfter settings deviceId (log deviceId) (.process now serial event) := by
  obtain ⟨settled, exact⟩ := keeps
  rw [process_state]
  have idle : recorded settings now event = [] -> ∀ lastSeen,
      Keeps { detector with lastSeen } settings fun deviceId =>
        logAfter settings deviceId (log deviceId) (.process now serial event) := by
    intro nothing lastSeen
    refine ⟨settled, fun deviceId => (exact deviceId).trans ?_⟩
    simp [logAfter, nothing]
  have held := exact event.deviceId
  rcases read : extractReading event with fault | _ | reading
  next => exact idle (by simp [recorded, read]) _
  next => exact idle (by simp [recorded, read]) _
  next =>
    cases stated : Window.capacityOf settings.maxHistorySize with
    | error fault =>
      simp only [windowOn, stated, Except.map, mapError_error] at held
      rw [held]
      exact idle (by simp [recorded, read, stated]) _
    | ok capacity =>
      have adds : recorded settings now event = [(now, reading)] := by
        simp [recorded, read, stated]
      obtain ⟨window, opened⟩ : ∃ window, windowOn settings (log event.deviceId) = .ok window :=
        ⟨_, by simp only [windowOn, stated, Except.map, mapError_ok]; rfl⟩
      rw [held, opened]
      refine ⟨settled, fun deviceId => ?_⟩
      rw [windowOf_put]
      by_cases same : event.deviceId = deviceId
      next =>
        subst same
        simp [logAfter, Call.isAbout, adds, append_windowOn opened]
      next => simp [logAfter, Call.isAbout, same, exact]

theorem after (keeps : detector.Keeps settings log) (call : Call) :
    (detector.after call).Keeps settings fun deviceId =>
      logAfter settings deviceId (log deviceId) call := by
  obtain ⟨settled, exact⟩ := keeps
  cases call with
  | process now serial event => exact process ⟨settled, exact⟩ now serial event
  | clear named =>
    refine ⟨settled, fun deviceId => ?_⟩
    rw [AnomalyDetector.after, windowOf_clear, settled]
    by_cases same : named = deviceId <;> simp [logAfter, Call.isAbout, same, exact]
  | clearAll =>
    refine ⟨settled, fun deviceId => ?_⟩
    rw [<- settled]
    exact create_eq_windowOn detector.settings

theorem run (keeps : detector.Keeps settings log) (calls : List Call) :
    (detector.run calls).Keeps settings fun deviceId =>
      calls.foldl (logAfter settings deviceId) (log deviceId) := by
  induction calls generalizing detector log with
  | nil => exact keeps
  | cons call rest ih => exact ih (keeps.after call)

end Keeps

theorem findings_eq_findingsIn {settings : AnomalySettings} {capacity : Nat}
    (roomy : 10 <= capacity) (log : List (Moment × Reading)) (now : Moment) (sensorType : String)
    (reading : Reading) :
    let window : Window Reading := { capacity, samples := lastItems capacity log }
    findings settings ((window.last spikeWindow).map Reading.value) (window.append now reading)
        sensorType reading.value =
      findingsIn settings.validRanges log now sensorType reading := by
  intro window
  have prior : (window.last spikeWindow).map Reading.value = numbers (lastItems spikeWindow log) :=
    map_last_lastItems (Nat.le_trans (by decide) roomy) log
  have grown : window.append now reading =
      { capacity, samples := lastItems capacity (log ++ [(now, reading)]) } := by
    simp [window, Window.append, lastItems_grown]
  rw [findings, findingsIn, prior, grown, spikeOrDrop_lastItems,
    looksBack_flatline.eq_patternIn roomy, looksBack_rapidFluctuation.eq_patternIn roomy]

def sized (settings : AnomalySettings) (size : Int) : AnomalySettings :=
  { settings with maxHistorySize := .int size }

theorem capacityOf_int {size : Int} (least : 10 <= size) :
    Window.capacityOf (.int size) =
      if size <= largestWord then .ok size.toNat else .error (.misuse .tooLarge) := by
  have notBelow : ¬ size < 1 := by omega
  have inRange : ¬ size < smallestWord := by
    unfold smallestWord
    omega
  have notNegative : ¬ size < 0 := by omega
  by_cases small : size <= largestWord
  next =>
    simp [Window.capacityOf, Value.asQuantity, Value.asWhole, Quantity.isBelow, capacityFrom,
      notBelow, inRange, notNegative, small, Int.not_lt.mpr small, Except.bind]
  next =>
    simp [Window.capacityOf, Value.asQuantity, Value.asWhole, Quantity.isBelow, capacityFrom,
      notBelow, small, Int.not_le.mp small, Except.bind]

namespace Keeps

variable {detector : AnomalyDetector} {settings : AnomalySettings}
  {log : String -> List (Moment × Reading)} {size : Int}

theorem outcome (keeps : detector.Keeps (sized settings size) log) (least : 10 <= size)
    (now : Moment) (serial : Nat) (event : Event) :
    (detector.process now serial event).outcome =
      judged (sized settings size) (log event.deviceId) now serial event := by
  obtain ⟨settled, exact⟩ := keeps
  have held : windowOf
      { detector with lastSeen := Entries.put detector.lastSeen event.deviceId now } event.deviceId =
        windowOn (sized settings size) (log event.deviceId) := exact event.deviceId
  unfold AnomalyDetector.process judged
  dsimp only
  rw [held, windowOn, settled, sized, capacityOf_int least]
  rcases extractReading event with fault | _ | reading
  next => rfl
  next => rfl
  next =>
    by_cases small : size <= largestWord
    next =>
      have roomy : 10 <= size.toNat := by omega
      rw [if_pos small]
      dsimp only [Except.map, mapError_ok]
      rw [findings_eq_findingsIn roomy]
      cases findingsIn settings.validRanges (log event.deviceId) now event.sensorType reading <;>
        rfl
    next =>
      rw [if_neg small]
      rfl

theorem readings (keeps : detector.Keeps settings log) {capacity : Nat}
    (usable : Window.capacityOf settings.maxHistorySize = .ok capacity) (deviceId : String) :
    detector.readings deviceId = numbers (lastItems capacity (log deviceId)) := by
  have held := keeps.exact deviceId
  have kept : windowOn settings (log deviceId) =
      .ok { capacity, samples := lastItems capacity (log deviceId) } := by
    simp [windowOn, usable, Except.map]
  rw [kept, windowOf] at held
  unfold AnomalyDetector.readings
  cases found : Entries.get? detector.history deviceId with
  | some window =>
    simp only [found, Except.ok.injEq] at held
    rw [held]
    exact map_last_lastItems (Nat.le_refl _) _
  | none =>
    -- No window yet, so that a new one is all that is held of the log.
    simp only [found, keeps.settled, create_eq_windowOn, windowOn, usable] at held
    have empty : lastItems capacity (log deviceId) = [] := by
      simpa [Except.map, lastItems] using held.symm
    simp [empty, numbers]

end Keeps

theorem judged_sized {settings : AnomalySettings} {size otherSize : Int} (least : 10 <= size)
    (otherLeast : 10 <= otherSize) (small : size <= largestWord)
    (otherSmall : otherSize <= largestWord) :
    judged (sized settings size) = judged (sized settings otherSize) := by
  funext log now serial event
  rw [judged, judged, sized, sized, capacityOf_int least, capacityOf_int otherLeast,
    if_pos small, if_pos otherSmall]
  rcases extractReading event with _ | _ | _ <;> rfl

namespace Keeps

variable {detector other : AnomalyDetector} {settings : AnomalySettings} {size otherSize : Int}
  {log otherLog : String -> List (Moment × Reading)}

theorem outcome_eq (keeps : detector.Keeps (sized settings size) log)
    (otherKeeps : other.Keeps (sized settings otherSize) otherLog) (least : 10 <= size)
    (otherLeast : 10 <= otherSize) (small : size <= largestWord)
    (otherSmall : otherSize <= largestWord) {event : Event}
    (sameLog : log event.deviceId = otherLog event.deviceId) (now : Moment) (serial : Nat) :
    (detector.process now serial event).outcome = (other.process now serial event).outcome := by
  rw [keeps.outcome least, otherKeeps.outcome otherLeast,
    judged_sized least otherLeast small otherSmall, sameLog]

end Keeps

def steady (deviceId : String) (count : Nat) : Call :=
  let now := universal (count * minute)
  .process now 0
    { deviceId, sensorType := "lux", location := deviceId, timestamp := now
      readings := [("value", .int 20)] }

end AnomalyDetector

end SensorAlerting.Detection

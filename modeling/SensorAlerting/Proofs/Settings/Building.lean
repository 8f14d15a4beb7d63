import SensorAlerting.Proofs.Check.Passed
import SensorAlerting.Proofs.Detection.Stored
import SensorAlerting.Proofs.Settings.Warnings
import SensorAlerting.Proofs.Time.Seconds
import SensorAlerting.Proofs.Worker.Metering
import SensorAlerting.Proofs.Worker.Stopping

set_option autoImplicit false

/-!
What settings that have passed their checks are good for. The checks bound numbers from below; the
parts of the service turn seconds into spans, which cannot be too long, and the numbers of a worker
cannot be shown for a rate window of no time or one that begins before the calendar.
-/

namespace SensorAlerting

open SensorAlerting.Delivery SensorAlerting.Number SensorAlerting.Time

namespace Settings

structure IsBounded (settings : Settings) : Prop where
  window : 0 <= settings.dispatch.windowSeconds
  retention : 0 <= settings.dispatch.retentionSeconds
  history : 1 <= settings.dispatch.historySize
  correlation : 0 < settings.processing.correlationWindowSeconds
  rate : 0 < settings.processing.rateWindowSeconds

theorem nought_eq : (ofInt? 0).getD 0 = 0 := by decide +kernel

theorem pos_of_above {value : Value} {x : Float} (passed : Check.above 0 value = .good x) :
    0 < x := by
  have above := (Checked.good_of_ensure passed).2
  rw [nought_eq] at above
  exact of_decide_eq_true above

theorem nonneg_of_numberFrom {value : Value} {x : Float}
    (passed : Check.numberFrom 0 value = .good x) : 0 <= x := by
  have atLeast := (Checked.good_of_ensure passed).2
  rw [nought_eq] at atLeast
  exact of_decide_eq_true atLeast

theorem le_of_integerFrom {value : Value} {bound n : Int}
    (passed : Check.integerFrom bound value = .good n) : bound <= n :=
  of_decide_eq_true (Checked.good_of_ensure passed).2

theorem isBounded_of_dispatch {value : Value} {dispatch : Dispatch}
    (checked : Dispatch.ofValue value = .good dispatch) :
    0 <= dispatch.windowSeconds ∧ 0 <= dispatch.retentionSeconds ∧ 1 <= dispatch.historySize := by
  obtain ⟨fields, passed⟩ := Checked.good_of_sectionOf checked
  -- The fields are peeled off from the last one.
  replace passed := Checked.good_of_seq passed
  obtain ⟨_, _, passed, history, rfl⟩ := passed
  iterate 2
    replace passed := Checked.good_of_seq passed
    obtain ⟨_, _, passed, -, rfl⟩ := passed
  replace passed := Checked.good_of_seq passed
  obtain ⟨_, _, passed, retention, rfl⟩ := passed
  obtain ⟨_, window, rfl⟩ := Checked.good_of_map passed
  exact ⟨Checked.holds_of_defaulted (by decide +kernel) (fun _ _ => nonneg_of_numberFrom) window,
    Checked.holds_of_defaulted (by decide +kernel) (fun _ _ => nonneg_of_numberFrom) retention,
    Checked.holds_of_defaulted (by decide) (fun _ _ => le_of_integerFrom) history⟩

theorem isBounded_of_processing {value : Value} {processing : Processing}
    (checked : Processing.ofValue value = .good processing) :
    0 < processing.correlationWindowSeconds ∧ 0 < processing.rateWindowSeconds := by
  obtain ⟨fields, passed⟩ := Checked.good_of_sectionOf checked
  replace passed := Checked.good_of_seq passed
  obtain ⟨_, _, passed, rate, rfl⟩ := passed
  iterate 5
    replace passed := Checked.good_of_seq passed
    obtain ⟨_, _, passed, -, rfl⟩ := passed
  replace passed := Checked.good_of_seq passed
  obtain ⟨_, _, passed, correlation, rfl⟩ := passed
  iterate 2
    replace passed := Checked.good_of_seq passed
    obtain ⟨_, _, passed, -, rfl⟩ := passed
  obtain ⟨_, -, rfl⟩ := Checked.good_of_map passed
  exact ⟨Checked.holds_of_defaulted (by decide +kernel) (fun _ _ => pos_of_above) correlation,
    Checked.holds_of_defaulted (by decide +kernel) (fun _ _ => pos_of_above) rate⟩

theorem isBounded_of_valid {data : Value} {settings : Settings}
    (valid : ofValue data = .good settings) : settings.IsBounded := by
  obtain ⟨fields, passed⟩ := Checked.good_of_sectionOf valid
  replace passed := Checked.good_of_seq passed
  obtain ⟨_, _, passed, -, rfl⟩ := passed
  replace passed := Checked.good_of_seq passed
  obtain ⟨_, _, passed, dispatch, rfl⟩ := passed
  replace passed := Checked.good_of_seq passed
  obtain ⟨_, _, passed, processing, rfl⟩ := passed
  iterate 5
    replace passed := Checked.good_of_seq passed
    obtain ⟨_, _, passed, -, rfl⟩ := passed
  obtain ⟨_, -, rfl⟩ := Checked.good_of_map passed
  obtain ⟨window, retention, history⟩ :=
    isBounded_of_dispatch (Checked.good_of_inside dispatch)
  obtain ⟨correlation, rate⟩ := isBounded_of_processing (Checked.good_of_inside processing)
  exact ⟨window, retention, history, correlation, rate⟩

/-- Whether settings make a service: no span is too long, the list of deliveries is no longer than
lists can be, and the account for text messages has an id that a login can hold. -/
structure IsBuildable (settings : Settings) : Prop where
  accountId : ¬ settings.sms.IsUnusable
  window : settings.dispatch.windowSeconds < tooManySeconds
  retention : settings.dispatch.retentionSeconds < tooManySeconds
  history : settings.dispatch.historySize <= largestWord
  correlation : settings.processing.correlation = true ->
    settings.processing.correlationWindowSeconds < tooManySeconds
  rate : settings.processing.rateWindowSeconds < tooManySeconds

theorem asBound_isOk {size : Int} (atLeast : 1 <= size) :
    (∃ bound, (Value.int size).asBound = .ok bound) ↔ size <= largestWord := by
  have notLow : ¬ size < smallestWord := by
    simp only [smallestWord]
    omega
  have notNegative : ¬ size < 0 := by omega
  by_cases short : size <= largestWord
  next =>
    have notLong : ¬ largestWord < size := by omega
    simp [Value.asBound, Value.asWhole, capacityFrom, notLow, notNegative, notLong, short, bind,
      Except.bind]
  next =>
    have long : largestWord < size := by omega
    simp [Value.asBound, Value.asWhole, capacityFrom, long, short, bind, Except.bind]

theorem buildDispatcher_isOk {settings : Settings} (bounded : settings.IsBounded)
    (channels : List (String × Channel)) :
    (∃ dispatcher, settings.buildDispatcher channels = .ok dispatcher) ↔
      settings.dispatch.windowSeconds < tooManySeconds ∧
      settings.dispatch.retentionSeconds < tooManySeconds ∧
      settings.dispatch.historySize <= largestWord := by
  have spans : ∀ seconds : Float, 0 <= seconds ->
      ((∃ span, (spanOf second (.real seconds)).mapError Misuse.ofFault = .ok span) ↔
        seconds < tooManySeconds) :=
    fun _ atLeast => exists_ok_mapError.trans (spanOf_isOk_iff atLeast)
  rw [buildDispatcher, dispatcherSettings, exists_ok_map, exists_ok_mapError,
    <- spans _ bounded.window, <- spans _ bounded.retention, <- asBound_isOk bounded.history]
  refine exists_ok_bind fun window => exists_ok_bind fun retention => ?_
  exact (exists_ok_bind fun history => iff_true_intro ⟨_, rfl⟩).trans (and_iff_left trivial)

theorem correlationSettings_isOk {settings : Settings} (bounded : settings.IsBounded) :
    (∃ chosen, settings.correlationSettings = .ok chosen) ↔
      (settings.processing.correlation = true ->
        settings.processing.correlationWindowSeconds < tooManySeconds) := by
  unfold correlationSettings
  dsimp only
  split
  next isOn =>
    rw [exists_ok_map, exists_ok_mapError, spanOf_isOk_iff (le_of_lt_double bounded.correlation)]
    exact ⟨fun short _ => short, fun short => short isOn⟩
  next isOff => exact iff_of_true ⟨none, rfl⟩ fun isOn => absurd isOn isOff

theorem buildWorker_isOk {settings : Settings} (bounded : settings.IsBounded) (rules : RuleStore)
    (sink : Sink) (dispatcher : Dispatcher) :
    (∃ worker, settings.buildWorker rules sink dispatcher = .ok worker) ↔
      (settings.processing.correlation = true ->
        settings.processing.correlationWindowSeconds < tooManySeconds) ∧
      settings.processing.rateWindowSeconds < tooManySeconds := by
  have chosen : (∃ chosen, settings.workerSettings = .ok chosen) ↔
      settings.processing.rateWindowSeconds < tooManySeconds := by
    rw [<- spanOf_isOk_iff (le_of_lt_double bounded.rate), workerSettings, exists_ok_map,
      exists_ok_mapError]
  have made : (∃ made, settings.evaluators = .ok made) ↔
      (settings.processing.correlation = true ->
        settings.processing.correlationWindowSeconds < tooManySeconds) := by
    rw [<- correlationSettings_isOk bounded]
    exact (exists_ok_bind fun correlation => iff_true_intro ⟨_, rfl⟩).trans (and_iff_left trivial)
  rw [<- made, <- chosen]
  refine exists_ok_bind fun evaluators => ?_
  exact (exists_ok_bind fun worker => iff_true_intro ⟨_, rfl⟩).trans (and_iff_left trivial)

theorem build_isOk {settings : Settings} (bounded : settings.IsBounded) (rules : RuleStore)
    (sink : Sink) (network : Network) :
    (∃ assembly, Assembly.build settings rules sink network = .ok assembly) ↔
      settings.IsBuildable := by
  have parts : (∃ assembly, Assembly.build settings rules sink network = .ok assembly) ↔
      ¬ settings.sms.IsUnusable ∧
      (settings.dispatch.windowSeconds < tooManySeconds ∧
        settings.dispatch.retentionSeconds < tooManySeconds ∧
        settings.dispatch.historySize <= largestWord) ∧
      (settings.processing.correlation = true ->
        settings.processing.correlationWindowSeconds < tooManySeconds) ∧
      settings.processing.rateWindowSeconds < tooManySeconds := by
    rw [<- accounts_isOk]
    refine exists_ok_bind fun accounts => ?_
    rw [<- buildDispatcher_isOk bounded (settings.channels accounts network)]
    refine exists_ok_bind fun dispatcher => ?_
    rw [<- buildWorker_isOk bounded rules sink dispatcher]
    exact (exists_ok_bind fun worker => iff_true_intro ⟨_, rfl⟩).trans (and_iff_left trivial)
  rw [parts]
  constructor
  next =>
    rintro ⟨accountId, ⟨window, retention, history⟩, correlation, rate⟩
    exact ⟨accountId, window, retention, history, correlation, rate⟩
  next =>
    rintro ⟨accountId, window, retention, history, correlation, rate⟩
    exact ⟨accountId, ⟨window, retention, history⟩, correlation, rate⟩

theorem rateWindow_of_build {settings : Settings} {rules : RuleStore} {sink : Sink}
    {network : Network} {assembly : Assembly}
    (built : Assembly.build settings rules sink network = .ok assembly) :
    spanOf second (.real settings.processing.rateWindowSeconds) =
      .ok assembly.worker.settings.rateWindow := by
  obtain ⟨accounts, -, built⟩ := ok_of_bind built
  obtain ⟨dispatcher, -, built⟩ := ok_of_bind built
  obtain ⟨worker, made, built⟩ := ok_of_bind built
  obtain rfl := Except.ok.inj built
  obtain ⟨evaluators, -, made⟩ := ok_of_bind made
  obtain ⟨chosen, chose, made⟩ := ok_of_bind made
  obtain rfl := Except.ok.inj made
  obtain ⟨rateWindow, spanned, rfl⟩ := ok_of_map chose
  exact ok_of_mapError spanned

end Settings

namespace Worker

theorem measure_isOk (worker : Worker) (now : Moment) :
    (∃ metrics, (worker.measure now).2 = .ok metrics) ↔ worker.IsRated now := by
  rw [<- worker.metrics_isOk now]
  cases trims : worker.trim now with
  | ok trimmed => simp only [measure, trims]
  | error fault => simp [measure, metrics, trims, bind, Except.bind]

/-- The numbers of a worker can be shown throughout a century just if its rate window takes some
time and reaches back no further than the calendar does from the start of the century. -/
theorem measure_isOk_iff {worker : Worker} (nonneg : 0 <= worker.settings.rateWindow) :
    (∀ now : Moment, now.IsInCentury -> ∃ metrics, (worker.measure now).2 = .ok metrics) ↔
      0 < worker.settings.rateWindow ∧
        worker.settings.rateWindow <= 946684800 * second - firstWall := by
  simp only [measure_isOk, IsRated, Moment.add?, Option.isSome_ite, inCalendar, Bool.and_eq_true,
    decide_eq_true_iff]
  constructor
  next =>
    intro rated
    have start : (universal (946684800 * second)).IsInCentury := ⟨by decide, by decide⟩
    obtain ⟨filled, within, -⟩ := rated _ start
    simp only [universal] at within
    omega
  next =>
    rintro ⟨filled, short⟩ now ⟨since, til⟩
    simp only [second, firstWall, lastWall] at short since til ⊢
    omega

end Worker

namespace Settings

/-- Settings that have passed their checks make a service just if their spans are not too long, the
list of deliveries not longer than lists can be, and the account id holds no colon. Whatever is done
with its worker then, its numbers can be shown throughout the century just if the rate window takes
more than half a microsecond and does not begin before the calendar. -/
theorem valid_runs_iff {data : Value} {settings : Settings}
    (valid : ofValue data = .good settings) (rules : RuleStore) (sink : Sink) (network : Network) :
    ((∃ assembly, Assembly.build settings rules sink network = .ok assembly) ↔
      settings.IsBuildable) ∧
    ∀ assembly, Assembly.build settings rules sink network = .ok assembly -> ∀ errands,
      let worker := ((Booth.start assembly.worker false).attendAll errands).worker
      (∀ now : Moment, now.IsInCentury -> ∃ metrics, (worker.measure now).2 = .ok metrics) ↔
        5e-7 < settings.processing.rateWindowSeconds ∧
          settings.processing.rateWindowSeconds <= secondsTo2000 := by
  have bounded := isBounded_of_valid valid
  refine ⟨build_isOk bounded rules sink network, fun assembly built errands => ?_⟩
  have spanned := rateWindow_of_build built
  have atLeast := le_of_lt_double bounded.rate
  have same := (Booth.start assembly.worker false).attendAll_settings errands
  dsimp only
  rw [Worker.measure_isOk_iff, same]
  next => exact and_congr (span_pos_iff atLeast spanned) (span_within_iff atLeast spanned)
  next =>
    rw [same]
    exact span_nonneg atLeast spanned

theorem usual_runs :
    ∃ settings, ofValue (.mapping []) = .good settings ∧
      ∃ assembly, Assembly.build settings .empty .nowhere .accepting = .ok assembly ∧
        ∀ errands (now : Moment), now.IsInCentury ->
          ∃ metrics,
            (((Booth.start assembly.worker false).attendAll errands).worker.measure now).2 =
              .ok metrics := by
  have ⟨settings, valid, buildable, filled, within⟩ :
      ∃ settings, ofValue (.mapping []) = .good settings ∧ settings.IsBuildable ∧
        5e-7 < settings.processing.rateWindowSeconds ∧
        settings.processing.rateWindowSeconds <= secondsTo2000 :=
    ⟨_, rfl,
      { accountId := fun unusable => by cases unusable.1
        window := by decide +kernel
        retention := by decide +kernel
        history := by decide +kernel
        correlation := fun _ => by decide +kernel
        rate := by decide +kernel },
      by decide +kernel, by decide +kernel⟩
  obtain ⟨builds, runs⟩ := valid_runs_iff valid .empty .nowhere .accepting
  obtain ⟨assembly, built⟩ := builds.mpr buildable
  refine ⟨settings, valid, assembly, built, fun errands => ?_⟩
  exact (runs assembly built errands).mpr ⟨filled, within⟩

def statedSeconds (name : String) (seconds : Float) : Value :=
  .mapping [("processing", .mapping [(name, .float seconds)])]

/-- A window of a tenth of a microsecond passes the checks, and so does one without an end. With the
one as rate window no numbers can be shown, with the other for correlations nothing can be built. -/
theorem valid_fails :
    (∃ settings, ofValue (statedSeconds "rate_window_seconds" 1e-7) = .good settings ∧
      ∃ assembly, Assembly.build settings .empty .nowhere .accepting = .ok assembly ∧
        ∀ now metrics, (assembly.worker.measure now).2 ≠ .ok metrics) ∧
    ∃ settings, ofValue (statedSeconds "correlation_window_seconds" positiveInfinity) =
        .good settings ∧
      ∀ assembly, Assembly.build settings .empty .nowhere .accepting ≠ .ok assembly := by
  constructor
  next =>
    have ⟨settings, valid, buildable, empty⟩ :
        ∃ settings, ofValue (statedSeconds "rate_window_seconds" 1e-7) = .good settings ∧
          settings.IsBuildable ∧
          spanOf second (.real settings.processing.rateWindowSeconds) = .ok 0 :=
      ⟨_, rfl,
        { accountId := fun unusable => by cases unusable.1
          window := by decide +kernel
          retention := by decide +kernel
          history := by decide +kernel
          correlation := fun _ => by decide +kernel
          rate := by decide +kernel },
        by decide +kernel⟩
    obtain ⟨assembly, built⟩ :=
      (build_isOk (isBounded_of_valid valid) .empty .nowhere .accepting).mpr buildable
    refine ⟨settings, valid, assembly, built, fun now metrics shown => ?_⟩
    have rated := (assembly.worker.measure_isOk now).mp ⟨metrics, shown⟩
    exact rated.1 (Except.ok.inj ((rateWindow_of_build built).symm.trans empty))
  next =>
    have ⟨settings, valid, endless⟩ :
        ∃ settings, ofValue (statedSeconds "correlation_window_seconds" positiveInfinity) =
            .good settings ∧
          settings.processing.correlation = true ∧
          ¬ settings.processing.correlationWindowSeconds < tooManySeconds :=
      ⟨_, rfl, by decide +kernel, by decide +kernel⟩
    refine ⟨settings, valid, fun assembly built => ?_⟩
    have buildable :=
      (build_isOk (isBounded_of_valid valid) .empty .nowhere .accepting).mp ⟨assembly, built⟩
    exact endless.2 (buildable.correlation endless.1)

end Settings

end SensorAlerting

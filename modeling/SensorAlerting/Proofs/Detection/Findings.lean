import SensorAlerting.Proofs.Detection.Agreement

set_option autoImplicit false

/-!
The four detectors look for anomalies of different types. An alert for a spike or a drop is raised
just where the last readings make the new one that, unless another detector fails.
-/

namespace SensorAlerting.Detection

open SensorAlerting.Number SensorAlerting.Time

section Types

theorem type_flatline {window : Window Reading} {finding : Finding}
    (found : flatline window = some finding) : finding.anomalyType = "flatline" := by
  unfold flatline at found
  repeat' split at found
  all_goals cases found
  rfl

theorem type_outOfRange {ranges : Entries String Value} {sensorType : String} {value : Float}
    {finding : Finding} (found : outOfRange ranges sensorType value = .ok (some finding)) :
    finding.anomalyType = "out_of_range" := by
  unfold outOfRange at found
  simp only [bind, Except.bind, pure, Except.pure] at found
  repeat' split at found
  all_goals cases found
  rfl

theorem type_rapidFluctuation {window : Window Reading} {finding : Finding}
    (found : rapidFluctuation window = some finding) :
    finding.anomalyType = "rapid_fluctuation" := by
  unfold rapidFluctuation at found
  dsimp only at found
  repeat' split at found
  all_goals cases found
  rfl

theorem not_of_type {found? : Option Finding} {name anomalyType : String}
    (typed : ∀ finding, found? = some finding -> finding.anomalyType = name)
    (other : anomalyType ≠ name) : found?.map Finding.anomalyType ≠ some anomalyType := by
  intro same
  obtain ⟨finding, found, rfl⟩ := Option.map_eq_some_iff.mp same
  exact other (typed finding found)

end Types

section Findings

variable {settings : AnomalySettings} {prior : List Float} {window : Window Reading}
  {sensorType : String} {value : Float}

theorem findings_cases {found : List Finding}
    (judged : AnomalyDetector.findings settings prior window sensorType value = .ok found) :
    ∃ spike? range?, spikeOrDrop prior value = .ok spike? ∧
      outOfRange settings.validRanges sensorType value = .ok range? ∧
      found = [spike?, flatline window, range?, rapidFluctuation window].filterMap id := by
  cases spiked : spikeOrDrop prior value with
  | error fault => simp [AnomalyDetector.findings, spiked, bind, Except.bind] at judged
  | ok spike? =>
    cases ranged : outOfRange settings.validRanges sensorType value with
    | error misuse => simp [AnomalyDetector.findings, spiked, ranged, bind, Except.bind] at judged
    | ok range? =>
      refine ⟨spike?, range?, rfl, rfl, ?_⟩
      simpa [AnomalyDetector.findings, spiked, ranged, bind, Except.bind, pure, Except.pure]
        using judged.symm

theorem mem_findings_iff {anomalyType : String}
    (other : anomalyType ∉ ["flatline", "out_of_range", "rapid_fluctuation"])
    {spike? range? : Option Finding}
    (ranged : outOfRange settings.validRanges sensorType value = .ok range?) :
    anomalyType ∈ ([spike?, flatline window, range?, rapidFluctuation window].filterMap id).map
        Finding.anomalyType ↔
      spike?.map Finding.anomalyType = some anomalyType := by
  simp only [List.mem_cons, List.not_mem_nil, or_false, not_or] at other
  obtain ⟨notFlat, notOutside, notRapid⟩ := other
  have flat : (flatline window).map Finding.anomalyType ≠ some anomalyType :=
    not_of_type (fun _ => type_flatline) notFlat
  have outside := not_of_type
    (fun _ found => type_outOfRange (ranged.trans (congrArg Except.ok found))) notOutside
  have rapid : (rapidFluctuation window).map Finding.anomalyType ≠ some anomalyType :=
    not_of_type (fun _ => type_rapidFluctuation) notRapid
  rw [List.map_filterMap, List.mem_filterMap]
  simp only [id, List.mem_cons, List.not_mem_nil, or_false, exists_eq_or_imp, exists_eq_left,
    flat, outside, rapid]

end Findings

namespace AnomalyDetector

def Raised (evaluation : Evaluation AnomalyDetector) (anomalyType : String) : Prop :=
  ∃ submission ∈ evaluation.submissions, submission.alert.ruleId = "anomaly_" ++ anomalyType

theorem ruleId_submissionOf (detector : AnomalyDetector) (now : Moment) (event : Event)
    (finding : Finding) (serial : Nat) :
    (detector.submissionOf now event finding serial).alert.ruleId =
      "anomaly_" ++ finding.anomalyType := rfl

theorem raised_ofFindings (detector state : AnomalyDetector) (now : Moment) (serial : Nat)
    (event : Event) (found : List Finding) (anomalyType : String) :
    Raised (.ofUnnumbered state serial (found.map (detector.submissionOf now event))) anomalyType ↔
      anomalyType ∈ found.map Finding.anomalyType := by
  have ruleIds : (Evaluation.numbered serial (found.map (detector.submissionOf now event))).map
        (fun submission => submission.alert.ruleId) =
      found.map fun finding => "anomaly_" ++ finding.anomalyType :=
    Evaluation.numbered_map (ruleId_submissionOf detector now event) serial found
  have listed :
      Raised (.ofUnnumbered state serial (found.map (detector.submissionOf now event)))
          anomalyType ↔
        "anomaly_" ++ anomalyType ∈ (Evaluation.numbered serial
          (found.map (detector.submissionOf now event))).map
            (fun submission => submission.alert.ruleId) := by
    simp [Raised, Evaluation.ofUnnumbered]
  rw [listed, ruleIds]
  simp

/-- A spike or a drop is raised where the last readings make the new one that, and no other detector
fails. -/
theorem raised_iff (detector : AnomalyDetector) (now : Moment) (serial : Nat) (event : Event)
    {anomalyType : String}
    (other : anomalyType ∉ ["flatline", "out_of_range", "rapid_fluctuation"]) :
    Raised (detector.process now serial event) anomalyType ↔
      ∃ value window found, extractValue event = .ok (some value) ∧
        detector.windowOf event.deviceId = .ok window ∧
        outOfRange detector.settings.validRanges event.sensorType value = .ok found ∧
        (spikeOrDrop ((window.last spikeWindow).map Reading.value) value).map
          (Option.map Finding.anomalyType) = .ok (some anomalyType) := by
  have opened :
      windowOf { detector with lastSeen := Entries.put detector.lastSeen event.deviceId now }
        event.deviceId = detector.windowOf event.deviceId := rfl
  unfold process
  dsimp only
  rw [opened]
  unfold extractValue
  rcases read : extractReading event with fault | _ | reading
  next => simp [Raised, Evaluation.failed, Except.map]
  next => simp [Raised, Evaluation.nothing, Except.map]
  next =>
    dsimp only
    cases held : detector.windowOf event.deviceId with
    | error fault => simp [Raised, Evaluation.failed, Except.map]
    | ok window =>
      dsimp only
      cases judged : findings detector.settings ((window.last spikeWindow).map Reading.value)
          (window.append now reading) event.sensorType reading.value with
      | ok found =>
        obtain ⟨spike?, range?, spiked, ranged, rfl⟩ := findings_cases judged
        refine (raised_ofFindings detector _ now serial event _ anomalyType).trans ?_
        rw [mem_findings_iff other ranged]
        simp [ranged, spiked, Except.map]
      | error fault =>
        cases ranged : outOfRange detector.settings.validRanges event.sensorType reading.value with
        | error misuse => simp [Raised, Evaluation.failed, ranged, Except.map]
        | ok range? =>
          cases spiked : spikeOrDrop ((window.last spikeWindow).map Reading.value)
              reading.value with
          | error spoiled => simp [Raised, Evaluation.failed, ranged, spiked, Except.map]
          | ok spike? =>
            simp [findings, ranged, spiked, bind, Except.bind, pure, Except.pure] at judged

end AnomalyDetector

end SensorAlerting.Detection

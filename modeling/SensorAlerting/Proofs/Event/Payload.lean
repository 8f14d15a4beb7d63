import SensorAlerting.Event
import SensorAlerting.Proofs.Check.Passed
import SensorAlerting.Proofs.Entries
import SensorAlerting.Proofs.Time.Epoch
import SensorAlerting.Proofs.Time.Iso

set_option autoImplicit false

/-!
Events and their payloads. What was read from a payload is written as a payload from which the same
event is read again, whatever the time is then: the text of its time stamp tells the moment, and no
reading has the name of an envelope field.
-/

namespace SensorAlerting.Event

open SensorAlerting.Number SensorAlerting.Time

/-- A moment of a known offset that can be told from its text. -/
structure Stamps (moment : Moment) : Prop where
  legible : moment.IsLegible
  known : moment.offset.isSome = true

structure IsRead (event : Event) : Prop where
  deviceId : event.deviceId ≠ ""
  sensorType : event.sensorType ≠ ""
  location : event.location ≠ ""
  timestamp : Stamps event.timestamp
  readings : ∀ field ∈ event.readings, isEnvelope field.1 = false

section Stamps

theorem stamps_withOffset {moment : Moment} (legible : moment.IsLegible) :
    Stamps moment.withOffset where
  legible :=
    { wall := legible.wall
      offset := by
        rintro offset ⟨⟩
        cases given : moment.offset with
        | none => exact .inl rfl
        | some offset => exact legible.offset offset given }
  known := rfl

theorem stamps_universal {moment : Moment} (universal : moment.offset = some 0)
    (shown : inCalendar moment.wall = true) : Stamps moment where
  legible :=
    { wall := shown
      offset := by simp [universal, IsLegibleOffset] }
  known := by rw [universal]; rfl

theorem stamps_ofEpochAmount {amount : Quantity} {moment : Moment}
    (read : ofEpochAmount amount = .ok moment) : Stamps moment := by
  unfold ofEpochAmount at read
  cases scaled : inSeconds amount with
  | error fault => simp [scaled, bind, Except.bind] at read
  | ok seconds =>
    simp only [scaled, bind, Except.bind] at read
    split at read
    next found shown =>
      obtain rfl := Except.ok.inj read
      obtain ⟨universal, inside⟩ := ofEpoch_spec shown
      exact stamps_universal universal inside
    next => cases read

theorem stamps_readTimestamp {now : Moment} {value : Value} {moment : Moment} (clock : Stamps now)
    (given : ∀ moment, value = .moment moment -> moment.IsLegible)
    (read : readTimestamp now value = .ok moment) : Stamps moment := by
  cases value with
  | null => exact Except.ok.inj read ▸ clock
  | moment stated => exact Except.ok.inj read ▸ stamps_withOffset (given stated rfl)
  | int | float | undefined => exact stamps_ofEpochAmount read
  | text content =>
    simp only [readTimestamp] at read
    split at read
    next found isoRead =>
      exact Except.ok.inj read ▸ stamps_withOffset (isLegible_of_readIso? isoRead)
    next => cases read
  | _ => cases read

theorem expandZulu_of_uses {marks letters : List Char} (made : Uses marks letters)
    (noZulu : 'Z' ∉ marks) : expandZulu letters = letters := by
  have kept : ∀ letter ∈ letters,
      (if letter == 'Z' then "+00:00".toList else [letter]) = [letter] := by
    intro letter member
    refine if_neg fun zulu => ?_
    obtain rfl := eq_of_beq zulu
    obtain digit | mark := made _ member
    next => cases digit
    next => exact noZulu mark
  rw [expandZulu, List.flatMap_congr kept, List.flatMap_singleton']

theorem readTimestamp_isoText {moment : Moment} (stamps : Stamps moment) (now : Moment) :
    readTimestamp now (.text moment.isoText) = .ok moment := by
  have plain : expandZulu moment.isoText.toList = moment.isoChars := by
    rw [Moment.isoText, String.toList_ofList]
    exact expandZulu_of_uses (uses_isoChars moment) (by decide)
  obtain ⟨offset, isOffset⟩ := Option.isSome_iff_exists.mp stamps.known
  have same : moment.withOffset = moment := by
    obtain ⟨wall, known⟩ := moment
    obtain rfl : known = some offset := isOffset
    rfl
  simp only [readTimestamp, plain, readIso?_isoChars stamps.legible, same]

end Stamps

section Fields

variable {event : Event}

theorem ne_empty_of_someText {value : Value} {content : String}
    (passed : Check.someText value = .good content) : content ≠ "" := by
  obtain ⟨-, some⟩ := Checked.good_of_ensure passed
  rintro rfl
  cases some

theorem someText_text {content : String} (some : content ≠ "") :
    Check.someText (.text content) = .good content := by
  have full : content.isEmpty = false := by simpa using some
  simp [Check.someText, Check.text, Checked.ensure, full]

theorem isRead_of_ofPayload {now : Moment} {payload : Value} (clock : Stamps now)
    (given : ∀ moment, payload.get "timestamp" = .moment moment -> moment.IsLegible)
    (read : ofPayload now payload = .ok event) : event.IsRead := by
  cases payload with
  | mapping fields =>
    simp only [ofPayload] at read
    split at read
    next => cases read
    next timestamp stampRead =>
      split at read
      next found checked =>
        obtain rfl := Except.ok.inj read
        replace checked := Checked.good_of_seq checked
        obtain ⟨_, _, checked, locationRead, rfl⟩ := checked
        replace checked := Checked.good_of_seq checked
        obtain ⟨_, _, checked, sensorTypeRead, rfl⟩ := checked
        obtain ⟨_, deviceIdRead, rfl⟩ := Checked.good_of_map checked
        exact
          { deviceId := ne_empty_of_someText (Checked.good_of_inside deviceIdRead)
            sensorType := ne_empty_of_someText (Checked.good_of_inside sensorTypeRead)
            location := ne_empty_of_someText (Checked.good_of_inside locationRead)
            timestamp := stamps_readTimestamp clock given stampRead
            readings := by simp }
      next => cases read
  | _ => cases read

theorem get?_payloadFields (event : Event) :
    Entries.get? event.payloadFields "device_id" = some (.text event.deviceId) ∧
      Entries.get? event.payloadFields "sensor_type" = some (.text event.sensorType) ∧
      Entries.get? event.payloadFields "location" = some (.text event.location) ∧
      Entries.get? event.payloadFields "timestamp" = some (.text event.timestamp.isoText) := by
  simp [payloadFields, Entries.get?_put_other]

theorem filter_put_envelope {name : String} (envelope : isEnvelope name = true)
    (fields : Entries String Value) (value : Value) :
    (Entries.put fields name value).filter (fun field => !isEnvelope field.1) =
      fields.filter fun field => !isEnvelope field.1 := by
  have dropped : (!isEnvelope name) = false := by rw [envelope, Bool.not_true]
  exact @Entries.filter_put _ _ _ _ (fun name => !isEnvelope name) _ dropped fields value

theorem readings_payloadFields (read : event.IsRead) :
    event.payloadFields.filter (fun field => !isEnvelope field.1) = event.readings := by
  simp only [payloadFields, filter_put_envelope (show isEnvelope "timestamp" = true by decide),
    filter_put_envelope (show isEnvelope "location" = true by decide),
    filter_put_envelope (show isEnvelope "sensor_type" = true by decide),
    filter_put_envelope (show isEnvelope "device_id" = true by decide)]
  refine List.filter_eq_self.mpr fun field member => ?_
  rw [read.readings field member, Bool.not_false]

theorem ofPayload_toPayload (read : event.IsRead) (now : Moment) :
    ofPayload now event.toPayload = .ok event := by
  obtain ⟨device, sensorType, location, timestamp⟩ := get?_payloadFields event
  have notEmpty : locationValue (.text event.location) (.text event.deviceId) =
      .text event.location := by
    simp [locationValue, Value.isEmpty, read.location]
  simp only [ofPayload, toPayload, device, sensorType, location, timestamp, Value.ofOption,
    readTimestamp_isoText read.timestamp, someText_text read.deviceId,
    someText_text read.sensorType, notEmpty, someText_text read.location,
    readings_payloadFields read]
  rfl

end Fields

/-- What was read from a payload is read again from the payload that is written of it, and that
payload is written of it again. -/
theorem ofPayload_restores {now : Moment} {payload : Value} {event : Event}
    (universal : now.offset = some 0) (shown : inCalendar now.wall = true)
    (given : ∀ moment, payload.get "timestamp" = .moment moment -> moment.IsLegible)
    (read : ofPayload now payload = .ok event) :
    (∀ later, ofPayload later event.toPayload = .ok event) ∧
      ∀ later, (ofPayload later event.toPayload).map toPayload = .ok event.toPayload := by
  have isRead := isRead_of_ofPayload (stamps_universal universal shown) given read
  have restored := ofPayload_toPayload isRead
  refine ⟨restored, fun later => ?_⟩
  rw [restored later]
  rfl

/-- A week date in an early year, at an offset of hours, minutes, seconds and a fraction. -/
theorem ofPayload_restores_weekDate :
    let payload : Value := .mapping
      [("timestamp", .text "0099-W14-1 060708,5-01:02:03.25"), ("device_id", .text "d1"),
        ("sensor", .mapping [("reading", .int 750)]), ("sensor_type", .text "mq134")]
    let event : Event :=
      { deviceId := "d1", sensorType := "mq134", location := "d1"
        timestamp := { wall := -59035369971500000, offset := some (-3723250000) }
        readings := [("sensor", .mapping [("reading", .int 750)])] }
    (universal 0).offset = some 0 ∧ inCalendar (universal 0).wall = true ∧
      (∀ moment, payload.get "timestamp" = .moment moment -> moment.IsLegible) ∧
      ofPayload (universal 0) payload = .ok event ∧
      event.timestamp.isoText = "0099-03-30T06:07:08.500000-01:02:03.250000" ∧
      ofPayload (universal day) event.toPayload = .ok event := by
  intro payload event
  have given : ∀ moment, payload.get "timestamp" = .moment moment -> moment.IsLegible := by
    rintro moment ⟨⟩
  have stamped : readTimestamp (universal 0) (.text "0099-W14-1 060708,5-01:02:03.25") =
      .ok event.timestamp := by decide +kernel
  have read : ofPayload (universal 0) payload = .ok event := by
    have found : Value.ofOption (Entries.get? payload.fields "timestamp") =
      .text "0099-W14-1 060708,5-01:02:03.25" := rfl
    simp only [payload, Value.fields] at found
    simp only [payload, ofPayload, found, stamped]
    rfl
  exact ⟨rfl, by decide, given, read, by decide +kernel,
    (ofPayload_restores rfl (by decide) given read).1 (universal day)⟩

end SensorAlerting.Event

import SensorAlerting.Proofs.Delivery.Isolation

set_option autoImplicit false

/-!
Channels that serve several targets side by side. Once all of them have answered, the channel
reports how each of them took the message. The limit of the dispatcher is on the channel as a whole:
one target that has not answered by then makes the whole channel fail, whatever the others accepted.
-/

namespace SensorAlerting.Time

def isBy (bound : Int) (known : Option Int) : Bool := known.any fun known => decide (known <= bound)

theorem isBy_iff {bound : Int} {known : Option Int} :
    isBy bound known = true ↔ ∃ instant, known = some instant ∧ instant <= bound := by
  cases known <;> simp [isBy]

theorem isBy_lastInstant (bound first : Int) (instants : List (Option Int)) :
    isBy bound (lastInstant first instants) =
      (decide (first <= bound) && instants.all (isBy bound)) := by
  have all : ∀ last : Option Int,
      isBy bound (instants.foldl (fun last instant => do some (max (<- last) (<- instant))) last) =
        (isBy bound last && instants.all (isBy bound)) := by
    induction instants with
    | nil => exact fun last => (Bool.and_true _).symm
    | cons instant rest ih =>
      intro last
      rw [List.foldl_cons, ih, List.all_cons, <- Bool.and_assoc]
      congr 1
      cases last with
      | none => rfl
      | some last =>
        cases instant with
        | none => exact (Bool.and_false _).symm
        | some instant => exact (decide_eq_decide.mpr Int.max_le).trans (Bool.decide_and _ _)
  exact all (some first)

theorem mem_of_lastInstant {first last : Int} {instants : List (Option Int)}
    (isLast : lastInstant first instants = some last) : last = first ∨ some last ∈ instants := by
  have all : ∀ before : Option Int,
      instants.foldl (fun last instant => do some (max (<- last) (<- instant))) before =
        some last -> before = some last ∨ some last ∈ instants := by
    clear isLast
    induction instants with
    | nil => exact fun before same => .inl same
    | cons instant rest ih =>
      intro before isLast
      obtain isFirst | later := ih _ isLast
      next =>
        cases before with
        | none => cases isFirst
        | some before =>
          cases instant with
          | none => cases isFirst
          | some instant =>
            have same : max before instant = last := Option.some.inj isFirst
            rcases Int.le_total before instant with less | less
            next => exact .inr (by simp [<- same, Int.max_eq_right less])
            next => exact .inl (by simp [<- same, Int.max_eq_left less])
      next => exact .inr (List.mem_cons_of_mem _ later)
  exact (all (some first) isLast).imp (fun same => (Option.some.inj same).symm) id

end SensorAlerting.Time

namespace SensorAlerting.Delivery

open SensorAlerting.Number SensorAlerting.Time

structure Served where
  target : Target
  outcome : Outcome
  known : Option Int

def Channel.served (channel : Channel) (begun : Int) : List Served :=
  match channel with
  | .webhook (some transport) urls timeout =>
    urls.map fun url =>
      let (outcome, known) :=
        postOutcome (Limit.ofValue timeout) ⟨begun, 1⟩ (transport.behaviour [url])
      { target := .url url, outcome, known := known.map Point.instant }
  | .sms (some transport) recipients =>
    recipients.map fun address =>
      let behaviour := transport.behaviour [address]
      { target := .recipient address
        outcome := textOutcome behaviour
        known := (behaviour.endingFrom ⟨begun, 1⟩).map Point.instant }
  | _ => []

namespace Served

def result (served : Served) : TargetResult := ⟨served.target, served.outcome⟩

/-- Whether a target has not answered yet when a limit is due that begins with it. A limit that
leaves no time is due before anything is sent. -/
def isPending (limit : Limit) (begun : Int) (served : Served) : Bool :=
  match limit with
  | .absent | .upTo none => false
  | .upTo (some wait) => !isBy (dueAt begun wait) served.known
  | .spent | .unusable _ => true

def hasAccepted (limit : Limit) (begun : Int) (served : Served) : Bool :=
  !served.isPending limit begun && served.outcome.isSuccess

/-- Whether a target does not answer just when a limit is due. -/
def isApart (limit : Limit) (begun : Int) (served : Served) : Bool :=
  match limit with
  | .upTo (some wait) => served.known.all fun known =>
      decide (reach known <= dueAt begun wait) || decide (dueAt begun wait < known)
  | _ => true

end Served

/-- A report that says of no channel that it failed if one of its targets has accepted, and that
lists all targets if just some of them have. -/
structure Report.IsCandid (limit : Limit) (begun : Int) (served : List Served)
    (report : Report) : Prop where
  failed : report.status = .failed -> ∀ target ∈ served, target.hasAccepted limit begun = false
  partly : (∃ target ∈ served, target.hasAccepted limit begun = true) ->
    (∃ target ∈ served, target.hasAccepted limit begun = false) ->
      report.status = .partly ∧
        report.results.map (fun result => (result.target, result.outcome.isSuccess)) =
          served.map fun target => (target.target, target.hasAccepted limit begun)

section Knowledge

variable {start : Point} {begun : Int}

theorem start_le_endingFrom {behaviour : Behaviour} {finish : Point}
    (isFinish : behaviour.endingFrom start = some finish) : start.instant <= finish.instant := by
  obtain ⟨_, -, rfl⟩ := Option.map_eq_some_iff.mp isFinish
  exact start.start_le_afterWait _

theorem start_le_postOutcome {limit : Limit} {behaviour : Behaviour} {finish : Point}
    (isFinish : (postOutcome limit start behaviour).2 = some finish) :
    start.instant <= finish.instant := by
  cases limit with
  | absent => exact start_le_endingFrom isFinish
  | spent =>
    obtain rfl : start.plus 3 = finish := Option.some.inj isFinish
    exact Int.le_refl _
  | unusable reason => exact Int.le_of_eq (congrArg Point.instant (Option.some.inj isFinish))
  | upTo wait =>
    simp only [postOutcome, underLimit] at isFinish
    split at isFinish
    next =>
      obtain ⟨due, isDue, rfl⟩ := Option.map_eq_some_iff.mp isFinish
      obtain ⟨length, -, rfl⟩ := Option.map_eq_some_iff.mp isDue
      exact start.start_le_afterWait length
    next =>
      obtain ⟨past, isOver, rfl⟩ := Option.map_eq_some_iff.mp isFinish
      exact @start_le_endingFrom (start.plus 1) behaviour past isOver

theorem begun_le_known {channel : Channel} :
    ∀ target ∈ channel.served begun, ∀ known ∈ target.known, begun <= known := by
  intro target member known isKnown
  unfold Channel.served at member
  split at member
  next =>
    obtain ⟨url, -, rfl⟩ := List.mem_map.mp member
    obtain ⟨finish, isFinish, rfl⟩ := Option.map_eq_some_iff.mp isKnown
    exact start_le_postOutcome isFinish
  next =>
    obtain ⟨address, -, rfl⟩ := List.mem_map.mp member
    obtain ⟨finish, isFinish, rfl⟩ := Option.map_eq_some_iff.mp isKnown
    exact start_le_endingFrom isFinish
  next => cases member

end Knowledge

section Reports

variable {timeout : Value} {now : Moment} {begun : Int} {alert : Alert} {name : String}
  {channel : Channel}

theorem send_served (targets : channel.served begun ≠ []) :
    let attempt := channel.send alert now ⟨begun, 0⟩
    (∃ title, attempt.ending =
        .reported (.ofResults title ((channel.served begun).map Served.result))) ∧
      attempt.finish.map Point.instant =
        lastInstant begun ((channel.served begun).map Served.known) := by
  have instants : ∀ points, (allOver ⟨begun, 0⟩ points).map Point.instant =
      lastInstant begun (points.map (Option.map Point.instant)) := by
    intro points
    rw [allOver, Option.map_map]
    exact instant_latest ⟨begun, 0⟩ points
  cases channel with
  | webhook transport urls timeout =>
    cases transport with
    | none => cases targets rfl
    | some transport =>
      have some : urls ≠ [] := by
        rintro rfl
        exact targets rfl
      simp only [Channel.send, List.isEmpty_iff, some, if_false, sendWebhook, Channel.served,
        instants, List.map_map, List.map_zip_eq_zipWith, List.zipWith_map_right, List.zipWith_self]
      exact ⟨⟨"webhook", rfl⟩, rfl⟩
  | sms transport recipients =>
    cases transport with
    | none => cases targets rfl
    | some transport =>
      have some : recipients ≠ [] := by
        rintro rfl
        exact targets rfl
      simp only [Channel.send, List.isEmpty_iff, some, if_false, sendSms, Channel.served, instants,
        List.map_map, List.map_zip_eq_zipWith, List.zipWith_map_right, List.zipWith_self]
      exact ⟨⟨"sms", rfl⟩, rfl⟩
  | _ => cases targets rfl

theorem reportOver_served (targets : channel.served begun ≠ []) :
    let report := reportOver timeout now begun alert name (some channel)
    if (channel.served begun).any (Served.isPending (Limit.ofValue timeout) begun) then
      ∃ detail, report = .ofDetail name .failed detail
    else ∃ title, report = .ofResults title ((channel.served begun).map Served.result) := by
  obtain ⟨⟨title, reported⟩, sameLast⟩ := @send_served now begun alert channel targets
  have someTarget : ∃ target, target ∈ channel.served begun := List.exists_mem_of_ne_nil _ targets
  simp only [reportOver, reported, ownReport]
  cases limited : Limit.ofValue timeout with
  | absent => simpa [Served.isPending] using ⟨title, rfl⟩
  | spent =>
    rw [if_pos (by simp [Served.isPending, someTarget])]
    exact ⟨_, rfl⟩
  | unusable reason =>
    rw [if_pos (by simp [Served.isPending, someTarget])]
    exact ⟨_, rfl⟩
  | upTo wait =>
    cases wait with
    | none => simpa [Served.isPending] using ⟨title, rfl⟩
    | some wait =>
      have inTime : ((channel.send alert now ⟨begun, 0⟩).finish.any fun finish =>
          decide (finish.instant <= dueAt begun wait)) =
            !(channel.served begun).any (Served.isPending (.upTo (some wait)) begun) := by
        have due : begun <= dueAt begun wait := Point.start_le_afterWait ⟨begun, 0⟩ wait
        have all := isBy_lastInstant (dueAt begun wait) begun
          ((channel.served begun).map Served.known)
        rw [<- sameLast, isBy, Option.any_map, decide_eq_true due, Bool.true_and,
          List.all_map] at all
        rw [List.not_any_eq_all_not]
        simpa [Served.isPending, Function.comp_def] using all
      dsimp only
      rw [inTime]
      cases (channel.served begun).any (Served.isPending (.upTo (some wait)) begun)
      next => exact ⟨title, rfl⟩
      next => exact ⟨_, rfl⟩

/-- A channel with targets is over when some target has answered, for none answers sooner than it
was asked. -/
theorem exists_last (targets : channel.served begun ≠ []) {finish : Point}
    (finished : (channel.send alert now ⟨begun, 0⟩).finish = some finish) :
    ∃ target ∈ channel.served begun, target.known = some finish.instant := by
  have sameLast := (@send_served now begun alert channel targets).2
  rw [finished, Option.map_some] at sameLast
  obtain first | member := mem_of_lastInstant sameLast.symm
  next =>
    obtain ⟨target, member⟩ := List.exists_mem_of_ne_nil _ targets
    have within := isBy_lastInstant finish.instant begun
      ((channel.served begun).map Served.known)
    rw [<- sameLast, isBy, Option.any_some, decide_eq_true (Int.le_refl _), eq_comm,
      Bool.and_eq_true, List.all_eq_true] at within
    have early := within.2 target.known (List.mem_map_of_mem member)
    obtain ⟨known, isKnown, atMost⟩ := isBy_iff.mp early
    have atLeast := begun_le_known target member known isKnown
    have same : known = finish.instant := by omega
    exact ⟨target, member, isKnown.trans (congrArg some same)⟩
  next =>
    obtain ⟨target, known, isKnown⟩ := List.mem_map.mp member
    exact ⟨target, known, isKnown⟩

/-- Unless a target answers just when the limit is due, the clock settles what becomes of its
channel. -/
theorem isClear_of_isApart (targets : channel.served begun ≠ [])
    (apart : ∀ target ∈ channel.served begun,
      target.isApart (Limit.ofValue timeout) begun = true)
    (bounded : isBounded timeout now begun alert channel = true) :
    isClear timeout now begun alert channel = true := by
  unfold isClear
  unfold isBounded at bounded
  cases limited : Limit.ofValue timeout with
  | absent => simpa [limited] using bounded
  | spent => rfl
  | unusable reason => rfl
  | upTo wait =>
    cases wait with
    | none => simpa [limited] using bounded
    | some wait =>
      cases finished : (channel.send alert now ⟨begun, 0⟩).finish with
      | none => rfl
      | some finish =>
        obtain ⟨target, member, isKnown⟩ := exists_last targets finished
        have clear := apart target member
        rw [limited, Served.isApart, isKnown] at clear
        exact clear

variable {served : List Served} {limit : Limit}

theorem status_ofResults (title : String) (results : List TargetResult) :
    (Report.ofResults title results).status ≠ .failed := by
  unfold Report.ofResults
  dsimp only
  split <;> nofun

theorem isCandid_failed {detail : String} :
    (Report.ofDetail name .failed detail).IsCandid limit begun served ↔
      ¬ ∃ target ∈ served, target.hasAccepted limit begun = true := by
  constructor
  next =>
    intro candid ⟨target, member, accepted⟩
    rw [candid.failed rfl target member] at accepted
    cases accepted
  next =>
    intro nobody
    constructor
    next =>
      intro _ target member
      exact Bool.eq_false_iff.mpr fun accepted => nobody ⟨target, member, accepted⟩
    next => exact fun accepted => absurd accepted nobody

theorem isCandid_ofResults (title : String)
    (answered : ∀ target ∈ served, target.isPending limit begun = false) :
    (Report.ofResults title (served.map Served.result)).IsCandid limit begun served := by
  have accepted : ∀ target ∈ served,
      target.hasAccepted limit begun = target.outcome.isSuccess := by
    intro target member
    rw [Served.hasAccepted, answered target member]
    rfl
  constructor
  next => exact fun failed => absurd failed (status_ofResults _ _)
  next =>
    intro _ ⟨target, member, refused⟩
    rw [accepted target member] at refused
    refine ⟨?_, ?_⟩
    next =>
      have notAll : ¬ (served.map Served.result).all (fun result => result.outcome.isSuccess) := by
        intro all
        have success := List.all_eq_true.mp all target.result (List.mem_map_of_mem member)
        exact Bool.false_ne_true (refused.symm.trans success)
      exact if_neg notAll
    next =>
      simp only [Report.ofResults, List.map_map]
      refine List.map_congr_left fun target member => ?_
      rw [accepted target member]
      rfl

/-- What is reported on the targets of a channel: it fails just if one of them has not answered when
the limit is due, and that is candid just if none of the others has accepted. -/
theorem reportOver_candid_iff :
    let served := channel.served begun
    let report := reportOver timeout now begun alert name (some channel)
    let limit := Limit.ofValue timeout
    (served ≠ [] -> (report.status = .failed ↔
        ∃ target ∈ served, target.isPending limit begun = true)) ∧
      (report.IsCandid limit begun served ↔
        ¬ ((∃ target ∈ served, target.hasAccepted limit begun = true) ∧
          ∃ target ∈ served, target.isPending limit begun = true)) := by
  dsimp only
  by_cases targets : channel.served begun = []
  next =>
    rw [targets]
    refine ⟨fun some => absurd rfl some, fun _ => by simp, fun _ => ⟨by simp, by simp⟩⟩
  next =>
    have reported := @reportOver_served timeout now begun alert name channel targets
    dsimp only at reported
    by_cases pending : ∃ target ∈ channel.served begun,
        target.isPending (Limit.ofValue timeout) begun = true
    next =>
      rw [if_pos (List.any_eq_true.mpr pending)] at reported
      obtain ⟨detail, same⟩ := reported
      rw [same]
      refine ⟨fun _ => ⟨fun _ => pending, fun _ => rfl⟩, ?_⟩
      rw [isCandid_failed]
      exact not_congr ⟨fun accepted => ⟨accepted, pending⟩, And.left⟩
    next =>
      rw [if_neg (fun some => pending (List.any_eq_true.mp some))] at reported
      obtain ⟨title, same⟩ := reported
      have answered : ∀ target ∈ channel.served begun,
          target.isPending (Limit.ofValue timeout) begun = false := fun target member =>
        Bool.eq_false_iff.mpr fun isPending => pending ⟨target, member, isPending⟩
      rw [same]
      exact ⟨fun _ => iff_of_false (status_ofResults _ _) pending,
        iff_of_true (isCandid_ofResults title answered) fun both => pending both.2⟩

end Reports

/-- Of every channel that a notification asks for it reports in one place, and of one with targets
as they have answered: it failed just if one of them had not when the limit was due. That is candid
unless others had accepted by then. -/
theorem notify_candid_iff (station : Station) (now : Moment) (alert : Alert) (names : List String)
    (bounded : ∀ name ∈ names.map Text.lower,
      ∀ channel ∈ Entries.get? station.dispatcher.channels name,
        isBounded station.dispatcher.settings.timeout now station.time alert channel = true) :
    let limit := Limit.ofValue station.dispatcher.settings.timeout
    ∃ reports : String -> Report,
      (station.notify now alert (.list (names.map .text))).2.deliveries =
        (if (station.dispatcher.purge now).isDuplicate now alert then []
        else (distinct (names.map Text.lower)).map fun name =>
          { report := reports name, timestamp := now }) ∧
      ∀ name ∈ names.map Text.lower,
        ∀ channel ∈ Entries.get? station.dispatcher.channels name,
          let served := channel.served station.time
          served ≠ [] -> (∀ target ∈ served, target.isApart limit station.time = true) ->
            ((reports name).status = .failed ↔
              ∃ target ∈ served, target.isPending limit station.time = true) ∧
            ((reports name).IsCandid limit station.time served ↔
              ¬ ((∃ target ∈ served, target.hasAccepted limit station.time = true) ∧
                ∃ target ∈ served, target.isPending limit station.time = true)) := by
  let marked := (station.dispatcher.purge now).markSeen now alert
  let begun : Point := ⟨station.time, 1⟩
  refine ⟨fun name => (marked.beginSlot now begun alert name).1.report, ?_, ?_⟩
  next =>
    split
    next duplicate => simp [Station.notify, Dispatcher.begin, duplicate, Notified.deliveries]
    next fresh =>
      have awaited := awaited_begin marked now begun alert fun name member =>
        bounded name (mem_distinct.mp member)
      have notified := Station.notify_begun
        (Station.begin_texts ⟨station.time, 0⟩ (Bool.eq_false_iff.mpr fresh) names) awaited
      rw [notified.1, Notified.deliveries, Flight.arrivals, List.map_map]
      rfl
  next =>
    intro name member channel found served targets apart
    have clear := isClear_of_isApart targets apart (bounded name member channel found)
    have told := @Dispatcher.beginSlot_report marked now alert name begun fun other known => by
      obtain rfl : channel = other := Option.some.inj (found.symm.trans known)
      exact clear
    have same : Entries.get? marked.channels name = some channel := found
    obtain ⟨failed, candid⟩ := @reportOver_candid_iff station.dispatcher.settings.timeout now
      station.time alert name channel
    dsimp only
    rw [told, same]
    exact ⟨failed targets, candid⟩

def answeringOnly (address : String) : Transport :=
  { name := "sms"
    behaviour := fun targets =>
      if targets == [address] then .instant else { delay := 0, reply := none } }

def textChannel : Channel := .sms (some (answeringOnly "+1")) ["+1", "+2"]

def postChannel : Channel :=
  .webhook (some (answeringOnly "http://a")) ["http://a", "http://b"] (.float 5)

/-- A station that sends alerts to two phones and to two web addresses, one of which never answers.
Only the web addresses have a limit of their own. -/
def twofoldStation : Station :=
  .start (.create tenSeconds [("sms", textChannel), ("web", postChannel)])

theorem notify_candid_iff_twofold :
    let limit := Limit.ofValue (.float 10)
    let channels := Value.list [.text "web", .text "SMS"]
    ∃ reports : String -> Report,
      (twofoldStation.notify (universal 0) gasInHall channels).2.deliveries =
        [{ report := reports "web", timestamp := universal 0 },
          { report := reports "sms", timestamp := universal 0 }] ∧
      ((reports "web").status ≠ .failed ∧
        (reports "web").IsCandid limit 0 (postChannel.served 0)) ∧
      (reports "sms").status = .failed ∧
        ¬ (reports "sms").IsCandid limit 0 (textChannel.served 0) := by
  obtain ⟨reports, delivered, told⟩ := notify_candid_iff twofoldStation (universal 0) gasInHall
    ["web", "SMS"] (by decide +kernel)
  obtain ⟨postFailed, postCandid⟩ := told "web" (by decide +kernel) postChannel (by rfl)
    (List.cons_ne_nil _ _) (by decide +kernel)
  obtain ⟨textFailed, textCandid⟩ := told "sms" (by decide +kernel) textChannel (by rfl)
    (List.cons_ne_nil _ _) (by decide +kernel)
  refine ⟨reports, delivered, ⟨fun failed => ?_, postCandid.mpr ?_⟩, textFailed.mpr ?_, ?_⟩
  next => exact absurd (postFailed.mp failed) (by decide +kernel)
  next => decide +kernel
  next => decide +kernel
  next => exact fun candid => absurd (textCandid.mp candid) (by decide +kernel)

/-- A text that has reached one phone is reported as a failure, because another one never
answers. -/
theorem failed_though_accepted :
    let notified := (twofoldStation.notify (universal 0) gasInHall (.list [.text "sms"])).2
    notified.deliveries.map Delivered.shown = [("sms", .failed, some "timed out after 10.0s")] ∧
      (textChannel.served 0).map (fun target =>
          (target.target, target.hasAccepted (Limit.ofValue (.float 10)) 0)) =
        [(.recipient "+1", true), (.recipient "+2", false)] := by
  decide +kernel

end SensorAlerting.Delivery

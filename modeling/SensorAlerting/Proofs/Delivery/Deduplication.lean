import SensorAlerting.Proofs.Delivery.Traffic
import SensorAlerting.Proofs.Entries
import SensorAlerting.Proofs.Time.Onward

set_option autoImplicit false

/-!
Which deliveries are repeats. The dispatcher remembers one moment for each key, and forgets it when
it is too old. What it remembers agrees with the notices of all deliveries that have begun, in
whatever order they begin and end.
-/

namespace SensorAlerting.Delivery

open SensorAlerting.Number SensorAlerting.Time

/-- When the latest delivery of a key began that was no repeat. -/
def latest? (notices : List Notice) (key : AlertKey) : Option Moment :=
  (notices.find? fun notice => notice.key == key && !notice.repeated).map Notice.now

/-- Whether the latest delivery of a key began so recently that another one is a repeat. -/
def IsRecent (settings : DispatcherSettings) (notices : List Notice) (call : Call) : Prop :=
  ∃ last, latest? notices call.alert.key = some last ∧ call.now.since last < settings.window ∧
    call.now.since last <= settings.retention

def Apart (span : Int) (notices : List Notice) : Prop :=
  notices.Pairwise fun later earlier =>
    later.key = earlier.key -> later.repeated = false -> earlier.repeated = false ->
      span <= later.now.since earlier.now

theorem latest?_cons (notice : Notice) (notices : List Notice) (key : AlertKey) :
    latest? (notice :: notices) key =
      if notice.key = key ∧ notice.repeated = false then some notice.now
      else latest? notices key := by
  by_cases same : notice.key = key <;> cases repeated : notice.repeated <;>
    simp [latest?, same, repeated]

theorem latest?_isSome {notices : List Notice} {notice : Notice} (member : notice ∈ notices)
    (fresh : notice.repeated = false) : ∃ last, latest? notices notice.key = some last := by
  simp only [latest?, Option.map_eq_some_iff]
  have found : (notices.find? fun other =>
      other.key == notice.key && !other.repeated).isSome = true := by
    rw [List.find?_isSome]
    exact ⟨notice, member, by simp [fresh]⟩
  obtain ⟨other, found⟩ := Option.isSome_iff_exists.mp found
  exact ⟨other.now, other, found, rfl⟩

def Sorted (notices : List Notice) : Prop :=
  notices.Pairwise fun later earlier => earlier.now.instant <= later.now.instant

theorem le_latest? {notices : List Notice} (sorted : Sorted notices) {notice : Notice}
    (member : notice ∈ notices) (fresh : notice.repeated = false) {last : Moment}
    (found : latest? notices notice.key = some last) : notice.now.instant <= last.instant := by
  induction notices with
  | nil => simp at member
  | cons newest rest ih =>
    obtain ⟨first, later⟩ := List.pairwise_cons.mp sorted
    rw [latest?_cons] at found
    split at found
    next =>
      obtain rfl : newest.now = last := by simpa using found
      cases List.mem_cons.mp member with
      | inl same => exact same ▸ Int.le_refl _
      | inr below => exact first notice below
    next other =>
      cases List.mem_cons.mp member with
      | inl same => exact absurd ⟨by rw [same], by rw [<- same]; exact fresh⟩ other
      | inr below => exact ih later below found

def seenAfter (settings : DispatcherSettings) (seen : Entries AlertKey Moment) (call : Call)
    (repeated : Bool) : Entries AlertKey Moment :=
  let kept := seen.filter fun entry => decide (call.now.since entry.2 <= settings.retention)
  if repeated then kept else Entries.put kept call.alert.key call.now

namespace Dispatcher

variable (dispatcher : Dispatcher) (call : Call)

theorem begin_isRepeat :
    (call.begin dispatcher).2.isRepeat =
      (dispatcher.purge call.now).isDuplicate call.now call.alert := by
  simp only [Call.begin, Dispatcher.begin]
  cases (dispatcher.purge call.now).isDuplicate call.now call.alert with
  | true => rfl
  | false => cases requestedNames call.channels <;> rfl

theorem begin_settings : (call.begin dispatcher).1.settings = dispatcher.settings := by
  simp only [Call.begin, Dispatcher.begin]
  split
  next => rfl
  next => split <;> rfl

theorem begin_seen :
    (call.begin dispatcher).1.seen =
      seenAfter dispatcher.settings dispatcher.seen call (call.begin dispatcher).2.isRepeat := by
  rw [begin_isRepeat]
  simp only [Call.begin, Dispatcher.begin]
  cases (dispatcher.purge call.now).isDuplicate call.now call.alert with
  | true => rfl
  | false => cases requestedNames call.channels <;> rfl

end Dispatcher

/-- What has been seen agrees with the notices from some time on: what is remembered of a key is its
latest delivery, and a key that is not remembered was too long ago. -/
structure Remembers (settings : DispatcherSettings) (seen : Entries AlertKey Moment)
    (notices : List Notice) (since : Int) : Prop where
  distinct : Entries.Distinct seen
  exact : ∀ key seenAt, Entries.get? seen key = some seenAt -> latest? notices key = some seenAt
  forgotten : ∀ key last, latest? notices key = some last -> Entries.get? seen key = none ->
    settings.retention < since - last.instant

namespace Remembers

variable {settings : DispatcherSettings} {seen : Entries AlertKey Moment} {notices : List Notice}
  {since : Int}

theorem nothing : Remembers settings [] [] since :=
  ⟨List.nodup_nil, by simp, by simp [latest?]⟩

theorem later (remembers : Remembers settings seen notices since) {time : Int}
    (order : since <= time) : Remembers settings seen notices time := by
  refine ⟨remembers.distinct, remembers.exact, fun key last found absent => ?_⟩
  have before := remembers.forgotten key last found absent
  omega

theorem purge {now : Moment} (remembers : Remembers settings seen notices now.instant) :
    Remembers settings
      (seen.filter fun entry => decide (now.since entry.2 <= settings.retention)) notices
      now.instant := by
  refine ⟨remembers.distinct.filter _, fun key seenAt found => ?_, fun key last found absent => ?_⟩
  next =>
    rw [Entries.get?_filter remembers.distinct, Option.filter_eq_some_iff] at found
    exact remembers.exact key seenAt found.1
  next =>
    rw [Entries.get?_filter remembers.distinct] at absent
    cases was : Entries.get? seen key with
    | none => exact remembers.forgotten key last found was
    | some seenAt =>
      -- The key has just been dropped, and what was dropped is its latest delivery.
      have same := remembers.exact key seenAt was
      obtain rfl : last = seenAt := by simpa [found] using same
      rw [was, Option.filter_eq_none_iff] at absent
      have old := of_decide_eq_false (Bool.eq_false_iff.mpr (absent last rfl))
      simp only [Moment.since] at old
      omega

theorem isDuplicate_iff {dispatcher : Dispatcher} {call : Call}
    (remembers : Remembers dispatcher.settings dispatcher.seen notices call.now.instant) :
    (call.begin dispatcher).2.isRepeat = true ↔ IsRecent dispatcher.settings notices call := by
  rw [dispatcher.begin_isRepeat]
  have found : Entries.get? (dispatcher.purge call.now).seen call.alert.key =
      (Entries.get? dispatcher.seen call.alert.key).filter fun seenAt =>
        decide (call.now.since seenAt <= dispatcher.settings.retention) :=
    Entries.get?_filter remembers.distinct _ _
  constructor
  next =>
    intro duplicate
    unfold Dispatcher.isDuplicate at duplicate
    split at duplicate
    next seenAt kept =>
      rw [found, Option.filter_eq_some_iff] at kept
      exact ⟨seenAt, remembers.exact _ _ kept.1, of_decide_eq_true duplicate,
        of_decide_eq_true kept.2⟩
    next => cases duplicate
  next =>
    rintro ⟨last, latest, within, young⟩
    -- A key that was forgotten would be too old to be recent.
    cases was : Entries.get? dispatcher.seen call.alert.key with
    | none =>
      have old := remembers.forgotten _ last latest was
      simp only [Moment.since] at young
      omega
    | some seenAt =>
      have same := remembers.exact _ seenAt was
      obtain rfl : last = seenAt := by simpa [latest] using same
      have kept : Entries.get? (dispatcher.purge call.now).seen call.alert.key = some last := by
        rw [found, was]
        simp [Option.filter, young]
      simp only [Dispatcher.isDuplicate, kept]
      exact decide_eq_true within

theorem begin {dispatcher : Dispatcher} {call : Call}
    (remembers : Remembers dispatcher.settings dispatcher.seen notices call.now.instant) :
    Remembers dispatcher.settings (call.begin dispatcher).1.seen
      (call.notice dispatcher :: notices) call.now.instant := by
  rw [dispatcher.begin_seen]
  have kept := remembers.purge
  cases repeated : (call.begin dispatcher).2.isRepeat with
  | true =>
    refine ⟨kept.distinct, fun key seenAt found => ?_, fun key last found absent => ?_⟩
    next =>
      rw [latest?_cons]
      simpa [Call.notice, repeated] using kept.exact key seenAt found
    next =>
      rw [latest?_cons] at found
      exact kept.forgotten key last (by simpa [Call.notice, repeated] using found) absent
  | false =>
    refine ⟨kept.distinct.put _ _, fun key seenAt found => ?_, fun key last found absent => ?_⟩
    -- Either the key is the one that was just put, or it is as it was before.
    all_goals
      by_cases same : call.alert.key = key
    next =>
      subst same
      simpa [seenAfter, latest?_cons, Call.notice, repeated] using found
    next =>
      simp only [seenAfter, Bool.false_eq_true, if_false, Entries.get?_put_other _ _ same] at found
      rw [latest?_cons]
      simpa [Call.notice, same] using kept.exact key seenAt found
    next =>
      subst same
      simp [seenAfter] at absent
    next =>
      simp only [seenAfter, Bool.false_eq_true, if_false, Entries.get?_put_other _ _ same] at absent
      rw [latest?_cons] at found
      exact kept.forgotten key last (by simpa [Call.notice, same] using found) absent

end Remembers

namespace Dispatcher

theorem addChannels_frame (dispatcher : Dispatcher) (channels : List (String × Channel)) :
    let filled := channels.foldl (fun dispatcher entry => dispatcher.addChannel entry.1 entry.2)
      dispatcher
    filled.settings = dispatcher.settings ∧ filled.seen = dispatcher.seen := by
  induction channels generalizing dispatcher with
  | nil => exact ⟨rfl, rfl⟩
  | cons entry rest ih => exact ih (dispatcher.addChannel entry.1 entry.2)

theorem submit_frame (dispatcher : Dispatcher) (submission : Submission) :
    (dispatcher.submit submission).settings = dispatcher.settings ∧
      (dispatcher.submit submission).seen = dispatcher.seen := by
  unfold submit
  split
  next => split <;> exact ⟨rfl, rfl⟩
  next => exact ⟨rfl, rfl⟩

end Dispatcher

namespace Traffic

variable {traffic : Traffic} {act : Act} {call : Call}

theorem arrive_frame {dispatcher after : Dispatcher} {flight? : Option Flight}
    (arrived : flight?.bind (arrive dispatcher) = some after) :
    after.settings = dispatcher.settings ∧ after.seen = dispatcher.seen := by
  obtain ⟨flight, -, arrived⟩ := Option.bind_eq_some_iff.mp arrived
  obtain ⟨delivered, -, rfl⟩ := Option.map_eq_some_iff.mp arrived
  exact ⟨rfl, rfl⟩

theorem step_idle (idle : traffic.call? act = none) :
    (traffic.step act).dispatcher.settings = traffic.dispatcher.settings ∧
      (traffic.step act).dispatcher.seen = traffic.dispatcher.seen ∧
      (traffic.step act).notices = traffic.notices := by
  suffices frame : (traffic.perform act).dispatcher.settings = traffic.dispatcher.settings ∧
      (traffic.perform act).dispatcher.seen = traffic.dispatcher.seen by
    exact ⟨frame.1, frame.2, by simp [step, idle]⟩
  cases act with
  | notify call => simp [call?] at idle
  | take now start => simp [perform, idle]
  | finish place =>
    simp only [perform]
    split
    next dispatcher arrived => exact arrive_frame arrived
    next => exact ⟨rfl, rfl⟩
  | finishCurrent =>
    simp only [perform]
    split
    next dispatcher arrived =>
      obtain ⟨settings, seen⟩ := arrive_frame arrived
      exact ⟨settings, seen⟩
    next => exact ⟨rfl, rfl⟩
  | submit submission => exact traffic.dispatcher.submit_frame submission
  | _ => exact ⟨rfl, rfl⟩

theorem step_call (calls : traffic.call? act = some call) :
    (traffic.step act).dispatcher.settings = (call.begin traffic.dispatcher).1.settings ∧
      (traffic.step act).dispatcher.seen = (call.begin traffic.dispatcher).1.seen ∧
      (traffic.step act).dispatcher.sent = (call.begin traffic.dispatcher).1.sent ∧
      (traffic.step act).notices = call.notice traffic.dispatcher :: traffic.notices := by
  suffices same : ∃ after : Dispatcher, (traffic.perform act).dispatcher = after ∧
      after.settings = (call.begin traffic.dispatcher).1.settings ∧
      after.seen = (call.begin traffic.dispatcher).1.seen ∧
      after.sent = (call.begin traffic.dispatcher).1.sent by
    obtain ⟨after, rfl, settings, seen, sent⟩ := same
    exact ⟨settings, seen, sent, by simp [step, calls]⟩
  refine ⟨_, rfl, ?_⟩
  cases act with
  | notify other =>
    obtain rfl : other = call := by simpa [call?] using calls
    simp only [perform, beginDirect]
    split <;> simp_all
  | take now start =>
    simp only [perform, calls, Option.map_some, Option.getD_some, beginQueued]
    split <;> simp_all
  | _ => simp [call?] at calls

theorem time?_of_call (calls : traffic.call? act = some call) :
    act.time? = some call.now.instant := by
  cases act with
  | notify other =>
    obtain rfl : other = call := by simpa [call?] using calls
    rfl
  | take now start =>
    simp only [call?] at calls
    split at calls
    next =>
      obtain ⟨submission, -, rfl⟩ := Option.map_eq_some_iff.mp calls
      rfl
    next => cases calls
  | _ => simp [call?] at calls

structure Consistent (settings : DispatcherSettings) (traffic : Traffic) (since : Int) : Prop where
  settled : traffic.dispatcher.settings = settings
  remembers : Remembers settings traffic.dispatcher.seen traffic.notices since
  past : ∀ notice ∈ traffic.notices, notice.now.instant <= since
  sorted : Sorted traffic.notices
  apart : settings.window <= settings.retention -> Apart settings.window traffic.notices

namespace Consistent

variable {settings : DispatcherSettings} {since : Int}

theorem start (channels : List (String × Channel)) :
    Consistent settings (Traffic.start settings channels) since := by
  obtain ⟨same, unseen⟩ := Dispatcher.addChannels_frame
    { settings, channels := [], seen := [], deliveries := [], queue := [], dropped := 0
      running := false, current := none, sent := [] } channels
  refine ⟨same, ?_, by simp [Traffic.start], List.Pairwise.nil, fun _ => List.Pairwise.nil⟩
  simp only [Traffic.start, Dispatcher.create, unseen]
  exact Remembers.nothing

theorem later (consistent : Consistent settings traffic since) {time : Int}
    (order : since <= time) : Consistent settings traffic time :=
  { consistent with
    remembers := consistent.remembers.later order
    past := fun notice member => Int.le_trans (consistent.past notice member) order }

theorem isRepeat_iff (consistent : Consistent settings traffic call.now.instant) :
    (call.begin traffic.dispatcher).2.isRepeat = true ↔
      IsRecent settings traffic.notices call := by
  obtain ⟨rfl, remembers, -, -, -⟩ := consistent
  exact remembers.isDuplicate_iff

theorem apart_notice (consistent : Consistent settings traffic call.now.instant)
    (covered : settings.window <= settings.retention) :
    Apart settings.window (call.notice traffic.dispatcher :: traffic.notices) := by
  -- A shorter gap would be shorter than what is kept as well, and so this would be a repeat.
  refine List.pairwise_cons.mpr ⟨?_, consistent.apart covered⟩
  intro earlier member same begun fresh
  obtain ⟨last, found⟩ := latest?_isSome member fresh
  have between := le_latest? consistent.sorted member fresh found
  have recent : ¬ IsRecent settings traffic.notices call := by
    rw [<- consistent.isRepeat_iff]
    exact Bool.eq_false_iff.mp begun
  simp only [Call.notice, Moment.since] at same ⊢
  rw [<- same] at found
  by_cases within : call.now.since last < settings.window
  next =>
    have young : call.now.since last <= settings.retention := by omega
    exact absurd ⟨last, found, within, young⟩ recent
  next =>
    simp only [Moment.since] at within
    omega

theorem step {rest : List Act} (consistent : Consistent settings traffic since)
    (onward : Onward Act.time? since (act :: rest)) :
    Consistent settings (traffic.step act) (act.time?.getD since) := by
  cases calls : traffic.call? act with
  | none =>
    obtain ⟨sameSettings, sameSeen, sameNotices⟩ := step_idle calls
    obtain ⟨settled, remembers, past, sorted, apart⟩ := consistent.later onward.head_le
    exact ⟨by rw [sameSettings, settled], by rwa [sameSeen, sameNotices],
      by rwa [sameNotices], by rwa [sameNotices], by rwa [sameNotices]⟩
  | some call =>
    have shows := time?_of_call calls
    have reached := consistent.later (onward.head _ shows)
    obtain ⟨sameSettings, sameSeen, -, grown⟩ := step_call calls
    rw [traffic.dispatcher.begin_settings] at sameSettings
    rw [shows, Option.getD_some]
    refine ⟨by rw [sameSettings, reached.settled], ?_, ?_, ?_, fun covered => ?_⟩
    next =>
      rw [sameSeen, grown, <- reached.settled]
      have remembers := reached.remembers
      rw [<- reached.settled] at remembers
      exact remembers.begin
    next =>
      rw [grown]
      exact List.forall_mem_cons.mpr ⟨Int.le_refl _, reached.past⟩
    next =>
      rw [grown]
      exact List.pairwise_cons.mpr ⟨reached.past, reached.sorted⟩
    next =>
      rw [grown]
      exact reached.apart_notice covered

theorem run {before rest : List Act} (consistent : Consistent settings traffic since)
    (onward : Onward Act.time? since (before ++ rest)) :
    ∃ reached, Consistent settings (traffic.run before) reached ∧
      Onward Act.time? reached rest := by
  induction before generalizing traffic since with
  | nil => exact ⟨since, consistent, onward⟩
  | cons act before ih => exact ih (consistent.step onward) onward.tail

end Consistent

end Traffic

end SensorAlerting.Delivery

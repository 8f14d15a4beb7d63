import SensorAlerting.Detection.Threshold
import SensorAlerting.Proofs.Detection.Agreement
import SensorAlerting.Proofs.Entries
import SensorAlerting.Proofs.Number.Doubles
import SensorAlerting.Proofs.Rule.Fields
import SensorAlerting.Proofs.Time.Onward

set_option autoImplicit false

/-!
Which rules fire in a run of the threshold evaluator. The evaluator keeps one silence for each rule
id; here a run is judged by everything that happened in it before. The main result says that both
come to the same.
-/

namespace SensorAlerting

open SensorAlerting.Number SensorAlerting.Time

def Rule.HoldsOn (rule : Rule) (event : Event) : Prop :=
  ∃ condition, rule.compiled = some condition ∧ condition.holdsOn event = .ok true

theorem Time.Moment.instant_of_add? {moment later : Moment} {span : Int}
    (added : moment.add? span = some later) : later.instant = moment.instant + span := by
  unfold Moment.add? at added
  split at added
  next =>
    obtain rfl : { moment with wall := moment.wall + span } = later := by simpa using added
    simp only [Moment.instant]
    omega
  next => cases added

namespace Detection.Throttles

inductive Call where
  | evaluate (now : Moment) (event : Event) (rules : List Rule)
  | clear (ruleId : String)
  | clearAll

structure Question where
  now : Moment
  event : Event
  rule : Rule

def Call.questions : Call -> List Question
  | .evaluate now event rules => rules.map fun rule => { now, event, rule }
  | _ => []

def Call.time? : Call -> Option Int
  | .evaluate now _ _ => some now.instant
  | _ => none

structure Stage where
  throttles : Throttles
  serial : Nat

namespace Stage

def start (serial : Nat) : Stage := { throttles := .empty, serial }

def perform (stage : Stage) : Call -> Evaluation Throttles
  | .evaluate now event rules => stage.throttles.evaluate now stage.serial event rules
  | .clear ruleId => .nothing (stage.throttles.clear ruleId)
  | .clearAll => .nothing .empty

def after (stage : Stage) (call : Call) : Stage :=
  { throttles := (stage.perform call).state
    serial := stage.serial + (stage.perform call).issued }

def run (stage : Stage) (calls : List Call) : Stage := calls.foldl after stage

def Unfailing (stage : Stage) : List Call -> Prop
  | [] => True
  | call :: rest => (stage.perform call).failure = none ∧ (stage.after call).Unfailing rest

end Stage

structure Look extends Question where
  fired : Bool

inductive Deed where
  | looked (look : Look)
  | cleared (ruleId : String)
  | clearedAll

def looks (now : Moment) (event : Event) : Throttles -> List Rule -> List Look
  | _, [] => []
  | throttles, rule :: rest =>
    match throttles.fires now event rule with
    | .error _ => []
    | .ok false => { now, event, rule, fired := false } :: looks now event throttles rest
    | .ok true =>
      match throttles.silence now rule with
      | .error _ => []
      | .ok silenced => { now, event, rule, fired := true } :: looks now event silenced rest

def raised : Nat -> List Look -> List Submission
  | _, [] => []
  | serial, look :: rest =>
    if look.fired then
      { alert := alertOf serial look.now look.event look.rule
        channels := look.rule.channels.map .text } :: raised (serial + 1) rest
    else raised serial rest

namespace Stage

def looks (stage : Stage) : Call -> List Look
  | .evaluate now event rules =>
    Throttles.looks now event (stage.throttles.purge now) rules
  | _ => []

def deeds (stage : Stage) : Call -> List Deed
  | .clear ruleId => [.cleared ruleId]
  | .clearAll => [.clearedAll]
  | call => (stage.looks call).map .looked

def chronicle (stage : Stage) : List Call -> List Deed
  | [] => []
  | call :: rest => stage.deeds call ++ (stage.after call).chronicle rest

end Stage

def Deed.Forgets (ruleId : String) : Deed -> Prop
  | .looked _ => False
  | .cleared named => named = ruleId
  | .clearedAll => True

def Look.Silences (firing : Look) (now : Moment) : Prop :=
  firing.fired = true ∧ ∃ span, firing.rule.throttle = .ok span ∧ 0 < span ∧
    now.instant < firing.now.instant + span

/-- Whether some deeds leave a rule id silent at a time: there is a firing among them that silences
it, and no later deed makes it forgotten. -/
def IsSilent (deeds : List Deed) (ruleId : String) (now : Moment) : Prop :=
  ∃ earlier firing later, deeds = earlier ++ .looked firing :: later ∧
    firing.rule.ruleId = ruleId ∧ firing.Silences now ∧ ∀ deed ∈ later, ¬ deed.Forgets ruleId

structure Due (deeds : List Deed) (look : Look) : Prop where
  enabled : look.rule.enabled = true
  applies : look.rule.appliesTo look.event = true
  holds : look.rule.HoldsOn look.event
  loud : ¬ IsSilent deeds look.rule.ruleId look.now

theorem isSilent_snoc_looked {deeds : List Deed} {look : Look} {ruleId : String} {now : Moment} :
    IsSilent (deeds ++ [.looked look]) ruleId now ↔
      IsSilent deeds ruleId now ∨ look.rule.ruleId = ruleId ∧ look.Silences now := by
  constructor
  next =>
    rintro ⟨earlier, firing, later, split, named, silences, kept⟩
    rcases List.eq_nil_or_concat later with rfl | ⟨rest, last, rfl⟩
    next =>
      obtain ⟨-, same⟩ := List.append_inj' split rfl
      obtain rfl : look = firing := by simpa using same
      exact .inr ⟨named, silences⟩
    next =>
      have split : deeds ++ [.looked look] = (earlier ++ .looked firing :: rest) ++ [last] := by
        simpa using split
      obtain ⟨before, -⟩ := List.append_inj' split rfl
      exact .inl ⟨earlier, firing, rest, before, named, silences,
        fun deed member => kept deed (by simp [member])⟩
  next =>
    rintro (⟨earlier, firing, later, rfl, named, silences, kept⟩ | ⟨named, silences⟩)
    next =>
      refine ⟨earlier, firing, later ++ [.looked look], by simp, named, silences, ?_⟩
      intro deed member
      rcases List.mem_append.mp member with before | last
      next => exact kept deed before
      next =>
        obtain rfl := List.mem_singleton.mp last
        exact id
    next => exact ⟨deeds, look, [], rfl, named, silences, by simp⟩

theorem isSilent_snoc_forgetting {deeds : List Deed} {deed : Deed} {ruleId : String}
    {now : Moment} (notLook : ∀ look, deed ≠ .looked look) :
    IsSilent (deeds ++ [deed]) ruleId now ↔
      IsSilent deeds ruleId now ∧ ¬ deed.Forgets ruleId := by
  constructor
  next =>
    rintro ⟨earlier, firing, later, split, named, silences, kept⟩
    rcases List.eq_nil_or_concat later with rfl | ⟨rest, last, rfl⟩
    next =>
      obtain ⟨-, same⟩ := List.append_inj' split rfl
      exact absurd (by simpa using same) (notLook firing)
    next =>
      have split : deeds ++ [deed] = (earlier ++ .looked firing :: rest) ++ [last] := by
        simpa using split
      obtain ⟨before, same⟩ := List.append_inj' split rfl
      obtain rfl : deed = last := by simpa using same
      exact ⟨⟨earlier, firing, rest, before, named, silences,
        fun other member => kept other (by simp [member])⟩, kept deed (by simp)⟩
  next =>
    rintro ⟨⟨earlier, firing, later, rfl, named, silences, kept⟩, remembered⟩
    refine ⟨earlier, firing, later ++ [deed], by simp, named, silences, ?_⟩
    intro other member
    rcases List.mem_append.mp member with before | last
    next => exact kept other before
    next =>
      obtain rfl := List.mem_singleton.mp last
      exact remembered

theorem IsSilent.earlier {deeds : List Deed} {ruleId : String} {now later : Moment}
    (silent : IsSilent deeds ruleId later) (order : now.instant <= later.instant) :
    IsSilent deeds ruleId now := by
  -- What silences at the later time does so all the more before.
  obtain ⟨before, firing, after, split, named, ⟨fired, span, spanned, positive, within⟩, kept⟩ :=
    silent
  exact ⟨before, firing, after, split, named,
    ⟨fired, span, spanned, positive, Int.lt_of_le_of_lt order within⟩, kept⟩

theorem fires_iff {throttles : Throttles} {now : Moment} {event : Event} {rule : Rule}
    {fired : Bool} (answered : throttles.fires now event rule = .ok fired) :
    fired = true ↔ rule.enabled = true ∧ rule.appliesTo event = true ∧ rule.HoldsOn event ∧
      throttles.isThrottled now rule.ruleId = false := by
  unfold fires at answered
  split at answered
  next candidate =>
    obtain ⟨enabled, applies⟩ : rule.enabled = true ∧ rule.appliesTo event = true := by
      simpa using candidate
    split at answered
    next missing =>
      obtain rfl : false = fired := by simpa using answered
      simp [Rule.HoldsOn, missing]
    next condition compiled =>
      cases outcome : condition.holdsOn event with
      | error fault => simp [outcome, Except.map] at answered
      | ok holds =>
        obtain rfl : (holds && !throttles.isThrottled now rule.ruleId) = fired := by
          simpa [outcome, Except.map] using answered
        simp [enabled, applies, Rule.HoldsOn, compiled, outcome]
  next passedOver =>
    obtain rfl : false = fired := by simpa using answered
    simp only [Bool.false_eq_true, false_iff]
    rintro ⟨enabled, applies, -⟩
    exact passedOver (by simp [enabled, applies])

theorem isThrottled_iff {throttles : Throttles} {now : Moment} {ruleId : String} :
    throttles.isThrottled now ruleId = true ↔
      ∃ silentUntil, Entries.get? throttles.silentUntil ruleId = some silentUntil ∧
        now.instant < silentUntil.instant := by
  cases found : Entries.get? throttles.silentUntil ruleId <;> simp [isThrottled, found]

theorem silence_cases {throttles silenced : Throttles} {now : Moment} {rule : Rule}
    (done : throttles.silence now rule = .ok silenced) :
    (¬ 0 < rule.throttleMinutes ∧ silenced = throttles) ∨
    ∃ span silentUntil, rule.throttle = .ok span ∧
      silentUntil.instant = now.instant + span ∧
      silenced = { silentUntil := Entries.put throttles.silentUntil rule.ruleId silentUntil } := by
  unfold silence at done
  split at done
  next positive =>
    split at done
    next => cases done
    next span spanned =>
      split at done
      next silentUntil added =>
        refine .inr ⟨span, silentUntil, spanned, Moment.instant_of_add? added, ?_⟩
        simpa using done.symm
      next => cases done
  next none => exact .inl ⟨none, by simpa using done.symm⟩

/-- From some time on, the silences are those that everything done so far has left. -/
structure Correct (throttles : Throttles) (deeds : List Deed) (since : Int) : Prop where
  distinct : Entries.Distinct throttles.silentUntil
  exact : ∀ ruleId (now : Moment), since <= now.instant ->
    (throttles.isThrottled now ruleId = true ↔ IsSilent deeds ruleId now)

namespace Correct

variable {throttles : Throttles} {deeds : List Deed} {since : Int}

theorem empty : Correct .empty [] since where
  distinct := List.nodup_nil
  exact := by simp [isThrottled_iff, Throttles.empty, IsSilent]

theorem later (correct : Correct throttles deeds since) {time : Int} (order : since <= time) :
    Correct throttles deeds time where
  distinct := correct.distinct
  exact ruleId now reached := correct.exact ruleId now (Int.le_trans order reached)

theorem purge {now : Moment} (correct : Correct throttles deeds now.instant) :
    Correct (throttles.purge now) deeds now.instant where
  distinct := correct.distinct.filter _
  exact := by
    intro ruleId time reached
    rw [<- correct.exact ruleId time reached, isThrottled_iff, isThrottled_iff]
    simp only [Throttles.purge, Entries.get?_filter correct.distinct, Option.filter_eq_some_iff,
      decide_eq_true_eq]
    constructor
    next =>
      rintro ⟨silentUntil, ⟨found, -⟩, within⟩
      exact ⟨silentUntil, found, within⟩
    next =>
      -- What still silences at a later time was not old enough to be purged.
      rintro ⟨silentUntil, found, within⟩
      exact ⟨silentUntil, ⟨found, Int.lt_of_le_of_lt reached within⟩, within⟩

theorem skip (correct : Correct throttles deeds since) {look : Look} (idle : look.fired = false) :
    Correct throttles (deeds ++ [.looked look]) since where
  distinct := correct.distinct
  exact ruleId now reached := by
    rw [correct.exact ruleId now reached, isSilent_snoc_looked]
    simp [Look.Silences, idle]

theorem clear (correct : Correct throttles deeds since) (named : String) :
    Correct (throttles.clear named) (deeds ++ [.cleared named]) since where
  distinct := correct.distinct.remove _
  exact ruleId now reached := by
    rw [isSilent_snoc_forgetting (by simp), <- correct.exact ruleId now reached, isThrottled_iff,
      isThrottled_iff]
    by_cases same : named = ruleId <;>
      simp [Throttles.clear, Entries.get?_remove, Deed.Forgets, same]

theorem clearAll : Correct .empty (deeds ++ [.clearedAll]) since where
  distinct := List.nodup_nil
  exact ruleId now reached := by
    rw [isSilent_snoc_forgetting (by simp)]
    simp [isThrottled_iff, Throttles.empty, Deed.Forgets]

theorem silence {look : Look} {silenced : Throttles}
    (correct : Correct throttles deeds look.now.instant) (fired : look.fired = true)
    (sound : look.rule.IsSound)
    (loud : throttles.isThrottled look.now look.rule.ruleId = false)
    (done : throttles.silence look.now look.rule = .ok silenced) :
    Correct silenced (deeds ++ [.looked look]) look.now.instant := by
  -- The rule was not silent when it fired, so that whatever is overwritten was over already.
  have past : ∀ now : Moment, look.now.instant <= now.instant ->
      ¬ IsSilent deeds look.rule.ruleId now := by
    intro now reached silent
    have before := (correct.exact _ look.now (Int.le_refl _)).mpr (silent.earlier reached)
    simp [loud] at before
  cases silence_cases done with
  | inl unthrottled =>
    obtain ⟨notAbove, rfl⟩ := unthrottled
    refine ⟨correct.distinct, fun ruleId now reached => ?_⟩
    rw [correct.exact ruleId now reached, isSilent_snoc_looked, iff_self_or]
    -- A throttle that is not positive is nought, and its span is empty.
    rintro ⟨-, -, span, spanned, positive, -⟩
    have nought := spanOf_nought sound notAbove spanned
    omega
  | inr throttled =>
    obtain ⟨span, silentUntil, spanned, lasts, rfl⟩ := throttled
    refine ⟨correct.distinct.put _ _, fun ruleId now reached => ?_⟩
    rw [isThrottled_iff, isSilent_snoc_looked]
    by_cases same : look.rule.ruleId = ruleId
    next =>
      subst same
      have silences : look.Silences now ↔ now.instant < look.now.instant + span := by
        simp only [Look.Silences, fired, spanned, Except.ok.injEq, true_and, exists_eq_left']
        omega
      simp [Entries.get?_put_same, past now reached, silences, lasts]
    next =>
      rw [Entries.get?_put_other _ _ same, <- isThrottled_iff, correct.exact ruleId now reached]
      simp [same]

end Correct

def Deed.Lawful (earlier : List Deed) : Deed -> Prop
  | .looked look => look.fired = true ↔ Due earlier look
  | _ => True

def Lawful (earlier : List Deed) : List Deed -> Prop
  | [] => True
  | deed :: rest => deed.Lawful earlier ∧ Lawful (earlier ++ [deed]) rest

theorem Lawful.append {earlier first second : List Deed} (former : Lawful earlier first)
    (latter : Lawful (earlier ++ first) second) : Lawful earlier (first ++ second) := by
  induction first generalizing earlier with
  | nil => simpa using latter
  | cons deed rest ih => exact ⟨former.1, ih former.2 (by simpa using latter)⟩

theorem Lawful.at {earlier front back : List Deed} {deed : Deed}
    (lawful : Lawful earlier (front ++ deed :: back)) : deed.Lawful (earlier ++ front) := by
  induction front generalizing earlier with
  | nil => simpa using lawful.1
  | cons first rest ih => simpa using ih lawful.2

/-- Going through some rules: each is looked at once, and one that fires is silenced. -/
inductive Walk (now : Moment) (event : Event) :
    Throttles -> List Rule -> List Look -> Throttles -> Prop where
  | done (throttles : Throttles) : Walk now event throttles [] [] throttles
  | idle {throttles last : Throttles} {rule : Rule} {rest : List Rule} {seen : List Look}
      (answered : throttles.fires now event rule = .ok false)
      (onward : Walk now event throttles rest seen last) :
      Walk now event throttles (rule :: rest) ({ now, event, rule, fired := false } :: seen) last
  | fired {throttles silenced last : Throttles} {rule : Rule} {rest : List Rule}
      {seen : List Look} (answered : throttles.fires now event rule = .ok true)
      (silence : throttles.silence now rule = .ok silenced)
      (onward : Walk now event silenced rest seen last) :
      Walk now event throttles (rule :: rest) ({ now, event, rule, fired := true } :: seen) last

theorem walk_evaluateRules {now : Moment} {event : Event} {serial : Nat}
    {throttles : Throttles} {rules : List Rule}
    (unfailing : (evaluateRules now event serial throttles rules).failure = none) :
    Walk now event throttles rules (Throttles.looks now event throttles rules)
        (evaluateRules now event serial throttles rules).state ∧
      (evaluateRules now event serial throttles rules).submissions =
        raised serial (Throttles.looks now event throttles rules) := by
  -- The evaluator goes on with the silences of the rules before, and so does the walk.
  induction rules generalizing serial throttles with
  | nil => exact ⟨.done throttles, rfl⟩
  | cons rule rest ih =>
    rw [evaluateRules] at unfailing ⊢
    rw [Throttles.looks]
    cases answered : throttles.fires now event rule with
    | error fault => simp [answered, Evaluation.failed] at unfailing
    | ok fired =>
      cases fired with
      | false =>
        simp only [answered] at unfailing
        obtain ⟨onward, submissions⟩ := ih unfailing
        exact ⟨.idle answered onward, submissions⟩
      | true =>
        cases silence : throttles.silence now rule with
        | error fault => simp [answered, silence, Evaluation.failed] at unfailing
        | ok silenced =>
          simp only [answered, silence] at unfailing
          obtain ⟨onward, submissions⟩ := ih unfailing
          exact ⟨.fired answered silence onward, congrArg _ submissions⟩

namespace Walk

variable {now : Moment} {event : Event} {throttles last : Throttles} {rules : List Rule}
  {seen : List Look}

theorem questions (walk : Walk now event throttles rules seen last) :
    seen.map Look.toQuestion = rules.map fun rule => { now, event, rule } := by
  induction walk with
  | done => rfl
  | idle _ _ ih => simp [ih]
  | fired _ _ _ ih => simp [ih]

theorem lawful {deeds : List Deed} (walk : Walk now event throttles rules seen last)
    (correct : Correct throttles deeds now.instant) (sound : ∀ rule ∈ rules, rule.IsSound) :
    Correct last (deeds ++ seen.map .looked) now.instant ∧
      Lawful deeds (seen.map .looked) := by
  induction walk generalizing deeds with
  | done => exact ⟨by simpa using correct, trivial⟩
  | @idle throttles _ rule _ _ answered _ ih =>
    let look : Look := { now, event, rule, fired := false }
    obtain ⟨-, soundRest⟩ := List.forall_mem_cons.mp sound
    have skipped : Correct throttles (deeds ++ [.looked look]) now.instant := correct.skip rfl
    obtain ⟨after, lawful⟩ := ih skipped soundRest
    have law : look.fired = true ↔ Due deeds look := by
      refine ⟨by simp [look], fun due => ?_⟩
      refine (fires_iff answered).mpr ⟨due.enabled, due.applies, due.holds, ?_⟩
      have loud := due.loud
      rw [<- correct.exact _ now (Int.le_refl _)] at loud
      simpa using loud
    exact ⟨by simpa [look] using after, law, by simpa [look] using lawful⟩
  | @fired throttles silenced _ rule _ _ answered silence _ ih =>
    let look : Look := { now, event, rule, fired := true }
    obtain ⟨soundFirst, soundRest⟩ := List.forall_mem_cons.mp sound
    obtain ⟨enabled, applies, holds, loud⟩ := (fires_iff answered).mp rfl
    have next : Correct silenced (deeds ++ [.looked look]) now.instant :=
      Correct.silence correct rfl soundFirst loud silence
    obtain ⟨after, lawful⟩ := ih next soundRest
    have law : look.fired = true ↔ Due deeds look := by
      refine ⟨fun _ => ⟨enabled, applies, holds, ?_⟩, fun _ => rfl⟩
      rw [<- correct.exact _ now (Int.le_refl _)]
      simp [look, loud]
    exact ⟨by simpa [look] using after, law, by simpa [look] using lawful⟩

end Walk

namespace Stage

theorem lawful_perform {stage : Stage} {call : Call} {deeds : List Deed} {since : Int}
    (correct : Correct stage.throttles deeds since)
    (order : ∀ time ∈ call.time?, since <= time)
    (sound : ∀ question ∈ call.questions, question.rule.IsSound)
    (unfailing : (stage.perform call).failure = none) :
    Correct (stage.after call).throttles (deeds ++ stage.deeds call)
        (call.time?.getD since) ∧
      Lawful deeds (stage.deeds call) := by
  cases call with
  | evaluate now event rules =>
    have reached : since <= now.instant := order _ rfl
    have soundRules : ∀ rule ∈ rules, rule.IsSound := by simpa [Call.questions] using sound
    exact (walk_evaluateRules unfailing).1.lawful (correct.later reached).purge soundRules
  | clear ruleId => exact ⟨correct.clear ruleId, trivial, trivial⟩
  | clearAll => exact ⟨Correct.clearAll, trivial, trivial⟩

theorem lawful_chronicle {stage : Stage} {calls : List Call} {deeds : List Deed} {since : Int}
    (correct : Correct stage.throttles deeds since) (onward : Onward Call.time? since calls)
    (sound : ∀ call ∈ calls, ∀ question ∈ call.questions, question.rule.IsSound)
    (unfailing : stage.Unfailing calls) : Lawful deeds (stage.chronicle calls) := by
  -- By induction on the calls. Each of them starts from silences that agree with all before it.
  induction calls generalizing stage deeds since with
  | nil => trivial
  | cons call rest ih =>
    obtain ⟨soundFirst, soundRest⟩ := List.forall_mem_cons.mp sound
    obtain ⟨next, lawful⟩ := lawful_perform correct onward.head soundFirst unfailing.1
    exact lawful.append (ih next onward.tail soundRest unfailing.2)

theorem submissions_perform {stage : Stage} {call : Call}
    (unfailing : (stage.perform call).failure = none) :
    let raised := raised stage.serial (stage.looks call)
    (stage.looks call).map Look.toQuestion = call.questions ∧
      (stage.perform call).submissions = raised ∧
      (stage.perform call).alerts = raised.map Submission.alert := by
  cases call with
  | evaluate now event rules =>
    obtain ⟨walk, submissions⟩ := walk_evaluateRules unfailing
    obtain ⟨_, -, all⟩ := raised_of_evaluateRules unfailing
    exact ⟨walk.questions, submissions, all.alerts.trans (congrArg _ submissions)⟩
  | clear ruleId => exact ⟨rfl, rfl, rfl⟩
  | clearAll => exact ⟨rfl, rfl, rfl⟩

theorem Unfailing.at {stage : Stage} {before after : List Call} {call : Call}
    (unfailing : stage.Unfailing (before ++ call :: after)) :
    ((stage.run before).perform call).failure = none := by
  induction before generalizing stage with
  | nil => exact unfailing.1
  | cons first rest ih => exact ih unfailing.2

end Stage

/-- In every run from the start, a call hands on and returns one alert for each of its looks that
fired, in the order of its rules, and a look fired exactly when its rule was due after everything
before it. -/
theorem fired_iff_due {serial : Nat} {calls : List Call} (ordered : InOrder Call.time? calls)
    (sound : ∀ call ∈ calls, ∀ question ∈ call.questions, question.rule.IsSound)
    (unfailing : (Stage.start serial).Unfailing calls) :
    (∀ before call after, calls = before ++ call :: after ->
      let stage := (Stage.start serial).run before
      let raised := raised stage.serial (stage.looks call)
      (stage.looks call).map Look.toQuestion = call.questions ∧
        (stage.perform call).submissions = raised ∧
        (stage.perform call).alerts = raised.map Submission.alert) ∧
    ∀ earlier look later,
      (Stage.start serial).chronicle calls = earlier ++ .looked look :: later ->
        (look.fired = true ↔ Due earlier look) := by
  constructor
  next =>
    rintro before call after rfl
    exact Stage.submissions_perform unfailing.at
  next =>
    intro earlier look later split
    have lawful : Lawful [] ((Stage.start serial).chronicle calls) := by
      obtain ⟨since, onward⟩ := ordered.onward
      exact Stage.lawful_chronicle Correct.empty onward sound unfailing
    rw [split] at lawful
    exact lawful.at

def quarterly : Rule :=
  { ruleId := "smoke", sensorType := none, deviceId := none, condition := "mq135 > 50"
    severity := .warning, channels := [], throttleGiven := some 15, enabled := true
    description := none, createdAt := universal 0, updatedAt := universal 0
    compiled := some { path := ["mq135"], comparison := .above, literal := 50
                       source := "mq135 > 50" } }

def smokeAt (minutes : List Int) : List Call :=
  minutes.map fun count =>
    let now := universal (count * minute)
    .evaluate now
      { deviceId := "hall", sensorType := "gas", location := "hall", timestamp := now
        readings := [("mq135", .int 60)] } [quarterly]

theorem fired_iff_due_quarterly :
    let calls := smokeAt [0, 14, 15]
    InOrder Call.time? calls ∧ (Stage.start 0).Unfailing calls ∧
      (∀ call ∈ calls, ∀ question ∈ call.questions, question.rule.IsSound) ∧
      ((Stage.start 0).run calls).serial = 2 ∧
      ∀ earlier look later,
        (Stage.start 0).chronicle calls = earlier ++ .looked look :: later ->
          (look.fired = true ↔ Due earlier look) := by
  have ordered : InOrder Call.time? (smokeAt [0, 14, 15]) := by
    simp only [InOrder]
    decide
  have unfailing : (Stage.start 0).Unfailing (smokeAt [0, 14, 15]) := by
    refine ⟨?_, ?_, ?_, trivial⟩ <;> decide +kernel
  have sound : ∀ call ∈ smokeAt [0, 14, 15], ∀ question ∈ call.questions,
      question.rule.IsSound := by
    have quarter : 0 <= quarterly.throttleMinutes := by decide +kernel
    simpa [smokeAt, Call.questions, Rule.IsSound] using quarter
  exact ⟨ordered, unfailing, sound, by decide +kernel, (fired_iff_due ordered sound unfailing).2⟩

end Detection.Throttles

end SensorAlerting

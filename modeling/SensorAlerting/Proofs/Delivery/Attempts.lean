import SensorAlerting.Delivery.Channel
import SensorAlerting.Proofs.Time.Waiting

set_option autoImplicit false

/-!
Attempts that begin some turns later at the same instant. They end in the same way and are over at
the same instants, so that an attempt can be told by the instant at which it begins. Under a limit
it is over in time or cut off by the order of the instants alone, unless both fall together.
-/

namespace SensorAlerting.Time

namespace Point

variable {start point : Point} {turns : Nat} {wait : Int}

def shift (instant : Int) (turns : Nat) (point : Point) : Point :=
  if point.instant = instant then point.plus turns else point

@[simp]
theorem instant_plus (point : Point) (turns : Nat) : (point.plus turns).instant = point.instant :=
  rfl

@[simp]
theorem instant_shift (instant : Int) (turns : Nat) (point : Point) :
    (point.shift instant turns).instant = point.instant := by
  unfold shift
  split <;> rfl

theorem turn_shift_same (turns : Nat) (point : Point) :
    (point.shift point.instant turns).turn = point.turn + turns := by
  simp [shift, plus]

theorem shift_other {instant : Int} (apart : point.instant ≠ instant) (turns : Nat) :
    point.shift instant turns = point := if_neg apart

theorem afterWait_plus (start : Point) (turns : Nat) (wait : Int) :
    (start.plus turns).afterWait wait = (start.afterWait wait).shift start.instant turns := by
  simp only [afterWait, instant_plus]
  by_cases none : wait <= 0
  next => simp [none, shift]
  by_cases near : after start.instant wait < reach start.instant
  next => simp [none, near, shift, plus, Nat.add_right_comm]
  next =>
    have beyond := lt_reach start.instant
    have apart : after start.instant wait ≠ start.instant := by omega
    simp [none, near, shift, apart]

theorem start_le_afterWait (start : Point) (wait : Int) :
    start.instant <= (start.afterWait wait).instant := by
  unfold afterWait
  dsimp only
  split
  next => exact Int.le_refl _
  next =>
    split
    next => exact Int.le_refl _
    next far =>
      have beyond := lt_reach start.instant
      dsimp only
      omega

theorem instant_later (left right : Point) :
    (left.later right).instant = max left.instant right.instant := by
  unfold later
  split
  next after =>
    simp only [Bool.or_eq_true, Bool.and_eq_true, decide_eq_true_eq, beq_iff_eq] at after
    omega
  next after =>
    simp only [Bool.or_eq_true, Bool.and_eq_true, decide_eq_true_eq, beq_iff_eq] at after
    omega

end Point

def lastInstant (first : Int) (instants : List (Option Int)) : Option Int :=
  instants.foldl (fun last instant => do some (max (<- last) (<- instant))) (some first)

theorem instant_latest (first : Point) (points : List (Option Point)) :
    (latest first points).map Point.instant =
      lastInstant first.instant (points.map (Option.map Point.instant)) := by
  have all : ∀ last : Option Point,
      (points.foldl (fun last point => do (<- last).later (<- point)) last).map Point.instant =
        (points.map (Option.map Point.instant)).foldl
          (fun last instant => do some (max (<- last) (<- instant))) (last.map Point.instant) := by
    induction points with
    | nil => exact fun _ => rfl
    | cons point rest ih =>
      intro last
      rw [List.foldl_cons, ih, List.map_cons, List.foldl_cons]
      cases last <;> cases point <;> simp [Point.instant_later]
  exact all (some first)

end SensorAlerting.Time

namespace SensorAlerting.Delivery

open SensorAlerting.Number SensorAlerting.Time

section Turns

variable {start finish : Point} {turns : Nat} {limit : Option Int}

theorem cutsOff_plus (start : Point) (turns : Nat) (limit : Option Int) (finish : Option Point) :
    cutsOff (start.plus turns) limit (finish.map (Point.shift start.instant turns)) =
      cutsOff start limit finish := by
  cases limit with
  | none => rfl
  | some limit =>
    cases finish with
    | none => rfl
    | some finish =>
      simp only [cutsOff, Option.map_some, Point.instant_shift, Point.instant_plus]
      by_cases same : finish.instant = start.instant
      next =>
        have turned := finish.turn_shift_same turns
        rw [same] at turned
        have moved : (start.plus turns).turn = start.turn + turns := rfl
        have order : decide (start.turn + turns + 2 < finish.turn + turns) =
            decide (start.turn + 2 < finish.turn) := decide_eq_decide.mpr (by omega)
        simp only [beq_iff_eq, same, if_true, turned, moved]
        exact congrArg (decide (limit < reach start.instant) && ·) order
      next =>
        have apart : ¬ (finish.instant == start.instant) = true := by simpa using same
        rw [Point.shift_other same, if_neg apart, if_neg apart]

theorem endingFrom_plus (behaviour : Behaviour) (start : Point) (turns : Nat) :
    behaviour.endingFrom (start.plus turns) =
      (behaviour.endingFrom start).map (Point.shift start.instant turns) := by
  cases replied : behaviour.reply <;> simp [Behaviour.endingFrom, replied, Point.afterWait_plus]

def SameInstant (left right : Option Point) : Prop :=
  left.map Point.instant = right.map Point.instant

theorem sameInstant_shift (instant : Int) (turns : Nat) (point : Option Point) :
    SameInstant (point.map (Point.shift instant turns)) point := by
  cases point <;> simp [SameInstant]

theorem underLimit_plus {limit : Limit} {cutTurns : Nat} {run : Point -> Option Point}
    (follows : ∀ start : Point,
      run (start.plus turns) = (run start).map (Point.shift start.instant turns)) :
    (underLimit limit cutTurns (start.plus turns) run).2 =
        (underLimit limit cutTurns start run).2 ∧
      SameInstant (underLimit limit cutTurns (start.plus turns) run).1
        (underLimit limit cutTurns start run).1 := by
  cases limit with
  | absent =>
    rw [underLimit, underLimit, follows]
    exact ⟨rfl, sameInstant_shift _ _ _⟩
  | spent => exact ⟨rfl, rfl⟩
  | unusable reason => exact ⟨rfl, rfl⟩
  | upTo wait =>
    have next : run ((start.plus turns).plus 1) =
        (run (start.plus 1)).map (Point.shift start.instant turns) := by
      have swapped : (start.plus turns).plus 1 = (start.plus 1).plus turns := by
        simp [Point.plus, Nat.add_right_comm]
      rw [swapped, follows]
      rfl
    have sameDue : (wait.map (start.plus turns).afterWait).map Point.instant =
        (wait.map start.afterWait).map Point.instant := by
      cases wait <;> simp [Point.afterWait_plus]
    simp only [underLimit, next, sameDue, cutsOff_plus]
    split
    next =>
      refine ⟨rfl, ?_⟩
      cases wait <;> simp [SameInstant, Point.afterWait_plus]
    next =>
      refine ⟨rfl, ?_⟩
      cases run (start.plus 1) <;> simp [SameInstant, handedOver]

theorem postOutcome_plus (limit : Limit) (start : Point) (turns : Nat) (behaviour : Behaviour) :
    (postOutcome limit (start.plus turns) behaviour).1 = (postOutcome limit start behaviour).1 ∧
      SameInstant (postOutcome limit (start.plus turns) behaviour).2
        (postOutcome limit start behaviour).2 := by
  obtain ⟨sameEnd, sameInstant⟩ := @underLimit_plus start turns limit 3 behaviour.endingFrom
    fun start => endingFrom_plus behaviour start turns
  refine ⟨?_, sameInstant⟩
  simp only [postOutcome, sameEnd]

theorem allOver_plus (start : Point) (turns : Nat) {later sooner : List (Option Point)}
    (same : later.map (Option.map Point.instant) = sooner.map (Option.map Point.instant)) :
    SameInstant (allOver (start.plus turns) later) (allOver start sooner) := by
  have instants : ∀ start points, (allOver start points).map Point.instant =
      lastInstant start.instant (points.map (Option.map Point.instant)) := by
    intro start points
    rw [<- instant_latest, allOver, Option.map_map]
    rfl
  rw [SameInstant, instants, instants, same, Point.instant_plus]

end Turns

/-- Whether two attempts end in the same way and are over at the same instant. -/
structure SameEnd (left right : Attempt) : Prop where
  ending : left.ending = right.ending
  finish : SameInstant left.finish right.finish

section Send

variable (alert : Alert) (sentAt : Moment) (start : Point) (turns : Nat)

theorem sendWebhook_plus (transport : Transport) (urls : List String) (timeout : Value) :
    SameEnd (sendWebhook transport urls timeout alert sentAt (start.plus turns))
      (sendWebhook transport urls timeout alert sentAt start) := by
  have swapped : (start.plus turns).plus 1 = (start.plus 1).plus turns := by
    simp [Point.plus, Nat.add_right_comm]
  have outcomes := fun url : String => postOutcome_plus (Limit.ofValue timeout) (start.plus 1) turns
    (transport.behaviour [url])
  constructor
  next =>
    simp only [sendWebhook, swapped, List.zip_map_right, List.map_map]
    refine congrArg (Ending.reported ∘ Report.ofResults "webhook") ?_
    refine List.map_congr_left fun pair _ => ?_
    exact congrArg (TargetResult.mk (.url pair.1)) (outcomes pair.2).1
  next =>
    refine allOver_plus start turns ?_
    simp only [swapped, List.map_map]
    exact List.map_congr_left fun url _ => (outcomes url).2

theorem sendSms_plus (transport : Transport) (recipients : List String) :
    SameEnd (sendSms transport recipients alert (start.plus turns))
      (sendSms transport recipients alert start) := by
  have swapped : (start.plus turns).plus 1 = (start.plus 1).plus turns := by
    simp [Point.plus, Nat.add_right_comm]
  refine ⟨rfl, allOver_plus start turns ?_⟩
  simp only [swapped, List.map_map]
  refine List.map_congr_left fun address _ => ?_
  simp only [Function.comp_apply, endingFrom_plus]
  exact sameInstant_shift _ _ _

end Send

/-- An attempt that begins some turns later ends in the same way and at the same instant. -/
theorem send_plus (channel : Channel) (alert : Alert) (sentAt : Moment) (start : Point)
    (turns : Nat) :
    SameEnd (channel.send alert sentAt (start.plus turns)) (channel.send alert sentAt start) := by
  have single : ∀ behaviour : Behaviour,
      SameInstant (behaviour.endingFrom (start.plus turns)) (behaviour.endingFrom start) := by
    intro behaviour
    rw [endingFrom_plus]
    exact sameInstant_shift _ _ _
  cases channel with
  | push => exact ⟨rfl, rfl⟩
  | custom report behaviour => exact ⟨rfl, single behaviour⟩
  | email transport recipients =>
    cases transport with
    | none => exact ⟨rfl, rfl⟩
    | some transport =>
      simp only [Channel.send]
      split
      next => exact ⟨rfl, rfl⟩
      next => exact ⟨rfl, single _⟩
  | webhook transport urls timeout =>
    cases transport with
    | none => exact ⟨rfl, rfl⟩
    | some transport =>
      simp only [Channel.send]
      split
      next => exact ⟨rfl, rfl⟩
      next => exact sendWebhook_plus alert sentAt start turns transport urls timeout
  | sms transport recipients =>
    cases transport with
    | none => exact ⟨rfl, rfl⟩
    | some transport =>
      simp only [Channel.send]
      split
      next => exact ⟨rfl, rfl⟩
      next => exact sendSms_plus alert start turns transport recipients

theorem send_at (channel : Channel) (alert : Alert) (sentAt : Moment) (start : Point) :
    SameEnd (channel.send alert sentAt start)
      (channel.send alert sentAt ⟨start.instant, 0⟩) := by
  have moved := send_plus channel alert sentAt ⟨start.instant, 0⟩ start.turn
  simpa [Point.plus] using moved

theorem SameInstant.isSome {left right : Option Point} (same : SameInstant left right) :
    left.isSome = right.isSome := by
  simpa using congrArg Option.isSome same

section Limits

variable {start finish : Point} {wait : Int}

def dueAt (instant wait : Int) : Int := ((Point.mk instant 0).afterWait wait).instant

theorem instant_afterWait (start : Point) (wait : Int) :
    (start.afterWait wait).instant = dueAt start.instant wait := by
  have moved := Point.afterWait_plus ⟨start.instant, 0⟩ start.turn wait
  simpa [dueAt, Point.plus] using congrArg Point.instant moved

theorem cutsOff_over {limit : Int} (past : reach finish.instant <= limit) :
    cutsOff start (some limit) (some finish) = false := by
  have beyond := lt_reach finish.instant
  simp only [cutsOff]
  split
  next same =>
    rw [beq_iff_eq] at same
    rw [<- same, decide_eq_false (by omega), Bool.false_and]
  next => split <;> exact decide_eq_false (by omega)

theorem cutsOff_under {limit : Int} (begun : start.instant <= limit)
    (under : limit < finish.instant) : cutsOff start (some limit) (some finish) = true := by
  have beyond := lt_reach finish.instant
  simp only [cutsOff]
  split
  next same =>
    rw [beq_iff_eq] at same
    omega
  next => split <;> exact decide_eq_true (by omega)

theorem underLimit_over (cutTurns : Nat) (run : Point -> Option Point)
    (isOver : ∃ finish, run (start.plus 1) = some finish ∧
      reach finish.instant <= dueAt start.instant wait) :
    (underLimit (.upTo (some wait)) cutTurns start run).2 = .inTime := by
  obtain ⟨finish, isFinish, past⟩ := isOver
  rw [<- instant_afterWait] at past
  simp only [underLimit, isFinish, Option.map_some, cutsOff_over past, Bool.false_eq_true, if_false]

theorem underLimit_under (cutTurns : Nat) (run : Point -> Option Point)
    (isUnder : ∀ finish ∈ run (start.plus 1), dueAt start.instant wait < finish.instant) :
    (underLimit (.upTo (some wait)) cutTurns start run).2 = .cutOff := by
  have cut : cutsOff start (some (start.afterWait wait).instant) (run (start.plus 1)) = true := by
    cases runs : run (start.plus 1) with
    | none => rfl
    | some finish =>
      have under := isUnder finish runs
      rw [<- instant_afterWait] at under
      exact cutsOff_under (start.start_le_afterWait wait) under
  simp only [underLimit, Option.map_some, cut, if_true]

/-- Unless it is over just when a limit is due, what is under it ends by the order of the two
instants. -/
theorem ended_underLimit (cutTurns : Nat) {run : Point -> Option Point} {finish : Option Point}
    (same : SameInstant (run (start.plus 1)) finish)
    (clear : (finish.all fun finish => decide (reach finish.instant <= dueAt start.instant wait) ||
      decide (dueAt start.instant wait < finish.instant)) = true) :
    (underLimit (.upTo (some wait)) cutTurns start run).2 =
      if finish.any fun finish => decide (finish.instant <= dueAt start.instant wait) then .inTime
      else .cutOff := by
  cases finish with
  | none =>
    have never : run (start.plus 1) = none := Option.map_eq_none_iff.mp same
    exact underLimit_under cutTurns run (by simp [never])
  | some finish =>
    obtain ⟨last, isLast, same⟩ := Option.map_eq_some_iff.mp same
    by_cases inTime : finish.instant <= dueAt start.instant wait
    next =>
      have early : reach last.instant <= dueAt start.instant wait := by
        rw [same]
        simpa [Int.not_lt.mpr inTime] using clear
      rw [Option.any_some, if_pos (decide_eq_true inTime)]
      exact underLimit_over cutTurns run ⟨last, isLast, early⟩
    next =>
      rw [Option.any_some, if_neg (by simpa using inTime)]
      refine underLimit_under cutTurns run fun finish isFinish => ?_
      obtain rfl : last = finish := Option.some.inj (isLast.symm.trans isFinish)
      omega

end Limits

end SensorAlerting.Delivery

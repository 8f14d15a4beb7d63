import Mathlib.Data.List.Forall2
import SensorAlerting.Proofs.Delivery.Targets

set_option autoImplicit false

/-!
Requests to several targets that are made side by side, each under a limit of its own. What comes of
one is told by its own transport and the limit, and it is put in the place of its target in whatever
order the answers come in, so that no target has a part in what is reported of another.
-/

namespace SensorAlerting.Delivery

open SensorAlerting.Number SensorAlerting.Time

def Behaviour.answer? (behaviour : Behaviour) (begun : Int) : Option Int :=
  behaviour.reply.map fun _ => dueAt begun behaviour.delay

namespace Limit

/-- Whether a limit is due at some time, whatever is under it. -/
def comes : Limit -> Bool
  | .absent | .upTo none => false
  | .upTo (some _) | .spent | .unusable _ => true

/-- Whether something that begins together with a limit and is over at an instant is in time. -/
def Leaves (limit : Limit) (begun instant : Int) : Prop :=
  match limit with
  | .absent | .upTo none => True
  | .upTo (some wait) => reach instant <= dueAt begun wait
  | .spent | .unusable _ => False

end Limit

inductive Ends (told : Reply -> Outcome) (limit : Limit) (begun : Int) (behaviour : Behaviour) :
    Outcome -> Prop where
  | answered {reply : Reply} (replies : behaviour.reply = some reply)
      (inTime : limit.Leaves begun (dueAt begun behaviour.delay)) :
      Ends told limit begun behaviour (told reply)
  | late {wait : Int} (limited : limit = .upTo (some wait))
      (overdue : ∀ answer ∈ behaviour.answer? begun, dueAt begun wait < answer) :
      Ends told limit begun behaviour (.refused "timeout")
  | unsent (spent : limit = .spent) : Ends told limit begun behaviour (.refused "timeout")
  | unfit {reason : String} (unusable : limit = .unusable reason) :
      Ends told limit begun behaviour (.refused reason)

namespace Behaviour

def isApart (limit : Limit) (begun : Int) (behaviour : Behaviour) : Bool :=
  match limit with
  | .upTo (some wait) => (behaviour.answer? begun).all fun answer =>
      decide (reach answer <= dueAt begun wait) || decide (dueAt begun wait < answer)
  | _ => true

variable {limit : Limit} {begun : Int} {behaviour : Behaviour}

end Behaviour

section Outcomes

variable {told : Reply -> Outcome} {limit : Limit} {begun : Int} {behaviour : Behaviour}

theorem Ends.unique {outcome other : Outcome} (ends : Ends told limit begun behaviour outcome)
    (endsToo : Ends told limit begun behaviour other) : outcome = other := by
  -- A request that is answered in time is not late, and a limit is of one kind.
  have apart : ∀ {reply : Reply} {wait : Int}, behaviour.reply = some reply ->
      limit.Leaves begun (dueAt begun behaviour.delay) -> limit = .upTo (some wait) ->
      ¬ ∀ answer ∈ behaviour.answer? begun, dueAt begun wait < answer := by
    rintro reply wait replies inTime rfl overdue
    have after := overdue (dueAt begun behaviour.delay) (by simp [Behaviour.answer?, replies])
    have beyond := lt_reach (dueAt begun behaviour.delay)
    have before : reach (dueAt begun behaviour.delay) <= dueAt begun wait := inTime
    omega
  cases ends with
  | answered replies inTime =>
    cases endsToo with
    | answered repliesToo _ => rw [Option.some.inj (replies.symm.trans repliesToo)]
    | late limited overdue => exact absurd overdue (apart replies inTime limited)
    | unsent spent =>
      rw [spent] at inTime
      exact inTime.elim
    | unfit unusable =>
      rw [unusable] at inTime
      exact inTime.elim
  | late limited overdue =>
    cases endsToo with
    | answered replies inTime => exact absurd overdue (apart replies inTime limited)
    | late | unsent => rfl
    | unfit unusable => cases limited.symm.trans unusable
  | unsent spent =>
    cases endsToo with
    | answered replies inTime =>
      rw [spent] at inTime
      exact inTime.elim
    | late | unsent => rfl
    | unfit unusable => cases spent.symm.trans unusable
  | unfit unusable =>
    cases endsToo with
    | answered replies inTime =>
      rw [unusable] at inTime
      exact inTime.elim
    | late limited => cases unusable.symm.trans limited
    | unsent spent => cases unusable.symm.trans spent
    | unfit unusableToo => cases unusable.symm.trans unusableToo; rfl

structure News where
  instant : Int
  outcome : Outcome

def newsOf (told : Reply -> Outcome) (limit : Limit) (begun : Int) (behaviour : Behaviour) :
    List News :=
  let answers := behaviour.reply.toList.map fun reply =>
    { instant := dueAt begun behaviour.delay, outcome := told reply }
  match limit with
  | .absent | .upTo none => answers
  | .upTo (some wait) => { instant := dueAt begun wait, outcome := .refused "timeout" } :: answers
  | .spent => [{ instant := begun, outcome := .refused "timeout" }]
  | .unusable reason => [{ instant := begun, outcome := .refused reason }]

end Outcomes

section Courses

/-- What is heard of a request takes the place of its target, unless something has before. -/
def hear (places : List (Option Outcome)) : Nat × News -> List (Option Outcome)
  | (place, news) => places.modify place fun heard => heard.or (some news.outcome)

/-- A course of events in which all there is to hear of some requests is heard in the order of time.
What there is to hear at one instant comes in any order. -/
structure IsCourse (told : Reply -> Outcome) (limit : Limit) (begun : Int)
    (behaviours : List Behaviour) (course : List (Nat × News)) : Prop where
  whole : ∀ place news, (place, news) ∈ course ↔
    ∃ behaviour, behaviours[place]? = some behaviour ∧ news ∈ newsOf told limit begun behaviour
  inOrder : course.Pairwise fun heard later => heard.2.instant <= later.2.instant

variable {told : Reply -> Outcome} {limit : Limit} {begun : Int} {behaviours : List Behaviour}
  {course : List (Nat × News)}

theorem IsCourse.exists_first (isCourse : IsCourse told limit begun behaviours course) {place : Nat}
    {behaviour : Behaviour} (found : behaviours[place]? = some behaviour)
    (someNews : newsOf told limit begun behaviour ≠ []) :
    ∃ first ∈ newsOf told limit begun behaviour,
      course.find? (fun heard => heard.1 == place) = some (place, first) ∧
        ∀ other ∈ newsOf told limit begun behaviour, first.instant <= other.instant := by
  have isHeard : ∀ news, (place, news) ∈ course ↔ news ∈ newsOf told limit begun behaviour := by
    intro news
    rw [isCourse.whole, found]
    simp
  obtain ⟨news, ofRequest⟩ := List.exists_mem_of_ne_nil _ someNews
  obtain ⟨⟨same, first⟩, isFirst⟩ :
      ∃ first, course.find? (fun heard => heard.1 == place) = some first :=
    Option.isSome_iff_exists.mp <| List.find?_isSome.mpr
      ⟨(place, news), (isHeard news).mpr ofRequest, beq_self_eq_true place⟩
  obtain ⟨here, before, after, rfl, others⟩ := List.find?_eq_some_iff_append.mp isFirst
  obtain rfl : same = place := by simpa using here
  refine ⟨first, (isHeard first).mp (by simp), isFirst, fun other ofRequest => ?_⟩
  -- No news of this request stands before the first, so any other comes later.
  have member := (isHeard other).mpr ofRequest
  rcases List.mem_append.mp member with sooner | later
  next => exact absurd (others _ sooner) (by simp)
  next =>
    rcases List.mem_cons.mp later with same | later
    next => exact Int.le_of_eq (by cases same; rfl)
    next =>
      have inOrder := (List.pairwise_append.mp isCourse.inOrder).2.1
      exact List.rel_of_pairwise_cons inOrder later

end Courses

def Reply.posted : Reply -> Outcome
  | .accepted status => .answered status
  | .refused reason => .refused reason
  | .expired => .refused "timeout"

def Reply.texted : Reply -> Outcome
  | .accepted _ => .accepted
  | .refused reason => .refused reason
  | .expired => .refused ""

section Requests

variable {limit : Limit} {start : Point} {behaviour : Behaviour}

end Requests

structure Asked where
  target : Target
  behaviour : Behaviour

inductive Mailing where
  | posts (transport : Option Transport) (urls : List String) (timeout : Value)
  | texts (transport : Option Transport) (recipients : List String)

namespace Mailing

def channel : Mailing -> Channel
  | posts transport urls timeout => .webhook transport urls timeout
  | texts transport recipients => .sms transport recipients

def asked : Mailing -> List Asked
  | posts (some transport) urls _ =>
    urls.map fun url => { target := .url url, behaviour := transport.behaviour [url] }
  | texts (some transport) recipients =>
    recipients.map fun address =>
      { target := .recipient address, behaviour := transport.behaviour [address] }
  | _ => []

def limit : Mailing -> Limit
  | posts _ _ timeout => .ofValue timeout
  | texts .. => .absent

def told : Mailing -> Reply -> Outcome
  | posts .. => Reply.posted
  | texts .. => Reply.texted

def idle : Mailing -> Report
  | posts .. => .ofDetail "webhook" .skipped "no_urls_configured"
  | texts .. => .ofDetail "sms" .skipped "not_configured"

end Mailing

section Sent

end Sent

end SensorAlerting.Delivery

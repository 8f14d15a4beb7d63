import SensorAlerting.Stream.Session
import SensorAlerting.Worker.Timeline

set_option autoImplicit false

/-!
A worker that consumes the event stream. It asks its source for one payload after another. A
failure that is not counted, be it of the source or on a payload, makes it wait and then read anew;
a source that is read anew has forgotten what is left of its batch.
-/

namespace SensorAlerting.Stream

open SensorAlerting.Time

/-- A source that is read anew still knows whether its group has been made. -/
def Source.renew (source : Source) : Source := { source with phase := .idle }

structure Intake where
  session : Session
  worker : Worker

namespace Intake

def start (script : Script) (worker : Worker) : Intake := { session := .start script, worker }

def retry (intake : Intake) : Intake :=
  let session := intake.session
  { intake with
    session :=
      { session with source := session.source.renew, time := session.time + Session.retryPause } }

def give (intake : Intake) (now : Moment) (payload : Entries String Value) : Intake :=
  let session := intake.session
  let session := { session with received := session.received ++ [(payload, session.acked)] }
  let (worker, outcome) := intake.worker.handle now (.mapping payload)
  if Plant.isPassedOver outcome then { session := session.tell .pulled, worker }
  else { session, worker : Intake }.retry

def step (intake : Intake) (now : Moment) : Intake :=
  let session := intake.session
  match session.source.phase with
  | .idle => { intake with session := session.tell .pulled }
  | .grouping => { intake with session := session.answerGroup }
  | .reading => { intake with session := session.answerRead }
  | .pausing =>
    { intake with
      session := { session with time := session.time + Session.retryPause }.tell .rested }
  | .acking entryId _ => { intake with session := session.answerAck entryId }
  | .holding _ payload _ => intake.give now payload
  | .failed _ => intake.retry
  | .ended => intake

def run (intake : Intake) (clock : List Moment) : Intake := clock.foldl step intake

end Intake

end SensorAlerting.Stream

import SensorAlerting.Worker.Booth

set_option autoImplicit false

/-!
A worker whose counters are looked at and set back while others use it. Neither waits for whoever is
inside, so an event may be counted for another time than the one at which it was evaluated.
-/

namespace SensorAlerting

open SensorAlerting.Time

inductive Errand where
  | act (act : Act)
  | launch (now : Moment) (consuming : Bool)
  | measure (now : Moment)
  | reset (now : Moment)

namespace Booth

/-- Starts a worker, with a consumer or without. One that runs or is still being stopped is left
alone. -/
def launch (booth : Booth) (now : Moment) (consuming : Bool) : Booth :=
  if booth.worker.running || booth.consumer != .over || booth.stops != 0 then booth
  else
    { booth with
      worker :=
        { booth.worker with
          dispatcher := booth.worker.dispatcher.start
          running := true
          startedAt := some now }
      consumer := if consuming then .asking else .over }

def attend (booth : Booth) : Errand -> Booth
  | .act act => booth.step act
  | .launch now consuming => booth.launch now consuming
  | .measure now => { booth with worker := (booth.worker.measure now).1 }
  | .reset now => { booth with worker := booth.worker.reset now }

def attendAll (booth : Booth) (errands : List Errand) : Booth := errands.foldl attend booth

end Booth

end SensorAlerting

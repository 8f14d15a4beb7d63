import SensorAlerting.Proofs.Stream.Dealing

set_option autoImplicit false

/-!
When the entries of a stream are acknowledged. All that a source hands on, is asked for and tries
is told as one trace. Whatever the stream answers, the trace goes through the entries in their
order, and the acknowledgement of each stands in one place of it.
-/

namespace SensorAlerting.Stream

inductive Occurrence where
  | handed (entryId : Value) (payload : Entries String Value)
  | asked
  | tried (entryId : Value)
  | answered (entryId : Value) (success : Bool)

namespace Phase

def awaits : Phase -> Signal -> Bool
  | .idle, .pulled | .grouping, .grouped _ | .reading, .entries _ | .reading, .readFailed
  | .reading, .readBroken _ | .pausing, .rested | .acking _ _, .acked _
  | .holding _ _ _, .pulled => true
  | _, _ => false

def shows : Phase -> List Occurrence
  | .holding entryId payload _ => [.handed entryId payload]
  | .acking entryId _ => [.tried entryId]
  | _ => []

def hears : Phase -> Signal -> List Occurrence
  | .holding _ _ _, .pulled => [.asked]
  | .acking entryId _, .acked success => [.answered entryId success]
  | _, _ => []

def isBetween : Phase -> Bool
  | .idle | .grouping | .reading | .pausing => true
  | _ => false

end Phase

namespace Signal

def batch : Signal -> List Entry
  | .entries batch => batch
  | _ => []

/-- A read brings entries or fails as the stream does at times; a group that cannot be made is
there already. -/
def IsOrdinary : Signal -> Prop
  | .readBroken _ => False
  | .grouped (some refusal) => Source.isGroupThere refusal = true
  | _ => True

instance : DecidablePred IsOrdinary := fun signal =>
  match signal with
  | .readBroken _ => isFalse id
  | .grouped (some refusal) => inferInstanceAs (Decidable (Source.isGroupThere refusal = true))
  | .grouped none | .pulled | .entries _ | .readFailed | .rested | .acked _ => isTrue trivial

end Signal

namespace Entry

/-- Whether nobody can go on after an entry, such as one that is nested too deeply. -/
def isFatal (entry : Entry) : Bool :=
  match decodeValue entry.fields with
  | .ok _ => false
  | .error fault => fault.isFatal

/-- All that happens to an entry. One that is no payload is acknowledged at once, and any other
after the next payload was asked for. -/
def course (entry : Entry) (success : Bool) : List Occurrence :=
  match decodeValue entry.fields with
  | .ok payload =>
    [.handed entry.entryId payload, .asked, .tried entry.entryId,
      .answered entry.entryId success]
  | .error _ => [.tried entry.entryId, .answered entry.entryId success]

end Entry

def courses (settled : List (Entry × Bool)) : List Occurrence :=
  settled.flatMap fun (entry, success) => entry.course success

theorem Entry.length_course (entry : Entry) (success : Bool) :
    (entry.course success).length = (entry.course true).length := by
  unfold course
  split <;> rfl

/-- How far a source has come with the entries that it has read but not settled, and what of their
courses has happened. -/
inductive Underway : Phase -> List Entry -> List Occurrence -> Prop where
  | between {phase : Phase} : phase.isBetween = true -> Underway phase [] []
  | handed {entry : Entry} {rest : List Entry} {payload : Entries String Value} :
      decodeValue entry.fields = .ok payload ->
      Underway (.holding entry.entryId payload rest) (entry :: rest)
        [.handed entry.entryId payload]
  | released {entry : Entry} {rest : List Entry} {payload : Entries String Value} :
      decodeValue entry.fields = .ok payload ->
      Underway (.acking entry.entryId rest) (entry :: rest)
        [.handed entry.entryId payload, .asked, .tried entry.entryId]
  | refused {entry : Entry} {rest : List Entry} {fault : EntryFault} :
      decodeValue entry.fields = .error fault -> fault.isFatal = false ->
      Underway (.acking entry.entryId rest) (entry :: rest) [.tried entry.entryId]
  | broken {entry : Entry} {rest : List Entry} {fault : EntryFault} :
      decodeValue entry.fields = .error fault -> fault.isFatal = true ->
      Underway (.failed (.entry fault)) (entry :: rest) []

namespace Underway

variable {entryId : Value} {rest pending : List Entry} {shown : List Occurrence}

theorem of_holding {payload : Entries String Value}
    (underway : Underway (.holding entryId payload rest) pending shown) :
    shown = [.handed entryId payload] ∧
      Underway (.acking entryId rest) pending (shown ++ [.asked, .tried entryId]) := by
  cases underway with
  | between waits => cases waits
  | handed decoded => exact ⟨rfl, .released decoded⟩

theorem isBetween {phase : Phase} (underway : Underway phase [] shown) :
    phase.isBetween = true := by
  cases underway with
  | between waits => exact waits

theorem short {phase : Phase} {entry : Entry}
    (underway : Underway phase (entry :: rest) shown) :
    shown.length < (entry.course true).length := by
  cases underway <;> simp [Entry.course, *]

theorem onItsWay {phase : Phase} {entry : Entry}
    (underway : Underway phase (entry :: rest) shown) (sane : entry.isFatal = false) :
    (∃ payload, phase = .holding entry.entryId payload rest) ∨
      phase = .acking entry.entryId rest := by
  cases underway with
  | handed decoded => exact .inl ⟨_, rfl⟩
  | released decoded => exact .inr rfl
  | refused decoded _ => exact .inr rfl
  | broken decoded fatal => simp [Entry.isFatal, decoded, fatal] at sane

theorem of_acking (underway : Underway (.acking entryId rest) pending shown) :
    ∃ entry, pending = entry :: rest ∧ entry.isFatal = false ∧
      ∀ success, entry.course success = shown ++ [.answered entryId success] := by
  cases underway with
  | between waits => cases waits
  | released decoded =>
    exact ⟨_, rfl, by simp [Entry.isFatal, decoded], by simp [Entry.course, decoded]⟩
  | refused decoded sane =>
    exact ⟨_, rfl, by simp [Entry.isFatal, decoded, sane], by simp [Entry.course, decoded]⟩

end Underway

structure Stage where
  source : Source
  read : List Entry
  trace : List Occurrence

namespace Stage

def hear (stage : Stage) (signal : Signal) : Stage :=
  let phase := stage.source.phase
  if phase.awaits signal then
    let source := stage.source.resume signal
    { source
      read := stage.read ++ signal.batch
      trace := stage.trace ++ phase.hears signal ++ source.phase.shows }
  else stage

def start (groupReady : Bool) : Stage :=
  { source := { Source.start true with groupReady }, read := [], trace := [] }

def run (groupReady : Bool) (signals : List Signal) : Stage :=
  signals.foldl hear (start groupReady)

def pulls (answers : List Bool) : List Signal :=
  answers.flatMap fun success => [.pulled, .acked success]

structure Account (stage : Stage) (settled : List (Entry × Bool)) (pending : List Entry)
    (shown : List Occurrence) : Prop where
  connected : stage.source.connected = true
  opened : stage.source.closed = false
  read : stage.read = settled.map Prod.fst ++ pending
  trace : stage.trace = courses settled ++ shown
  passed : ∀ entry ∈ settled.map Prod.fst, entry.isFatal = false
  underway : Underway stage.source.phase pending shown

end Stage

namespace Source

variable {source : Source}

theorem readOn_underway (connected : source.connected = true) (opened : source.closed = false) :
    Underway source.readOn.phase [] source.readOn.phase.shows := by
  simp only [readOn, opened, ifConnected, connected, if_true, Bool.false_eq_true, if_false]
  exact .between rfl

theorem handOn_underway (connected : source.connected = true) (opened : source.closed = false)
    (entries : List Entry) :
    Underway (source.handOn entries).phase entries (source.handOn entries).phase.shows := by
  cases entries with
  | nil => exact readOn_underway connected opened
  | cons entry rest =>
    rw [handOn]
    cases decoded : decodeValue entry.fields with
    | ok payload => exact .handed decoded
    | error fault =>
      cases fatal : fault.isFatal with
      | true =>
        simp only [fatal, if_true]
        exact .broken decoded fatal
      | false =>
        simp only [fatal, Bool.false_eq_true, if_false, ifConnected, connected, if_true]
        exact .refused decoded fatal

theorem resume_connected (source : Source) (signal : Signal) :
    (source.resume signal).connected = source.connected ∧
      (source.resume signal).closed = source.closed := by
  have reads : ∀ source : Source, source.readOn.connected = source.connected ∧
      source.readOn.closed = source.closed := by
    intro source
    unfold readOn
    split <;> exact ⟨rfl, rfl⟩
  have hands : ∀ entries, (source.handOn entries).connected = source.connected ∧
      (source.handOn entries).closed = source.closed := by
    intro entries
    unfold handOn
    split
    next => exact reads source
    next =>
      split
      next => exact ⟨rfl, rfl⟩
      next => split <;> exact ⟨rfl, rfl⟩
  unfold resume
  split
  next => split; exact reads source; exact ⟨rfl, rfl⟩
  next => exact reads { source with groupReady := true }
  next => split; exact reads { source with groupReady := true }; exact ⟨rfl, rfl⟩
  next => exact hands _
  next => exact ⟨rfl, rfl⟩
  next => exact ⟨rfl, rfl⟩
  next => exact reads source
  next => exact hands _
  next => exact ⟨rfl, rfl⟩
  next => exact ⟨rfl, rfl⟩

theorem resume_between (connected : source.connected = true) (opened : source.closed = false)
    {signal : Signal} (waits : source.phase.isBetween = true)
    (awaited : source.phase.awaits signal = true) (ordinary : signal.IsOrdinary) :
    source.phase.hears signal = [] ∧
      Underway (source.resume signal).phase signal.batch (source.resume signal).phase.shows := by
  have reads := readOn_underway connected opened
  have readsReady : Underway { source with groupReady := true }.readOn.phase []
      { source with groupReady := true }.readOn.phase.shows := readOn_underway connected opened
  unfold resume
  cases phase : source.phase with
  | idle =>
    cases signal with
    | pulled =>
      refine ⟨rfl, ?_⟩
      dsimp only
      split
      next => exact reads
      next =>
        simp only [ifConnected, connected, if_true]
        exact .between rfl
    | _ => rw [phase] at awaited; cases awaited
  | grouping =>
    cases signal with
    | grouped refusal =>
      refine ⟨rfl, ?_⟩
      cases refusal with
      | none => exact readsReady
      | some refusal =>
        have known : isGroupThere refusal = true := ordinary
        simp only [known, if_true]
        exact readsReady
    | _ => rw [phase] at awaited; cases awaited
  | reading =>
    cases signal with
    | entries batch => exact ⟨rfl, handOn_underway connected opened batch⟩
    | readFailed =>
      refine ⟨rfl, ?_⟩
      simp only [opened, Bool.false_eq_true, if_false]
      exact .between rfl
    | readBroken misuse => exact ordinary.elim
    | _ => rw [phase] at awaited; cases awaited
  | pausing =>
    cases signal with
    | rested => exact ⟨rfl, reads⟩
    | _ => rw [phase] at awaited; cases awaited
  | _ => rw [phase] at waits; cases waits

end Source

namespace Stage

variable {stage : Stage} {settled : List (Entry × Bool)} {pending rest : List Entry}
  {shown : List Occurrence} {entry : Entry} {signal : Signal} {success : Bool}

theorem hear_awaited (awaited : stage.source.phase.awaits signal = true) :
    stage.hear signal =
      { source := stage.source.resume signal
        read := stage.read ++ signal.batch
        trace := stage.trace ++ stage.source.phase.hears signal ++
          (stage.source.resume signal).phase.shows } := by simp [hear, awaited]

theorem hear_unawaited (unawaited : stage.source.phase.awaits signal = false) :
    stage.hear signal = stage := by simp [hear, unawaited]

namespace Account

theorem between (account : stage.Account settled pending shown)
    (waits : stage.source.phase.isBetween = true) : pending = [] ∧ shown = [] := by
  have underway := account.underway
  generalize stage.source.phase = phase at waits underway
  cases underway with
  | between _ => exact ⟨rfl, rfl⟩
  | _ => cases waits

theorem hear_between (account : stage.Account settled pending shown)
    (waits : stage.source.phase.isBetween = true)
    (awaited : stage.source.phase.awaits signal = true) (ordinary : signal.IsOrdinary) :
    (stage.hear signal).Account settled signal.batch (stage.hear signal).source.phase.shows := by
  obtain ⟨rfl, rfl⟩ := account.between waits
  obtain ⟨silent, underway⟩ :=
    Source.resume_between account.connected account.opened waits awaited ordinary
  obtain ⟨connected, closed⟩ := stage.source.resume_connected signal
  rw [hear_awaited awaited]
  exact
    { connected := connected.trans account.connected
      opened := closed.trans account.opened
      read := by simp [account.read]
      trace := by simp [account.trace, silent]
      passed := account.passed
      underway }

theorem release (account : stage.Account settled pending shown) {entryId : Value}
    {payload : Entries String Value} (holds : stage.source.phase = .holding entryId payload rest) :
    (stage.hear .pulled).Account settled pending (shown ++ [.asked, .tried entryId]) ∧
      (stage.hear .pulled).source.phase = .acking entryId rest := by
  have released : stage.source.resume .pulled =
      { stage.source with phase := .acking entryId rest } := by
    simp [Source.resume, holds, Source.ifConnected, account.connected]
  have underway := account.underway
  rw [holds] at underway
  rw [hear_awaited (by simp [holds, Phase.awaits]), released]
  refine ⟨?_, rfl⟩
  exact
    { connected := account.connected
      opened := account.opened
      read := by simp [account.read, Signal.batch]
      trace := by simp [account.trace, holds, Phase.hears, Phase.shows]
      passed := account.passed
      underway := underway.of_holding.2 }

theorem settle (account : stage.Account settled pending shown) {entryId : Value}
    (acks : stage.source.phase = .acking entryId rest) (success : Bool) :
    ∃ entry, pending = entry :: rest ∧ entry.isFatal = false ∧
      (stage.hear (.acked success)).Account (settled ++ [(entry, success)]) rest
        (stage.hear (.acked success)).source.phase.shows := by
  have underway := account.underway
  rw [acks] at underway
  obtain ⟨entry, rfl, sane, course⟩ := underway.of_acking
  have answered : stage.source.resume (.acked success) = stage.source.handOn rest := by
    simp [Source.resume, acks]
  obtain ⟨connected, closed⟩ := stage.source.resume_connected (.acked success)
  rw [hear_awaited (by simp [acks, Phase.awaits])]
  refine ⟨entry, rfl, sane, ?_⟩
  exact
    { connected := connected.trans account.connected
      opened := closed.trans account.opened
      read := by simp [account.read, Signal.batch]
      trace := by simp [courses, account.trace, course, acks, Phase.hears]
      passed := by
        intro one member
        rw [List.map_append, List.mem_append] at member
        cases member with
        | inl before => exact account.passed one before
        | inr last =>
          obtain rfl : one = entry := by simpa using last
          exact sane
      underway := answered ▸ Source.handOn_underway account.connected account.opened rest }

theorem hear (account : stage.Account settled pending shown) (ordinary : signal.IsOrdinary) :
    ∃ settled pending shown, (stage.hear signal).Account settled pending shown := by
  cases awaited : stage.source.phase.awaits signal with
  | false =>
    rw [hear_unawaited awaited]
    exact ⟨settled, pending, shown, account⟩
  | true =>
    -- A phase that waits for something is between two batches, or underway with one entry.
    cases phase : stage.source.phase with
    | idle | grouping | reading | pausing =>
      exact ⟨_, _, _, account.hear_between (by rw [phase]; rfl) awaited ordinary⟩
    | acking entryId rest =>
      cases signal with
      | acked success =>
        obtain ⟨entry, -, -, settles⟩ := account.settle phase success
        exact ⟨_, _, _, settles⟩
      | _ => rw [phase] at awaited; cases awaited
    | holding entryId payload rest =>
      cases signal with
      | pulled => exact ⟨_, _, _, (account.release phase).1⟩
      | _ => rw [phase] at awaited; cases awaited
    | ended | failed => rw [phase] at awaited; cases awaited

theorem hear_all {signals : List Signal}
    (ordinary : ∀ signal ∈ signals, signal.IsOrdinary)
    (account : stage.Account settled pending shown) :
    ∃ settled pending shown, (signals.foldl Stage.hear stage).Account settled pending shown := by
  induction signals generalizing stage settled pending shown with
  | nil => exact ⟨settled, pending, shown, account⟩
  | cons signal later ih =>
    obtain ⟨first, rest⟩ := List.forall_mem_cons.mp ordinary
    obtain ⟨settled, pending, shown, next⟩ := account.hear first
    exact ih rest next

theorem hear_calm (account : stage.Account settled [] shown) (signal : Signal)
    (ordinary : signal.IsOrdinary) (empty : signal.batch = []) :
    ∃ shown, (stage.hear signal).Account settled [] shown := by
  cases awaited : stage.source.phase.awaits signal with
  | false =>
    rw [hear_unawaited awaited]
    exact ⟨shown, account⟩
  | true =>
    have heard := account.hear_between account.underway.isBetween awaited ordinary
    rw [empty] at heard
    exact ⟨_, heard⟩

theorem pull (account : stage.Account settled (entry :: rest) shown)
    (sane : entry.isFatal = false) (success : Bool) :
    ∃ shown, ((stage.hear .pulled).hear (.acked success)).Account (settled ++ [(entry, success)])
      rest shown := by
  obtain ⟨payload, holds⟩ | acks := account.underway.onItsWay sane
  next =>
    obtain ⟨released, acks⟩ := account.release holds
    obtain ⟨_, same, -, settles⟩ := released.settle acks success
    cases same
    exact ⟨_, settles⟩
  next =>
    obtain ⟨_, same, -, settles⟩ := account.settle acks success
    cases same
    have unasked : stage.hear .pulled = stage := hear_unawaited (by rw [acks]; rfl)
    rw [unasked]
    exact ⟨_, settles⟩

theorem pull_all (answers : List Bool) (account : stage.Account settled pending shown)
    (enough : pending.length <= answers.length)
    (sane : ∀ entry ∈ pending, entry.isFatal = false) :
    ∃ settled, ((pulls answers).foldl Stage.hear stage).Account settled [] [] := by
  induction answers generalizing stage settled pending shown with
  | nil =>
    obtain rfl : pending = [] := List.eq_nil_of_length_eq_zero (by simpa using enough)
    obtain ⟨-, rfl⟩ := account.between account.underway.isBetween
    exact ⟨settled, account⟩
  | cons success later ih =>
    cases pending with
    | nil =>
      obtain ⟨_, pulled⟩ := account.hear_calm .pulled trivial rfl
      obtain ⟨_, answered⟩ := pulled.hear_calm (.acked success) trivial rfl
      exact ih answered (by simp) (by simp)
    | cons entry rest =>
      obtain ⟨first, others⟩ := List.forall_mem_cons.mp sane
      obtain ⟨_, pulled⟩ := account.pull first success
      exact ih pulled (by simpa using enough) others

theorem length_courses (settled : List (Entry × Bool)) :
    (courses settled).length =
      ((settled.map Prod.fst).flatMap fun entry => entry.course true).length := by
  induction settled with
  | nil => rfl
  | cons first rest ih =>
    rw [courses] at ih
    simp [courses, Entry.length_course first.1 first.2, ih]

theorem pending_eq_nil (account : stage.Account settled pending shown)
    {all : List (Entry × Bool)} (read : stage.read = all.map Prod.fst)
    (trace : stage.trace = courses all) : pending = [] := by
  have lengths := congrArg List.length (account.trace.symm.trans trace)
  rw [List.length_append, length_courses, length_courses all, <- read, account.read,
    List.flatMap_append, List.length_append] at lengths
  cases pending with
  | nil => rfl
  | cons entry rest =>
    have short := account.underway.short
    simp only [List.flatMap_cons, List.length_append] at lengths
    omega

end Account

theorem start_account (groupReady : Bool) : (start groupReady).Account [] [] [] where
  connected := rfl
  opened := rfl
  read := rfl
  trace := rfl
  passed _ member := by cases member
  underway := .between rfl

theorem read_hear (stage : Stage) (signal : Signal) (empty : signal.batch = []) :
    (stage.hear signal).read = stage.read := by
  unfold hear
  dsimp only
  split
  next => rw [empty, List.append_nil]
  next => rfl

theorem read_pulls (stage : Stage) (answers : List Bool) :
    ((pulls answers).foldl hear stage).read = stage.read := by
  induction answers generalizing stage with
  | nil => rfl
  | cons success later ih =>
    have answered := ((stage.hear .pulled).read_hear (.acked success) rfl).trans
      (stage.read_hear .pulled rfl)
    exact (ih _).trans answered

theorem ordinary_pulls (answers : List Bool) : ∀ signal ∈ pulls answers, signal.IsOrdinary := by
  intro signal member
  obtain ⟨success, -, isOne⟩ := List.mem_flatMap.mp member
  obtain rfl | rfl : signal = .pulled ∨ signal = .acked success := by simpa using isOne
  next => trivial
  next => trivial

/-- At every moment the entries that were read are settled in their order, save for the last ones,
and of those only the first has got anywhere. Whoever keeps on asking has them all settled exactly
if none of them is fatal. -/
theorem settled_in_order (groupReady : Bool) {signals : List Signal}
    (ordinary : ∀ signal ∈ signals, signal.IsOrdinary) (answers : List Bool)
    (enough : (run groupReady signals).read.length <= answers.length) :
    let stage := run groupReady signals
    let pulled := (pulls answers).foldl hear stage
    (∃ settled pending shown, stage.Account settled pending shown) ∧
    pulled.read = stage.read ∧
    ((∃ settled : List (Entry × Bool), pulled.read = settled.map Prod.fst ∧
        pulled.trace = courses settled) ↔
      ∀ entry ∈ stage.read, entry.isFatal = false) := by
  dsimp only
  have same := (run groupReady signals).read_pulls answers
  obtain ⟨settled, pending, shown, account⟩ := (start_account groupReady).hear_all ordinary
  change (run groupReady signals).Account settled pending shown at account
  refine ⟨⟨settled, pending, shown, account⟩, same, ?_, ?_⟩
  next =>
    -- The courses of all entries leave no room in the trace for one that is pending.
    rintro ⟨all, read, trace⟩
    obtain ⟨done, left, shown, final⟩ := account.hear_all (ordinary_pulls answers)
    obtain rfl := final.pending_eq_nil read trace
    rw [<- same, final.read, List.append_nil]
    exact final.passed
  next =>
    intro sane
    have short : pending.length <= answers.length := by
      refine Nat.le_trans ?_ enough
      rw [account.read, List.length_append]
      omega
    obtain ⟨done, final⟩ := account.pull_all answers short fun entry member =>
      sane entry (account.read ▸ List.mem_append_right _ member)
    exact ⟨done, by simpa using final.read, by simpa using final.trace⟩

def wrappingBatch (content : String) : List Entry :=
  [{ entryId := .text "1-0"
     fields := .mapping [("device_id", .text "d1"), ("value", .text "5")] },
    { entryId := .text "2-0", fields := .mapping [("data", .text content)] },
    { entryId := .text "3-0"
      fields := .mapping [("device_id", .text "d3"), ("value", .text "7")] }]

theorem settled_in_order_afterFailure :
    let signals : List Signal :=
      [.pulled, .grouped (some "BUSYGROUP"), .readFailed, .rested,
        .entries (wrappingBatch "nonsense")]
    let pulled := (pulls [true, false, true]).foldl hear (run false signals)
    ∃ settled : List (Entry × Bool), pulled.read = settled.map Prod.fst ∧
      pulled.trace = courses settled := by
  intro signals pulled
  have ordinary : ∀ signal ∈ signals, signal.IsOrdinary := by decide +kernel
  obtain ⟨-, -, complete⟩ := settled_in_order false ordinary [true, false, true] (by decide +kernel)
  exact complete.mpr (by decide +kernel)

/-- An entry that opens too many lists ends the source: it is not settled, and the one after it is
not handed on. -/
theorem unsettled_deep {content : String} {rest : List Char}
    (opened : content.toList = List.replicate (Json.deepest + 1) '[' ++ rest) :
    let pulled := (pulls [true, true, true]).foldl hear
      (run false [.pulled, .grouped none, .entries (wrappingBatch content)])
    pulled.read = wrappingBatch content ∧
      pulled.source.phase = .failed (.entry (.unreadable .tooDeep)) ∧
      pulled.trace = [.handed (.text "1-0") [("device_id", .text "d1"), ("value", .int 5)], .asked,
        .tried (.text "1-0"), .answered (.text "1-0") true] := by
  have deep : decodeValue (.mapping [("data", .text content)]) =
      .error (.unreadable .tooDeep) := decodeValue_deep rfl opened
  have plain : decodeValue (.mapping [("device_id", .text "d1"), ("value", .text "5")]) =
      .ok [("device_id", .text "d1"), ("value", .int 5)] := by rfl
  simp [pulls, run, start, Source.start, hear, Phase.awaits, Phase.hears, Phase.shows,
    Signal.batch, Source.resume, Source.ifConnected, Source.readOn, Source.handOn, wrappingBatch,
    deep, plain, EntryFault.isFatal]

theorem unsettled_tooDeep :
    let batch := wrappingBatch (String.ofList (List.replicate 2000 '['))
    let pulled := (pulls [true, true, true]).foldl hear
      (run false [.pulled, .grouped none, .entries batch])
    pulled.read = batch ∧ .tried (.text "2-0") ∉ pulled.trace ∧
      ∀ payload, .handed (.text "3-0") payload ∉ pulled.trace := by
  have opened : (String.ofList (List.replicate 2000 '[')).toList =
      List.replicate (Json.deepest + 1) '[' ++ List.replicate 1009 '[' := by
    have count : 2000 = Json.deepest + 1 + 1009 := rfl
    rw [String.toList_ofList, count, <- List.replicate_append_replicate]
  obtain ⟨read, -, trace⟩ := unsettled_deep opened
  refine ⟨read, ?_, fun payload => ?_⟩ <;> rw [trace] <;> simp

end Stage

end SensorAlerting.Stream

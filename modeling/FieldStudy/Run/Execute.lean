import FieldStudy.Run.Lifecycle

/-!
# Taking actions

What each action does to a run, and how one that waits goes on afterwards.
-/

namespace FieldStudy

/-- The place in a run where an action is taken. -/
structure Visit where
  branch : String
  nodeId : String
  node : Node
  token : Nat

namespace Run

/-! ## Branches -/

/-- Starts a branch at the second successor of the node. -/
def fork (r : Run) (v : Visit) (branch : String) : Outcome × Run :=
  match v.node.successor? 1 with
  | none =>
    let message := "fork '" ++ v.nodeId ++ "' has no branch entry in next_nodes[1]"
    (.fails (.definition message), r)
  | some entry => (.done 0, r.spawnBranch branch v.token ⟨entry, none⟩)

/-- Waits for the end of a branch. The own branch and one that was never started are not waited for. -/
def join (r : Run) (v : Visit) (a : JoinArguments) : Outcome × Run :=
  match a.target?.filter (· != v.branch) |>.bind r.branches.get? with
  | some done => (.waits (.signals true [done] none) (.code 0), r)
  | none => (.done 0, r)

def abort (r : Run) (s : Setup) (info : AbortInfo) : Outcome × Run :=
  (.done 1, (r.updateMetadata fun m => { m with abort := some info }).stop s (some (.aborted info)))

/-! ## Time, messages and prompts -/

/-- Waits for some seconds and ends with a code. -/
def sleep (r : Run) (seconds : Double) (code : Int) : Outcome × Run :=
  match seconds.timer? with
  | some ms => (.waits (.time (r.clock + ms)) (.code code), r)
  | none => (.done code, r)

/-- Issues a prompt and waits for the answer. -/
def promptThen (r : Run) (notice : Nat → Notice) (resumption : Resumption) : Outcome × Run :=
  let (id, r) := r.prompt notice
  (.waits (.prompt id) resumption, r)

/-- What follows a message: a pause, a countdown that the host answers, a delay, a prompt to go on. -/
def displayStages (primitive : PrimitiveName) (a : DisplayArguments) : List DisplayStage :=
  (a.pause.map .sleep).toList ++ ((a.countdown.filter (·.isPositive)).map .countdown).toList ++
    (a.delay.map .sleep).toList ++
    if a.waitNext || primitive = .displayPage then [.next] else []

def showStages (r : Run) : List DisplayStage → Outcome × Run
  | [] => (.done 0, r)
  | .sleep seconds :: rest =>
    match seconds.timer? with
    | some ms => (.waits (.time (r.clock + ms)) (.display rest), r)
    | none => r.showStages rest
  | .countdown seconds :: rest => r.promptThen (.countdown · seconds) (.display rest)
  | .next :: rest => r.promptThen .waitNext (.display rest)

def display (r : Run) (s : Setup) (v : Visit) (primitive : PrimitiveName) (a : DisplayArguments) :
    Outcome × Run :=
  let message : MessageNotice :=
    ⟨primitive, a.title.map s.format, a.msg.map s.format, a.text.map s.format, a.group, v.node.step⟩
  (r.emit (.message message)).showStages (displayStages primitive a)

def choose (r : Run) (s : Setup) (a : ChoiceArguments) : Outcome × Run :=
  r.promptThen
    (fun id => .choice id ⟨a.title.map s.format, a.msg.map s.format, a.options.map s.format⟩) .answer

def showProgress (r : Run) (s : Setup) (v : Visit) (a : ProgressArguments) : Run :=
  r.emit (.progress ⟨a.text.map s.format, a.value, a.count, v.node.step⟩)

/-! ## Events -/

/-- Creates an event; one that exists is left as it is. -/
def createEvent (r : Run) (name : String) : Run :=
  if r.events.contains name then r
  else
    let (signal, r) := r.createSignal
    { r with events := r.events.insert name signal }

/-- Replaces an event by an unresolved one. Whoever waits for the old one waits on. -/
def resetEvent (r : Run) (name : String) : Run :=
  if r.events.contains name then
    let (signal, r) := r.createSignal
    { r with events := r.events.insert name signal }
  else r

def setEvent (r : Run) (name : String) : Run :=
  match r.events.get? name with
  | some signal => r.resolve signal 0
  | none => r

/-- The time that a wait for events may take; one that is not finite or below zero sets no limit. -/
def eventTimeout (a : EventArguments) : Option Double :=
  a.timeout.filter fun t => t.isFinite && (t.isZero || t.isPositive)

/-- Waits for any or all of the known events. The code is 0 when they are resolved and 1 when time is up. A time of
zero only looks at the events. -/
def waitEvents (r : Run) (all : Bool) (a : EventArguments) : Outcome × Run :=
  let signals := a.names.filterMap r.events.get?
  let timeout := eventTimeout a
  if timeout.any (·.isZero) then (.done (if r.signals.allResolved signals then 0 else 1), r)
  else if !signals.isEmpty then
    let deadline := (timeout.bind (·.timer?)).map (r.clock + ·)
    (.waits (.signals all signals deadline) .answer, r)
  else if all then (.done 0, r)
  else match timeout with
    | some seconds => r.sleep seconds 1
    | none => (.done 1, r)

def event (r : Run) (op : EventOp) (a : EventArguments) : Outcome × Run :=
  match op with
  | .create => (.done 0, a.names.foldl createEvent r)
  | .reset => (.done 0, a.names.foldl resetEvent r)
  | .set => (.done 0, a.names.foldl setEvent r)
  | .wait => r.waitEvents false a
  | .waitAll => r.waitEvents true a

/-! ## Counters -/

def maxCounter : Int := Int64.maxValue.toInt
def minCounter : Int := Int64.minValue.toInt

def setCounter (r : Run) (name : String) (value : Int) : Run :=
  { r with counters := r.counters.insert name value }

/-- Adds to a counter, which starts at zero and stays within 64 bits. -/
def addToCounter (r : Run) (name : String) (delta : Int) : Run :=
  r.setCounter name (max minCounter (min maxCounter ((r.counters.get? name).getD 0 + delta)))

/-- The code of a comparison: 0 for equal, 1 for lower or absent, 2 for greater. -/
def compareCounter (value? : Option Int) (expected : Int) : Int :=
  match value? with
  | none => 1
  | some value => if value = expected then 0 else if value < expected then 1 else 2

def counter (r : Run) (op : CounterOp) (a : CounterArguments) : Outcome × Run :=
  let expected := a.value.getD 0
  match op with
  | .set => (.done 0, r.setCounter a.name expected)
  | .inc => (.done 0, r.addToCounter a.name 1)
  | .dec => (.done 0, r.addToCounter a.name (-1))
  | .equ => (.done (if r.counters.get? a.name = some expected then 0 else 1), r)
  | .cmp => (.done (compareCounter (r.counters.get? a.name) expected), r)

/-! ## All actions -/

/-- Takes an action, up to its end or its first wait. -/
def execute (r : Run) (s : Setup) (v : Visit) : Action → Outcome × Run
  | .nop => (.done 0, r)
  | .fork branch => r.fork v branch
  | .join a => r.join v a
  | .abort info => r.abort s info
  | .waitDelay seconds => r.sleep seconds 0
  | .waitNext => r.promptThen .waitNext (.code 0)
  | .waitOption a => r.choose s a
  | .screenSleep enable => r.promptThen (.screenSleep · enable) (.code 0)
  | .display primitive a => r.display s v primitive a
  | .progress a => (.done 0, r.showProgress s v a)
  | .event op a => r.event op a
  | .counter op a => r.counter op a
  | .metadataSet key value =>
    (r.updateMetadata fun m => { m with extra := m.extra.insert key value }).savedWith s 0
  | .logInfo message => r.logInfo s message
  | .record op a => r.record s op a
  | .select a => r.select s a
  | .setConfig roles pairs => (r.mergeRoles roles (configObject pairs)).savedWith s 0
  | .dumpConfig roles keys => (r.dumpConfig roles keys).savedWith s 0
  | .pauseSensor paused roles => (r.mergeRoles roles [("paused", .bool paused)]).savedWith s 0
  | .startSensor a => r.startSensors s a
  | .stopSensor a => r.stopSensors s a
  | .deviceRecord _ => (.done 0, r)

/-! ## Waits -/

/-- What a wait has come to, if it is over. A cancelled token ends every wait, and an event that is resolved comes
before the deadline. -/
def waitResult? (r : Run) (token : Nat) (a : Await) : Option (Except ScenarioError Int) :=
  if r.isCancelled token then some (.error .cancelled)
  else match a with
    | .time deadline => if deadline ≤ r.clock then some (.ok 0) else none
    | .prompt id =>
      match r.prompts.answer? id with
      | some (.value v) => some (.ok v)
      | some (.rejected reason) => some (.error (.prompt reason))
      | none => if r.prompts.isPending id then none else some (.error .cancelled)
    | .signals all ids deadline =>
      match if all then (if r.signals.allResolved ids then some 0 else none)
        else r.signals.firstResolved? ids with
      | some v => some (.ok v)
      | none => if deadline.any (· ≤ r.clock) then some (.ok 1) else none

/-- Forgets what a wait was registered for. -/
def endWait (r : Run) : Await → Run
  | .prompt id => { r with prompts := r.prompts.discard id }
  | _ => r

/-- Goes on with an action whose wait is over. -/
def proceed (r : Run) (s : Setup) (result : Except ScenarioError Int) (resumption : Resumption) :
    Outcome × Run :=
  match result with
  | .error e => (.fails e, r)
  | .ok value =>
    match resumption with
    | .code code => (.done code, r)
    | .answer => (.done value, r)
    | .display rest => r.showStages rest
    | .bind candidates role => r.bindChosen s candidates role value

end Run

end FieldStudy

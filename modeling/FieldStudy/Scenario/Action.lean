import FieldStudy.Scenario.Definition
import FieldStudy.Scenario.Error

/-!
# Actions

What a node is to do: its primitive together with its decoded arguments.
-/

namespace FieldStudy

/-- The branch that a join waits for; the first name given counts. -/
structure JoinArguments where
  subbranch : Option String
  branch : Option String
deriving DecidableEq, Repr

def JoinArguments.target? (a : JoinArguments) : Option String := a.subbranch.or a.branch

structure ChoiceArguments where
  title : Option String
  msg : Option String
  options : List String
deriving DecidableEq, Repr

structure DisplayArguments where
  title : Option String
  msg : Option String
  text : Option String
  group : Option String
  /-- Seconds that the host counts down before it answers. -/
  countdown : Option Double
  /-- Seconds before the countdown. -/
  pause : Option Double
  /-- Seconds after the countdown. -/
  delay : Option Double
  waitNext : Bool
deriving DecidableEq, Repr

structure ProgressArguments where
  text : Option String
  value : Double
  count : Double
deriving DecidableEq, Repr

inductive EventOp
  | create
  | reset
  | set
  /-- Waits for any of the events. -/
  | wait
  /-- Waits for all of the events. -/
  | waitAll
deriving DecidableEq, Repr

structure EventArguments where
  names : List String
  /-- Seconds; with zero the events are only looked at. -/
  timeout : Option Double
deriving DecidableEq, Repr

inductive CounterOp
  | set
  | inc
  | dec
  | equ
  | cmp
deriving DecidableEq, Repr

structure CounterArguments where
  name : String
  value : Option Int
deriving DecidableEq, Repr

inductive RecordOp
  | create
  | close
  | pause
  | unpause
  | annotate
deriving DecidableEq, Repr

structure RecordArguments where
  name : String
  label : Option String
  sensors : Option (List String)
  /-- The roles that the record is for; absent, all of them. -/
  roles : Option (List String)
  paused : Bool
deriving DecidableEq, Repr

structure SelectArguments where
  filter : DeviceFilter
  role : Option String
  prompt : Option String
deriving BEq

structure SensorArguments where
  roles : Option (List String)
  sensors : Option (List String)
deriving DecidableEq, Repr

inductive Action
  | nop
  | fork (branch : String)
  | join (a : JoinArguments)
  | abort (info : AbortInfo)
  | waitDelay (seconds : Double)
  | waitNext
  | waitOption (a : ChoiceArguments)
  | screenSleep (enable : Bool)
  | display (primitive : PrimitiveName) (a : DisplayArguments)
  | progress (a : ProgressArguments)
  | event (op : EventOp) (a : EventArguments)
  | counter (op : CounterOp) (a : CounterArguments)
  | metadataSet (key : String) (value : Json)
  | logInfo (message : String)
  | record (op : RecordOp) (a : RecordArguments)
  | select (a : SelectArguments)
  | setConfig (roles : Option (List String)) (pairs : List (String × Json))
  | dumpConfig (roles : Option (List String)) (keys : List String)
  | pauseSensor (paused : Bool) (roles : Option (List String))
  | startSensor (a : SensorArguments)
  | stopSensor (a : SensorArguments)
  /-- Recording on a device of its own, which no action here takes part in. -/
  | deviceRecord (primitive : PrimitiveName)

namespace Action

/-! ## Decoding arguments -/

open Decoder

def texts : Decoder (List String) := list string

def forkDecoder : Decoder Action := fun s => do
  let m ← members? ["branch_name"] s
  return .fork (← m.required "branch_name" string)

def joinDecoder : Decoder Action := fun s => do
  let m ← members? ["subbranch", "branch_name"] s
  return .join ⟨← m.defaultNone "subbranch" string, ← m.defaultNone "branch_name" string⟩

def delayDecoder : Decoder Action := fun s => do
  let m ← members? ["delay"] s
  return .waitDelay (← m.withDefault "delay" .zero double)

def choiceDecoder : Decoder Action := fun s => do
  let m ← members? ["title", "msg", "options"] s
  return .waitOption ⟨← m.defaultNone "title" string, ← m.defaultNone "msg" string,
    ← m.withDefault "options" [] texts⟩

def sleepDecoder : Decoder Action := fun s => do
  let m ← members? ["enable"] s
  return .screenSleep (← m.withDefault "enable" false boolean)

def displayDecoder (p : PrimitiveName) : Decoder Action := fun s => do
  let m ← members?
    ["title", "msg", "text", "section", "countdown", "pause", "delay", "wait_next"] s
  return .display p ⟨← m.defaultNone "title" string, ← m.defaultNone "msg" string,
    ← m.defaultNone "text" string, ← m.defaultNone "section" string,
    ← m.defaultNone "countdown" double, ← m.defaultNone "pause" double,
    ← m.defaultNone "delay" double, ← m.withDefault "wait_next" false boolean⟩

def progressDecoder : Decoder Action := fun s => do
  let m ← members? ["text", "value", "count"] s
  return .progress ⟨← m.defaultNone "text" string, ← m.withDefault "value" .zero double,
    ← m.withDefault "count" .zero double⟩

/-- One name, or else a list of names. -/
def eventDecoder (op : EventOp) : Decoder Action := fun s => do
  let m ← members? ["event_name", "event_names", "timeout"] s
  let one ← m.defaultNone "event_name" string
  let many ← m.withDefault "event_names" [] texts
  return .event op ⟨one.elim many ([·]), ← m.defaultNone "timeout" double⟩

def counterDecoder (op : CounterOp) : Decoder Action := fun s => do
  let m ← members? ["name", "value"] s
  return .counter op ⟨← m.required "name" string, ← m.defaultNone "value" int64⟩

def metadataDecoder : Decoder Action := fun s => do
  let m ← members? ["key", "value"] s
  return .metadataSet (← m.required "key" string) (← m.withDefault "value" .null json)

def logDecoder : Decoder Action := fun s => do
  let m ← members? ["message"] s
  return .logInfo (← m.withDefault "message" "" string)

def recordDecoder (op : RecordOp) : Decoder Action := fun s => do
  let m ← members? ["name", "label", "sensors", "devices", "paused"] s
  return .record op ⟨← m.required "name" string, ← m.defaultNone "label" string,
    ← m.defaultNone "sensors" oneOrMany, ← m.defaultNone "devices" texts,
    ← m.withDefault "paused" false boolean⟩

def selectDecoder : Decoder Action := fun s => do
  let (m, _) ← collected? (["device_name", "prompt"] ++ DeviceFilter.fieldNames) s
  return .select ⟨← DeviceFilter.ofMembers true m, ← m.defaultNone "device_name" string,
    ← m.defaultNone "prompt" string⟩

def setConfigDecoder : Decoder Action := fun s => do
  let m ← members? ["devices", "config"] s
  return .setConfig (← m.defaultNone "devices" texts)
    (← m.withDefault "config" [] (list (pair string json)))

def dumpConfigDecoder : Decoder Action := fun s => do
  let m ← members? ["devices", "config"] s
  return .dumpConfig (← m.defaultNone "devices" texts) (← m.withDefault "config" [] texts)

def pauseDecoder (paused : Bool) : Decoder Action := fun s => do
  let m ← members? ["devices"] s
  return .pauseSensor paused (← m.defaultNone "devices" texts)

def sensorsDecoder : Decoder SensorArguments := fun s => do
  let m ← members? ["devices", "sensors"] s
  return ⟨← m.defaultNone "devices" texts, ← m.defaultNone "sensors" oneOrMany⟩

/-- How the arguments of a primitive are decoded; a primitive without arguments accepts anything. -/
def decoder (p : PrimitiveName) : Decoder Action :=
  match p with
  | .nop => fun _ => some .nop
  | .fork => forkDecoder
  | .join => joinDecoder
  | .abort => fun s => (AbortInfo.decoder s).map .abort
  | .waitDelay => delayDecoder
  | .waitNext => fun _ => some .waitNext
  | .waitOption => choiceDecoder
  | .disableScreenSleep => sleepDecoder
  | .displayMsg | .displayPage | .displayClear => displayDecoder p
  | .displayProgress => progressDecoder
  | .eventCreate => eventDecoder .create
  | .eventReset => eventDecoder .reset
  | .eventSet => eventDecoder .set
  | .eventWait => eventDecoder .wait
  | .eventWaitAll => eventDecoder .waitAll
  | .counterSet => counterDecoder .set
  | .counterInc => counterDecoder .inc
  | .counterDec => counterDecoder .dec
  | .counterEqu => counterDecoder .equ
  | .counterCmp => counterDecoder .cmp
  | .metadataSet => metadataDecoder
  | .logInfo => logDecoder
  | .recordCreate | .logCreate => recordDecoder .create
  | .recordClose | .logClose => recordDecoder .close
  | .recordPause | .logPause => recordDecoder .pause
  | .recordUnpause | .logUnpause => recordDecoder .unpause
  | .recordAnnotate | .logAnnotate => recordDecoder .annotate
  | .deviceSelect => selectDecoder
  | .deviceSetConfig => setConfigDecoder
  | .deviceDumpConfig => dumpConfigDecoder
  | .devicePauseSensor => pauseDecoder true
  | .deviceUnpauseSensor => pauseDecoder false
  | .deviceStartSensor => fun s => (sensorsDecoder s).map .startSensor
  | .deviceStopSensor => fun s => (sensorsDecoder s).map .stopSensor
  | .deviceStartRecord | .deviceStopRecord | .deviceTagRecord | .deviceDownloadRecord =>
    fun _ => some (.deviceRecord p)

/-- Null stands for no arguments. -/
def argumentsOf (n : Node) : Json :=
  match n.arguments with
  | .null => .obj []
  | a => a

/-- What a node is to do. -/
def ofNode (n : Node) : Except ScenarioError Action :=
  match decodeValue? (decoder n.primitive) (argumentsOf n) with
  | some a => .ok a
  | none => .error (.invalidArguments n.primitive.text "the arguments do not suit the primitive")

/-- Whether the action ends the branch that takes it: a join of a branch with itself. -/
def endsBranch (a : Action) (branch : String) : Bool :=
  match a with
  | .join j => j.target? == some branch
  | _ => false

end Action

end FieldStudy

import FieldStudy.Scenario.Error
import FieldStudy.Scenario.Primitive

/-!
# Notices to the host

What a run tells its host. A notice with a prompt holds its branch up until the host answers.
-/

namespace FieldStudy

/-- The state of a run. -/
inductive RunState
  | stopped
  | paused
  | running
deriving DecidableEq, Repr

namespace RunState

def text : RunState → String
  | .stopped => "stopped"
  | .paused => "paused"
  | .running => "running"

def ofText? (s : String) : Option RunState := [stopped, paused, running].find? (·.text == s)

end RunState

structure MessageNotice where
  primitive : PrimitiveName
  title : Option String
  msg : Option String
  text : Option String
  group : Option String
  step : Option String
deriving DecidableEq, Repr

structure ProgressNotice where
  text : Option String
  value : Double
  count : Double
  step : Option String
deriving DecidableEq, Repr

structure ChoiceNotice where
  title : Option String
  msg : Option String
  options : List String
deriving DecidableEq, Repr

inductive Notice
  | state (state : RunState)
  | message (m : MessageNotice)
  | progress (p : ProgressNotice)
  | waitNext (prompt : Nat)
  | countdown (prompt : Nat) (seconds : Double)
  | choice (prompt : Nat) (c : ChoiceNotice)
  | screenSleep (prompt : Nat) (enable : Bool)
  | micRecording (recording : Bool)
  | finished (error : Option String) (abort : Option AbortInfo)
deriving DecidableEq, Repr

namespace Notice

def prompt? : Notice → Option Nat
  | .waitNext id | .countdown id _ | .choice id _ | .screenSleep id _ => some id
  | _ => none

/-- The text of the failure to deliver a notice to a host that listens no more. -/
def undelivered : String := "Event error: Channel closed"

def toJson : Notice → Json
  | .state s => .obj [("type", .str "state"), ("state", .str s.text)]
  | .message m =>
    .obj [("type", .str "displayMessage"), ("primitiveName", .str m.primitive.text),
      ("title", Json.ofOption .str m.title), ("msg", Json.ofOption .str m.msg),
      ("text", Json.ofOption .str m.text), ("section", Json.ofOption .str m.group),
      ("step", Json.ofOption .str m.step)]
  | .progress p =>
    .obj [("type", .str "displayProgress"), ("text", Json.ofOption .str p.text),
      ("value", .float p.value), ("count", .float p.count), ("step", Json.ofOption .str p.step)]
  | .waitNext id => .obj [("type", .str "waitNext"), ("promptId", .int id)]
  | .countdown id seconds =>
    .obj [("type", .str "waitCountdown"), ("promptId", .int id), ("countdown", .float seconds)]
  | .choice id c =>
    .obj [("type", .str "waitOption"), ("promptId", .int id), ("title", Json.ofOption .str c.title),
      ("msg", Json.ofOption .str c.msg), ("options", Json.ofList .str c.options)]
  | .screenSleep id enable =>
    .obj [("type", .str "screenSleep"), ("promptId", .int id), ("enable", .bool enable)]
  | .micRecording recording =>
    .obj [("type", .str "mic.recording"), ("recording", .bool recording)]
  | .finished error abort =>
    .obj [("type", .str "finished"), ("error", Json.ofOption .str error),
      ("abort", Json.ofOption AbortInfo.toJson abort)]

/-! ## Decoding

The type comes first or as a member of its own; the other members are kept until it is known. -/

/-- The type of a notice and the rest of the value without it. -/
def splitType : Source → Option (String × Source)
  | .arr (.str type :: rest) => some (type, .arr rest)
  | .obj members =>
    match members.find? (·.1 == some "type") with
    | some (_, .str type) => some (type, .obj (members.filter (·.1 != some "type")))
    | _ => none
  | _ => none

/-- Reads the members of a notice of a type. -/
def decodeAs (type : String) (s : Source) : Option Notice :=
  let id (m : Decoder.Members) := m.required "promptId" (Decoder.natural 64)
  match type with
  | "state" => do
    let m ← Decoder.members? ["state"] s
    return .state (← m.required "state" (Decoder.named true RunState.ofText?))
  | "displayMessage" => do
    let m ← Decoder.members? ["primitiveName", "title", "msg", "text", "section", "step"] s
    return .message ⟨← m.required "primitiveName" (Decoder.named true PrimitiveName.ofText?),
      ← m.optional "title" Decoder.string, ← m.optional "msg" Decoder.string,
      ← m.optional "text" Decoder.string, ← m.optional "section" Decoder.string,
      ← m.optional "step" Decoder.string⟩
  | "displayProgress" => do
    let m ← Decoder.members? ["text", "value", "count", "step"] s
    return .progress ⟨← m.optional "text" Decoder.string, ← m.required "value" Decoder.double,
      ← m.required "count" Decoder.double, ← m.optional "step" Decoder.string⟩
  | "waitNext" => do
    let m ← Decoder.members? ["promptId"] s
    return .waitNext (← id m)
  | "waitCountdown" => do
    let m ← Decoder.members? ["promptId", "countdown"] s
    return .countdown (← id m) (← m.required "countdown" Decoder.double)
  | "waitOption" => do
    let m ← Decoder.members? ["promptId", "title", "msg", "options"] s
    return .choice (← id m) ⟨← m.optional "title" Decoder.string,
      ← m.optional "msg" Decoder.string,
      ← m.required "options" (Decoder.list Decoder.string)⟩
  | "screenSleep" => do
    let m ← Decoder.members? ["promptId", "enable"] s
    return .screenSleep (← id m) (← m.required "enable" Decoder.boolean)
  | "mic.recording" => do
    let m ← Decoder.members? ["recording"] s
    return .micRecording (← m.required "recording" Decoder.boolean)
  | "finished" => do
    let m ← Decoder.members? ["error", "abort"] s
    return .finished (← m.optional "error" Decoder.string)
      (← m.optional "abort" AbortInfo.decoder)
  | _ => none

def decoder : Decoder Notice := fun s => do
  let (type, rest) ← splitType s
  decodeAs type rest

end Notice

end FieldStudy

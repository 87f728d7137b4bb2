/-!
# Primitives

The closed vocabulary of operations that a node of a scenario can name.
-/

namespace FieldStudy

inductive PrimitiveName
  | nop | fork | join | abort | waitDelay | waitNext | waitOption | disableScreenSleep
  | displayMsg | displayPage | displayClear | displayProgress | eventCreate | eventReset
  | eventSet | eventWait | eventWaitAll | counterSet | counterInc | counterDec | counterEqu
  | counterCmp | metadataSet | logInfo | recordCreate | recordClose | recordPause | recordUnpause
  | recordAnnotate | logCreate | logClose | logPause | logUnpause | logAnnotate | deviceSelect
  | deviceSetConfig | deviceDumpConfig | devicePauseSensor | deviceUnpauseSensor
  | deviceStartSensor | deviceStopSensor | deviceStartRecord | deviceStopRecord | deviceTagRecord
  | deviceDownloadRecord
deriving DecidableEq, Repr

namespace PrimitiveName

def all : List PrimitiveName := [
  .nop, .fork, .join, .abort, .waitDelay, .waitNext, .waitOption, .disableScreenSleep,
  .displayMsg, .displayPage, .displayClear, .displayProgress, .eventCreate, .eventReset,
  .eventSet, .eventWait, .eventWaitAll, .counterSet, .counterInc, .counterDec, .counterEqu,
  .counterCmp, .metadataSet, .logInfo, .recordCreate, .recordClose, .recordPause, .recordUnpause,
  .recordAnnotate, .logCreate, .logClose, .logPause, .logUnpause, .logAnnotate, .deviceSelect,
  .deviceSetConfig, .deviceDumpConfig, .devicePauseSensor, .deviceUnpauseSensor,
  .deviceStartSensor, .deviceStopSensor, .deviceStartRecord, .deviceStopRecord, .deviceTagRecord,
  .deviceDownloadRecord]

/-- The name as scenarios write it. -/
def text : PrimitiveName → String
  | .nop => "nop"
  | .fork => "fork"
  | .join => "join"
  | .abort => "abort"
  | .waitDelay => "wait_delay"
  | .waitNext => "wait_next"
  | .waitOption => "wait_option"
  | .disableScreenSleep => "disable_screen_sleep"
  | .displayMsg => "display_msg"
  | .displayPage => "display_page"
  | .displayClear => "display_clear"
  | .displayProgress => "display_progress"
  | .eventCreate => "event_create"
  | .eventReset => "event_reset"
  | .eventSet => "event_set"
  | .eventWait => "event_wait"
  | .eventWaitAll => "event_wait_all"
  | .counterSet => "counter_set"
  | .counterInc => "counter_inc"
  | .counterDec => "counter_dec"
  | .counterEqu => "counter_equ"
  | .counterCmp => "counter_cmp"
  | .metadataSet => "metadata_set"
  | .logInfo => "log_info"
  | .recordCreate => "record_create"
  | .recordClose => "record_close"
  | .recordPause => "record_pause"
  | .recordUnpause => "record_unpause"
  | .recordAnnotate => "record_annotate"
  | .logCreate => "log_create"
  | .logClose => "log_close"
  | .logPause => "log_pause"
  | .logUnpause => "log_unpause"
  | .logAnnotate => "log_annotate"
  | .deviceSelect => "sensor_device_select"
  | .deviceSetConfig => "sensor_device_set_config"
  | .deviceDumpConfig => "sensor_device_dump_config"
  | .devicePauseSensor => "sensor_device_pause_sensor"
  | .deviceUnpauseSensor => "sensor_device_unpause_sensor"
  | .deviceStartSensor => "sensor_device_start_sensor"
  | .deviceStopSensor => "sensor_device_stop_sensor"
  | .deviceStartRecord => "sensor_device_start_record"
  | .deviceStopRecord => "sensor_device_stop_record"
  | .deviceTagRecord => "sensor_device_tag_record"
  | .deviceDownloadRecord => "sensor_device_download_record"

def ofText? (s : String) : Option PrimitiveName := all.find? (·.text == s)

end PrimitiveName

end FieldStudy

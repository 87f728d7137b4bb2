import Mathlib.Tactic.MkIffOfInductiveProp
import FieldStudy.Proofs.Json.Texts
import FieldStudy.Proofs.Json.Trees
import FieldStudy.Proofs.Storage.Contents
import FieldStudy.Proofs.Storage.Numbers
import FieldStudy.Proofs.Text.Utf8
import FieldStudy.Scenario.Metadata

/-!
# Loading the metadata that have been saved

What is loaded is what was saved (`Metadata.load_of_saved`), if the document can be stored as it is
(`Metadata.Storable`) and its values are read back from their text.
-/

namespace FieldStudy

open Source Decoder

/-! ## The place of the document -/

lemma FileStore.locate_document {files : FileStore} {folder p : Path}
    (h : files.locate folder Metadata.file = .ok p) : p = folder ++ [Metadata.file] := by
  have hsteps : FileStore.steps Metadata.file.toList = [Metadata.file] := by decide +kernel
  have hrelative : Metadata.file.toList.head? ≠ some '/' := by decide
  have hshort : ¬ maxNameLength < Metadata.file.utf8ByteSize := by decide +kernel
  unfold locate at h
  dsimp only at h
  rw [if_neg hrelative, hsteps] at h
  split at h
  · cases h
  · split at h
    · cases h
    · split at h
      · cases h
      · split at h
        · cases h
        · rw [walk, if_neg (by decide), if_neg hshort] at h
          exact (Except.ok.inj h).symm

/-! ## The parts of the document -/

lemma SystemInfo.decoder_ofJson (i : SystemInfo) : decoder (ofJson i.toJson) = some i := rfl

lemma AppInfo.decoder_ofJson (i : AppInfo) : decoder (ofJson i.toJson) = some i := rfl

lemma AbortInfo.decoder_ofJson (i : AbortInfo) : decoder (ofJson i.toJson) = some i := by
  obtain ⟨reason, message⟩ := i
  cases message <;> rfl

lemma RecordInfo.decoder_ofJson {i : RecordInfo} (h : IsInt64 i.created) : decoder (ofJson i.toJson) = some i := by
  show (int64 (ofJson (.int i.created))).bind (fun ms => some (⟨i.filename, ms⟩ : RecordInfo)) = some i
  rw [int64_ofJson h]
  rfl

lemma RecordEvent.decoder_ofJson {e : RecordEvent} (h : IsInt64 e.timestamp) : decoder (ofJson e.toJson) = some e := by
  show (int64 (ofJson (.int e.timestamp))).bind (fun ms => some (⟨e.event, e.record, ms⟩ : RecordEvent)) = some e
  rw [int64_ofJson h]
  rfl

lemma Annotation.decoder_ofJson {a : Annotation} (h : IsInt64 a.timestamp) : decoder (ofJson a.toJson) = some a := by
  show (int64 (ofJson (.int a.timestamp))).bind (fun ms => some (⟨ms, a.record, a.label⟩ : Annotation)) = some a
  rw [int64_ofJson h]
  rfl

namespace Metadata

/-! ## The document -/

/-- Numbers are in their ranges, and tables have their keys in order. -/
@[mk_iff]
structure Storable (m : Metadata) : Prop where
  version : m.version < Nat.pow 2 32
  identifiers : IsInt64 m.scenarioId ∧ IsInt64 m.collectionId ∧ IsInt64 m.profileId
  startTime : ∀ ms ∈ m.startTime, IsInt64 ms
  endTime : ∀ ms ∈ m.endTime, IsInt64 ms
  records : m.records.Sorted ∧ ∀ p ∈ m.records, IsInt64 p.2.created
  recordEvents : ∀ e ∈ m.recordEvents, IsInt64 e.timestamp
  annotations : ∀ a ∈ m.annotations, IsInt64 a.timestamp
  tables : ∀ table ∈ [m.deviceInfo, m.deviceConfig, m.extra], (Json.obj table).isOrdered = true

instance (m : Metadata) : Decidable m.Storable := decidable_of_iff' _ m.storable_iff

/-- The members that say when the run began and ended, as far as that is known. -/
def times (m : Metadata) : List (String × Json) :=
  Json.optionalMember "acquisition_start_datetime" .str m.startDate ++
    Json.optionalMember "acquisition_end_datetime" .str m.endDate ++
    Json.optionalMember "acquisition_start_timestamp" .int m.startTime ++
    Json.optionalMember "acquisition_end_timestamp" .int m.endTime

def timeNames : List String :=
  ["acquisition_start_datetime", "acquisition_end_datetime", "acquisition_start_timestamp",
    "acquisition_end_timestamp"]

/-- The members that are never left out, behind the version. -/
def contents (m : Metadata) : List (String × Json) :=
  [("scenario_id", .int m.scenarioId), ("data_collection_id", .int m.collectionId),
    ("profile_id", .int m.profileId), ("system_info", m.system.toJson),
    ("app_info", m.app.toJson), ("sensor_device_info", .obj m.deviceInfo),
    ("sensor_device_config", .obj m.deviceConfig),
    ("record_info", Json.ofDict RecordInfo.toJson m.records),
    ("record_events", Json.ofList RecordEvent.toJson m.recordEvents),
    ("annotations", Json.ofList Annotation.toJson m.annotations),
    ("extra_metadata", .obj m.extra), ("abort", Json.ofOption AbortInfo.toJson m.abort)]

def members (m : Metadata) : List (String × Json) := ("version", .int m.version) :: (m.times ++ m.contents)

lemma toJson_eq (m : Metadata) : m.toJson = .obj m.members := by
  simp [toJson, members, times, contents]

lemma sublist_members (m : Metadata) : (m.members.map (·.1)).Sublist fieldNames := by
  have htimes : (m.times.map (·.1)).Sublist timeNames := by
    simp only [times, List.map_append]
    exact (((sublist_optionalMember _ _ _).append (sublist_optionalMember _ _ _)).append
      (sublist_optionalMember _ _ _)).append (sublist_optionalMember _ _ _)
  rw [members, List.map_cons, List.map_append]
  exact List.Sublist.cons_cons _ (htimes.append (List.Sublist.refl _))

lemma get?_members_of_contents {m : Metadata} {name : String} {v : Json} (hname : name ∉ "version" :: timeNames)
    (h : Dict.get? m.contents name = some v) : Dict.get? m.members name = some v := by
  have hne (known : String) (hknown : known ∈ "version" :: timeNames) : known ≠ name :=
    fun heq => hname (heq ▸ hknown)
  have htimes : Dict.get? m.times name = none := by
    simp only [times, Dict.get?_append, get?_optionalMember]
    rw [if_neg (hne _ (by decide)), if_neg (hne _ (by decide)), if_neg (hne _ (by decide)),
      if_neg (hne _ (by decide))]
    rfl
  rw [members, Dict.get?_cons, if_neg (hne _ (by decide)), Dict.get?_append, htimes, h]
  rfl

lemma get?_members_of_times {m : Metadata} {name : String} (hname : name ∈ timeNames) :
    Dict.get? m.members name = Dict.get? m.times name := by
  have hne : "version" ≠ name := by
    rintro rfl
    exact absurd hname (by decide)
  have hcontents : Dict.get? m.contents name = none := by
    simp only [timeNames, List.mem_cons, List.not_mem_nil, or_false] at hname
    obtain rfl | rfl | rfl | rfl := hname <;> rfl
  rw [members, Dict.get?_cons, if_neg hne, Dict.get?_append, hcontents, Option.or_none]

/-- A time that is not known is left out. -/
lemma defaultNone_members {m : Metadata} {name : String} {α : Type} {d : Decoder α} {f : α → Json} {a : Option α}
    (hname : name ∈ timeNames) (hget : Dict.get? m.times name = a.map f)
    (hd : ∀ b ∈ a, option d (ofJson (f b)) = some (some b)) : (given m.members).defaultNone name d = some a :=
  defaultNone_given ((get?_members_of_times hname).trans hget) hd

lemma decoder_ofJson {m : Metadata} (h : m.Storable) : decoder (ofJson m.toJson) = some m := by
  obtain ⟨hscenario, hcollection, hprofile⟩ := h.identifiers
  obtain ⟨hinfo, hconfig, hextra⟩ : (Json.obj m.deviceInfo).isOrdered = true ∧
      (Json.obj m.deviceConfig).isOrdered = true ∧ (Json.obj m.extra).isOrdered = true := by
    simpa using h.tables
  have hversion : (given m.members).required "version" (natural 32) = some m.version :=
    (required_given rfl).trans (natural_ofJson h.version)
  have hstartDate : (given m.members).defaultNone "acquisition_start_datetime" string = some m.startDate :=
    defaultNone_members (f := .str) (by decide) (by simp [times, Dict.get?_append, get?_optionalMember])
      fun _ _ => rfl
  have hendDate : (given m.members).defaultNone "acquisition_end_datetime" string = some m.endDate :=
    defaultNone_members (f := .str) (by decide) (by simp [times, Dict.get?_append, get?_optionalMember])
      fun _ _ => rfl
  have hstartTime : (given m.members).defaultNone "acquisition_start_timestamp" int64 = some m.startTime :=
    defaultNone_members (f := .int) (by decide) (by simp [times, Dict.get?_append, get?_optionalMember])
      fun ms hms => congrArg (Option.map some) (int64_ofJson (h.startTime ms hms))
  have hendTime : (given m.members).defaultNone "acquisition_end_timestamp" int64 = some m.endTime :=
    defaultNone_members (f := .int) (by decide) (by simp [times, Dict.get?_append, get?_optionalMember])
      fun ms hms => congrArg (Option.map some) (int64_ofJson (h.endTime ms hms))
  have hscenarioId : (given m.members).required "scenario_id" int64 = some m.scenarioId :=
    (required_given (get?_members_of_contents (by decide) rfl)).trans (int64_ofJson hscenario)
  have hcollectionId : (given m.members).required "data_collection_id" int64 = some m.collectionId :=
    (required_given (get?_members_of_contents (by decide) rfl)).trans (int64_ofJson hcollection)
  have hprofileId : (given m.members).required "profile_id" int64 = some m.profileId :=
    (required_given (get?_members_of_contents (by decide) rfl)).trans (int64_ofJson hprofile)
  have hsystem : (given m.members).required "system_info" SystemInfo.decoder = some m.system :=
    (required_given (get?_members_of_contents (by decide) rfl)).trans m.system.decoder_ofJson
  have happ : (given m.members).required "app_info" AppInfo.decoder = some m.app :=
    (required_given (get?_members_of_contents (by decide) rfl)).trans m.app.decoder_ofJson
  have hdeviceInfo : (given m.members).withDefault "sensor_device_info" [] object = some m.deviceInfo :=
    (withDefault_given (get?_members_of_contents (by decide) rfl) []).trans (object_ofJson hinfo)
  have hdeviceConfig : (given m.members).withDefault "sensor_device_config" [] object = some m.deviceConfig :=
    (withDefault_given (get?_members_of_contents (by decide) rfl) []).trans (object_ofJson hconfig)
  have hrecords : (given m.members).withDefault "record_info" [] (dict RecordInfo.decoder) = some m.records :=
    (withDefault_given (get?_members_of_contents (by decide) rfl) []).trans
      (dict_ofJson h.records.1 fun p hp => RecordInfo.decoder_ofJson (h.records.2 p hp))
  have hrecordEvents : (given m.members).withDefault "record_events" [] (list RecordEvent.decoder) =
      some m.recordEvents :=
    (withDefault_given (get?_members_of_contents (by decide) rfl) []).trans
      (list_ofJson fun e he => RecordEvent.decoder_ofJson (h.recordEvents e he))
  have hannotations : (given m.members).withDefault "annotations" [] (list Annotation.decoder) = some m.annotations :=
    (withDefault_given (get?_members_of_contents (by decide) rfl) []).trans
      (list_ofJson fun a ha => Annotation.decoder_ofJson (h.annotations a ha))
  have hextraTable : (given m.members).withDefault "extra_metadata" [] object = some m.extra :=
    (withDefault_given (get?_members_of_contents (by decide) rfl) []).trans (object_ofJson hextra)
  have habort : (given m.members).optional "abort" AbortInfo.decoder = some m.abort := by
    refine (optional_given (get?_members_of_contents (by decide) rfl)).trans ?_
    cases m.abort with
    | none => rfl
    | some info => exact congrArg (Option.map some) info.decoder_ofJson
  rw [toJson_eq, decoder, Option.bind_eq_bind, bind_members? (by decide) m.sublist_members, hversion, hstartDate,
    hendDate, hstartTime, hendTime, hscenarioId, hcollectionId, hprofileId, hsystem, happ, hdeviceInfo, hdeviceConfig,
    hrecords, hrecordEvents, hannotations, hextraTable, habort]
  rfl

/-! ## Storage -/

lemma load_of_file {m : Metadata} {folder : Path} {s : FileStore}
    (hfile : s.read? (folder ++ [file]) = some (Utf8.encode m.text.toList)) : load folder s = ofText m.text := by
  rw [load, hfile]
  simp only [Utf8.decode_encode, String.ofList_toList]

/-- A document is loaded from its file if its text is read as the document. -/
lemma load_of_read {m : Metadata} {folder : Path} {s : FileStore} (h : m.Storable)
    (hread : read? m.text = some (ofJson m.toJson))
    (hfile : s.read? (folder ++ [file]) = some (Utf8.encode m.text.toList)) : load folder s = .ok m := by
  rw [load_of_file hfile, ofText, decodeText, hread, Option.bind_some, decoder_ofJson h]

/-- What is loaded is what was saved, if its numbers are read back each by itself and nothing is nested too deep. -/
lemma load_of_saved {m : Metadata} {folder : Path} {s : FileStore} (h : m.Storable)
    (hvalues : m.toJson.isLegible 0 = true)
    (hfile : s.read? (folder ++ [file]) = some (Utf8.encode m.text.toList)) : load folder s = .ok m :=
  load_of_read h (read?_pretty hvalues) hfile

lemma exists_of_save {m : Metadata} {folder : Path} {s : FileStore} (h : (m.save folder s).isOk = true) :
    ∃ s', m.save folder s = .ok s' := by
  cases hsave : m.save folder s with
  | ok s' => exact ⟨s', rfl⟩
  | error e => simp [hsave, Except.isOk, Except.toBool] at h

/-- What has been saved is in the file, also where that is new. -/
lemma read?_of_save {m : Metadata} {folder : Path} {s s' : FileStore} (hnumbered : s.Numbered)
    (hsave : m.save folder s = .ok s') : s'.read? (folder ++ [file]) = some (Utf8.encode m.text.toList) := by
  have hsound : s.Sound s.contents.length :=
    ⟨le_rfl, hnumbered, fun p _ id hlength hp => absurd (hnumbered p id hp) (not_lt.mpr hlength)⟩
  obtain ⟨p, id, hreplaced, -⟩ := FileStore.replaced hsound hsave
  obtain rfl := FileStore.locate_document hreplaced.place
  exact FileStore.read?_of_write hsound hsave hreplaced.place

/-- A document that is read back is what its text stands for, without what follows there. -/
lemma decoder_of_ofText {m m' : Metadata} (h : ofText m.text = .ok m') :
    (readValue 0 (2 * (Json.prettyChars 0 m.toJson).length + 2) (Json.prettyChars 0 m.toJson)).bind
      (fun x => decoder x.1) = some m' := by
  rw [ofText, decodeText, read?, text, Json.pretty, String.toList_ofList] at h
  generalize readValue 0 (2 * (Json.prettyChars 0 m.toJson).length + 2) (Json.prettyChars 0 m.toJson) = x at h
  cases x with
  | none => cases h
  | some x =>
    simp only [Option.bind_eq_bind, Option.bind_some] at h ⊢
    split at h
    · next m'' hdecoded =>
      obtain rfl := Except.ok.inj h
      split at hdecoded
      · exact hdecoded
      · cases hdecoded
    · cases h

end Metadata

end FieldStudy

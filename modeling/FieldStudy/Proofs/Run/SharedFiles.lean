import Mathlib.Data.List.Basic
import Mathlib.Data.List.Permutation
import FieldStudy.Proofs.Run.Filing

/-!
# Open loggers and their files

Open records are told apart by their names, and their files by the names with the extension that some of them lack.
So two open records lead to one file exactly when one name is the other one completed, and a record leads to the log
when it bears the name of its file (`Run.open_loggers_share_files`).
-/

namespace FieldStudy

/-! ## Paths of loggers -/

/-- The path of a file that is named relative to a folder, as written but for idle steps. -/
def pathOf (folder : Path) (file : String) : Path :=
  (if file.toList.head? = some '/' then [] else folder) ++ FileStore.steps file.toList

/-- The path that a logger was made for. -/
def FileLogger.path (l : FileLogger) : Path := pathOf l.folder l.file

/-- The second name is the first one with the extension that it lacks. -/
structure Completes (name full : String) : Prop where
  bare : hasExtension name.toList = false
  nonempty : name ≠ ""
  full : full = name ++ "." ++ Run.recordExtension

lemma hasExtension_completed {name : String} (h : name ≠ "") :
    hasExtension (name ++ "." ++ Run.recordExtension).toList = true := by
  have hsplit : Text.splitLast '.' (name ++ "." ++ Run.recordExtension).toList =
      some (name.toList, Run.recordExtension.toList) := by
    have hreverse : (name ++ "." ++ Run.recordExtension).toList.reverse =
        Run.recordExtension.toList.reverse ++ '.' :: name.toList.reverse := by simp
    rw [Text.splitLast, hreverse, Text.splitFirst_append_cons _ (by decide)]
    simp
  have hstem : name.toList.isEmpty = false := by simpa using h
  rw [hasExtension, hsplit]
  dsimp only
  rw [hstem]
  decide +kernel

lemma hasExtension_of_empty : hasExtension ("" ++ "." ++ Run.recordExtension).toList = false := by decide +kernel

/-- Two names of records are names of one file when one of them is the other, completed or not. -/
lemma recordFile_eq_iff {name name' : String} : Run.recordFile name = Run.recordFile name' ↔
    name = name' ∨ Completes name name' ∨ Completes name' name := by
  have hone {name name' : String} (hbare : hasExtension name.toList = false)
      (hfull : hasExtension name'.toList = true) :
      name ++ "." ++ Run.recordExtension = name' ↔ Completes name name' := by
    refine ⟨fun heq => ⟨hbare, ?_, heq.symm⟩, fun h => h.full.symm⟩
    rintro rfl
    rw [← heq, hasExtension_of_empty] at hfull
    cases hfull
  have hnot {name name' : String} (hbare : hasExtension name.toList = hasExtension name'.toList) :
      ¬ Completes name name' := by
    intro h
    rw [h.full, hasExtension_completed h.nonempty, h.bare] at hbare
    cases hbare
  have hno {name name' : String} (hfull : hasExtension name.toList = true) : ¬ Completes name name' := by
    intro h
    rw [h.bare] at hfull
    cases hfull
  have hne {name name' : String} (hbare : hasExtension name.toList = false)
      (hfull : hasExtension name'.toList = true) : name ≠ name' := by
    rintro rfl
    rw [hbare] at hfull
    cases hfull
  rw [Run.recordFile, Run.recordFile, fileName, fileName]
  cases hext : hasExtension name.toList <;> cases hext' : hasExtension name'.toList
  · have hsame := hext.trans hext'.symm
    simp [hnot hsame, hnot hsame.symm, String.append_left_inj]
  · simp [hone hext hext', hno hext', hne hext hext']
  · rw [if_pos rfl, if_neg (by simp), eq_comm, hone hext' hext]
    simp [hno hext, (hne hext' hext).symm]
  · simp [hno hext, hno hext']

/-- The log is where a record of the name of its file would be. -/
lemma recordFile_logFile : Run.recordFile Run.logFile = Run.logFile := by decide

lemma recordFile_eq_logFile_iff {name : String} : Run.recordFile name = Run.logFile ↔ name = Run.logFile := by
  rw [← recordFile_logFile, recordFile_eq_iff, recordFile_logFile]
  refine ⟨?_, .inl⟩
  rintro (h | h | h)
  · exact h
  · -- The log has another extension than the one that names of records are completed with.
    have hlast : Run.logFile.toList.getLast? = some 'n' := by
      rw [h.full]
      simp [Run.recordExtension]
    exact absurd hlast (by decide)
  · exact absurd h.bare (by decide)

/-- A record whose name has no slashes is in the folder itself. -/
lemma pathOf_recordFile (folder : Path) {name : String} (hslash : '/' ∉ name.toList) :
    pathOf folder (Run.recordFile name) = folder ++ [Run.recordFile name] := by
  have hplain : '/' ∉ (Run.recordFile name).toList := by
    rw [Run.recordFile, fileName]
    split
    · exact hslash
    · simp [hslash, Run.recordExtension]
  obtain ⟨stem, e, hname, hsize⟩ : ∃ stem e, (Run.recordFile name).toList = stem ++ '.' :: e ∧
      (String.ofList e).utf8ByteSize = 3 := by
    obtain ⟨stem, e, hname, -, -, hsize⟩ := fileName_eq name (show Run.recordExtension.utf8ByteSize = 3 from rfl)
      (by decide) (by decide)
    exact ⟨stem, e, hname, hsize⟩
  have hne : e ≠ [] := by
    rintro rfl
    exact absurd hsize (by decide)
  have hkept : (!(Run.recordFile name).toList.isEmpty && (Run.recordFile name).toList != ['.']) = true := by
    rw [hname]
    cases stem with
    | nil => simp [hne]
    | cons c rest => simp
  have hhead : (Run.recordFile name).toList.head? ≠ some '/' :=
    fun hhead => hplain (List.mem_of_head? hhead)
  rw [pathOf, if_neg hhead, FileStore.steps, Text.splitAll_of_notMem hplain, List.filter_cons, if_pos hkept,
    List.filter_nil, List.map_cons, List.map_nil, String.ofList_toList]

namespace Desk

variable {s : Setup} {d : Desk} {l : Ledger} {x y : Desk × Ledger}

/-! ## Every logger has the file of its name -/

/-- Every logger was made for the file that its name stands for. -/
structure Named (s : Setup) (d : Desk) : Prop where
  writer : ∀ name w, d.writers.get? name = some w → w.sink.folder = s.folder ∧ w.sink.file = Run.recordFile name
  log : ∀ lg, d.log = some lg → lg.folder = s.folder ∧ lg.file = Run.logFile

lemma Named.deliver (h : d.Named s) (x : PhoneSample) (name : String) : (d.deliver x name).Named s := by
  rw [Desk.deliver]
  cases hw : d.writers.get? name with
  | none => exact h
  | some w =>
    have hlike := w.like_write x.frame (.uint x.timestamp) (x.values.map fun v => .float v.toDouble) d.files
    refine ⟨fun n v hv => ?_, h.log⟩
    rw [Dict.get?_insert] at hv
    split at hv
    · next heq =>
      obtain rfl := Option.some.inj hv
      obtain ⟨hfolder, hfile⟩ := h.writer name w hw
      exact ⟨hlike.folder.trans hfolder, heq ▸ hlike.file.trans hfile⟩
    · exact h.writer n v hv

lemma Named.booked (h : x.1.Named s) (hbooked : Booked s x y) : y.1.Named s := by
  cases hbooked with
  | save | furnish | repeated => exact ⟨h.writer, h.log⟩
  | @note d l hup data =>
    refine ⟨h.writer, fun lg hlg => ?_⟩
    obtain rfl := Option.some.inj hlg
    have hlike := (d.logger s).like_write data d.files
    have hlogger : (d.logger s).folder = s.folder ∧ (d.logger s).file = Run.logFile := by
      rw [logger]
      cases hlog : d.log with
      | none => exact ⟨rfl, rfl⟩
      | some lg => exact h.log lg hlog
    exact ⟨hlike.folder.trans hlogger.1, hlike.file.trans hlogger.2⟩
  | @create d l a sensors w files hup hcreate =>
    have hlike := RecordWriter.like_create
      (FileLogger.new s.folder a.name Run.recordExtension s.config.loggerBufferCount) Run.recordDescriptor d.files
    rw [hcreate] at hlike
    refine ⟨fun n v hv => ?_, h.log⟩
    rw [Dict.get?_insert] at hv
    split at hv
    · next heq =>
      obtain rfl := Option.some.inj hv
      exact ⟨hlike.folder, heq ▸ hlike.file⟩
    · exact h.writer n v hv
  | close name =>
    refine ⟨fun n v hv => ?_, h.log⟩
    rw [Dict.get?_erase] at hv
    split at hv
    · cases hv
    · exact h.writer n v hv
  | pause name paused =>
    refine ⟨fun n v hv => ?_, h.log⟩
    rw [Dict.get?_adjust] at hv
    split at hv
    · obtain ⟨w, hw, rfl⟩ := Option.map_eq_some_iff.mp hv
      exact h.writer n w hw
    · exact h.writer n v hv
  | @sample d l x sensor hframe =>
    have hall (names : List String) : ∀ {d : Desk}, d.Named s → (names.foldl (Desk.deliver x) d).Named s := by
      induction names with
      | nil => exact fun h => h
      | cons name rest ih => exact fun h => ih (h.deliver x name)
    exact hall _ h
  | fall | rise => exact ⟨fun _ _ hw => (by cases hw), fun _ hlg => (by cases hlg)⟩

lemma Named.enters (h : x.1.Named s) (henters : Enters s x y) : y.1.Named s := by
  induction henters with
  | refl => exact h
  | tail _ hentered ih => exact ih.booked hentered.booked

/-! ## Files that are open -/

/-- Two loggers have one file open when their names lead to one place. -/
lemma handle_eq_iff {files : FileStore} (hs : files.Sound 0) {folder : Path} {file file' : String} {p p' : Path}
    {id id' : Nat} (hplace : files.locate folder file = .ok p) (hplace' : files.locate folder file' = .ok p')
    (hfind : files.find? p = some (.file id)) (hfind' : files.find? p' = some (.file id')) :
    some id = some id' ↔ files.locate folder file = files.locate folder file' := by
  rw [hplace, hplace']
  constructor
  · intro heq
    obtain rfl := Option.some.inj heq
    exact congrArg Except.ok (hs.inj p p' id (Nat.zero_le _) hfind hfind')
  · intro heq
    obtain rfl := Except.ok.inj heq
    simpa using hfind.symm.trans hfind'

end Desk

namespace Run

variable {s : Setup} {r : Run} {name name' : String} {w w' : RecordWriter FileLogger}

/-- Whatever others do to the files, loggers keep their names. -/
lemma named_after (h : r.desk.Named s) (m : Move) : (r.after s m).desk.Named s := by
  have hown (hother : ∀ shared, m ≠ .others shared) : (r.after s m).desk.Named s := by
    obtain ⟨l, henters⟩ := exists_enters (s := s) [] fun shared hm => absurd hm (hother shared)
    exact Desk.Named.enters (x := (r.desk, [])) h henters
  cases m with
  | others shared => exact ⟨h.writer, h.log⟩
  | _ => exact hown (by simp)

lemma named_afterAll (h : r.desk.Named s) (moves : List Move) : (r.afterAll s moves).desk.Named s := by
  induction moves generalizing r with
  | nil => exact h
  | cons m rest ih => exact ih (named_after h m)

/-- Open records share a path exactly when one of their names is the other one completed, and a record shares that of
the log exactly when it bears the name of its file.  The files that loggers have open are one as far as their names
lead to one place, which names with slashes may do that differ in more. -/
theorem open_loggers_share_files (x : Ensemble) (s : Setup) (moves : List Move) :
    let r := (x.newRun s).afterAll s moves
    (∀ name name' w w', r.writers.get? name = some w → r.writers.get? name' = some w' →
      w.sink.path = pathOf s.folder (recordFile name) ∧
      ('/' ∉ name.toList → '/' ∉ name'.toList →
        (w.sink.path = w'.sink.path ↔ name = name' ∨ Completes name name' ∨ Completes name' name))) ∧
    (∀ name w lg, r.writers.get? name = some w → r.log = some lg → '/' ∉ name.toList →
      (w.sink.path = lg.path ↔ name = logFile)) ∧
    (x.files.Sound 0 → (x.newRun s).AllUnshared s moves →
      (∀ name name' w w', r.writers.get? name = some w → r.writers.get? name' = some w' →
        (w.sink.handle = w'.sink.handle ↔
          r.files.locate s.folder (recordFile name) = r.files.locate s.folder (recordFile name'))) ∧
      ∀ name w lg, r.writers.get? name = some w → r.log = some lg → lg.isOpen = true →
        (w.sink.handle = lg.handle ↔
          r.files.locate s.folder (recordFile name) = r.files.locate s.folder logFile)) := by
  intro r
  have hnamed : r.desk.Named s :=
    named_afterAll (r := x.newRun s) ⟨fun _ _ h => (by cases h), fun _ h => (by cases h)⟩ moves
  have hpath {name : String} {w : RecordWriter FileLogger} (hw : r.writers.get? name = some w) :
      w.sink.path = pathOf s.folder (recordFile name) := by
    obtain ⟨hfolder, hfile⟩ := hnamed.writer name w hw
    rw [FileLogger.path, hfolder, hfile]
  have hplain {name name' : String} (hslash : '/' ∉ name.toList) (hslash' : '/' ∉ name'.toList) :
      pathOf s.folder (recordFile name) = pathOf s.folder (recordFile name') ↔ recordFile name = recordFile name' := by
    rw [pathOf_recordFile _ hslash, pathOf_recordFile _ hslash', List.append_right_inj, List.singleton_inj]
  refine ⟨fun name name' w w' hw hw' => ⟨hpath hw, fun hslash hslash' => ?_⟩, fun name w lg hw hlg hslash => ?_,
    fun hfiles hmoves => ?_⟩
  · rw [hpath hw, hpath hw', hplain hslash hslash', recordFile_eq_iff]
  · obtain ⟨hfolder, hfile⟩ := hnamed.log lg hlg
    have hlog : lg.path = pathOf s.folder (recordFile logFile) := by
      rw [FileLogger.path, hfolder, hfile, recordFile_logFile]
    rw [hpath hw, hlog, hplain hslash (by decide), recordFile_logFile, recordFile_eq_logFile_iff]
  · have hfiled := filed_afterAll (filed_newRun (s := s) hfiles) hmoves
    have hplace {name : String} {w : RecordWriter FileLogger} (hw : r.writers.get? name = some w) :
        ∃ p id, r.files.locate s.folder (recordFile name) = .ok p ∧ r.files.find? p = some (.file id) ∧
          w.sink.handle = some id := by
      obtain ⟨e, -, rfl, -, htends⟩ := hfiled.owner name w hw
      obtain ⟨p, id, image, hplace, hfind, hserves⟩ := htends.serves
      exact ⟨p, id, hplace, hfind, hserves.handle⟩
    refine ⟨fun name name' w w' hw hw' => ?_, fun name w lg hw hlg hopen => ?_⟩
    · obtain ⟨p, id, hplaced, hfind, hhandle⟩ := hplace hw
      obtain ⟨p', id', hplaced', hfind', hhandle'⟩ := hplace hw'
      rw [hhandle, hhandle']
      exact Desk.handle_eq_iff hfiled.files hplaced hplaced' hfind hfind'
    · obtain ⟨p, id, hplaced, hfind, hhandle⟩ := hplace hw
      obtain ⟨id', hhandle'⟩ := Option.isSome_iff_exists.mp hopen
      obtain ⟨p', hplaced', hfind'⟩ := (hfiled.log lg hlg).handle id' hhandle'
      rw [hhandle, hhandle']
      exact Desk.handle_eq_iff hfiled.files hplaced hplaced' hfind hfind'

/-- A scenario with two records of one file and one in the place of the log, which is written to. -/
def sharingSetup : Setup :=
  let create (name sensor next : String) : Node :=
    { Node.ofPrimitive .recordCreate with
      arguments := .obj [("name", .str name), ("sensors", .str sensor)], next := [some next] }
  let note : Node :=
    { Node.ofPrimitive .logInfo with arguments := .obj [("message", .str "begun")], next := [some "e"] }
  { definition :=
      { scenarioId := 1
        content :=
          { entry := "a"
            nodes :=
              [("a", create "walk" SensorType.acc "b"), ("b", create "walk.bin" SensorType.gyr "c"),
                ("c", create logFile SensorType.gyr "d"), ("d", note), ("e", Node.ofPrimitive .waitNext)] } }
    folder := ["run"] }

/-- The records are created, and the log is written to. -/
def sharingMoves : List Move := [.start, .step 0, .step 0, .step 0, .step 0, .step 0]

/-- Two records with one file, and another one with that of the log. -/
theorem open_loggers_share_files_twice :
    let r := (({ files := {} } : Ensemble).newRun sharingSetup).afterAll sharingSetup sharingMoves
    ∃ w w' v lg, r.writers.get? "walk" = some w ∧ r.writers.get? "walk.bin" = some w' ∧
      r.writers.get? logFile = some v ∧ r.log = some lg ∧ w.sink.path = w'.sink.path ∧ v.sink.path = lg.path ∧
      w.sink.handle = w'.sink.handle ∧ v.sink.handle = lg.handle ∧ w.sink.handle ≠ v.sink.handle := by
  intro r
  have hopen : (r.writers.get? "walk").isSome ∧ (r.writers.get? "walk.bin").isSome ∧
      (r.writers.get? logFile).isSome ∧ r.log.isSome := by decide +kernel
  obtain ⟨w, hw⟩ := Option.isSome_iff_exists.mp hopen.1
  obtain ⟨w', hw'⟩ := Option.isSome_iff_exists.mp hopen.2.1
  obtain ⟨v, hv⟩ := Option.isSome_iff_exists.mp hopen.2.2.1
  obtain ⟨lg, hlg⟩ := Option.isSome_iff_exists.mp hopen.2.2.2
  have hlog : r.log.map (·.isOpen) = some true := by decide +kernel
  have hplaces : r.files.locate ["run"] (recordFile "walk") = r.files.locate ["run"] (recordFile "walk.bin") ∧
      r.files.locate ["run"] (recordFile "walk") ≠ r.files.locate ["run"] logFile := by decide +kernel
  have hmoves : (({ files := {} } : Ensemble).newRun sharingSetup).AllUnshared sharingSetup sharingMoves := by
    simp [sharingMoves, AllUnshared, Unshared]
  obtain ⟨hrecords, hnotes, hhandles⟩ := open_loggers_share_files { files := {} } sharingSetup sharingMoves
  obtain ⟨hfiles, hlogs⟩ := hhandles FileStore.sound_empty hmoves
  refine ⟨w, w', v, lg, hw, hw', hv, hlg, ?_, ?_, ?_, ?_, ?_⟩
  · exact ((hrecords _ _ w w' hw hw').2 (by decide) (by decide)).mpr (.inr (.inl ⟨by decide +kernel, by decide, rfl⟩))
  · exact (hnotes _ v lg hv hlg (by decide)).mpr rfl
  · exact (hfiles _ _ w w' hw hw').mpr hplaces.1
  · exact (hlogs _ v lg hv hlg (by simpa [hlg] using hlog)).mpr (congrArg _ recordFile_logFile)
  · intro heq
    have hsame := (hfiles _ _ w v hw hv).mp heq
    rw [recordFile_logFile] at hsame
    exact hplaces.2 hsame

/-- Two open records of different names write to one file: the header of the second stands behind that of the first, and
a sample of each lands there, in whatever order the writers are closed. -/
theorem open_loggers_share_files_corrupt :
    let one : Single := ⟨0x3f800000⟩
    let moves : List Move := sharingMoves ++
      [.sample "main" SensorType.acc 5 [one], .sample "main" SensorType.gyr 6 [one]]
    let r := (({ files := {} } : Ensemble).newRun sharingSetup).afterAll sharingSetup moves
    (r.writers.get? "walk").map (·.sink.path) = some ["run", "walk.bin"] ∧
      (r.writers.get? "walk.bin").map (·.sink.path) = some ["run", "walk.bin"] ∧
      ∀ writers, writers.Perm r.writers →
        let acc := RecordWriter.phoneHeader ++ (⟨Phone.accId, 5, [one]⟩ : PhoneSample).bytes
        let gyr := RecordWriter.phoneHeader ++ (⟨Phone.gyrId, 6, [one]⟩ : PhoneSample).bytes
        (({ r with writers } : Run).stop sharingSetup none).files.read? ["run", "walk.bin"] = some (acc ++ gyr) ∨
          (({ r with writers } : Run).stop sharingSetup none).files.read? ["run", "walk.bin"] = some (gyr ++ acc) := by
  intro one moves r
  refine ⟨by decide +kernel, by decide +kernel, fun writers hperm => ?_⟩
  have horders : ∀ writers ∈ r.writers.permutations',
      let acc := RecordWriter.phoneHeader ++ (⟨Phone.accId, 5, [one]⟩ : PhoneSample).bytes
      let gyr := RecordWriter.phoneHeader ++ (⟨Phone.gyrId, 6, [one]⟩ : PhoneSample).bytes
      (({ r with writers } : Run).stop sharingSetup none).files.read? ["run", "walk.bin"] = some (acc ++ gyr) ∨
        (({ r with writers } : Run).stop sharingSetup none).files.read? ["run", "walk.bin"] = some (gyr ++ acc) := by
    decide +kernel
  exact horders writers (List.mem_permutations'.mpr hperm)

end Run

end FieldStudy

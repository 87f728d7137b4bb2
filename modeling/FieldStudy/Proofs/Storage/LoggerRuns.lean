import Mathlib.Data.List.Basic
import Mathlib.Tactic.Common
import FieldStudy.Proofs.Storage.FileLogger

/-!
# Runs of a logger

At any time the writes that a logger has taken are a list of those in its file and then those that it keeps back,
which are fewer than it was made for (`FileLogger.Holds`).  A write extends the list, a flush moves the boundary to its
end, and nothing else happens to it; so no run loses a write or stores one twice (`FileLogger.run_stored`).
-/

namespace FieldStudy

/-- The contents of the file at a path, which are empty if there is none. -/
def FileStore.contentsAt (s : FileStore) (p : Path) : List UInt8 := (s.read? p).getD []

lemma FileStore.exists_openAppend {s : FileStore} {folder p : Path} {name : String}
    (hplace : s.locate folder name = .ok p) (hfolder : s.find? p ≠ some .folder) :
    ∃ id s', s.openAppend folder name = .ok (id, s') := by
  rw [openAppend, hplace]
  dsimp only
  split
  · exact ⟨_, _, rfl⟩
  · next h => exact absurd h hfolder
  · exact ⟨_, _, rfl⟩

/-! ## Calls -/

/-- A call on a logger. -/
inductive LoggerCall
  | write (data : List UInt8)
  | writeLine (line : String)
  | flush
  | setPaused (paused : Bool)
  | close
deriving DecidableEq, Repr

/-- What a call is to write; none if it is not to write. -/
def LoggerCall.data? : LoggerCall → Option (List UInt8)
  | .write data => some data
  | .writeLine line => some (Utf8.encode (line.toList ++ ['\n']))
  | .flush | .setPaused _ | .close => none

/-- A call that was made, whether the logger was paused then, and its outcome. -/
structure LoggerRecord where
  call : LoggerCall
  paused : Bool
  outcome : Except IoError Unit
deriving DecidableEq, Repr

/-- The data of a write that was made while the logger was not paused. -/
def LoggerRecord.data? (r : LoggerRecord) : Option (List UInt8) :=
  if r.paused then none else r.call.data?

namespace FileLogger

def call (l : FileLogger) (s : FileStore) : LoggerCall → Except IoError Unit × FileLogger × FileStore
  | .write data => l.write data s
  | .writeLine line => l.writeLine line s
  | .flush => l.flush s
  | .setPaused paused => (.ok (), l.setPaused paused, s)
  | .close => l.close s

/-- Makes calls one after another, whatever their outcomes. -/
def run (l : FileLogger) (s : FileStore) : List LoggerCall → List LoggerRecord × FileLogger × FileStore
  | [] => ([], l, s)
  | c :: rest =>
    let (outcome, l', s') := l.call s c
    let (records, last) := l'.run s' rest
    (⟨c, l.paused, outcome⟩ :: records, last)

/-- Gives up a logger, which closes it. -/
def drop (l : FileLogger) (s : FileStore) : FileStore := (l.close s).2.2

/-! ## What a logger holds -/

/-- The writes that a logger has taken are those that are stored behind the `initial` contents of its file and those
that are kept back.  The file is there if it has `existed` or there has been a write. -/
structure Holds (n : Nat) (p : Path) (existed : Bool) (initial : List UInt8) (l : FileLogger) (s : FileStore)
    (stored kept : List (List UInt8)) : Prop where
  sound : s.Sound n
  place : s.locate l.folder l.file = .ok p
  notFolder : s.find? p ≠ some .folder
  isOpen : ∀ id, l.handle = some id → s.find? p = some (.file id)
  closed : l.handle = none → kept = []
  pending : l.pending = kept.flatten
  count : l.pendingCount = kept.length
  contents : s.contentsAt p = initial ++ stored.flatten
  named : (s.find? p).isSome ↔ existed ∨ stored ++ kept ≠ []

namespace Holds

variable {n : Nat} {p : Path} {existed : Bool} {initial : List UInt8} {l : FileLogger} {s : FileStore}
  {stored kept : List (List UInt8)}

lemma contentsAt_of_open (h : Holds n p existed initial l s stored kept) {id : Nat} (hid : l.handle = some id) :
    s.contentsAt p = s.bytes id := by
  rw [FileStore.contentsAt, FileStore.read?_of_find? (h.isOpen id hid)]
  rfl

/-- Appending what is pending: no failure is possible, as there is nothing to append unless the file is open. -/
lemma flush_eq (h : Holds n p existed initial l s stored kept) :
    ∃ s', l.flush s = (.ok (), { l with pending := [], pendingCount := 0 }, s') ∧
      (∀ q, s'.find? q = s.find? q) ∧ s'.contents.length = s.contents.length ∧
      s'.contentsAt p = s.contentsAt p ++ kept.flatten := by
  by_cases hnil : l.pending = []
  · refine ⟨s, ?_, fun _ => rfl, rfl, by simp [← h.pending, hnil]⟩
    rw [FileLogger.flush, hnil]
    rfl
  · obtain ⟨id, hid⟩ : ∃ id, l.handle = some id := by
      refine Option.ne_none_iff_exists'.1 fun hclosed => hnil ?_
      rw [h.pending, h.closed hclosed]
      rfl
    have hlt : id < s.contents.length := h.sound.lt p id (h.isOpen id hid)
    have happended := FileStore.Appended.append hlt l.pending
    have hopen : l.openFile s = .ok (id, s) := by simp [openFile, hid]
    refine ⟨s.append id l.pending, ?_, happended.find, happended.length, ?_⟩
    · rw [FileLogger.flush, if_neg (by simpa using hnil)]
      dsimp only
      rw [hopen]
      simp [hid]
    · rw [h.contentsAt_of_open hid, ← h.pending, ← happended.bytes, FileStore.contentsAt,
        FileStore.read?_of_find? ((happended.find p).trans (h.isOpen id hid))]
      rfl

lemma flush (h : Holds n p existed initial l s stored kept) :
    ∃ l' s', l.flush s = (.ok (), l', s') ∧ Holds n p existed initial l' s' (stored ++ kept) [] ∧
      l'.bufferCount = l.bufferCount := by
  obtain ⟨s', hflush, hfind, hlength, hcontents⟩ := h.flush_eq
  refine ⟨_, s', hflush, ?_, rfl⟩
  exact {
    sound := h.sound.of_find? hfind hlength
    place := FileStore.locate_within (.of_find? hfind) h.place
    notFolder := hfind p ▸ h.notFolder
    isOpen := fun id hid => (hfind p).trans (h.isOpen id hid)
    closed := fun _ => rfl
    pending := rfl
    count := rfl
    contents := by rw [hcontents, h.contents, List.append_assoc, List.flatten_append]
    named := by rw [hfind p, List.append_nil]; exact h.named }

lemma close (h : Holds n p existed initial l s stored kept) :
    ∃ l' s', l.close s = (.ok (), l', s') ∧ Holds n p existed initial l' s' (stored ++ kept) [] ∧
      l'.bufferCount = l.bufferCount := by
  cases hid : l.handle with
  | none =>
    obtain rfl := h.closed hid
    refine ⟨l, s, by rw [FileLogger.close, hid], ?_, rfl⟩
    rwa [List.append_nil]
  | some id =>
    obtain ⟨l', s', hflush, hholds, hcount⟩ := h.flush
    refine ⟨{ l' with handle := none }, s', by rw [FileLogger.close, hid]; simp [hflush], ?_, hcount⟩
    exact { hholds with isOpen := by simp, closed := fun _ => rfl }

lemma setPaused (h : Holds n p existed initial l s stored kept) (paused : Bool) :
    Holds n p existed initial (l.setPaused paused) s stored kept :=
  { h with }

/-- The file can be opened, and what was pending stays so. -/
lemma openFile (h : Holds n p existed initial l s stored kept) :
    ∃ id s', l.openFile s = .ok (id, s') ∧ s'.Sound n ∧ s'.locate l.folder l.file = .ok p ∧
      s'.find? p = some (.file id) ∧ s'.contentsAt p = s.contentsAt p := by
  cases hid : l.handle with
  | some id =>
    exact ⟨id, s, by rw [FileLogger.openFile, hid], h.sound, h.place, h.isOpen id hid, rfl⟩
  | none =>
    obtain ⟨id, s', hopen⟩ := FileStore.exists_openAppend h.place h.notFolder
    obtain ⟨q, hopened⟩ := FileStore.opened h.sound hopen
    obtain rfl : p = q := Except.ok.inj (h.place.symm.trans hopened.place)
    refine ⟨id, s', by rw [FileLogger.openFile, hid]; exact hopen, hopened.sound h.sound,
      FileStore.locate_within hopened.within h.place, hopened.find, ?_⟩
    rw [FileStore.contentsAt, FileStore.contentsAt, FileStore.read?_of_find? hopened.find]
    obtain hold | ⟨hnone, -, hempty⟩ := hopened.new
    · rw [FileStore.read?_of_find? hold, hopened.bytes id (h.sound.lt p id hold)]
    · simp [FileStore.read?, hnone, hempty]

/-- A write is kept back together with what was kept back before it, until these are enough. -/
lemma write (h : Holds n p existed initial l s stored kept) (hfew : kept.length < l.bufferCount)
    (hpaused : l.paused = false) (data : List UInt8) :
    ∃ l' s' stored' kept', l.write data s = (.ok (), l', s') ∧ Holds n p existed initial l' s' stored' kept' ∧
      stored' ++ kept' = stored ++ kept ++ [data] ∧ kept'.length < l'.bufferCount ∧
      l'.bufferCount = l.bufferCount := by
  obtain ⟨id, s₁, hopen, hsound, hplace, hfind, hcontents⟩ := h.openFile
  have htaken : Holds n p existed initial
      { l with handle := some id, pending := l.pending ++ data, pendingCount := l.pendingCount + 1 } s₁
      stored (kept ++ [data]) := {
    sound := hsound
    place := hplace
    notFolder := by rw [hfind]; nofun
    isOpen := fun id' hid => by rw [hfind, Option.some.inj hid]
    closed := nofun
    pending := by simp [h.pending]
    count := by simp [h.count]
    contents := hcontents.trans h.contents
    named := by simp [hfind] }
  rw [FileLogger.write, if_neg (by simp [hpaused]), hopen]
  dsimp only
  split
  · obtain ⟨l', s', hflush, hholds, hcount⟩ := htaken.flush
    refine ⟨l', s', _, [], hflush, hholds, by simp, ?_, hcount⟩
    rw [hcount]
    exact Nat.zero_lt_of_lt hfew
  · next hmore =>
    refine ⟨_, s₁, stored, kept ++ [data], rfl, htaken, by simp, ?_, rfl⟩
    simpa [h.count] using hmore

/-- A call takes the write that it is to make, unless the logger is paused. -/
lemma call (h : Holds n p existed initial l s stored kept) (hfew : kept.length < l.bufferCount) (c : LoggerCall) :
    ∃ l' s' stored' kept', l.call s c = (.ok (), l', s') ∧ Holds n p existed initial l' s' stored' kept' ∧
      stored' ++ kept' = stored ++ kept ++ (LoggerRecord.data? ⟨c, l.paused, .ok ()⟩).toList ∧
      kept'.length < l'.bufferCount ∧ l'.bufferCount = l.bufferCount ∧
      (c = .flush ∨ c = .close → l'.pending = []) := by
  have hwrite (data : List UInt8) (hc : c.data? = some data) (hcall : l.call s c = l.write data s) :
      ∃ l' s' stored' kept', l.call s c = (.ok (), l', s') ∧ Holds n p existed initial l' s' stored' kept' ∧
        stored' ++ kept' = stored ++ kept ++ (LoggerRecord.data? ⟨c, l.paused, .ok ()⟩).toList ∧
        kept'.length < l'.bufferCount ∧ l'.bufferCount = l.bufferCount := by
    rw [hcall, LoggerRecord.data?]
    cases hpaused : l.paused with
    | true => exact ⟨l, s, stored, kept, by simp [FileLogger.write, hpaused], h, by simp, hfew, rfl⟩
    | false =>
      obtain ⟨l', s', stored', kept', hok, hholds, htaken, hfew', hcount⟩ := h.write hfew hpaused data
      exact ⟨l', s', stored', kept', hok, hholds, by simpa [hc] using htaken, hfew', hcount⟩
  have hpos : 0 < l.bufferCount := Nat.zero_lt_of_lt hfew
  cases c with
  | write data =>
    obtain ⟨l', s', stored', kept', hok, hholds, htaken, hfew', hcount⟩ := hwrite data rfl rfl
    exact ⟨l', s', stored', kept', hok, hholds, htaken, hfew', hcount, by simp⟩
  | writeLine line =>
    obtain ⟨l', s', stored', kept', hok, hholds, htaken, hfew', hcount⟩ := hwrite _ rfl rfl
    exact ⟨l', s', stored', kept', hok, hholds, htaken, hfew', hcount, by simp⟩
  | flush =>
    obtain ⟨l', s', hok, hholds, hcount⟩ := h.flush
    exact ⟨l', s', _, [], hok, hholds, by simp [LoggerRecord.data?, LoggerCall.data?], hcount ▸ hpos, hcount,
      fun _ => hholds.pending⟩
  | setPaused paused =>
    exact ⟨_, s, stored, kept, rfl, h.setPaused paused, by simp [LoggerRecord.data?, LoggerCall.data?], hfew, rfl,
      by simp⟩
  | close =>
    obtain ⟨l', s', hok, hholds, hcount⟩ := h.close
    exact ⟨l', s', _, [], hok, hholds, by simp [LoggerRecord.data?, LoggerCall.data?], hcount ▸ hpos, hcount,
      fun _ => hholds.pending⟩

/-- A run takes the writes of its calls in their order. -/
lemma run (h : Holds n p existed initial l s stored kept) (hfew : kept.length < l.bufferCount)
    (calls : List LoggerCall) {records : List LoggerRecord} {l' : FileLogger} {s' : FileStore}
    (hrun : l.run s calls = (records, l', s')) :
    (∀ r ∈ records, r.outcome = .ok ()) ∧ ∃ stored' kept', Holds n p existed initial l' s' stored' kept' ∧
      stored' ++ kept' = stored ++ kept ++ records.filterMap (·.data?) ∧ kept'.length < l'.bufferCount ∧
      l'.bufferCount = l.bufferCount ∧
      (calls.getLast? = some .flush ∨ calls.getLast? = some .close → l'.pending = []) := by
  induction calls generalizing l s stored kept records with
  | nil =>
    obtain ⟨rfl, rfl, rfl⟩ : [] = records ∧ l = l' ∧ s = s' := by simpa [FileLogger.run] using hrun
    exact ⟨by simp, stored, kept, h, by simp, hfew, rfl, by simp⟩
  | cons c rest ih =>
    obtain ⟨l₁, s₁, stored₁, kept₁, hok, hholds, htaken, hfew₁, hcount₁, hlast₁⟩ := h.call hfew c
    rcases hrest : l₁.run s₁ rest with ⟨later, l₂, s₂⟩
    obtain ⟨rfl, rfl, rfl⟩ : ⟨c, l.paused, .ok ()⟩ :: later = records ∧ l₂ = l' ∧ s₂ = s' := by
      simpa [FileLogger.run, hok, hrest] using hrun
    obtain ⟨hall, stored', kept', hholds', htaken', hfew', hcount', hlast'⟩ := ih hholds hfew₁ hrest
    refine ⟨by simpa using hall, stored', kept', hholds', ?_, hfew', hcount'.trans hcount₁, ?_⟩
    · rw [htaken', htaken, List.append_assoc]
      cases hdata : LoggerRecord.data? ⟨c, l.paused, .ok ()⟩ <;> simp [hdata]
    · cases rest with
      | nil =>
        obtain ⟨-, rfl, rfl⟩ : [] = later ∧ l₁ = l₂ ∧ s₁ = s₂ := by simpa [FileLogger.run] using hrest
        simpa using hlast₁
      | cons next more => simpa using hlast'

end Holds

/-! ## Runs of a new logger -/

/-- A new logger has taken nothing. -/
lemma holds_new {n : Nat} {s : FileStore} (hs : s.Sound n) {folder p : Path} {name extension : String}
    (hplace : s.locate folder (fileName name extension) = .ok p) (hfolder : s.find? p ≠ some .folder)
    (bufferCount : Nat) :
    Holds n p (s.find? p).isSome (s.contentsAt p) (new folder name extension bufferCount) s [] [] where
  sound := hs
  place := hplace
  notFolder := hfolder
  isOpen := nofun
  closed := fun _ => rfl
  pending := rfl
  count := rfl
  contents := (List.append_nil _).symm
  named := by simp

/-- If the file of a logger can be opened then every call succeeds, and after any calls the writes that were made
while it was not paused are in the file, behind what it had held before, but for the last few, which are pending: less
than the logger was made for, and none if its file is not open, or after a flush, a close or a drop.  The file
is there if it was before or there has been a write.  A logger whose file cannot be opened answers a write with the
failure and stays as it is. -/
theorem run_stored {n : Nat} {s : FileStore} (hs : s.Sound n) {folder p : Path} {name extension : String}
    (hplace : s.locate folder (fileName name extension) = .ok p) (hfolder : s.find? p ≠ some .folder)
    (bufferCount : Nat) (calls : List LoggerCall) {records : List LoggerRecord} {l : FileLogger} {s' : FileStore}
    (hrun : (new folder name extension bufferCount).run s calls = (records, l, s')) :
    (∀ r ∈ records, r.outcome = .ok ()) ∧
    (∃ stored kept, records.filterMap (·.data?) = stored ++ kept ∧
      s'.contentsAt p = s.contentsAt p ++ stored.flatten ∧ l.pending = kept.flatten ∧
      l.pendingCount = kept.length ∧ kept.length < max bufferCount 1) ∧
    s'.contentsAt p ++ l.pending = s.contentsAt p ++ (records.filterMap (·.data?)).flatten ∧
    (l.isOpen = false → l.pending = []) ∧
    (calls.getLast? = some .flush ∨ calls.getLast? = some .close →
      l.pending = [] ∧ s'.contentsAt p = s.contentsAt p ++ (records.filterMap (·.data?)).flatten) ∧
    (l.drop s').contentsAt p = s.contentsAt p ++ (records.filterMap (·.data?)).flatten ∧
    ((s'.find? p).isSome ↔ (s.find? p).isSome ∨ records.filterMap (·.data?) ≠ []) ∧
    ∀ (other : FileLogger) (store : FileStore) (data : List UInt8) (e : IoError), other.paused = false →
      other.openFile store = .error e → other.write data store = (.error e, other, store) := by
  have hnew := holds_new hs hplace hfolder bufferCount
  obtain ⟨hall, stored, kept, hholds, htaken, hfew, hcount, hlast⟩ :=
    hnew.run (Nat.lt_of_lt_of_le Nat.zero_lt_one (Nat.le_max_right bufferCount 1)) calls hrun
  rw [List.append_nil, List.nil_append] at htaken
  refine ⟨hall, ⟨stored, kept, htaken.symm, hholds.contents, hholds.pending, hholds.count, ?_⟩, ?_, ?_, ?_, ?_, ?_, ?_⟩
  · rwa [hcount] at hfew
  · rw [hholds.contents, hholds.pending, ← htaken, List.flatten_append, List.append_assoc]
  · intro hclosed
    rw [hholds.pending, hholds.closed (by simpa [isOpen] using hclosed)]
    rfl
  · intro hend
    have hnil := hlast hend
    rw [hholds.pending] at hnil
    exact ⟨hlast hend, by rw [← htaken, List.flatten_append, hnil, List.append_nil, hholds.contents]⟩
  · obtain ⟨l', s'', hclose, hdropped, -⟩ := hholds.close
    rw [drop, hclose, hdropped.contents, htaken]
  · exact htaken ▸ hholds.named
  · exact fun other store data e hpaused hopen => write_of_failure hopen hpaused data

/-- A folder with a file of two bytes. -/
def notesStore : FileStore :=
  { entries := [(["study"], .folder), (["study", "notes.log"], .file 0)], contents := [[1, 2]] }

/-- Writes of which one is empty and two are made while the logger is paused, between them a close. -/
def notesCalls : List LoggerCall :=
  [.write [3], .setPaused true, .write [4], .flush, .setPaused false, .write [], .close, .writeLine "a",
    .write [5], .write [6], .setPaused true, .writeLine "b"]

theorem run_stored_notes : notesStore.Sound 0 ∧
    notesStore.locate ["study"] (fileName "notes" "log") = .ok ["study", "notes.log"] ∧
    notesStore.find? ["study", "notes.log"] ≠ some .folder ∧
    ∃ l s', ((new ["study"] "notes" "log" 3).run notesStore notesCalls).2 = (l, s') ∧
      s'.contentsAt ["study", "notes.log"] ++ l.pending = [1, 2, 3, 97, 10, 5, 6] ∧
      (l.drop s').contentsAt ["study", "notes.log"] = [1, 2, 3, 97, 10, 5, 6] := by
  have hfind (p : Path) (id : Nat) (h : notesStore.find? p = some (.file id)) :
      p = ["study", "notes.log"] ∧ id = 0 := by
    unfold FileStore.find? at h
    split at h
    · cases h
    · obtain ⟨⟨q, entry⟩, hfound, rfl⟩ := Option.map_eq_some_iff.1 h
      have hpath : q = p := by simpa using List.find?_some hfound
      have hentry := List.mem_of_find?_eq_some hfound
      simp only [notesStore, List.mem_cons, Prod.mk.injEq, List.not_mem_nil, or_false] at hentry
      obtain ⟨-, hfolder⟩ | ⟨rfl, hfile⟩ := hentry
      · cases hfolder
      · exact ⟨hpath.symm, FileEntry.file.inj hfile⟩
  have hsound : notesStore.Sound 0 :=
    ⟨Nat.zero_le _, fun p id hp => (hfind p id hp).2 ▸ Nat.zero_lt_one,
      fun p q id _ hp hq => (hfind p id hp).1.trans (hfind q id hq).1.symm⟩
  have hplace : notesStore.locate ["study"] (fileName "notes" "log") = .ok ["study", "notes.log"] := by
    decide +kernel
  have hfolder : notesStore.find? ["study", "notes.log"] ≠ some .folder := by decide +kernel
  obtain ⟨-, -, htotal, -, -, hdrop, -⟩ := run_stored hsound hplace hfolder 3 notesCalls rfl
  have hdata : notesStore.contentsAt ["study", "notes.log"] ++
      (((new ["study"] "notes" "log" 3).run notesStore notesCalls).1.filterMap (·.data?)).flatten =
        [1, 2, 3, 97, 10, 5, 6] := by decide +kernel
  exact ⟨hsound, hplace, hfolder, _, _, rfl, htotal.trans hdata, hdrop.trans hdata⟩

end FileLogger

end FieldStudy

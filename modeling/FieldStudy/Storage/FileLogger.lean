import FieldStudy.Storage.FileName
import FieldStudy.Storage.FileStore
import FieldStudy.Recording.Writer

/-!
# Loggers that append to files

A logger opens its file when it is first written to and keeps the data of some writes back before it
appends them. While it is paused, writes are dropped.
-/

namespace FieldStudy

/-- A logger for one file of a folder. `handle` is the number of its open file. -/
structure FileLogger where
  folder : Path
  file : String
  bufferCount : Nat
  handle : Option Nat := none
  pending : List UInt8 := []
  pendingCount : Nat := 0
  paused : Bool := false
deriving DecidableEq, Repr

namespace FileLogger

/-- The number of writes that are kept back unless one asks otherwise. -/
def defaultBufferCount : Nat := 10

/-- A logger that appends after every `bufferCount` writes, at least after each. -/
def new (folder : Path) (name extension : String) (bufferCount : Nat) : FileLogger :=
  { folder, file := fileName name extension, bufferCount := max bufferCount 1 }

def isOpen (l : FileLogger) : Bool := l.handle.isSome

/-- The number of the open file, which is opened if it is not. -/
def openFile (l : FileLogger) (s : FileStore) : Except IoError (Nat × FileStore) :=
  match l.handle with
  | some id => .ok (id, s)
  | none => s.openAppend l.folder l.file

/-- Appends what is pending. -/
def flush (l : FileLogger) (s : FileStore) : Except IoError Unit × FileLogger × FileStore :=
  if l.pending.isEmpty then (.ok (), { l with pendingCount := 0 }, s)
  else
    let emptied := { l with pending := [], pendingCount := 0 }
    match l.openFile s with
    | .error e => (.error e, emptied, s)
    | .ok (id, s) => (.ok (), { emptied with handle := some id }, s.append id l.pending)

/-- Writes data, and appends what is pending once enough writes are. -/
def write (l : FileLogger) (data : List UInt8) (s : FileStore) :
    Except IoError Unit × FileLogger × FileStore :=
  if l.paused then (.ok (), l, s)
  else match l.openFile s with
    | .error e => (.error e, l, s)
    | .ok (id, s) =>
      let l := { l with
        handle := some id, pending := l.pending ++ data, pendingCount := l.pendingCount + 1 }
      if l.bufferCount ≤ l.pendingCount then l.flush s else (.ok (), l, s)

/-- Writes a line of text. -/
def writeLine (l : FileLogger) (line : String) (s : FileStore) :
    Except IoError Unit × FileLogger × FileStore :=
  l.write (Utf8.encode (line.toList ++ ['\n'])) s

def setPaused (l : FileLogger) (paused : Bool) : FileLogger := { l with paused }

/-- Appends what is pending and closes the file. Dropping a logger does the same. -/
def close (l : FileLogger) (s : FileStore) : Except IoError Unit × FileLogger × FileStore :=
  match l.handle with
  | none => (.ok (), l, s)
  | some _ =>
    let (r, l, s) := l.flush s
    (r, { l with handle := none }, s)

end FileLogger

instance : RecordSink FileLogger FileStore where
  write := FileLogger.write
  setPaused := FileLogger.setPaused
  flush := FileLogger.flush
  close := FileLogger.close

end FieldStudy

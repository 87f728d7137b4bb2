import Mathlib.Data.List.Basic
import Mathlib.Tactic.Common
import FieldStudy.Proofs.Descriptor.Entries

/-!
# Blocks of lines

A descriptor can be read by greedy loops, one within the other (`BlockKind.Reads`): a block takes lines for as long as
it knows their keywords, a line that opens an inner block is followed by the lines of that one, and the first line that
a block does not know is left to the block around it.  These loops come to an end on all lines, as each line is taken
once (`BlockKind.Lawful`), and a draft makes of the lines what they do (`Draft.follows_reads`).

So the blocks of a text are read in turn (`Descriptor.blocks_read_in_turn`).  What was read before a line that opens a
block of the descriptor has no effect on what is read from there on, and behind a line that no block knows nothing is
read.
-/

namespace FieldStudy

/-! ## Greedy loops -/

/-- What comes of reading a block: the block and the lines that it leaves, or a failure. -/
abbrev BlockResult (β : Type) := Except RecordingError (β × List DescriptorLine)

/-- A kind of blocks.  What a block makes of a line that it knows may depend on the lines behind it: if the line opens
an inner block then that takes some of these. -/
structure BlockKind (β : Type) where
  keywords : List String
  takes : β → DescriptorLine → List DescriptorLine → BlockResult β → Prop

namespace BlockKind

variable {β γ : Type}

/-- A block takes lines for as long as it knows their keywords. -/
inductive Reads (K : BlockKind β) : β → List DescriptorLine → BlockResult β → Prop
  | atEnd (block : β) : Reads K block [] (.ok (block, []))
  | unknown {block : β} {l : DescriptorLine} {more : List DescriptorLine} (hl : l.key ∉ K.keywords) :
    Reads K block (l :: more) (.ok (block, l :: more))
  | taken {block block' : β} {l : DescriptorLine} {more rest : List DescriptorLine} {result : BlockResult β}
    (hl : l.key ∈ K.keywords) (htakes : K.takes block l more (.ok (block', rest)))
    (hrest : Reads K block' rest result) : Reads K block (l :: more) result
  | failed {block : β} {l : DescriptorLine} {more : List DescriptorLine} {e : RecordingError}
    (hl : l.key ∈ K.keywords) (htakes : K.takes block l more (.error e)) : Reads K block (l :: more) (.error e)

/-- Blocks in which each line gives one field. -/
def plain (keywords : List String) (field? : β → DescriptorLine → Option (Except RecordingError β)) :
    BlockKind β where
  keywords
  takes block l more result := ∃ r, field? block l = some r ∧ result = r.map (·, more)

/-- Blocks that also hold inner blocks: one is read from the lines behind that which opens it, and then added. -/
def holding (K : BlockKind β) (key : String) (inner : BlockKind γ) (fresh : γ) (add : β → γ → β) : BlockKind β where
  keywords := key :: K.keywords
  takes block l more result := K.takes block l more result ∨
    l.key = key ∧ ∃ found, inner.Reads fresh more found ∧ result = found.map fun (c, rest) => (add block c, rest)

end BlockKind

/-! ## The blocks of a descriptor -/

def SensorParam.kind : BlockKind SensorParam := .plain ["NAME", "DATATYPE", "VALUES", "UNIT"] SensorParam.update?

def Sensor.addParam (s : Sensor) (p : SensorParam) : Sensor := { s with params := s.params ++ [p] }

def Sensor.kind : BlockKind Sensor :=
  (BlockKind.plain ["ID", "SENSOR_NAME", "DRIVER_VERSION"] Sensor.update?).holding "PARAM" SensorParam.kind {}
    Sensor.addParam

def Axis.kind : BlockKind Axis := .plain ["NAME", "DATATYPE", "PLOT_ID", "BAR_ID", "PICTURE_ID"] Axis.update?

def FrameDescription.addAxis (f : FrameDescription) (a : Axis) : FrameDescription :=
  { f with axes := f.axes ++ [a] }

def FrameDescription.kind : BlockKind FrameDescription :=
  (BlockKind.plain ["FRAME_ID", "TIMESTAMP_DATATYPE", "INCR_TIME_DATATYPE"] FrameDescription.update?).holding "AXIS"
    Axis.kind {} FrameDescription.addAxis

def Button.kind : BlockKind Button := .plain ["NAME", "DATATYPE", "INFO", "VALUES"] Button.update?

namespace Descriptor

/-- A line of the descriptor itself gives a name. -/
def name? (d : Descriptor) (l : DescriptorLine) : Option (Except RecordingError Descriptor) :=
  match l.key with
  | "PLOT_NAME" => some (.ok { d with plotNames := d.plotNames ++ l.value.toList })
  | "PICTURE_NAME" => some (.ok { d with pictureNames := d.pictureNames ++ l.value.toList })
  | _ => none

def addSensor (d : Descriptor) (s : Sensor) : Descriptor := { d with sensors := d.sensors ++ [s] }

def addFrame (d : Descriptor) (f : FrameDescription) : Descriptor := { d with frames := d.frames ++ [f] }

def addButton (d : Descriptor) (b : Button) : Descriptor := { d with buttons := d.buttons ++ [b] }

def kind : BlockKind Descriptor :=
  (((BlockKind.plain ["PLOT_NAME", "PICTURE_NAME"] name?).holding "BUTTON" Button.kind {} addButton).holding
    "FRAME_DESC" FrameDescription.kind {} addFrame).holding "SENSOR" Sensor.kind {} addSensor

/-- The keywords of all blocks. -/
def blockKeywords : List String :=
  kind.keywords ++ Sensor.kind.keywords ++ SensorParam.kind.keywords ++ FrameDescription.kind.keywords ++
    Axis.kind.keywords ++ Button.kind.keywords

/-- The lists of one descriptor with those of another behind them. -/
def append (d d' : Descriptor) : Descriptor where
  sensors := d.sensors ++ d'.sensors
  frames := d.frames ++ d'.frames
  plotNames := d.plotNames ++ d'.plotNames
  pictureNames := d.pictureNames ++ d'.pictureNames
  buttons := d.buttons ++ d'.buttons

end Descriptor

/-! ## Loops come to an end -/

namespace BlockKind

variable {β γ : Type} {K : BlockKind β} {block block' : β} {l : DescriptorLine} {ls more rest : List DescriptorLine}
  {result result' : BlockResult β}

/-- What a block makes of a line is determined for the lines that it knows, and the lines left then are the last of
those behind it. -/
structure Lawful (K : BlockKind β) : Prop where
  known : ∀ {block l more result}, K.takes block l more result → l.key ∈ K.keywords
  total : ∀ {l : DescriptorLine}, l.key ∈ K.keywords → ∀ block more, ∃ result, K.takes block l more result
  unique : ∀ {block l more result result'}, K.takes block l more result → K.takes block l more result' →
    result = result'
  suffix : ∀ {block l more block' rest}, K.takes block l more (.ok (block', rest)) → rest <:+ more

lemma Reads.head_unknown (h : K.Reads block ls (.ok (block', rest))) : ∀ l ∈ rest.head?, l.key ∉ K.keywords := by
  generalize hresult : Except.ok (block', rest) = result at h
  induction h with
  | atEnd block =>
    obtain ⟨-, rfl⟩ := Prod.mk.inj (Except.ok.inj hresult)
    nofun
  | unknown hl =>
    obtain ⟨-, rfl⟩ := Prod.mk.inj (Except.ok.inj hresult)
    exact fun l hmem => Option.some.inj hmem ▸ hl
  | taken _ _ _ ih => exact ih hresult
  | failed => cases hresult

lemma Reads.suffix (hK : K.Lawful) (h : K.Reads block ls (.ok (block', rest))) : rest <:+ ls := by
  generalize hresult : Except.ok (block', rest) = result at h
  induction h with
  | atEnd block =>
    obtain ⟨-, rfl⟩ := Prod.mk.inj (Except.ok.inj hresult)
    exact List.suffix_rfl
  | unknown hl =>
    obtain ⟨-, rfl⟩ := Prod.mk.inj (Except.ok.inj hresult)
    exact List.suffix_rfl
  | taken _ htakes _ ih => exact ((ih hresult).trans (hK.suffix htakes)).trans (List.suffix_cons _ _)
  | failed => cases hresult

/-- The number of lines that are left gets smaller with each line that is taken. -/
lemma Lawful.exists_reads (hK : K.Lawful) (block : β) (ls : List DescriptorLine) :
    ∃ result, K.Reads block ls result := by
  induction hn : ls.length using Nat.strong_induction_on generalizing block ls with
  | _ n ih =>
    cases ls with
    | nil => exact ⟨_, .atEnd block⟩
    | cons l more =>
      by_cases hl : l.key ∈ K.keywords
      · obtain ⟨first, htakes⟩ := hK.total hl block more
        cases first with
        | error e => exact ⟨_, .failed hl htakes⟩
        | ok found =>
          obtain ⟨block', rest⟩ := found
          have hshorter : rest.length < n := hn ▸ Nat.lt_succ_of_le (hK.suffix htakes).length_le
          obtain ⟨result, hrest⟩ := ih _ hshorter block' rest rfl
          exact ⟨result, .taken hl htakes hrest⟩
      · exact ⟨_, .unknown hl⟩

lemma Reads.unique (hK : K.Lawful) (h : K.Reads block ls result) (h' : K.Reads block ls result') :
    result = result' := by
  induction h with
  | atEnd block =>
    cases h'
    rfl
  | unknown hl =>
    cases h' with
    | unknown => rfl
    | taken hl' => exact absurd hl' hl
    | failed hl' => exact absurd hl' hl
  | taken hl htakes _ ih =>
    cases h' with
    | unknown hl' => exact absurd hl hl'
    | taken _ htakes' hrest' =>
      obtain ⟨rfl, rfl⟩ := Prod.mk.inj (Except.ok.inj (hK.unique htakes htakes'))
      exact ih hrest'
    | failed _ htakes' => cases hK.unique htakes htakes'
  | failed hl htakes =>
    cases h' with
    | unknown hl' => exact absurd hl hl'
    | taken _ htakes' => cases hK.unique htakes htakes'
    | failed _ htakes' => exact hK.unique htakes htakes'

lemma Lawful.plain {keywords : List String} {field? : β → DescriptorLine → Option (Except RecordingError β)}
    (h : ∀ block l, field? block l = none ↔ l.key ∉ keywords) : (BlockKind.plain keywords field?).Lawful where
  known {block l more result} := by
    rintro ⟨r, hr, -⟩
    by_contra hl
    rw [(h block l).2 hl] at hr
    cases hr
  total {l} hl block more := by
    cases hfield : field? block l with
    | none => exact absurd hl ((h block l).1 hfield)
    | some r => exact ⟨_, r, hfield, rfl⟩
  unique := by
    rintro block l more _ _ ⟨r, hr, rfl⟩ ⟨r', hr', rfl⟩
    rw [Option.some.inj (hr.symm.trans hr')]
  suffix := by
    rintro block l more block' rest ⟨r, hr, hrest⟩
    cases r with
    | error e => cases hrest
    | ok b =>
      obtain ⟨-, rfl⟩ := Prod.mk.inj (Except.ok.inj hrest)
      exact List.suffix_rfl

lemma Lawful.holding {inner : BlockKind γ} {key : String} {fresh : γ} {add : β → γ → β} (hK : K.Lawful)
    (hinner : inner.Lawful) (hkey : key ∉ K.keywords) : (K.holding key inner fresh add).Lawful where
  known := by
    rintro block l more result (htakes | ⟨rfl, -⟩)
    · exact List.mem_cons_of_mem _ (hK.known htakes)
    · exact List.mem_cons_self
  total hl block more := by
    obtain hl | hl := List.mem_cons.1 hl
    · obtain ⟨found, hfound⟩ := hinner.exists_reads fresh more
      exact ⟨_, .inr ⟨hl, found, hfound, rfl⟩⟩
    · obtain ⟨result, htakes⟩ := hK.total hl block more
      exact ⟨result, .inl htakes⟩
  unique := by
    rintro block l more _ _ (htakes | ⟨rfl, found, hfound, rfl⟩) (htakes' | ⟨hl, found', hfound', rfl⟩)
    · exact hK.unique htakes htakes'
    · exact absurd (hl ▸ hK.known htakes) hkey
    · exact absurd (hK.known htakes') hkey
    · rw [hfound.unique hinner hfound']
  suffix := by
    rintro block l more block' rest (htakes | ⟨-, found, hfound, hrest⟩)
    · exact hK.suffix htakes
    · cases found with
      | error e => cases hrest
      | ok found =>
        obtain ⟨-, rfl⟩ := Prod.mk.inj (Except.ok.inj hrest)
        exact hfound.suffix hinner

end BlockKind

/-! ## What blocks know -/

lemma SensorParam.unknown_iff (p : SensorParam) (l : DescriptorLine) :
    p.update? l = none ↔ l.key ∉ ["NAME", "DATATYPE", "VALUES", "UNIT"] := by
  rw [SensorParam.update?]
  split <;> simp_all

lemma Sensor.unknown_iff (s : Sensor) (l : DescriptorLine) :
    s.update? l = none ↔ l.key ∉ ["ID", "SENSOR_NAME", "DRIVER_VERSION"] := by
  rw [Sensor.update?]
  split <;> simp_all

lemma Axis.unknown_iff (a : Axis) (l : DescriptorLine) :
    a.update? l = none ↔ l.key ∉ ["NAME", "DATATYPE", "PLOT_ID", "BAR_ID", "PICTURE_ID"] := by
  rw [Axis.update?]
  split <;> simp_all

lemma FrameDescription.unknown_iff (f : FrameDescription) (l : DescriptorLine) :
    f.update? l = none ↔ l.key ∉ ["FRAME_ID", "TIMESTAMP_DATATYPE", "INCR_TIME_DATATYPE"] := by
  rw [FrameDescription.update?]
  split <;> simp_all

lemma Button.unknown_iff (b : Button) (l : DescriptorLine) :
    b.update? l = none ↔ l.key ∉ ["NAME", "DATATYPE", "INFO", "VALUES"] := by
  rw [Button.update?]
  split <;> simp_all

namespace Descriptor

lemma unknown_iff (d : Descriptor) (l : DescriptorLine) :
    d.name? l = none ↔ l.key ∉ ["PLOT_NAME", "PICTURE_NAME"] := by
  rw [name?]
  split <;> simp_all

lemma lawful_sensor : Sensor.kind.Lawful :=
  (BlockKind.Lawful.plain Sensor.unknown_iff).holding (.plain SensorParam.unknown_iff) (by decide)

lemma lawful_frame : FrameDescription.kind.Lawful :=
  (BlockKind.Lawful.plain FrameDescription.unknown_iff).holding (.plain Axis.unknown_iff) (by decide)

lemma lawful_kind : kind.Lawful :=
  (((BlockKind.Lawful.plain unknown_iff).holding (.plain Button.unknown_iff) (by decide)).holding
    lawful_frame (by decide)).holding lawful_sensor (by decide)

end Descriptor

/-! ## Drafts follow the loops -/

namespace Draft

variable {β γ : Type} {R : β → List DescriptorLine → Draft → Prop} {S : γ → List DescriptorLine → Draft → Prop}
  {D D' : Draft} {l : DescriptorLine} {ls more rest : List DescriptorLine}

/-- From the draft the lines are read to this result of a loop: they fail with it, or they are read as the lines that
the loop leaves are read from another draft, which is `R` for the block. -/
def Follows (R : β → List DescriptorLine → Draft → Prop) (D : Draft) (ls : List DescriptorLine) :
    BlockResult β → Prop
  | .error e => D.lines ls = .error e
  | .ok (block, rest) => ∃ D', R block rest D' ∧ D.lines ls = D'.lines rest

lemma follows_cons {result : BlockResult β} (hline : D.line l = .ok D') (h : D'.Follows R more result) :
    D.Follows R (l :: more) result := by
  cases result with
  | error e => exact (lines_cons hline more).trans h
  | ok found =>
    obtain ⟨D₁, hD₁, hlines⟩ := h
    exact ⟨D₁, hD₁, (lines_cons hline more).trans hlines⟩

/-- A line that gives a field is followed to the draft with that field. -/
lemma follows_field {r : Except RecordingError β} (place : β → Draft) (hline : D.line l = r.map place)
    (hR : ∀ block, R block more (place block)) : D.Follows R (l :: more) (r.map (·, more)) := by
  cases r with
  | error e =>
    show D.lines (l :: more) = .error e
    rw [lines, List.foldlM_cons, hline]
    rfl
  | ok block => exact ⟨place block, hR block, lines_cons hline more⟩

/-- What is followed to an inner block is followed to the block that this one is added to. -/
lemma Follows.added {found : BlockResult γ} (add : γ → β) (h : D.Follows S ls found)
    (hadd : ∀ c rest D', found = .ok (c, rest) → S c rest D' → R (add c) rest D') :
    D.Follows R ls (found.map fun (c, rest) => (add c, rest)) := by
  cases found with
  | error e => exact h
  | ok found =>
    obtain ⟨D', hD', hlines⟩ := h
    exact ⟨D', hadd _ _ _ rfl hD', hlines⟩

/-- What is left of the lines may be followed from each draft that is reached. -/
lemma Follows.andThen {block : β} {result : BlockResult β} (h : D.Follows R ls (.ok (block, rest)))
    (hrest : ∀ D', R block rest D' → D'.Follows R rest result) : D.Follows R ls result := by
  obtain ⟨D₁, hD₁, hlines⟩ := h
  have hresult := hrest D₁ hD₁
  cases result with
  | error e => exact hlines.trans hresult
  | ok found =>
    obtain ⟨D₂, hD₂, hlines₂⟩ := hresult
    exact ⟨D₂, hD₂, hlines.trans hlines₂⟩

/-- A draft follows a loop if it follows what is taken in each of the rounds. -/
lemma follows_reads {K : BlockKind β} {block : β} {result : BlockResult β}
    (hround : ∀ {block l more result D}, R block (l :: more) D → K.takes block l more result →
      D.Follows R (l :: more) result)
    (h : K.Reads block ls result) (hD : R block ls D) : D.Follows R ls result := by
  induction h generalizing D with
  | atEnd block => exact ⟨D, hD, rfl⟩
  | unknown hl => exact ⟨D, hD, rfl⟩
  | taken hl htakes _ ih => exact (hround hD htakes).andThen fun D' hD' => ih hD'
  | failed hl htakes => exact hround hD htakes

/-- The draft stands for the descriptor, and makes of the first of the lines what `next` does. -/
structure Expects (d : Descriptor) (next : DescriptorLine → Except RecordingError Draft)
    (ls : List DescriptorLine) (D : Draft) : Prop where
  holds : D.Holds d
  next : ∀ l ∈ ls.head?, D.line l = next l

/-- The lines of a plain block are followed through the drafts in which it is open; then a line that it does not know is
expected. -/
lemma follows_plain {keywords : List String} {field? : β → DescriptorLine → Option (Except RecordingError β)}
    (hknown : ∀ block l, field? block l = none ↔ l.key ∉ keywords) (place : β → Draft) (whole : β → Descriptor)
    (next : β → DescriptorLine → Except RecordingError Draft) (hholds : ∀ block, (place block).Holds (whole block))
    (hfield : ∀ {block l r}, field? block l = some r → (place block).line l = r.map place)
    (hnext : ∀ {block l}, field? block l = none → (place block).line l = next block l)
    {block : β} {result : BlockResult β} (h : (BlockKind.plain keywords field?).Reads block ls result) :
    (place block).Follows (fun block => Expects (whole block) (next block)) ls result := by
  have hopen : (place block).Follows (fun block _ D => D = place block) ls result := by
    refine follows_reads ?_ h rfl
    rintro block l more _ _ rfl ⟨r, hr, rfl⟩
    exact follows_field place (hfield hr) fun _ => rfl
  cases result with
  | error e => exact hopen
  | ok found =>
    obtain ⟨block', rest⟩ := found
    obtain ⟨_, rfl, hlines⟩ := hopen
    exact ⟨place block', ⟨hholds block', fun l hl => hnext ((hknown block' l).2 (h.head_unknown l hl))⟩, hlines⟩

/-- Next the lines go to an open sensor. -/
def AtSensor (d : Descriptor) (s : Sensor) : List DescriptorLine → Draft → Prop :=
  Expects (d.addSensor s) (sensorLine d s)

/-- Next the lines go to an open frame description. -/
def AtFrame (d : Descriptor) (f : FrameDescription) : List DescriptorLine → Draft → Prop :=
  Expects (d.addFrame f) (frameLine d f)

/-- Next the lines go to the descriptor itself. -/
def AtTop (d : Descriptor) : List DescriptorLine → Draft → Prop := Expects d fun l => .ok (topLine d l)

lemma atSensor (d : Descriptor) (s : Sensor) (ls : List DescriptorLine) : AtSensor d s ls ⟨d, .sensor s⟩ :=
  ⟨⟨by simp, rfl⟩, fun _ _ => rfl⟩

lemma atFrame (d : Descriptor) (f : FrameDescription) (ls : List DescriptorLine) : AtFrame d f ls ⟨d, .frame f⟩ :=
  ⟨⟨by simp, rfl⟩, fun _ _ => rfl⟩

lemma atTop (d : Descriptor) (ls : List DescriptorLine) : AtTop d ls ⟨d, .top⟩ :=
  ⟨⟨by simp, rfl⟩, fun _ _ => rfl⟩

lemma follows_sensor {d : Descriptor} {s : Sensor} {result : BlockResult Sensor} (h : Sensor.kind.Reads s ls result)
    (hD : AtSensor d s ls D) : D.Follows (AtSensor d) ls result := by
  refine follows_reads ?_ h hD
  rintro s l more result D hD (⟨r, hr, rfl⟩ | ⟨hl, found, hfound, rfl⟩)
  · have hkey : l.key ≠ "PARAM" := by
      intro hparam
      rw [(s.unknown_iff l).2 (by simp [hparam])] at hr
      cases hr
    refine follows_field (fun s => ⟨d, .sensor s⟩) ?_ fun s => atSensor d s more
    rw [hD.next l rfl, sensorLine, if_neg hkey, hr]
  · have hline : D.line l = .ok ⟨d, .param s {}⟩ := by rw [hD.next l rfl, sensorLine, if_pos hl]
    have hparam := follows_plain SensorParam.unknown_iff (fun p => ⟨d, .param s p⟩)
      (fun p => d.addSensor (s.addParam p)) (fun p => sensorLine d (s.addParam p))
      (fun _ => ⟨by simp, rfl⟩) (fun hr => by simp [line, hr])
      (fun hnone => by simp [line, hnone, Sensor.addParam]) hfound
    exact follows_cons hline (hparam.added s.addParam fun _ _ _ _ h => h)

lemma follows_frame {d : Descriptor} {f : FrameDescription} {result : BlockResult FrameDescription}
    (h : FrameDescription.kind.Reads f ls result) (hD : AtFrame d f ls D) : D.Follows (AtFrame d) ls result := by
  refine follows_reads ?_ h hD
  rintro f l more result D hD (⟨r, hr, rfl⟩ | ⟨hl, found, hfound, rfl⟩)
  · have hkey : l.key ≠ "AXIS" := by
      intro haxis
      rw [(f.unknown_iff l).2 (by simp [haxis])] at hr
      cases hr
    refine follows_field (fun f => ⟨d, .frame f⟩) ?_ fun f => atFrame d f more
    rw [hD.next l rfl, frameLine, if_neg hkey, hr]
  · have hline : D.line l = .ok ⟨d, .axis f {}⟩ := by rw [hD.next l rfl, frameLine, if_pos hl]
    have haxis := follows_plain Axis.unknown_iff (fun a => ⟨d, .axis f a⟩)
      (fun a => d.addFrame (f.addAxis a)) (fun a => frameLine d (f.addAxis a))
      (fun _ => ⟨by simp, rfl⟩) (fun hr => by simp [line, hr])
      (fun hnone => by simp [line, hnone, FrameDescription.addAxis]) hfound
    exact follows_cons hline (haxis.added f.addAxis fun _ _ _ _ h => h)

/-- A line that the open sensor does not know closes it. -/
lemma sensorLine_of_notMem (d : Descriptor) (s : Sensor) (hl : l.key ∉ Sensor.kind.keywords) :
    sensorLine d s l = .ok (topLine (d.addSensor s) l) := by
  obtain ⟨hkey, hrest⟩ := not_or.1 (List.mem_cons.not.1 hl)
  rw [sensorLine, if_neg hkey, (s.unknown_iff l).2 hrest]
  rfl

/-- A line that the open frame description does not know closes it. -/
lemma frameLine_of_notMem (d : Descriptor) (f : FrameDescription) (hl : l.key ∉ FrameDescription.kind.keywords) :
    frameLine d f l = .ok (topLine (d.addFrame f) l) := by
  obtain ⟨hkey, hrest⟩ := not_or.1 (List.mem_cons.not.1 hl)
  rw [frameLine, if_neg hkey, (f.unknown_iff l).2 hrest]
  rfl

lemma follows_descriptor {d : Descriptor} {result : BlockResult Descriptor} (h : Descriptor.kind.Reads d ls result)
    (hD : AtTop d ls D) : D.Follows AtTop ls result := by
  refine follows_reads ?_ h hD
  rintro d l more result D hD
    (((⟨r, hr, rfl⟩ | ⟨hl, found, hfound, rfl⟩) | ⟨hl, found, hfound, rfl⟩) | ⟨hl, found, hfound, rfl⟩)
  · refine follows_field (fun d => ⟨d, .top⟩) ?_ fun d => atTop d more
    rw [hD.next l rfl, topLine]
    simp only [Descriptor.name?] at hr
    split at hr
    · next hkey =>
      obtain rfl := Option.some.inj hr
      simp [hkey, Except.map]
    · next hkey =>
      obtain rfl := Option.some.inj hr
      simp [hkey, Except.map]
    · cases hr
  · have hline : D.line l = .ok ⟨d, .button {}⟩ := by simp [hD.next l rfl, topLine, hl]
    have hbutton := follows_plain Button.unknown_iff (fun b => ⟨d, .button b⟩) d.addButton
      (fun b l => .ok (topLine (d.addButton b) l)) (fun _ => ⟨by simp, rfl⟩) (fun hr => by simp [line, hr])
      (fun hnone => by simp [line, hnone, Descriptor.addButton]) hfound
    exact follows_cons hline (hbutton.added d.addButton fun _ _ _ _ h => h)
  · have hline : D.line l = .ok ⟨d, .frame {}⟩ := by simp [hD.next l rfl, topLine, hl]
    have hframe := follows_frame hfound (atFrame d {} more)
    refine follows_cons hline (hframe.added d.addFrame ?_)
    rintro f rest D' rfl ⟨hholds, hnext⟩
    exact ⟨hholds, fun l hl => (hnext l hl).trans (frameLine_of_notMem d f (hfound.head_unknown l hl))⟩
  · have hline : D.line l = .ok ⟨d, .sensor {}⟩ := by simp [hD.next l rfl, topLine, hl]
    have hsensor := follows_sensor hfound (atSensor d {} more)
    refine follows_cons hline (hsensor.added d.addSensor ?_)
    rintro s rest D' rfl ⟨hholds, hnext⟩
    exact ⟨hholds, fun l hl => (hnext l hl).trans (sensorLine_of_notMem d s (hfound.head_unknown l hl))⟩

/-! ## Lines that no block knows -/

lemma topLine_of_notMem (d : Descriptor) (hl : l.key ∉ Descriptor.kind.keywords) : topLine d l = ⟨d, .ended⟩ := by
  rw [topLine]
  split <;> simp_all [Descriptor.kind, BlockKind.holding, BlockKind.plain]

/-- A line that no block knows ends the reading. -/
lemma line_of_notMem (D : Draft) (hl : l.key ∉ Descriptor.blockKeywords) : D.line l = .ok ⟨D.descriptor, .ended⟩ := by
  simp only [Descriptor.blockKeywords, List.mem_append, not_or] at hl
  obtain ⟨⟨⟨⟨⟨htop, hsensor⟩, hparam⟩, hframe⟩, haxis⟩, hbutton⟩ := hl
  obtain ⟨d, block⟩ := D
  cases block with
  | top => exact congrArg Except.ok (topLine_of_notMem d htop)
  | ended => rfl
  | sensor s =>
    simp only [line]
    rw [sensorLine_of_notMem d s hsensor, topLine_of_notMem _ htop]
    rfl
  | param s p =>
    simp only [line, (p.unknown_iff l).2 hparam]
    rw [sensorLine_of_notMem _ _ hsensor, topLine_of_notMem _ htop]
    rfl
  | frame f =>
    simp only [line]
    rw [frameLine_of_notMem d f hframe, topLine_of_notMem _ htop]
    rfl
  | axis f a =>
    simp only [line, (a.unknown_iff l).2 haxis]
    rw [frameLine_of_notMem _ _ hframe, topLine_of_notMem _ htop]
    rfl
  | button b =>
    simp only [line, (b.unknown_iff l).2 hbutton]
    rw [topLine_of_notMem _ htop]
    rfl

lemma lines_ended (d : Descriptor) (ls : List DescriptorLine) : (⟨d, .ended⟩ : Draft).lines ls = .ok ⟨d, .ended⟩ := by
  induction ls with
  | nil => rfl
  | cons l more ih =>
    rw [lines_cons rfl]
    exact ih

/-- Behind a line that no block knows nothing is read. -/
lemma lines_unknown (D : Draft) (hl : l.key ∉ Descriptor.blockKeywords) (more : List DescriptorLine) :
    (D.lines (ls ++ l :: more)).map descriptor = (D.lines ls).map descriptor := by
  cases hlines : D.lines ls with
  | error e =>
    rw [lines, List.foldlM_append, ← lines, hlines]
    rfl
  | ok D' =>
    rw [lines_append hlines, lines_cons (D'.line_of_notMem hl), lines_ended]
    rfl

/-! ## Drafts behind a descriptor -/

/-- The draft with a descriptor before what is finished in it. -/
def behind (d : Descriptor) (D : Draft) : Draft := { D with finished := d.append D.finished }

lemma topLine_behind (d d' : Descriptor) (l : DescriptorLine) : topLine (d.append d') l = (topLine d' l).behind d := by
  simp only [topLine]
  split <;> simp [behind, Descriptor.append]

lemma sensorLine_behind (d d' : Descriptor) (s : Sensor) (l : DescriptorLine) :
    sensorLine (d.append d') s l = (sensorLine d' s l).map (behind d) := by
  have hclosed : (d.append d').addSensor s = d.append (d'.addSensor s) := by
    simp [Descriptor.append, Descriptor.addSensor]
  rw [sensorLine, sensorLine]
  split
  · rfl
  · cases s.update? l with
    | none => exact congrArg Except.ok ((congrArg (topLine · l) hclosed).trans (topLine_behind d _ l))
    | some r => cases r <;> rfl

lemma frameLine_behind (d d' : Descriptor) (f : FrameDescription) (l : DescriptorLine) :
    frameLine (d.append d') f l = (frameLine d' f l).map (behind d) := by
  have hclosed : (d.append d').addFrame f = d.append (d'.addFrame f) := by
    simp [Descriptor.append, Descriptor.addFrame]
  rw [frameLine, frameLine]
  split
  · rfl
  · cases f.update? l with
    | none => exact congrArg Except.ok ((congrArg (topLine · l) hclosed).trans (topLine_behind d _ l))
    | some r => cases r <;> rfl

/-- What is made of a line does not depend on what is finished. -/
lemma line_behind (d : Descriptor) (D : Draft) (l : DescriptorLine) :
    (D.behind d).line l = (D.line l).map (behind d) := by
  obtain ⟨d', block⟩ := D
  cases block with
  | top => exact congrArg Except.ok (topLine_behind d d' l)
  | ended => rfl
  | sensor s => exact sensorLine_behind d d' s l
  | param s p =>
    simp only [line, behind]
    cases p.update? l with
    | none => exact sensorLine_behind d d' _ l
    | some r => cases r <;> rfl
  | frame f => exact frameLine_behind d d' f l
  | axis f a =>
    simp only [line, behind]
    cases a.update? l with
    | none => exact frameLine_behind d d' _ l
    | some r => cases r <;> rfl
  | button b =>
    have hclosed : (d.append d').addButton b = d.append (d'.addButton b) := by
      simp [Descriptor.append, Descriptor.addButton]
    simp only [line, behind]
    cases b.update? l with
    | none => exact congrArg Except.ok ((congrArg (topLine · l) hclosed).trans (topLine_behind d _ l))
    | some r => cases r <;> rfl

lemma lines_behind (d : Descriptor) (D : Draft) (ls : List DescriptorLine) :
    (D.behind d).lines ls = (D.lines ls).map (behind d) := by
  induction ls generalizing D with
  | nil => rfl
  | cons l more ih =>
    rw [lines, List.foldlM_cons, line_behind, lines, List.foldlM_cons]
    cases D.line l with
    | error e => rfl
    | ok D' => exact ih D'

lemma descriptor_behind (d : Descriptor) (D : Draft) : (D.behind d).descriptor = d.append D.descriptor := by
  obtain ⟨d', block⟩ := D
  cases block <;> simp [behind, descriptor, Descriptor.append]

/-- Lines of which the first opens a block of the descriptor are read as if they were alone. -/
lemma Holds.lines_eq {d : Descriptor} (hD : D.Holds d) (hls : ∀ l ∈ ls.head?, l.key ∈ topKeywords) :
    (D.lines ls).map Draft.descriptor = ((lines {} ls).map Draft.descriptor).map d.append := by
  cases ls with
  | nil =>
    have hempty : d.append {} = d := by simp [Descriptor.append]
    exact congrArg Except.ok (hD.descriptor.trans hempty.symm)
  | cons l more =>
    have hline : D.line l = .ok ((topLine {} l).behind d) := by
      rw [hD.line_top (hls l rfl), ← topLine_behind]
      simp [Descriptor.append]
    rw [lines_cons hline, lines_behind, lines_cons (D := {}) rfl]
    cases (topLine {} l).lines more with
    | error e => rfl
    | ok D' => exact congrArg Except.ok (descriptor_behind d D')

end Draft

/-! ## Texts -/

lemma DescriptorLine.ofText_append (cs more : List Char) : ofText (cs ++ '\n' :: more) = ofText cs ++ ofText more := by
  simp [ofText, Text.splitAll_append_separator]

/-- A text without a line break that is not blank is one line. -/
lemma DescriptorLine.ofText_line {u : List Char} (hbreak : '\n' ∉ u) (hblank : Text.trimBlank u ≠ []) :
    ofText u = [ofChars (Text.trimBlank u)] := by
  simp [ofText, Text.splitAll_of_notMem hbreak, hblank]

namespace Descriptor

/-- A descriptor is read as the loops read its lines. -/
lemma ofText_of_reads {cs : List Char} {result : BlockResult Descriptor}
    (h : kind.Reads {} (DescriptorLine.ofText cs) result) : ofText cs = result.map Prod.fst := by
  have hfollows := Draft.follows_descriptor h (Draft.atTop {} _)
  cases result with
  | error e => exact congrArg (Except.map Draft.descriptor) hfollows
  | ok found =>
    obtain ⟨d, rest⟩ := found
    obtain ⟨D, ⟨hD, hnext⟩, hlines⟩ := hfollows
    rw [ofText, hlines]
    cases rest with
    | nil => exact congrArg Except.ok hD.descriptor
    | cons l more =>
      rw [Draft.lines_cons (hnext l rfl), Draft.topLine_of_notMem d (h.head_unknown l rfl), Draft.lines_ended]
      rfl

/-- The loops come to an end on every text, and with one result, which is what is read of the text.  If no line of a
text is left then a text behind it that begins with a block of its own adds its lists to those of the first one.  Behind
a line that no block knows nothing is read. -/
theorem blocks_read_in_turn (a b : List Char) :
    (∃ result, (∀ r, kind.Reads {} (DescriptorLine.ofText a) r ↔ r = result) ∧ ofText a = result.map Prod.fst) ∧
    (∀ d, kind.Reads {} (DescriptorLine.ofText a) (.ok (d, [])) →
      (∀ l ∈ (DescriptorLine.ofText b).head?, l.key ∈ Draft.topKeywords) →
      ofText (a ++ '\n' :: b) = (ofText b).map d.append) ∧
    ∀ u, '\n' ∉ u → Text.trimBlank u ≠ [] → (DescriptorLine.ofChars (Text.trimBlank u)).key ∉ blockKeywords →
      ofText (a ++ '\n' :: u ++ '\n' :: b) = ofText a := by
  refine ⟨?_, fun d ha hb => ?_, fun u hbreak hblank hu => ?_⟩
  · obtain ⟨result, hresult⟩ := lawful_kind.exists_reads {} (DescriptorLine.ofText a)
    exact ⟨result, fun r => ⟨fun hr => hr.unique lawful_kind hresult, fun hr => hr ▸ hresult⟩, ofText_of_reads hresult⟩
  · obtain ⟨D, ⟨hD, -⟩, hlines⟩ := Draft.follows_descriptor ha (Draft.atTop {} _)
    rw [ofText, DescriptorLine.ofText_append, Draft.lines_append hlines, ofText]
    exact hD.lines_eq hb
  · rw [ofText, DescriptorLine.ofText_append, DescriptorLine.ofText_append, DescriptorLine.ofText_line hbreak hblank,
      List.append_assoc]
    exact Draft.lines_unknown {} hu _

/-- A sensor whose last block is still open at the end of its text. -/
def openSensor : Descriptor := { sensors := [{ id := 7, params := [{ name := some "rate" }] }] }

/-- The sensor is followed by a button, at whose second line the reading ends, or by a line that is not known at all. -/
theorem blocks_read_in_turn_openSensor :
    let a := "SENSOR\nID=7\nPARAM\nNAME=rate".toList
    let b := " \n BUTTON\nUNIT=Hz\nPLOT_NAME=p".toList
    kind.Reads {} (DescriptorLine.ofText a) (.ok (openSensor, [])) ∧
      ofText (a ++ '\n' :: b) = .ok { openSensor with buttons := [{}] } ∧
      ofText (a ++ '\n' :: " VERSION = 2".toList ++ '\n' :: b) = .ok openSensor := by
  intro a b
  have hlines : DescriptorLine.ofText a =
      [⟨"SENSOR", none⟩, ⟨"ID", some "7"⟩, ⟨"PARAM", none⟩, ⟨"NAME", some "rate"⟩] := by decide +kernel
  have hparam : SensorParam.kind.Reads {} [⟨"NAME", some "rate"⟩] (.ok ({ name := some "rate" }, [])) :=
    .taken (by decide) ⟨_, rfl, rfl⟩ (.atEnd _)
  have hsensor : Sensor.kind.Reads {} [⟨"ID", some "7"⟩, ⟨"PARAM", none⟩, ⟨"NAME", some "rate"⟩]
      (.ok ({ id := 7, params := [{ name := some "rate" }] }, [])) :=
    .taken (by decide) (.inl ⟨_, rfl, rfl⟩) (.taken (by decide) (.inr ⟨rfl, _, hparam, rfl⟩) (.atEnd _))
  have ha : kind.Reads {} (DescriptorLine.ofText a) (.ok (openSensor, [])) := by
    rw [hlines]
    exact .taken (by decide) (.inr ⟨rfl, _, hsensor, rfl⟩) (.atEnd _)
  have hb : ofText b = .ok { buttons := [{}] } := by decide +kernel
  have hhead : ∀ l ∈ (DescriptorLine.ofText b).head?, l.key ∈ Draft.topKeywords := by decide +kernel
  obtain ⟨⟨result, hresult, hread⟩, hbehind, hunknown⟩ := blocks_read_in_turn a b
  obtain rfl := (hresult _).1 ha
  refine ⟨ha, ?_, ?_⟩
  · rw [hbehind openSensor ha hhead, hb]
    rfl
  · rw [hunknown _ (by decide) (by decide) (by decide +kernel), hread]
    rfl

end Descriptor

end FieldStudy

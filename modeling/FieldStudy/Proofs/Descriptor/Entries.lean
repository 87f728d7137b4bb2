import Mathlib.Data.List.Basic
import Mathlib.Tactic.Common
import FieldStudy.Proofs.Descriptor.Lines

/-!
# Descriptors are read from their entries

The entries of a descriptor are what its printed lines say: their keywords and values, with no blank lost at
either end of a value.  The lines of a block say nothing about its end: a block is closed by the first line
that only an outer block knows.  So each block is read from a draft in which it has just been opened, and
leads to a draft in which it is still open with all its fields (`Draft.lines_axis` and its siblings).  What
comes next depends on the descriptor that such a draft stands for, and not on which block is open in it
(`Draft.Holds`); with that the blocks of a descriptor are read one after another, by induction over each of
its lists (`Draft.lines_flatMap`).
-/

namespace FieldStudy

/-! ## Entries -/

namespace DescriptorLine

/-- The entry of a value that may be absent. -/
def optional (key : String) (o : Option String) : List DescriptorLine := o.toList.map fun v => ⟨key, some v⟩

/-- The entry of a format that may be absent. -/
def formatted (key : String) (o : Option FieldFormat) : List DescriptorLine :=
  optional key (o.map FieldFormat.datatype)

/-- The entry of a list of values. -/
def ofValues (values : List String) : DescriptorLine :=
  ⟨"VALUES", if values.isEmpty then none else some (String.ofList (commaText values))⟩

/-- The elements of a list of values are found again between its commas. -/
lemma values_ofValues {values : List String} (h : AreElements values) : (ofValues values).values = values := by
  by_cases hv : values = []
  · subst hv
    decide
  · have hpieces : Text.splitAll ',' (commaText values) = values.map String.toList := by
      refine Text.splitAll_join (by simpa using hv) fun p hp => ?_
      obtain ⟨v, hv, rfl⟩ := List.mem_map.1 hp
      exact (h v hv).2.1
    have hkept : (values.map String.toList).filter (!·.isEmpty) = values.map String.toList := by
      refine List.filter_eq_self.2 fun p hp => ?_
      obtain ⟨v, hv, rfl⟩ := List.mem_map.1 hp
      simpa using (h v hv).1
    simp [ofValues, DescriptorLine.values, raw, hv, hpieces, hkept]

end DescriptorLine

open DescriptorLine (optional formatted ofValues)

def SensorParam.entries (p : SensorParam) : List DescriptorLine :=
  optional "NAME" p.name ++ formatted "DATATYPE" p.datatype ++ [ofValues p.values] ++ optional "UNIT" p.unit

def Sensor.entries (s : Sensor) : List DescriptorLine :=
  [⟨"ID", some (numberText s.id.toNat)⟩] ++ optional "SENSOR_NAME" s.name ++
    optional "DRIVER_VERSION" s.driverVersion ++ s.params.flatMap fun p => ⟨"PARAM", none⟩ :: p.entries

def Axis.entries (a : Axis) : List DescriptorLine :=
  optional "NAME" a.name ++ formatted "DATATYPE" a.datatype ++ optional "PLOT_ID" a.plotId ++
    optional "BAR_ID" a.barId ++ optional "PICTURE_ID" a.pictureId

def FrameDescription.entries (f : FrameDescription) : List DescriptorLine :=
  [⟨"FRAME_ID", some (numberText f.id.toNat)⟩, ⟨"TIMESTAMP_DATATYPE", some f.timestamp.datatype⟩] ++
    formatted "INCR_TIME_DATATYPE" f.increment ++ f.axes.flatMap fun a => ⟨"AXIS", none⟩ :: a.entries

def Button.entries (b : Button) : List DescriptorLine :=
  optional "NAME" b.name ++ formatted "DATATYPE" b.datatype ++ optional "INFO" b.info ++ [ofValues b.values]

namespace Descriptor

def entries (d : Descriptor) : List DescriptorLine :=
  (d.sensors.flatMap fun s => ⟨"SENSOR", none⟩ :: s.entries) ++
    (d.frames.flatMap fun f => ⟨"FRAME_DESC", none⟩ :: f.entries) ++
    d.plotNames.map (fun t => ⟨"PLOT_NAME", some t⟩) ++ d.pictureNames.map (fun t => ⟨"PICTURE_NAME", some t⟩) ++
    d.buttons.flatMap fun b => ⟨"BUTTON", none⟩ :: b.entries

/-- The elements of all lists of values can stand between commas. -/
def HasElements (d : Descriptor) : Prop := ∀ vs ∈ d.valueLists, AreElements vs

end Descriptor

namespace Draft

/-! ## Reading in parts -/

lemma lines_append {D D' : Draft} {ls : List DescriptorLine} (h : D.lines ls = .ok D')
    (more : List DescriptorLine) : D.lines (ls ++ more) = D'.lines more := by
  rw [lines, List.foldlM_append, ← lines, h]
  rfl

lemma lines_cons {D D' : Draft} {l : DescriptorLine} (h : D.line l = .ok D')
    (more : List DescriptorLine) : D.lines (l :: more) = D'.lines more := by
  rw [lines, List.foldlM_cons, h]
  rfl

/-- An optional entry leads to the draft with that option, if one entry of its keyword does. -/
lemma lines_optional (key : String) (o : Option String) (set : Option String → Draft)
    (hline : ∀ v, (set none).line ⟨key, some v⟩ = .ok (set (some v))) :
    (set none).lines (optional key o) = .ok (set o) := by
  cases o with
  | none => rfl
  | some v =>
    rw [show optional key (some v) = [⟨key, some v⟩] from rfl, lines_cons (hline v)]
    rfl

/-- As `lines_optional`, for a format. -/
lemma lines_formatted (key : String) (o : Option FieldFormat) (set : Option FieldFormat → Draft)
    (hline : ∀ f, (set none).line ⟨key, some f.datatype⟩ = .ok (set (some f))) :
    (set none).lines (formatted key o) = .ok (set o) := by
  cases o with
  | none => rfl
  | some f =>
    rw [show formatted key (some f) = [⟨key, some f.datatype⟩] from rfl, lines_cons (hline f)]
    rfl

/-- As `lines_optional`, for a list of values. -/
lemma lines_ofValues {values : List String} (set : List String → Draft) (hv : AreElements values)
    (hline : ∀ l, l.key = "VALUES" → (set []).line l = .ok (set l.values)) :
    (set []).lines [ofValues values] = .ok (set values) := by
  have h := hline (ofValues values) rfl
  rw [DescriptorLine.values_ofValues hv] at h
  rw [lines_cons h]
  rfl

/-- If each item's lines lead from a draft for the items before it to one for these and the item itself, the
lines of all items lead to a draft for all of them. -/
lemma lines_flatMap {α : Type} {items : List α} {print : α → List DescriptorLine}
    {P : List α → Draft → Prop}
    (hitem : ∀ a ∈ items, ∀ done D, P done D → ∃ D', D.lines (print a) = .ok D' ∧ P (done ++ [a]) D')
    {done : List α} {D : Draft} (hD : P done D) :
    ∃ D', D.lines (items.flatMap print) = .ok D' ∧ P (done ++ items) D' := by
  induction items generalizing done D with
  | nil => exact ⟨D, rfl, by simpa using hD⟩
  | cons a rest ih =>
    obtain ⟨D₁, hlines₁, hD₁⟩ := hitem a (by simp) done D hD
    obtain ⟨D₂, hlines₂, hD₂⟩ := ih (fun b hb => hitem b (List.mem_cons_of_mem _ hb)) hD₁
    refine ⟨D₂, ?_, by simpa using hD₂⟩
    rw [List.flatMap_cons, lines_append hlines₁, hlines₂]

/-! ## Inner blocks -/

lemma lines_param (d : Descriptor) (s : Sensor) {p : SensorParam} (hv : AreElements p.values) :
    (⟨d, .param s {}⟩ : Draft).lines p.entries = .ok ⟨d, .param s p⟩ := by
  have hname := lines_optional "NAME" p.name (fun o => ⟨d, .param s { name := o }⟩)
    fun v => rfl
  have hformat := lines_formatted "DATATYPE" p.datatype
    (fun o => ⟨d, .param s { name := p.name, datatype := o }⟩)
    fun f => by simp [line, SensorParam.update?, DescriptorLine.format, DescriptorLine.raw, Except.map]
  have hvalues := lines_ofValues
    (fun vs => ⟨d, .param s { name := p.name, datatype := p.datatype, values := vs }⟩) hv
    fun l hl => by simp [line, SensorParam.update?, hl, Except.map]
  have hunit := lines_optional "UNIT" p.unit
    (fun o => ⟨d, .param s { p with unit := o }⟩) fun v => rfl
  simp only [SensorParam.entries, List.append_assoc]
  rw [lines_append hname, lines_append hformat, lines_append hvalues, hunit]

lemma lines_axis (d : Descriptor) (f : FrameDescription) (a : Axis) :
    (⟨d, .axis f {}⟩ : Draft).lines a.entries = .ok ⟨d, .axis f a⟩ := by
  have hname := lines_optional "NAME" a.name (fun o => ⟨d, .axis f { name := o }⟩)
    fun v => rfl
  have hformat := lines_formatted "DATATYPE" a.datatype
    (fun o => ⟨d, .axis f { name := a.name, datatype := o }⟩)
    fun f => by simp [line, Axis.update?, DescriptorLine.format, DescriptorLine.raw, Except.map]
  have hplot := lines_optional "PLOT_ID" a.plotId
    (fun o => ⟨d, .axis f { name := a.name, datatype := a.datatype, plotId := o }⟩) fun v => rfl
  have hbar := lines_optional "BAR_ID" a.barId
    (fun o => ⟨d, .axis f { a with barId := o, pictureId := none }⟩) fun v => rfl
  have hpicture := lines_optional "PICTURE_ID" a.pictureId
    (fun o => ⟨d, .axis f { a with pictureId := o }⟩) fun v => rfl
  simp only [Axis.entries, List.append_assoc]
  rw [lines_append hname, lines_append hformat, lines_append hplot, lines_append hbar, hpicture]

lemma lines_button (d : Descriptor) {b : Button} (hv : AreElements b.values) :
    (⟨d, .button {}⟩ : Draft).lines b.entries = .ok ⟨d, .button b⟩ := by
  have hname := lines_optional "NAME" b.name (fun o => ⟨d, .button { name := o }⟩)
    fun v => rfl
  have hformat := lines_formatted "DATATYPE" b.datatype
    (fun o => ⟨d, .button { name := b.name, datatype := o }⟩)
    fun f => by simp [line, Button.update?, DescriptorLine.format, DescriptorLine.raw, Except.map]
  have hinfo := lines_optional "INFO" b.info
    (fun o => ⟨d, .button { name := b.name, datatype := b.datatype, info := o }⟩) fun v => rfl
  have hvalues := lines_ofValues (fun vs => ⟨d, .button { b with values := vs }⟩) hv
    fun l hl => by simp [line, Button.update?, hl, Except.map]
  simp only [Button.entries, List.append_assoc]
  rw [lines_append hname, lines_append hformat, lines_append hinfo, hvalues]

/-! ## Blocks that hold others -/

/-- In the draft the block of a sensor is open, and `s` is that sensor with the parameter that may be open in
it. -/
def InSensor (d : Descriptor) (s : Sensor) (D : Draft) : Prop :=
  D = ⟨d, .sensor s⟩ ∨ ∃ s' p, D = ⟨d, .param s' p⟩ ∧ s = { s' with params := s'.params ++ [p] }

/-- In the draft the block of a frame description is open, and `f` is that description with the axis that may
be open in it. -/
def InFrame (d : Descriptor) (f : FrameDescription) (D : Draft) : Prop :=
  D = ⟨d, .frame f⟩ ∨ ∃ f' a, D = ⟨d, .axis f' a⟩ ∧ f = { f' with axes := f'.axes ++ [a] }

/-- A new parameter closes the one before it. -/
lemma InSensor.line_param {d : Descriptor} {s : Sensor} {D : Draft} (h : InSensor d s D) :
    D.line ⟨"PARAM", none⟩ = .ok ⟨d, .param s {}⟩ := by
  obtain rfl | ⟨s', p, rfl, rfl⟩ := h <;> rfl

/-- A new axis closes the one before it. -/
lemma InFrame.line_axis {d : Descriptor} {f : FrameDescription} {D : Draft} (h : InFrame d f D) :
    D.line ⟨"AXIS", none⟩ = .ok ⟨d, .axis f {}⟩ := by
  obtain rfl | ⟨f', a, rfl, rfl⟩ := h <;> rfl

lemma lines_sensor (d : Descriptor) {s : Sensor} (hv : ∀ p ∈ s.params, AreElements p.values) :
    ∃ D, (⟨d, .sensor {}⟩ : Draft).lines s.entries = .ok D ∧ InSensor d s D := by
  have hid : (⟨d, .sensor {}⟩ : Draft).line ⟨"ID", some (numberText s.id.toNat)⟩ =
      .ok ⟨d, .sensor { id := s.id }⟩ := by
    simp [line, sensorLine, Sensor.update?, DescriptorLine.number_numberText s.id.toNat_lt, Except.map]
  have hname := lines_optional "SENSOR_NAME" s.name
    (fun o => ⟨d, .sensor { id := s.id, name := o }⟩) fun v => rfl
  have hversion := lines_optional "DRIVER_VERSION" s.driverVersion
    (fun o => ⟨d, .sensor { id := s.id, name := s.name, driverVersion := o }⟩) fun v => rfl
  -- The parameters that have been read are the fields of the open sensor so far.
  have hparams : ∃ D, (⟨d, .sensor { s with params := [] }⟩ : Draft).lines
      (s.params.flatMap fun p => ⟨"PARAM", none⟩ :: p.entries) = .ok D ∧
        InSensor d { s with params := [] ++ s.params } D := by
    refine lines_flatMap (P := fun ps D => InSensor d { s with params := ps } D) ?_ (.inl rfl)
    intro p hp done D hD
    refine ⟨⟨d, .param { s with params := done } p⟩, ?_, .inr ⟨_, p, rfl, rfl⟩⟩
    rw [lines_cons hD.line_param]
    exact lines_param d _ (hv p hp)
  obtain ⟨D, hD, hin⟩ := hparams
  refine ⟨D, ?_, hin⟩
  simp only [Sensor.entries, List.append_assoc, List.cons_append, List.nil_append]
  rw [lines_cons hid, lines_append hname, lines_append hversion, hD]

lemma lines_frame (d : Descriptor) (f : FrameDescription) :
    ∃ D, (⟨d, .frame {}⟩ : Draft).lines f.entries = .ok D ∧ InFrame d f D := by
  have hid : (⟨d, .frame {}⟩ : Draft).line ⟨"FRAME_ID", some (numberText f.id.toNat)⟩ =
      .ok ⟨d, .frame { id := f.id }⟩ := by
    simp [line, frameLine, FrameDescription.update?, DescriptorLine.number_numberText f.id.toNat_lt,
      Except.map]
  have htimestamp : (⟨d, .frame { id := f.id }⟩ : Draft).line
      ⟨"TIMESTAMP_DATATYPE", some f.timestamp.datatype⟩ =
        .ok ⟨d, .frame { id := f.id, timestamp := f.timestamp }⟩ := by
    simp [line, frameLine, FrameDescription.update?, DescriptorLine.format, DescriptorLine.raw, Except.map]
  have hincrement := lines_formatted "INCR_TIME_DATATYPE" f.increment
    (fun o => ⟨d, .frame { id := f.id, timestamp := f.timestamp, increment := o }⟩)
    fun f => by
      simp [line, frameLine, FrameDescription.update?, DescriptorLine.format, DescriptorLine.raw, Except.map]
  have haxes : ∃ D, (⟨d, .frame { f with axes := [] }⟩ : Draft).lines
      (f.axes.flatMap fun a => ⟨"AXIS", none⟩ :: a.entries) = .ok D ∧
        InFrame d { f with axes := [] ++ f.axes } D := by
    refine lines_flatMap (P := fun as D => InFrame d { f with axes := as } D) ?_ (.inl rfl)
    intro a ha done D hD
    refine ⟨⟨d, .axis { f with axes := done } a⟩, ?_, .inr ⟨_, a, rfl, rfl⟩⟩
    rw [lines_cons hD.line_axis]
    exact lines_axis d _ a
  obtain ⟨D, hD, hin⟩ := haxes
  refine ⟨D, ?_, hin⟩
  simp only [FrameDescription.entries, List.cons_append, List.nil_append]
  rw [lines_cons hid, lines_cons htimestamp, lines_append hincrement, hD]

/-! ## The blocks of a descriptor -/

/-- The reading has not ended, and what is open and what is finished make up `d`. -/
structure Holds (D : Draft) (d : Descriptor) : Prop where
  going : D.block ≠ .ended
  descriptor : D.descriptor = d

lemma InSensor.holds {d : Descriptor} {s : Sensor} {D : Draft} (h : InSensor d s D) :
    D.Holds { d with sensors := d.sensors ++ [s] } := by
  obtain rfl | ⟨s', p, rfl, rfl⟩ := h <;> exact ⟨nofun, rfl⟩

lemma InFrame.holds {d : Descriptor} {f : FrameDescription} {D : Draft} (h : InFrame d f D) :
    D.Holds { d with frames := d.frames ++ [f] } := by
  obtain rfl | ⟨f', a, rfl, rfl⟩ := h <;> exact ⟨nofun, rfl⟩

/-- Keywords that no block knows. -/
def topKeywords : List String := ["SENSOR", "FRAME_DESC", "PLOT_NAME", "PICTURE_NAME", "BUTTON"]

/-- A line that no block knows closes what is open. -/
lemma Holds.line_top {D : Draft} {d : Descriptor} (h : D.Holds d) {l : DescriptorLine}
    (hl : l.key ∈ topKeywords) : D.line l = .ok (topLine d l) := by
  obtain ⟨going, rfl⟩ := h
  obtain ⟨finished, block⟩ := D
  simp only [topKeywords, List.mem_cons, List.not_mem_nil, or_false] at hl
  cases block with
  | ended => exact absurd rfl going
  | top => rfl
  | sensor s =>
    rcases hl with hl | hl | hl | hl | hl <;>
      simp [line, sensorLine, Sensor.update?, hl, Draft.descriptor]
  | param s p =>
    rcases hl with hl | hl | hl | hl | hl <;>
      simp [line, SensorParam.update?, sensorLine, Sensor.update?, hl, Draft.descriptor]
  | frame f =>
    rcases hl with hl | hl | hl | hl | hl <;>
      simp [line, frameLine, FrameDescription.update?, hl, Draft.descriptor]
  | axis f a =>
    rcases hl with hl | hl | hl | hl | hl <;>
      simp [line, Axis.update?, frameLine, FrameDescription.update?, hl, Draft.descriptor]
  | button b =>
    rcases hl with hl | hl | hl | hl | hl <;> simp [line, Button.update?, hl, Draft.descriptor]

variable {d : Descriptor}

lemma lines_sensors (hd : d.HasElements) {D : Draft} (hD : D.Holds {}) :
    ∃ D', D.lines (d.sensors.flatMap fun s => ⟨"SENSOR", none⟩ :: s.entries) = .ok D' ∧
      D'.Holds { sensors := d.sensors } := by
  refine lines_flatMap (P := fun ss D => D.Holds { sensors := ss }) ?_ hD
  intro s hs done D hD
  rw [lines_cons (hD.line_top (by decide))]
  obtain ⟨D', hlines, hin⟩ := lines_sensor { sensors := done }
    fun p hp => hd _ (d.sensor_valueLists hs (List.mem_map.2 ⟨p, hp, rfl⟩))
  exact ⟨D', hlines, hin.holds⟩

lemma lines_frames {D : Draft} (hD : D.Holds { sensors := d.sensors }) :
    ∃ D', D.lines (d.frames.flatMap fun f => ⟨"FRAME_DESC", none⟩ :: f.entries) = .ok D' ∧
      D'.Holds { sensors := d.sensors, frames := d.frames } := by
  refine lines_flatMap (P := fun fs D => D.Holds { sensors := d.sensors, frames := fs }) ?_ hD
  intro f hf done D hD
  rw [lines_cons (hD.line_top (by decide))]
  obtain ⟨D', hlines, hin⟩ := lines_frame { sensors := d.sensors, frames := done } f
  exact ⟨D', hlines, hin.holds⟩

lemma lines_plotNames {D : Draft} (hD : D.Holds { sensors := d.sensors, frames := d.frames }) :
    ∃ D', D.lines (d.plotNames.map fun t => ⟨"PLOT_NAME", some t⟩) = .ok D' ∧
      D'.Holds { sensors := d.sensors, frames := d.frames, plotNames := d.plotNames } := by
  rw [List.map_eq_flatMap]
  refine lines_flatMap
    (P := fun ts D => D.Holds { sensors := d.sensors, frames := d.frames, plotNames := ts }) ?_ hD
  intro t ht done D hD
  rw [lines_cons (hD.line_top (by simp [topKeywords]))]
  exact ⟨_, rfl, nofun, rfl⟩

lemma lines_pictureNames {D : Draft}
    (hD : D.Holds { sensors := d.sensors, frames := d.frames, plotNames := d.plotNames }) :
    ∃ D', D.lines (d.pictureNames.map fun t => ⟨"PICTURE_NAME", some t⟩) = .ok D' ∧
      D'.Holds { d with buttons := [] } := by
  rw [List.map_eq_flatMap]
  refine lines_flatMap (P := fun ts D => D.Holds { d with pictureNames := ts, buttons := [] }) ?_ hD
  intro t ht done D hD
  rw [lines_cons (hD.line_top (by simp [topKeywords]))]
  exact ⟨_, rfl, nofun, rfl⟩

lemma lines_buttons (hd : d.HasElements) {D : Draft} (hD : D.Holds { d with buttons := [] }) :
    ∃ D', D.lines (d.buttons.flatMap fun b => ⟨"BUTTON", none⟩ :: b.entries) = .ok D' ∧ D'.Holds d := by
  refine lines_flatMap (P := fun bs D => D.Holds { d with buttons := bs }) ?_ hD
  intro b hb done D hD
  rw [lines_cons (hD.line_top (by decide))]
  exact ⟨_, lines_button { d with buttons := done } (hd _ (d.button_values hb)), nofun, rfl⟩

/-- A descriptor is read from its entries. -/
theorem lines_entries (hd : d.HasElements) : (lines {} d.entries).map descriptor = .ok d := by
  have hstart : Draft.Holds {} {} := ⟨nofun, rfl⟩
  obtain ⟨D₁, h₁, hD₁⟩ := lines_sensors hd hstart
  obtain ⟨D₂, h₂, hD₂⟩ := lines_frames hD₁
  obtain ⟨D₃, h₃, hD₃⟩ := lines_plotNames hD₂
  obtain ⟨D₄, h₄, hD₄⟩ := lines_pictureNames hD₃
  obtain ⟨D₅, h₅, hD₅⟩ := lines_buttons hd hD₄
  have hlines : lines {} d.entries = .ok D₅ := by
    simp only [Descriptor.entries, List.append_assoc]
    rw [lines_append h₁, lines_append h₂, lines_append h₃, lines_append h₄, h₅]
  rw [hlines]
  exact congrArg Except.ok hD₅.descriptor

end Draft

end FieldStudy

import Mathlib.Data.List.Forall2
import Mathlib.Tactic.Common
import FieldStudy.Proofs.Descriptor.Entries
import FieldStudy.Proofs.Text.Utf8

/-!
# Descriptors are read back from their text

A descriptor is `Legible` when its texts can stand in lines and the elements of its lists of values between
commas.  What its text gives is told line by line: each printed line is read as an entry (`Prints`), and for
all of them these are the entries of the descriptor (`Descriptor.prints_lines`), apart from its lists of
values.  Of the text of such a list the blanks at both ends are lost with the line, so what is read is
`reread` of it; a `Printable` descriptor has no such blanks and is read back as it is
(`Descriptor.ofBytes_toBytes`).
-/

namespace FieldStudy

open Text (IsLine trimBlank isBlank)
open DescriptorLine (optional formatted ofValues ofChars)

/-! ## Lists of values in lines -/

/-- What the line of a list of values is read as. -/
def reread (values : List String) : List String :=
  ((Text.splitAll ',' (trimBlank (commaText values))).filter (!·.isEmpty)).map String.ofList

lemma no_break_commaText {values : List String} (h : AreElements values) : '\n' ∉ commaText values := by
  intro hc
  obtain hc | ⟨p, hp, hcp⟩ := Text.mem_join hc
  · simp at hc
  · obtain ⟨v, hv, rfl⟩ := List.mem_map.1 hp
    exact (h v hv).2.2 hcp

lemma trimBlank_subset (cs : List Char) : trimBlank cs ⊆ cs := by
  obtain ⟨before, after, -, -, hcs⟩ := Text.exists_trimBlank cs
  conv_rhs => rw [hcs]
  intro c hc
  simp [hc]

/-- The elements between the commas of a text without line breaks. -/
lemma areElements_splitAll {cs : List Char} (h : '\n' ∉ cs) :
    AreElements (((Text.splitAll ',' cs).filter (!·.isEmpty)).map String.ofList) := by
  intro v hv
  obtain ⟨piece, hp, rfl⟩ := List.mem_map.1 hv
  obtain ⟨hpiece, hne⟩ := List.mem_filter.1 hp
  obtain ⟨hcomma, hsub⟩ := Text.of_mem_splitAll hpiece
  refine ⟨?_, by simpa using hcomma, by simpa using fun hc => h (hsub hc)⟩
  intro hempty
  obtain rfl : piece = [] := String.ofList_inj.1 hempty
  simp at hne

lemma areElements_reread {values : List String} (h : AreElements values) : AreElements (reread values) :=
  areElements_splitAll fun hc => no_break_commaText h (trimBlank_subset _ hc)

/-- A list of values whose text has no blanks at its ends is read back. -/
lemma IsValueList.reread_eq {values : List String} (h : IsValueList values) : reread values = values := by
  have hvalues := DescriptorLine.values_ofValues h.element
  by_cases hv : values = []
  · subst hv
    decide
  · simpa [reread, h.trimmed, ofValues, DescriptorLine.values, DescriptorLine.raw, hv] using hvalues

/-! ## Entries that are read alike -/

/-- Two lines that every block takes in the same way: of a list of values only the elements matter. -/
structure DescriptorLine.Agrees (l l' : DescriptorLine) : Prop where
  key : l.key = l'.key
  values : l.values = l'.values
  value : l.key ≠ "VALUES" → l.value = l'.value

namespace Draft

lemma line_of_agrees {l l' : DescriptorLine} (h : l.Agrees l') (D : Draft) : D.line l = D.line l' := by
  obtain ⟨key, value⟩ := l
  obtain ⟨key', value'⟩ := l'
  obtain rfl : key = key' := h.key
  by_cases hk : key = "VALUES"
  · subst hk
    have hvalues := h.values
    obtain ⟨finished, block⟩ := D
    cases block <;>
      simp [line, topLine, sensorLine, frameLine, SensorParam.update?, Sensor.update?, Axis.update?,
        FrameDescription.update?, Button.update?, hvalues]
  · obtain rfl : value = value' := h.value hk
    rfl

lemma lines_of_agrees {ls ls' : List DescriptorLine} (h : List.Forall₂ DescriptorLine.Agrees ls ls')
    (D : Draft) : D.lines ls = D.lines ls' := by
  induction h generalizing D with
  | nil => rfl
  | cons hl _ ih =>
    simp only [lines, List.foldlM_cons, line_of_agrees hl]
    exact bind_congr fun D' => ih D'

end Draft

/-! ## Printed lines and entries -/

/-- The printed line is a line of a text, and is read as this entry. -/
structure Prints (cs : List Char) (l : DescriptorLine) : Prop where
  no_break : '\n' ∉ cs
  ne_nil : trimBlank cs ≠ []
  agrees : (ofChars (trimBlank cs)).Agrees l

namespace Prints

lemma of_isLine {cs : List Char} (h : IsLine cs) : Prints cs (ofChars cs) where
  no_break := h.no_break
  ne_nil := by rw [h.trimmed]; exact h.ne_nil
  agrees := by rw [h.trimmed]; exact ⟨rfl, rfl, fun _ => rfl⟩

lemma keyword {key : String} (hk : IsKeyword key) : Prints key.toList ⟨key, none⟩ :=
  DescriptorLine.ofChars_keyword hk ▸ of_isLine hk.line

lemma value {key value : String} (hk : IsKeyword key) (hv : IsLine value.toList) :
    Prints (valueLine key value) ⟨key, some value⟩ :=
  DescriptorLine.ofChars_valueLine hk hv ▸ of_isLine (isLine_valueLine hk hv)

/-- The line of a list of values loses the blanks at the ends of its text. -/
lemma values {vs : List String} (h : AreElements vs) : Prints (valuesLine vs) (ofValues (reread vs)) := by
  obtain ⟨kept, hkept, hrest⟩ := Text.trimBlank_append_right
    (show trimBlank "VALUES=".toList = "VALUES=".toList by decide) (by decide) (commaText vs)
  have hline : trimBlank (valuesLine vs) = "VALUES=".toList ++ kept := hkept
  have hread : ofChars (trimBlank (valuesLine vs)) = ⟨"VALUES",
      if (trimBlank (commaText vs)).isEmpty then none else some (String.ofList (trimBlank (commaText vs)))⟩ := by
    have hsplit : Text.splitFirst '=' ("VALUES=".toList ++ kept) = some ("VALUES".toList, kept) :=
      Text.splitFirst_append_cons kept (show '=' ∉ "VALUES".toList by decide)
    have hkeyword : String.ofList (trimBlank "VALUES".toList) = "VALUES" := by decide
    rw [hline, ofChars, hsplit]
    simp only [hrest, hkeyword]
  have hbreak : '\n' ∉ valuesLine vs := by
    have hkey : '\n' ∉ "VALUES=".toList := by decide
    exact fun hc => (List.mem_append.1 hc).elim hkey (no_break_commaText h)
  have hne : trimBlank (valuesLine vs) ≠ [] := by
    rw [hline]
    simp
  refine ⟨hbreak, hne, ?_⟩
  rw [hread]
  refine ⟨rfl, ?_, fun hkey => absurd rfl hkey⟩
  rw [DescriptorLine.values_ofValues (areElements_reread h)]
  by_cases hempty : trimBlank (commaText vs) = [] <;>
    simp [DescriptorLine.values, DescriptorLine.raw, reread, hempty]

lemma optional {key : String} {o : Option String} (hk : IsKeyword key) (ho : ∀ v ∈ o, IsLine v.toList) :
    List.Forall₂ Prints (optionalLine key o) (DescriptorLine.optional key o) := by
  cases o with
  | none => exact .nil
  | some v => exact .cons (value hk (ho v rfl)) .nil

lemma formatted {key : String} (o : Option FieldFormat) (hk : IsKeyword key) :
    List.Forall₂ Prints (formatLine key o) (DescriptorLine.formatted key o) := by
  refine optional hk fun v hv => ?_
  obtain ⟨f, -, rfl⟩ := Option.map_eq_some_iff.1 hv
  exact f.isLine_datatype

/-- Blocks one after another, each with the keyword that opens it. -/
lemma blocks {α β : Type} {key : String} {items : List α} (f : α → β) {print : α → List (List Char)}
    {entries : β → List DescriptorLine} (hk : IsKeyword key)
    (h : ∀ a ∈ items, List.Forall₂ Prints (print a) (entries (f a))) :
    List.Forall₂ Prints (items.flatMap fun a => key.toList :: print a)
      ((items.map f).flatMap fun b => ⟨key, none⟩ :: entries b) := by
  induction items with
  | nil => exact .nil
  | cons a rest ih =>
    simp only [List.flatMap_cons, List.map_cons]
    exact List.rel_append (.cons (keyword hk) (h a (by simp)))
      (ih fun b hb => h b (List.mem_cons_of_mem _ hb))

/-- The lines of a text are read as their entries. -/
lemma ofText {css : List (List Char)} {ls : List DescriptorLine} (h : List.Forall₂ Prints css ls) :
    List.Forall₂ DescriptorLine.Agrees (DescriptorLine.ofText (Text.join ['\n'] css)) ls := by
  have hbreak : ∀ cs ∈ css, '\n' ∉ cs :=
    ((List.forall₂_and_left _ _).1 (h.imp fun _ _ hp => ⟨hp.no_break, hp⟩)).1
  have hread : List.Forall₂ DescriptorLine.Agrees
      (((css.map trimBlank).filter (!·.isEmpty)).map ofChars) ls := by
    clear hbreak
    induction h with
    | nil => exact .nil
    | cons hl _ ih =>
      have hkept := List.isEmpty_eq_false_iff.2 hl.ne_nil
      simpa only [List.map_cons, List.filter_cons, hkept, Bool.not_false, if_true] using .cons hl.agrees ih
  by_cases hcss : css = []
  · subst hcss
    exact hread
  · rwa [DescriptorLine.ofText, Text.splitAll_join hcss hbreak]

end Prints

/-! ## The lines of a descriptor -/

def SensorParam.reread (p : SensorParam) : SensorParam := { p with values := FieldStudy.reread p.values }

def Sensor.reread (s : Sensor) : Sensor := { s with params := s.params.map SensorParam.reread }

def Button.reread (b : Button) : Button := { b with values := FieldStudy.reread b.values }

namespace Descriptor

/-- The descriptor with each list of values as it is read from its line. -/
def reread (d : Descriptor) : Descriptor :=
  { d with sensors := d.sensors.map Sensor.reread, buttons := d.buttons.map Button.reread }

/-- The texts can stand in lines, and the elements of the lists of values between commas. -/
structure Legible (d : Descriptor) : Prop where
  text : ∀ t ∈ d.texts, IsLine t.toList
  elements : d.HasElements

lemma Printable.legible {d : Descriptor} (h : d.Printable) : d.Legible :=
  ⟨h.text, fun vs hvs => (h.values vs hvs).element⟩

end Descriptor

lemma SensorParam.prints_lines {p : SensorParam} (ht : ∀ t ∈ p.texts, IsLine t.toList)
    (hv : AreElements p.values) : List.Forall₂ Prints p.lines p.reread.entries := by
  refine List.rel_append (List.rel_append (List.rel_append ?_ ?_) ?_) ?_
  · exact Prints.optional (by decide) fun v hv => ht v (by simp_all [texts])
  · exact Prints.formatted _ (by decide)
  · exact .cons (Prints.values hv) .nil
  · exact Prints.optional (by decide) fun v hv => ht v (by simp_all [texts])

lemma Sensor.prints_lines {s : Sensor} (ht : ∀ t ∈ s.texts, IsLine t.toList)
    (hv : ∀ p ∈ s.params, AreElements p.values) : List.Forall₂ Prints s.lines s.reread.entries := by
  refine List.rel_append (List.rel_append (List.rel_append ?_ ?_) ?_) ?_
  · exact .cons (Prints.value (by decide) (isLine_numberText _)) .nil
  · exact Prints.optional (by decide) fun v hv => ht v (by simp_all [texts])
  · exact Prints.optional (by decide) fun v hv => ht v (by simp_all [texts])
  · refine Prints.blocks _ (by decide) fun p hp => SensorParam.prints_lines (fun t h => ht t ?_) (hv p hp)
    exact List.mem_append_right _ (List.mem_flatMap.2 ⟨p, hp, h⟩)

lemma Axis.prints_lines {a : Axis} (ht : ∀ t ∈ a.texts, IsLine t.toList) :
    List.Forall₂ Prints a.lines a.entries := by
  refine List.rel_append (List.rel_append (List.rel_append (List.rel_append ?_ ?_) ?_) ?_) ?_
  · exact Prints.optional (by decide) fun v hv => ht v (by simp_all [texts])
  · exact Prints.formatted _ (by decide)
  · exact Prints.optional (by decide) fun v hv => ht v (by simp_all [texts])
  · exact Prints.optional (by decide) fun v hv => ht v (by simp_all [texts])
  · exact Prints.optional (by decide) fun v hv => ht v (by simp_all [texts])

lemma FrameDescription.prints_lines {f : FrameDescription} (ht : ∀ t ∈ f.texts, IsLine t.toList) :
    List.Forall₂ Prints f.lines f.entries := by
  refine List.rel_append (List.rel_append ?_ ?_) ?_
  · exact .cons (Prints.value (by decide) (isLine_numberText _))
      (.cons (Prints.value (by decide) f.timestamp.isLine_datatype) .nil)
  · exact Prints.formatted _ (by decide)
  · have haxes := Prints.blocks (fun a : Axis => a) (show IsKeyword "AXIS" by decide)
      fun a ha => a.prints_lines fun t h => ht t (List.mem_flatMap.2 ⟨a, ha, h⟩)
    rwa [List.map_id'] at haxes

lemma Button.prints_lines {b : Button} (ht : ∀ t ∈ b.texts, IsLine t.toList) (hv : AreElements b.values) :
    List.Forall₂ Prints b.lines b.reread.entries := by
  refine List.rel_append (List.rel_append (List.rel_append ?_ ?_) ?_) ?_
  · exact Prints.optional (by decide) fun v hv => ht v (by simp_all [texts])
  · exact Prints.formatted _ (by decide)
  · exact Prints.optional (by decide) fun v hv => ht v (by simp_all [texts])
  · exact .cons (Prints.values hv) .nil

namespace Descriptor

variable {d : Descriptor}

/-- The printed lines of a descriptor are read as its entries, apart from its lists of values. -/
theorem prints_lines (hd : d.Legible) : List.Forall₂ Prints d.lines d.reread.entries := by
  refine List.rel_append (List.rel_append (List.rel_append (List.rel_append ?_ ?_) ?_) ?_) ?_
  · exact Prints.blocks _ (by decide) fun s hs => s.prints_lines (fun t ht => hd.text t (d.sensor_texts hs ht))
      fun p hp => hd.elements _ (d.sensor_valueLists hs (List.mem_map.2 ⟨p, hp, rfl⟩))
  · have hframes := Prints.blocks (fun f : FrameDescription => f) (show IsKeyword "FRAME_DESC" by decide)
      fun f hf => f.prints_lines fun t ht => hd.text t (d.frame_texts hf ht)
    rwa [List.map_id'] at hframes
  · rw [List.forall₂_map_left_iff, reread, List.forall₂_map_right_iff, List.forall₂_same]
    exact fun t ht => Prints.value (by decide) (hd.text t (d.plotNames_subset_texts ht))
  · rw [List.forall₂_map_left_iff, reread, List.forall₂_map_right_iff, List.forall₂_same]
    exact fun t ht => Prints.value (by decide) (hd.text t (d.pictureNames_subset_texts ht))
  · exact Prints.blocks _ (by decide) fun b hb => b.prints_lines (fun t ht => hd.text t (d.button_texts hb ht))
      (hd.elements _ (d.button_values hb))

/-- The lists of values of a descriptor that is read from its text. -/
lemma valueLists_reread (d : Descriptor) : d.reread.valueLists = d.valueLists.map FieldStudy.reread := by
  simp [valueLists, reread, Sensor.reread, SensorParam.reread, Button.reread, List.flatMap_map, List.map_flatMap,
    Function.comp_def]

/-- A descriptor is read from its text with each list of values as it is read from its line. -/
theorem ofText_text_reread (hd : d.Legible) : ofText d.text = .ok d.reread := by
  have helements : d.reread.HasElements := by
    intro vs hvs
    rw [valueLists_reread] at hvs
    obtain ⟨vs', hvs', rfl⟩ := List.mem_map.1 hvs
    exact areElements_reread (hd.elements vs' hvs')
  rw [ofText, text, Draft.lines_of_agrees (Prints.ofText (prints_lines hd)), Draft.lines_entries helements]

/-- It is the descriptor itself if no list of values loses anything. -/
lemma reread_eq (h : ∀ vs ∈ d.valueLists, FieldStudy.reread vs = vs) : d.reread = d := by
  have hsensor : ∀ s ∈ d.sensors, s.reread = s := by
    intro s hs
    have hparam : ∀ p ∈ s.params, p.reread = p := fun p hp => by
      rw [SensorParam.reread, h p.values (d.sensor_valueLists hs (List.mem_map.2 ⟨p, hp, rfl⟩))]
    rw [Sensor.reread, List.map_congr_left hparam, List.map_id']
  have hbutton : ∀ b ∈ d.buttons, b.reread = b := fun b hb => by
    rw [Button.reread, h b.values (d.button_values hb)]
  rw [reread, List.map_congr_left hsensor, List.map_congr_left hbutton, List.map_id', List.map_id']

/-- A descriptor is read back from its text. -/
lemma ofText_text {d : Descriptor} (hd : d.Printable) : ofText d.text = .ok d := by
  rw [ofText_text_reread hd.legible, reread_eq fun vs hvs => (hd.values vs hvs).reread_eq]

/-- A descriptor is read back from its bytes: every list in its order, and every block in the one that held
it. -/
theorem ofBytes_toBytes {d : Descriptor} (hd : d.Printable) : ofBytes d.toBytes = .ok d := by
  rw [ofBytes, toBytes, Utf8.decode_encode]
  exact ofText_text hd

/-- Blocks of every kind, some of them without a line, and values that look like other lines. -/
def nested : Descriptor :=
  { sensors :=
      [{ id := 7, params := [{}, { name := some "NAME=a", values := ["x=1", "y z"], unit := some "PARAM" }] },
        {}]
    frames :=
      [{ id := 3, increment := some ⟨.big, .uint8⟩, axes := [{}, { name := some "AXIS" }] }, {}]
    plotNames := ["SENSOR", "="]
    pictureNames := ["=p"]
    buttons := [{}, { datatype := some ⟨.little, .int16⟩, info := some "i", values := ["BUTTON"] }] }

theorem ofBytes_toBytes_nested : nested.Printable ∧ ofBytes nested.toBytes = .ok nested :=
  have hd : nested.Printable := by decide
  ⟨hd, ofBytes_toBytes hd⟩

end Descriptor

end FieldStudy

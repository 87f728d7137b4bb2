import Mathlib.Data.List.Basic
import Mathlib.Tactic.Common
import FieldStudy.Descriptor.Parser
import FieldStudy.Descriptor.Printer
import FieldStudy.Proofs.Text.Lines

/-!
# The lines of a printed descriptor

A descriptor is `Printable` when its texts and its lists of values can stand in lines.  Every line that it
prints holds one of these, a format, a number or nothing but a keyword (`Descriptor.printedLine`), and a line
of a text is read as the keyword and the value that it was printed from.
-/

namespace FieldStudy

open Text (IsLine trimBlank)

/-! ## What can be printed -/

def SensorParam.texts (p : SensorParam) : List String := p.name.toList ++ p.unit.toList

def Sensor.texts (s : Sensor) : List String :=
  s.name.toList ++ s.driverVersion.toList ++ s.params.flatMap SensorParam.texts

def Axis.texts (a : Axis) : List String :=
  a.name.toList ++ a.plotId.toList ++ a.barId.toList ++ a.pictureId.toList

def FrameDescription.texts (f : FrameDescription) : List String := f.axes.flatMap Axis.texts

def Button.texts (b : Button) : List String := b.name.toList ++ b.info.toList

/-- The elements of a list of values, joined by commas. -/
def commaText (values : List String) : List Char := Text.join [','] (values.map String.toList)

/-- The elements of a list of values can stand between commas: none is empty or holds a comma or a line
break. -/
def AreElements (values : List String) : Prop := ∀ v ∈ values, v ≠ "" ∧ ',' ∉ v.toList ∧ '\n' ∉ v.toList

/-- A list of values that its comma text determines: the elements are not empty and hold neither a comma
nor a line break, and the text has no blanks at its ends. -/
structure IsValueList (values : List String) : Prop where
  element : ∀ v ∈ values, v ≠ "" ∧ ',' ∉ v.toList ∧ '\n' ∉ v.toList
  trimmed : trimBlank (commaText values) = commaText values

instance (values : List String) : Decidable (IsValueList values) :=
  decidable_of_iff ((∀ v ∈ values, v ≠ "" ∧ ',' ∉ v.toList ∧ '\n' ∉ v.toList) ∧
      trimBlank (commaText values) = commaText values)
    ⟨fun ⟨h₁, h₂⟩ => ⟨h₁, h₂⟩, fun ⟨h₁, h₂⟩ => ⟨h₁, h₂⟩⟩

namespace Descriptor

/-- The texts that a descriptor holds anywhere, its lists of values apart. -/
def texts (d : Descriptor) : List String :=
  d.sensors.flatMap Sensor.texts ++ d.frames.flatMap FrameDescription.texts ++ d.plotNames ++
    d.pictureNames ++ d.buttons.flatMap Button.texts

/-- The lists of values of all parameters and buttons. -/
def valueLists (d : Descriptor) : List (List String) :=
  (d.sensors.flatMap fun s => s.params.map (·.values)) ++ d.buttons.map (·.values)

/-- A descriptor whose texts and lists of values can stand in lines. -/
structure Printable (d : Descriptor) : Prop where
  text : ∀ t ∈ d.texts, IsLine t.toList
  values : ∀ vs ∈ d.valueLists, IsValueList vs

instance (d : Descriptor) : Decidable d.Printable :=
  decidable_of_iff ((∀ t ∈ d.texts, IsLine t.toList) ∧ ∀ vs ∈ d.valueLists, IsValueList vs)
    ⟨fun ⟨h₁, h₂⟩ => ⟨h₁, h₂⟩, fun ⟨h₁, h₂⟩ => ⟨h₁, h₂⟩⟩

end Descriptor

/-! ## Keywords and values -/

/-- A keyword that can open a line. -/
structure IsKeyword (key : String) : Prop where
  line : IsLine key.toList
  no_equals : '=' ∉ key.toList

instance (key : String) : Decidable (IsKeyword key) :=
  decidable_of_iff (IsLine key.toList ∧ '=' ∉ key.toList)
    ⟨fun ⟨h₁, h₂⟩ => ⟨h₁, h₂⟩, fun ⟨h₁, h₂⟩ => ⟨h₁, h₂⟩⟩

lemma isLine_valueLine {key value : String} (hk : IsKeyword key) (hv : IsLine value.toList) :
    IsLine (valueLine key value) := by
  have h := (hk.line.append (show IsLine ['='] by decide)).append hv
  simpa [valueLine] using h

namespace DescriptorLine

lemma ofChars_keyword {key : String} (hk : IsKeyword key) : ofChars key.toList = ⟨key, none⟩ := by
  rw [ofChars, Text.splitFirst_of_notMem hk.no_equals]
  simp

lemma ofChars_valueLine {key value : String} (hk : IsKeyword key) (hv : IsLine value.toList) :
    ofChars (valueLine key value) = ⟨key, some value⟩ := by
  simp [ofChars, valueLine, Text.splitFirst_append_cons _ hk.no_equals, hk.line.trimmed, hv.trimmed,
    hv.ne_nil]

end DescriptorLine

/-! ## Formats -/

namespace FieldFormat

lemma isLine_datatype (f : FieldFormat) : IsLine f.datatype.toList := by
  obtain ⟨e, c⟩ := f
  cases e <;> cases c <;> decide

/-- The three keywords of a format name it. -/
@[simp] lemma ofDatatype_datatype (f : FieldFormat) : ofDatatype f.datatype = .ok f := by
  obtain ⟨e, c⟩ := f
  cases e <;> cases c <;> rfl

end FieldFormat

/-! ## Numbers -/

lemma isBlank_of_isDigit {c : Char} (h : c.isDigit = true) : Text.isBlank c = false := by
  simp only [Char.isDigit, Bool.and_eq_true, decide_eq_true_eq, UInt32.le_iff_toNat_le] at h
  have h₁ : 48 ≤ c.toNat := h.1
  have h₂ : c.toNat ≤ 57 := h.2
  simp only [Text.isBlank, Bool.or_eq_false_iff, Bool.and_eq_false_iff, decide_eq_false_iff_not,
    beq_eq_false_iff_ne]
  omega

lemma isLine_numberText (n : Nat) : IsLine (numberText n).toList := by
  have hdigit : ∀ c ∈ Nat.toDigits 10 n, c.isDigit = true := fun c hc =>
    Nat.isDigit_of_mem_toDigits (by decide) (by decide) hc
  rw [numberText, String.toList_ofList]
  refine ⟨Nat.toDigits_ne_nil, Text.trimBlank_eq_self_iff.2 ⟨?_, ?_⟩, ?_⟩
  · exact fun c hc => isBlank_of_isDigit (hdigit c (List.mem_of_mem_head? hc))
  · exact fun c hc => isBlank_of_isDigit (hdigit c (List.mem_of_mem_getLast? hc))
  · exact fun hc => absurd (hdigit _ hc) (by decide)

namespace DescriptorLine

lemma number?_of_isDigit {cs : List Char} (hne : cs ≠ []) (h : ∀ c ∈ cs, c.isDigit = true) :
    number? cs = some (Nat.ofDigitChars 10 cs 0) := by
  obtain ⟨c, rest, rfl⟩ := List.exists_cons_of_ne_nil hne
  have hsign : c ≠ '+' := by
    rintro rfl
    exact absurd (h '+' (by simp)) (by decide)
  have hall : (c :: rest).all Char.isDigit = true := List.all_eq_true.2 h
  simp [number?, hsign, hall, Nat.ofDigitChars, Nat.mul_comm]

lemma number?_toDigits (n : Nat) : number? (Nat.toDigits 10 n) = some n := by
  rw [number?_of_isDigit Nat.toDigits_ne_nil fun c hc =>
    Nat.isDigit_of_mem_toDigits (by decide) (by decide) hc]
  rw [Nat.ofDigitChars_ten_toDigits]

/-- A printed number is read back if it is below the limit. -/
lemma number_numberText {key : String} {n limit : Nat} (h : n < limit) :
    number ⟨key, some (numberText n)⟩ limit = .ok n := by
  simp [number, raw, numberText, number?_toDigits, h]

end DescriptorLine

/-! ## The lines of the blocks -/

/-- The keywords of printed lines. -/
def keywords : List String :=
  ["SENSOR", "ID", "SENSOR_NAME", "DRIVER_VERSION", "PARAM", "NAME", "DATATYPE", "UNIT", "FRAME_DESC",
    "FRAME_ID", "TIMESTAMP_DATATYPE", "INCR_TIME_DATATYPE", "AXIS", "PLOT_ID", "BAR_ID", "PICTURE_ID",
    "PLOT_NAME", "PICTURE_NAME", "BUTTON", "INFO"]

/-- A line that gives one of the texts or one of the lists of values, or something that is not given by
texts at all. -/
inductive PrintedLine (texts : List String) (lists : List (List String)) : List Char → Prop
  | keyword {key : String} (hk : key ∈ keywords) : PrintedLine texts lists key.toList
  | text {key t : String} (hk : key ∈ keywords) (ht : t ∈ texts) :
    PrintedLine texts lists (valueLine key t)
  | format {key : String} (hk : key ∈ keywords) (f : FieldFormat) :
    PrintedLine texts lists (valueLine key f.datatype)
  | number {key : String} (hk : key ∈ keywords) (n : Nat) :
    PrintedLine texts lists (valueLine key (numberText n))
  | values {vs : List String} (hv : vs ∈ lists) : PrintedLine texts lists (valuesLine vs)

namespace PrintedLine

variable {texts more : List String} {lists others : List (List String)} {key : String}

lemma mono {l : List Char} (h : PrintedLine texts lists l) (ht : texts ⊆ more) (hl : lists ⊆ others) :
    PrintedLine more others l := by
  cases h with
  | keyword hk => exact .keyword hk
  | text hk h => exact .text hk (ht h)
  | format hk f => exact .format hk f
  | number hk n => exact .number hk n
  | values h => exact .values (hl h)

lemma of_mem_optionalLine {o : Option String} (hk : key ∈ keywords) (ho : o.toList ⊆ texts) :
    ∀ l ∈ optionalLine key o, PrintedLine texts lists l := by
  cases o with
  | none => simp [optionalLine]
  | some t => simpa [optionalLine] using text hk (ho (by simp))

lemma of_mem_formatLine {o : Option FieldFormat} (hk : key ∈ keywords) :
    ∀ l ∈ formatLine key o, PrintedLine texts lists l := by
  cases o with
  | none => simp [formatLine, optionalLine]
  | some f => simpa [formatLine, optionalLine] using format hk f

end PrintedLine

lemma SensorParam.printedLine (p : SensorParam) : ∀ l ∈ p.lines, PrintedLine p.texts [p.values] l := by
  intro l hl
  simp only [lines, List.mem_append, List.mem_singleton] at hl
  obtain ((hl | hl) | rfl) | hl := hl
  · exact .of_mem_optionalLine (by decide) (by simp [texts]) l hl
  · exact .of_mem_formatLine (by decide) l hl
  · exact .values (by simp)
  · exact .of_mem_optionalLine (by decide) (by simp [texts]) l hl

lemma Sensor.printedLine (s : Sensor) :
    ∀ l ∈ s.lines, PrintedLine s.texts (s.params.map (·.values)) l := by
  intro l hl
  simp only [lines, List.mem_append, List.mem_cons, List.not_mem_nil, or_false, List.mem_flatMap] at hl
  obtain ((rfl | hl) | hl) | ⟨p, hp, rfl | hl⟩ := hl
  · exact .number (by decide) _
  · exact .of_mem_optionalLine (by decide) (by simp [texts]) l hl
  · exact .of_mem_optionalLine (by decide) (by simp [texts]) l hl
  · exact .keyword (by decide)
  · refine (p.printedLine l hl).mono (fun t ht => ?_) (by simpa using ⟨p, hp, rfl⟩)
    exact List.mem_append_right _ (List.mem_flatMap.2 ⟨p, hp, ht⟩)

lemma Axis.printedLine (a : Axis) : ∀ l ∈ a.lines, PrintedLine a.texts [] l := by
  intro l hl
  simp only [lines, List.mem_append] at hl
  obtain (((hl | hl) | hl) | hl) | hl := hl
  · exact .of_mem_optionalLine (by decide) (by simp [texts]) l hl
  · exact .of_mem_formatLine (by decide) l hl
  · exact .of_mem_optionalLine (by decide) (by simp [texts]) l hl
  · exact .of_mem_optionalLine (by decide) (fun t ht => by simp_all [texts]) l hl
  · exact .of_mem_optionalLine (by decide) (fun t ht => by simp_all [texts]) l hl

lemma FrameDescription.printedLine (f : FrameDescription) :
    ∀ l ∈ f.lines, PrintedLine f.texts [] l := by
  intro l hl
  simp only [lines, List.mem_append, List.mem_cons, List.not_mem_nil, or_false, List.mem_flatMap] at hl
  obtain ((rfl | rfl) | hl) | ⟨a, ha, rfl | hl⟩ := hl
  · exact .number (by decide) _
  · exact .format (by decide) _
  · exact .of_mem_formatLine (by decide) l hl
  · exact .keyword (by decide)
  · exact (a.printedLine l hl).mono (fun t ht => List.mem_flatMap.2 ⟨a, ha, ht⟩) (by simp)

lemma Button.printedLine (b : Button) : ∀ l ∈ b.lines, PrintedLine b.texts [b.values] l := by
  intro l hl
  simp only [lines, List.mem_append, List.mem_singleton] at hl
  obtain ((hl | hl) | hl) | rfl := hl
  · exact .of_mem_optionalLine (by decide) (by simp [texts]) l hl
  · exact .of_mem_formatLine (by decide) l hl
  · exact .of_mem_optionalLine (by decide) (by simp [texts]) l hl
  · exact .values (by simp)

namespace Descriptor

variable (d : Descriptor)

lemma sensor_texts {s : Sensor} (hs : s ∈ d.sensors) : s.texts ⊆ d.texts := by
  intro t ht
  simp only [texts, List.mem_append, List.mem_flatMap]
  exact .inl (.inl (.inl (.inl ⟨s, hs, ht⟩)))

lemma sensor_valueLists {s : Sensor} (hs : s ∈ d.sensors) :
    s.params.map (·.values) ⊆ d.valueLists :=
  fun _ h => List.mem_append_left _ (List.mem_flatMap.2 ⟨s, hs, h⟩)

lemma frame_texts {f : FrameDescription} (hf : f ∈ d.frames) : f.texts ⊆ d.texts := by
  intro t ht
  simp only [texts, List.mem_append, List.mem_flatMap]
  exact .inl (.inl (.inl (.inr ⟨f, hf, ht⟩)))

lemma plotNames_subset_texts : d.plotNames ⊆ d.texts := by
  intro t ht
  simp only [texts, List.mem_append]
  exact .inl (.inl (.inr ht))

lemma pictureNames_subset_texts : d.pictureNames ⊆ d.texts := by
  intro t ht
  simp only [texts, List.mem_append]
  exact .inl (.inr ht)

lemma button_texts {b : Button} (hb : b ∈ d.buttons) : b.texts ⊆ d.texts :=
  fun _ h => List.mem_append_right _ (List.mem_flatMap.2 ⟨b, hb, h⟩)

lemma button_values {b : Button} (hb : b ∈ d.buttons) : b.values ∈ d.valueLists :=
  List.mem_append_right _ (List.mem_map.2 ⟨b, hb, rfl⟩)

/-- A descriptor prints its own texts and lists of values. -/
theorem printedLine : ∀ l ∈ d.lines, PrintedLine d.texts d.valueLists l := by
  intro l hl
  simp only [lines, List.mem_append, List.mem_flatMap, List.mem_map, List.mem_cons] at hl
  obtain (((⟨s, hs, rfl | hl⟩ | ⟨f, hf, rfl | hl⟩) | ⟨t, ht, rfl⟩) | ⟨t, ht, rfl⟩) | ⟨b, hb, rfl | hl⟩ := hl
  · exact .keyword (by decide)
  · exact (s.printedLine l hl).mono (d.sensor_texts hs) (d.sensor_valueLists hs)
  · exact .keyword (by decide)
  · exact (f.printedLine l hl).mono (d.frame_texts hf) (by simp)
  · exact .text (by decide) (d.plotNames_subset_texts ht)
  · exact .text (by decide) (d.pictureNames_subset_texts ht)
  · exact .keyword (by decide)
  · exact (b.printedLine l hl).mono (d.button_texts hb) (by simpa using d.button_values hb)

end Descriptor

end FieldStudy

import Mathlib.Algebra.Order.BigOperators.Group.List
import Mathlib.Algebra.Order.Group.Nat
import Mathlib.Tactic.Common
import FieldStudy.Proofs.Descriptor.RoundTrip

/-!
# Descriptors that were read are printed and read again

Whatever text a descriptor is read from, it is `Legible` (`Descriptor.legible_of_ofText`): each text in it was
trimmed with its line, and each element of a list of values stood between commas.  Elements are not trimmed
themselves, though, so the text of such a list may begin or end with blanks, and these are lost when the
descriptor is printed and read again.  They are all that can be lost (`Descriptor.ofBytes_toBytes_of_ofText`).
-/

namespace FieldStudy

open Text (IsLine trimBlank)

/-! ## Blanks at the ends of a list of values -/

lemma length_join_le_of_sublist (separator : Char) {some all : List (List Char)} (h : some.Sublist all) :
    (Text.join [separator] some).length ≤ (Text.join [separator] all).length := by
  have length_join (pieces : List (List Char)) (hne : pieces ≠ []) :
      (Text.join [separator] pieces).length + 1 = (pieces.map (·.length + 1)).sum := by
    induction pieces with
    | nil => exact absurd rfl hne
    | cons p rest ih =>
      cases rest with
      | nil => simp [Text.join]
      | cons q more =>
        have hrest := ih (by simp)
        simp only [Text.join, List.map_cons, List.sum_cons, List.length_append, List.length_singleton]
          at hrest ⊢
        omega
  by_cases hsome : some = []
  · simp [hsome, Text.join]
  · have hall : all ≠ [] := fun hnil => hsome (List.sublist_nil.1 (hnil ▸ h))
    have hsum : (some.map (·.length + 1)).sum ≤ (all.map (·.length + 1)).sum :=
      (h.map _).sum_le_sum fun _ _ => Nat.zero_le _
    have h₁ := length_join some hsome
    have h₂ := length_join all hall
    omega

/-- A list of values is read back exactly when its text has no blanks at its ends: an element that lost blanks
is shorter, and one that held nothing else is gone. -/
lemma reread_eq_iff {values : List String} (h : AreElements values) :
    reread values = values ↔ trimBlank (commaText values) = commaText values := by
  refine ⟨fun hread => ?_, fun htrim => IsValueList.reread_eq ⟨h, htrim⟩⟩
  have hpieces : values.map String.toList =
      (Text.splitAll ',' (trimBlank (commaText values))).filter (!·.isEmpty) := by
    conv_lhs => rw [← hread, reread, List.map_map]
    simp [Function.comp_def]
  have hlen : (commaText values).length ≤ (trimBlank (commaText values)).length := by
    calc (commaText values).length
        = (Text.join [','] ((Text.splitAll ',' (trimBlank (commaText values))).filter (!·.isEmpty))).length := by
          rw [← hpieces, commaText]
      _ ≤ (Text.join [','] (Text.splitAll ',' (trimBlank (commaText values)))).length :=
          length_join_le_of_sublist ',' List.filter_sublist
      _ = (trimBlank (commaText values)).length := by rw [Text.join_splitAll]
  obtain ⟨before, after, -, -, hcs⟩ := Text.exists_trimBlank (commaText values)
  have hends : before.length + after.length = 0 := by
    have := congrArg List.length hcs
    simp only [List.length_append] at this
    omega
  obtain rfl : before = [] := List.length_eq_zero_iff.1 (by omega)
  obtain rfl : after = [] := List.length_eq_zero_iff.1 (by omega)
  simpa using hcs.symm

/-! ## Lines of a text -/

namespace DescriptorLine

/-- A value that stood in a line of a text can stand in one again. -/
def HasLine (l : DescriptorLine) : Prop := ∀ v ∈ l.value.toList, IsLine v.toList

lemma HasLine.areElements {l : DescriptorLine} (h : l.HasLine) : AreElements l.values := by
  refine areElements_splitAll ?_
  obtain ⟨key, _ | v⟩ := l
  · simp [raw]
  · exact (h v (by simp)).no_break

lemma hasLine_ofChars {cs : List Char} (h : '\n' ∉ cs) : (ofChars cs).HasLine := by
  intro v hv
  rw [Option.mem_toList, ofChars] at hv
  cases hsplit : Text.splitFirst '=' cs with
  | none => simp [hsplit] at hv
  | some parts =>
    obtain ⟨key, value⟩ := parts
    obtain ⟨hne, rfl⟩ : trimBlank value ≠ [] ∧ String.ofList (trimBlank value) = v := by
      simpa [hsplit] using hv
    rw [String.toList_ofList]
    have hvalue : value ⊆ cs := by
      rw [Text.eq_of_splitFirst hsplit]
      exact fun c hc => by simp [hc]
    exact ⟨hne, Text.trimBlank_trimBlank value, fun hc => h (hvalue (trimBlank_subset value hc))⟩

lemma hasLine_of_mem_ofText {cs : List Char} {l : DescriptorLine} (h : l ∈ ofText cs) : l.HasLine := by
  obtain ⟨line, hline, rfl⟩ := List.mem_map.1 h
  obtain ⟨piece, hpiece, rfl⟩ := List.mem_map.1 (List.mem_filter.1 hline).1
  exact hasLine_ofChars fun hc => (Text.of_mem_splitAll hpiece).1 (trimBlank_subset piece hc)

end DescriptorLine

/-! ## Blocks that were read -/

def SensorParam.Legible (p : SensorParam) : Prop := (∀ t ∈ p.texts, IsLine t.toList) ∧ AreElements p.values

def Sensor.Legible (s : Sensor) : Prop :=
  (∀ t ∈ s.texts, IsLine t.toList) ∧ ∀ p ∈ s.params, AreElements p.values

def Axis.Legible (a : Axis) : Prop := ∀ t ∈ a.texts, IsLine t.toList

def FrameDescription.Legible (f : FrameDescription) : Prop := ∀ t ∈ f.texts, IsLine t.toList

def Button.Legible (b : Button) : Prop := (∀ t ∈ b.texts, IsLine t.toList) ∧ AreElements b.values

lemma exists_of_map_eq_ok {ε α β : Type} {f : α → β} {x : Except ε α} {b : β} (h : x.map f = .ok b) :
    ∃ a, f a = b := by
  cases x with
  | error e => cases h
  | ok a => exact ⟨a, Except.ok.inj h⟩

/-! A line changes one field of a block, and the text or list that it sets there is its own. -/

section Blocks

variable {l : DescriptorLine} (hl : l.HasLine)
include hl

lemma SensorParam.Legible.update {p p' : SensorParam} (h : p.Legible) (hupdate : p.update? l = some (.ok p')) :
    p'.Legible := by
  obtain ⟨htexts, helements⟩ := h
  simp only [SensorParam.update?] at hupdate
  split at hupdate
  · obtain rfl := by simpa using hupdate
    refine ⟨?_, helements⟩
    simp only [texts, List.forall_mem_append] at htexts ⊢
    tauto
  · obtain ⟨f, rfl⟩ := exists_of_map_eq_ok (Option.some.inj hupdate)
    exact ⟨htexts, helements⟩
  · obtain rfl := by simpa using hupdate
    exact ⟨htexts, hl.areElements⟩
  · obtain rfl := by simpa using hupdate
    refine ⟨?_, helements⟩
    simp only [texts, List.forall_mem_append] at htexts ⊢
    tauto
  · cases hupdate

lemma Sensor.Legible.update {s s' : Sensor} (h : s.Legible) (hupdate : s.update? l = some (.ok s')) :
    s'.Legible := by
  obtain ⟨htexts, helements⟩ := h
  simp only [Sensor.update?] at hupdate
  split at hupdate
  · obtain ⟨n, rfl⟩ := exists_of_map_eq_ok (Option.some.inj hupdate)
    exact ⟨htexts, helements⟩
  · obtain rfl := by simpa using hupdate
    refine ⟨?_, helements⟩
    simp only [texts, List.forall_mem_append] at htexts ⊢
    tauto
  · obtain rfl := by simpa using hupdate
    refine ⟨?_, helements⟩
    simp only [texts, List.forall_mem_append] at htexts ⊢
    tauto
  · cases hupdate

lemma Axis.Legible.update {a a' : Axis} (h : a.Legible) (hupdate : a.update? l = some (.ok a')) :
    a'.Legible := by
  simp only [Axis.update?] at hupdate
  split at hupdate
  · obtain rfl := by simpa using hupdate
    simp only [Legible, texts, List.forall_mem_append] at h ⊢
    tauto
  · obtain ⟨f, rfl⟩ := exists_of_map_eq_ok (Option.some.inj hupdate)
    exact h
  · obtain rfl := by simpa using hupdate
    simp only [Legible, texts, List.forall_mem_append] at h ⊢
    tauto
  · obtain rfl := by simpa using hupdate
    simp only [Legible, texts, List.forall_mem_append] at h ⊢
    tauto
  · obtain rfl := by simpa using hupdate
    simp only [Legible, texts, List.forall_mem_append] at h ⊢
    tauto
  · cases hupdate

omit hl in
lemma FrameDescription.Legible.update {f f' : FrameDescription} (h : f.Legible)
    (hupdate : f.update? l = some (.ok f')) : f'.Legible := by
  simp only [FrameDescription.update?] at hupdate
  split at hupdate
  · obtain ⟨n, rfl⟩ := exists_of_map_eq_ok (Option.some.inj hupdate)
    exact h
  · obtain ⟨t, rfl⟩ := exists_of_map_eq_ok (Option.some.inj hupdate)
    exact h
  · obtain ⟨i, rfl⟩ := exists_of_map_eq_ok (Option.some.inj hupdate)
    exact h
  · cases hupdate

lemma Button.Legible.update {b b' : Button} (h : b.Legible) (hupdate : b.update? l = some (.ok b')) :
    b'.Legible := by
  obtain ⟨htexts, helements⟩ := h
  simp only [Button.update?] at hupdate
  split at hupdate
  · obtain rfl := by simpa using hupdate
    refine ⟨?_, helements⟩
    simp only [texts, List.forall_mem_append] at htexts ⊢
    tauto
  · obtain ⟨f, rfl⟩ := exists_of_map_eq_ok (Option.some.inj hupdate)
    exact ⟨htexts, helements⟩
  · obtain rfl := by simpa using hupdate
    refine ⟨?_, helements⟩
    simp only [texts, List.forall_mem_append] at htexts ⊢
    tauto
  · obtain rfl := by simpa using hupdate
    exact ⟨htexts, hl.areElements⟩
  · cases hupdate

end Blocks

/-! ## Blocks that are added to others -/

lemma Sensor.Legible.addParam {s : Sensor} {p : SensorParam} (hs : s.Legible) (hp : p.Legible) :
    Sensor.Legible { s with params := s.params ++ [p] } := by
  simp only [Legible, SensorParam.Legible, texts, List.flatMap_append, List.flatMap_singleton,
    List.forall_mem_append, List.forall_mem_singleton] at hs hp ⊢
  tauto

lemma FrameDescription.Legible.addAxis {f : FrameDescription} {a : Axis} (hf : f.Legible) (ha : a.Legible) :
    FrameDescription.Legible { f with axes := f.axes ++ [a] } := by
  simp only [Legible, Axis.Legible, texts, List.flatMap_append, List.flatMap_singleton,
    List.forall_mem_append] at hf ha ⊢
  tauto

namespace Descriptor.Legible

variable {d : Descriptor}

lemma addSensor {s : Sensor} (hd : d.Legible) (hs : s.Legible) :
    Descriptor.Legible { d with sensors := d.sensors ++ [s] } := by
  obtain ⟨ht, hv⟩ := hd
  obtain ⟨hst, hsv⟩ := hs
  constructor
  · simp only [texts, List.flatMap_append, List.flatMap_singleton, List.forall_mem_append] at ht ⊢
    tauto
  · simp only [HasElements, valueLists, List.flatMap_append, List.flatMap_singleton, List.forall_mem_append,
      List.forall_mem_map] at hv ⊢
    tauto

lemma addFrame {f : FrameDescription} (hd : d.Legible) (hf : f.Legible) :
    Descriptor.Legible { d with frames := d.frames ++ [f] } := by
  refine ⟨?_, hd.elements⟩
  have ht := hd.text
  simp only [FrameDescription.Legible, texts, List.flatMap_append, List.flatMap_singleton,
    List.forall_mem_append] at ht hf ⊢
  tauto

lemma addButton {b : Button} (hd : d.Legible) (hb : b.Legible) :
    Descriptor.Legible { d with buttons := d.buttons ++ [b] } := by
  obtain ⟨ht, hv⟩ := hd
  obtain ⟨hbt, hbv⟩ := hb
  constructor
  · simp only [texts, List.flatMap_append, List.flatMap_singleton, List.forall_mem_append] at ht ⊢
    tauto
  · simp only [HasElements, valueLists, List.map_append, List.map_singleton, List.forall_mem_append,
      List.forall_mem_singleton] at hv ⊢
    tauto

end Descriptor.Legible

/-! ## Drafts -/

namespace Draft

/-- What is finished can be printed, and so can the open blocks. -/
def Legible (D : Draft) : Prop :=
  D.finished.Legible ∧
    match D.block with
    | .top | .ended => True
    | .sensor s => s.Legible
    | .param s p => s.Legible ∧ p.Legible
    | .frame f => f.Legible
    | .axis f a => f.Legible ∧ a.Legible
    | .button b => b.Legible

lemma Legible.descriptor {D : Draft} (h : D.Legible) : D.descriptor.Legible := by
  obtain ⟨finished, block⟩ := D
  obtain ⟨hd, hblock⟩ := h
  cases block with
  | top => exact hd
  | ended => exact hd
  | sensor s => exact hd.addSensor hblock
  | param s p => exact hd.addSensor (hblock.1.addParam hblock.2)
  | frame f => exact hd.addFrame hblock
  | axis f a => exact hd.addFrame (hblock.1.addAxis hblock.2)
  | button b => exact hd.addButton hblock

section Lines

variable {d : Descriptor} {D D' : Draft} {l : DescriptorLine} (hl : l.HasLine)
include hl

lemma legible_topLine (hd : d.Legible) : (topLine d l).Legible := by
  obtain ⟨ht, hv⟩ := hd
  rw [topLine]
  split
  · exact ⟨⟨ht, hv⟩, by simp [Sensor.Legible, Sensor.texts]⟩
  · exact ⟨⟨ht, hv⟩, by simp [FrameDescription.Legible, FrameDescription.texts]⟩
  · refine ⟨⟨?_, hv⟩, trivial⟩
    simp only [Descriptor.texts, List.forall_mem_append] at ht ⊢
    tauto
  · refine ⟨⟨?_, hv⟩, trivial⟩
    simp only [Descriptor.texts, List.forall_mem_append] at ht ⊢
    tauto
  · exact ⟨⟨ht, hv⟩, by simp [Button.Legible, Button.texts, AreElements]⟩
  · exact ⟨⟨ht, hv⟩, trivial⟩

lemma legible_sensorLine {s : Sensor} (hd : d.Legible) (hs : s.Legible) (h : sensorLine d s l = .ok D) :
    D.Legible := by
  rw [sensorLine] at h
  split at h
  · obtain rfl := Except.ok.inj h
    exact ⟨hd, hs, by simp [SensorParam.Legible, SensorParam.texts, AreElements]⟩
  · cases hupdate : s.update? l with
    | none =>
      obtain rfl : topLine { d with sensors := d.sensors ++ [s] } l = D := by simpa [hupdate] using h
      exact legible_topLine hl (hd.addSensor hs)
    | some r =>
      simp only [hupdate] at h
      cases r with
      | error e => cases h
      | ok s' =>
        obtain rfl := Except.ok.inj h
        exact ⟨hd, hs.update hl hupdate⟩

lemma legible_frameLine {f : FrameDescription} (hd : d.Legible) (hf : f.Legible)
    (h : frameLine d f l = .ok D) : D.Legible := by
  rw [frameLine] at h
  split at h
  · obtain rfl := Except.ok.inj h
    exact ⟨hd, hf, by simp [Axis.Legible, Axis.texts]⟩
  · cases hupdate : f.update? l with
    | none =>
      obtain rfl : topLine { d with frames := d.frames ++ [f] } l = D := by simpa [hupdate] using h
      exact legible_topLine hl (hd.addFrame hf)
    | some r =>
      simp only [hupdate] at h
      cases r with
      | error e => cases h
      | ok f' =>
        obtain rfl := Except.ok.inj h
        exact ⟨hd, hf.update hupdate⟩

/-- Every line leads from a draft that can be printed to another. -/
lemma legible_line (hD : D.Legible) (h : D.line l = .ok D') : D'.Legible := by
  obtain ⟨finished, block⟩ := D
  obtain ⟨hd, hblock⟩ := hD
  cases block with
  | top =>
    obtain rfl := Except.ok.inj h
    exact legible_topLine hl hd
  | ended =>
    obtain rfl := Except.ok.inj h
    exact ⟨hd, trivial⟩
  | sensor s => exact legible_sensorLine hl hd hblock h
  | frame f => exact legible_frameLine hl hd hblock h
  | param s p =>
    obtain ⟨hs, hp⟩ := hblock
    simp only [line] at h
    cases hupdate : p.update? l with
    | none => exact legible_sensorLine hl hd (hs.addParam hp) (by simpa [hupdate] using h)
    | some r =>
      simp only [hupdate] at h
      cases r with
      | error e => cases h
      | ok p' =>
        obtain rfl := Except.ok.inj h
        exact ⟨hd, hs, hp.update hl hupdate⟩
  | axis f a =>
    obtain ⟨hf, ha⟩ := hblock
    simp only [line] at h
    cases hupdate : a.update? l with
    | none => exact legible_frameLine hl hd (hf.addAxis ha) (by simpa [hupdate] using h)
    | some r =>
      simp only [hupdate] at h
      cases r with
      | error e => cases h
      | ok a' =>
        obtain rfl := Except.ok.inj h
        exact ⟨hd, hf, ha.update hl hupdate⟩
  | button b =>
    simp only [line] at h
    cases hupdate : b.update? l with
    | none =>
      obtain rfl : topLine { finished with buttons := finished.buttons ++ [b] } l = D' := by
        simpa [hupdate] using h
      exact legible_topLine hl (hd.addButton hblock)
    | some r =>
      simp only [hupdate] at h
      cases r with
      | error e => cases h
      | ok b' =>
        obtain rfl := Except.ok.inj h
        exact ⟨hd, hblock.update hl hupdate⟩

end Lines

lemma legible_lines {D D' : Draft} {ls : List DescriptorLine} (hls : ∀ l ∈ ls, l.HasLine) (hD : D.Legible)
    (h : D.lines ls = .ok D') : D'.Legible := by
  induction ls generalizing D with
  | nil =>
    obtain rfl := Except.ok.inj h
    exact hD
  | cons l rest ih =>
    cases hline : D.line l with
    | error e =>
      rw [lines, List.foldlM_cons, hline] at h
      cases h
    | ok D₁ =>
      rw [lines_cons hline] at h
      exact ih (fun l hl => hls l (List.mem_cons_of_mem _ hl)) (legible_line (hls l (by simp)) hD hline) h

end Draft

/-! ## Descriptors -/

namespace Descriptor

variable {cs : List Char} {d : Descriptor}

/-- What is read from a text can be printed. -/
theorem legible_of_ofText (h : ofText cs = .ok d) : d.Legible := by
  rw [ofText] at h
  cases hlines : Draft.lines {} (DescriptorLine.ofText cs) with
  | error e => simp [hlines, Except.map] at h
  | ok D =>
    have hstart : Draft.Legible {} := ⟨⟨by simp [texts], by simp [HasElements, valueLists]⟩, trivial⟩
    have hD := Draft.legible_lines (fun l hl => DescriptorLine.hasLine_of_mem_ofText hl) hstart hlines
    rw [hlines] at h
    obtain rfl := Except.ok.inj h
    exact hD.descriptor

lemma reread_eq_iff (hd : d.Legible) :
    d.reread = d ↔ ∀ vs ∈ d.valueLists, trimBlank (commaText vs) = commaText vs := by
  constructor
  · intro h vs hvs
    have hlists : d.valueLists.map FieldStudy.reread = d.valueLists.map fun vs => vs := by
      rw [← valueLists_reread, h, List.map_id']
    exact (FieldStudy.reread_eq_iff (hd.elements vs hvs)).1 (List.map_inj_left.1 hlists vs hvs)
  · exact fun h => reread_eq fun vs hvs => (FieldStudy.reread_eq_iff (hd.elements vs hvs)).2 (h vs hvs)

/-- A descriptor that was read from a text, and is printed and read again, is the same but for its lists of
values, whose texts lose the blanks at their ends.  So it comes back as it was exactly when there are none. -/
theorem ofBytes_toBytes_of_ofText (h : ofText cs = .ok d) :
    ofBytes d.toBytes = .ok d.reread ∧
      (ofBytes d.toBytes = .ok d ↔ ∀ vs ∈ d.valueLists, trimBlank (commaText vs) = commaText vs) := by
  have hd := legible_of_ofText h
  have hread : ofBytes d.toBytes = .ok d.reread := by
    rw [ofBytes, toBytes, Utf8.decode_encode]
    exact ofText_text_reread hd
  refine ⟨hread, ?_⟩
  rw [hread, Except.ok.injEq, reread_eq_iff hd]

/-- A parameter and a button, of which the button's values have no blanks at their ends. -/
def blankValue : Descriptor :=
  { sensors := [{ params := [{ values := [" a"] }] }], buttons := [{ values := ["x", " y"] }] }

theorem ofBytes_toBytes_of_ofText_blankValue :
    ofText "SENSOR\nPARAM\nVALUES=, a\nBUTTON\nVALUES=x, y".toList = .ok blankValue ∧
      ofBytes blankValue.toBytes = .ok blankValue.reread ∧
        (ofBytes blankValue.toBytes = .ok blankValue ↔
          ∀ vs ∈ blankValue.valueLists, trimBlank (commaText vs) = commaText vs) :=
  have h : ofText "SENSOR\nPARAM\nVALUES=, a\nBUTTON\nVALUES=x, y".toList = .ok blankValue := by decide +kernel
  ⟨h, ofBytes_toBytes_of_ofText h⟩

/-- The only value of a parameter, which follows an empty one, loses the blank before it. -/
theorem blank_before_value_lost :
    ofText "SENSOR\nPARAM\nVALUES=, a".toList = .ok { sensors := [{ params := [{ values := [" a"] }] }] } ∧
      ofBytes (toBytes { sensors := [{ params := [{ values := [" a"] }] }] }) =
        .ok { sensors := [{ params := [{ values := ["a"] }] }] } := by
  decide +kernel

end Descriptor

end FieldStudy

import Mathlib.Data.List.Nodup
import Mathlib.Tactic.Common
import FieldStudy.Proofs.Run.Desk

/-!
# Routes of open records

A sensor is routed to each open record that lists it, and once only (`Desk.RoutesAgree`).  Neither writers nor files
matter to that, nor whether a name is created once or several times.
-/

namespace FieldStudy

namespace Desk

/-! ## Route tables -/

lemma route_removeRoutes (routes : Dict (List String)) (name sensor : String) :
    ((Run.removeRoutes routes name).get? sensor).getD [] =
      ((routes.get? sensor).getD []).filter (· != name) := by
  rw [Run.removeRoutes, Dict.get?_mapValues]
  cases routes.get? sensor <;> rfl

/-- A list of records with one more, unless it is among them. -/
def addName (names : List String) (name : String) : List String :=
  if names.contains name then names else names ++ [name]

lemma mem_addName {names : List String} {name n : String} : n ∈ addName names name ↔ n ∈ names ∨ n = name := by
  rw [addName]
  split
  · next hin =>
    have hmem : name ∈ names := by simpa using hin
    exact ⟨Or.inl, fun hn => hn.elim (fun hn => hn) fun heq => heq ▸ hmem⟩
  · simp

lemma addName_nodup {names : List String} {name : String} (h : names.Nodup) : (addName names name).Nodup := by
  rw [addName]
  split
  · exact h
  · next hnot => simpa using h.concat (show name ∉ names by simpa using hnot)

lemma addName_addName (names : List String) (name : String) :
    addName (addName names name) name = addName names name := by
  have hin : (addName names name).contains name = true := by
    simpa using mem_addName.mpr (.inr rfl)
  rw [addName, if_pos hin]

/-- The routes with a record added for some sensors. -/
lemma route_addRoutes (routes : Dict (List String)) (sensors : List String) (name sensor : String) :
    ((Run.addRoutes routes sensors name).get? sensor).getD [] =
      if sensor ∈ sensors then addName ((routes.get? sensor).getD []) name
      else (routes.get? sensor).getD [] := by
  induction sensors generalizing routes with
  | nil => rfl
  | cons first rest ih =>
    have hfirst : ((Run.addRoute routes first name).get? sensor).getD [] =
        if first = sensor then addName ((routes.get? sensor).getD []) name
        else (routes.get? sensor).getD [] := by
      rw [Run.addRoute, Dict.get?_insert]
      by_cases heq : first = sensor
      · subst heq
        rw [if_pos rfl, if_pos rfl, Option.getD_some]
        rfl
      · rw [if_neg heq, if_neg heq]
    rw [Run.addRoutes, List.foldl_cons]
    refine (ih _).trans ?_
    rw [hfirst]
    by_cases heq : first = sensor
    · subst heq
      rw [if_pos rfl, addName_addName]
      simp
    · have hiff : sensor ∈ first :: rest ↔ sensor ∈ rest := by
        simp [List.mem_cons, Ne.symm heq]
      simp only [if_neg heq, hiff]

lemma mem_addRoutes (routes : Dict (List String)) (sensors : List String) (name sensor n : String) :
    n ∈ ((Run.addRoutes routes sensors name).get? sensor).getD [] ↔
      n ∈ (routes.get? sensor).getD [] ∨ (sensor ∈ sensors ∧ n = name) := by
  rw [route_addRoutes]
  by_cases hsensor : sensor ∈ sensors
  · simp [hsensor, mem_addName]
  · simp [hsensor]

lemma addRoutes_nodup {routes : Dict (List String)} (sensors : List String) (name sensor : String)
    (h : ((routes.get? sensor).getD []).Nodup) :
    (((Run.addRoutes routes sensors name).get? sensor).getD []).Nodup := by
  rw [route_addRoutes]
  split
  · exact addName_nodup h
  · exact h

/-! ## Agreement with the ledger -/

/-- Each sensor is routed, once, to the open records that list it.  A run that has stopped has none. -/
structure RoutesAgree (isUp : Bool) (routes : Dict (List String)) (l : Ledger) : Prop where
  nodup : ∀ sensor, ((routes.get? sensor).getD []).Nodup
  mem : ∀ sensor name, name ∈ (routes.get? sensor).getD [] ↔
    ∃ e ∈ l, e.name = name ∧ (isUp && e.isOpen) = true ∧ sensor ∈ e.sensors

namespace RoutesAgree

variable {isUp : Bool} {routes : Dict (List String)} {l : Ledger} {e : LedgerEntry}

/-- Where no record is open, nothing is routed. -/
lemma of_closed (hclosed : isUp = true → ∀ e ∈ l, e.isOpen = false) : RoutesAgree isUp [] l where
  nodup _ := List.nodup_nil
  mem sensor name := by
    constructor
    · intro h
      cases h
    · rintro ⟨e, he, -, hholds, -⟩
      obtain ⟨hup, hopen⟩ := Bool.and_eq_true_iff.mp hholds
      rw [hclosed hup e he] at hopen
      cases hopen

/-- Routes depend on the names and the sensors of the open records only. -/
lemma revise (h : RoutesAgree isUp routes l) {change : LedgerEntry → LedgerEntry}
    (hchange : ∀ e, (change e).name = e.name ∧ (change e).isOpen = e.isOpen ∧ (change e).sensors = e.sensors) :
    RoutesAgree isUp routes (l.map change) where
  nodup := h.nodup
  mem sensor name := by
    refine (h.mem sensor name).trans ⟨?_, ?_⟩
    · rintro ⟨e, he, hname, hholds, hsensor⟩
      obtain ⟨hsame, hopen, hsensors⟩ := hchange e
      exact ⟨change e, List.mem_map_of_mem he, hsame.trans hname, by rwa [hopen], hsensors ▸ hsensor⟩
    · rintro ⟨e', he', hname, hholds, hsensor⟩
      obtain ⟨e, he, rfl⟩ := List.mem_map.mp he'
      obtain ⟨hsame, hopen, hsensors⟩ := hchange e
      exact ⟨e, he, hsame.symm.trans hname, by rwa [← hopen], hsensors ▸ hsensor⟩

/-- A record that is closed loses its routes. -/
lemma close (h : RoutesAgree isUp routes l) (name : String) :
    RoutesAgree isUp (Run.removeRoutes routes name) (l.mark name fun e => { e with isOpen := false }) where
  nodup sensor := by
    rw [route_removeRoutes]
    exact (h.nodup sensor).filter _
  mem sensor n := by
    rw [route_removeRoutes, List.mem_filter, h.mem sensor n]
    constructor
    · rintro ⟨⟨e, he, rfl, hholds, hsensor⟩, hne⟩
      exact ⟨e, mem_mark_of_ne he (by simpa using hne), rfl, hholds, hsensor⟩
    · rintro ⟨e', he', rfl, hholds, hsensor⟩
      obtain ⟨e, he, ⟨hne, rfl⟩ | ⟨-, rfl⟩⟩ := mem_mark he'
      · exact ⟨⟨e', he, rfl, hholds, hsensor⟩, by simpa using hne⟩
      · simp at hholds

/-- A record that is opened gets the samples of its sensors. -/
lemma create (h : RoutesAgree isUp routes l) (hholds : (isUp && e.isOpen) = true) :
    RoutesAgree isUp (Run.addRoutes routes e.sensors e.name) (l ++ [e]) where
  nodup sensor := addRoutes_nodup _ _ _ (h.nodup sensor)
  mem sensor n := by
    refine (mem_addRoutes routes e.sensors e.name sensor n).trans ?_
    constructor
    · rintro (hold | ⟨hsensor, rfl⟩)
      · obtain ⟨e', he', hlisted⟩ := (h.mem sensor n).mp hold
        exact ⟨e', List.mem_append_left _ he', hlisted⟩
      · exact ⟨e, by simp, rfl, hholds, hsensor⟩
    · rintro ⟨e', he', rfl, hopen, hsensor⟩
      obtain he' | rfl := by simpa using he'
      · exact .inl ((h.mem sensor e'.name).mpr ⟨e', he', rfl, hopen, hsensor⟩)
      · exact .inr ⟨hsensor, rfl⟩

end RoutesAgree

end Desk

end FieldStudy

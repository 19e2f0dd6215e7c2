import BlockExtent.Access.BuiltIn
import BlockExtent.Conversion
import BlockExtent.Proofs.DriverNames

/-!
# The driver of a conversion

The driver depends on the settings alone.  The driver for GeoJSON is settled without a doubt:
it is the only one for the extensions that stand for it.

## Main definitions

* `settledDriver` — the driver of a conversion, or why there is none.

## Main results

* `exec_driverOf` — settling the driver touches nothing.
* `driversFor_isGeoJson` — the extensions that stand for GeoJSON.
-/

namespace BlockExtent

variable {σ : Type}

/-- The driver of a conversion: the one that is given, or the one that the name of
the output is written by. -/
def settledDriver (settings : Settings) : Except Failure String :=
  match settings.format with
  | some driver => .ok driver
  | none =>
    if settings.output = "" then .ok DatasetKind.vector.memoryDriver
    else
      match driversFor .vector settings.output with
      | driver :: _ => .ok driver
      | [] =>
        if (driverExtension? settings.output).isSome then
          .error (.unknownExtension settings.output)
        else .ok DatasetKind.vector.defaultDriver

/-- Without a driver that is given, the one that is chosen for the output is settled. -/
theorem settledDriver_of_none {settings : Settings} (h : settings.format = none) :
    settledDriver settings = chosenDriver .vector settings.output := by
  unfold settledDriver chosenDriver
  rw [h]
  cases driversFor .vector settings.output with
  | cons driver others => rfl
  | nil => cases driverExtension? settings.output <;> rfl

/-- **The extensions that stand for GeoJSON**, which stand for nothing else. -/
theorem driversFor_isGeoJson {path first : String} {others : List String}
    (h : driversFor .vector path = first :: others) (hfirst : Access.isGeoJson first = true) :
    others = []
      ∧ (driverExtension? path = some "geojson" ∨ driverExtension? path = some "json") := by
  have hschemes : ∀ entry ∈ connectionDrivers, Access.isGeoJson entry.2 = false := by decide
  have htable : ∀ entry ∈ DatasetKind.vector.driverTable,
      entry.2.head?.any Access.isGeoJson = true →
      entry.2.tail = [] ∧ (entry.1 = "geojson" ∨ entry.1 = "json") := by decide
  unfold driversFor at h
  dsimp only at h
  split at h
  · rename_i scheme driver hscheme
    obtain ⟨rfl, rfl⟩ := List.cons.inj h
    rw [hschemes _ (List.mem_of_find?_eq_some hscheme)] at hfirst
    cases hfirst
  · split at h
    · cases h
    · rename_i extension hextension
      cases hlookup : DatasetKind.vector.driverTable.lookup extension with
      | none =>
        rw [hlookup] at h
        cases h
      | some drivers =>
        rw [hlookup] at h
        obtain rfl : drivers = first :: others := h
        obtain ⟨_, _, hmem, -⟩ := List.lookup_eq_some_iff.mp hlookup
        have hentry : (extension, first :: others) ∈ DatasetKind.vector.driverTable := by
          rw [hmem]
          exact List.mem_append_right _ List.mem_cons_self
        obtain ⟨htail, hname⟩ := htable _ hentry hfirst
        refine ⟨htail, ?_⟩
        rw [hextension, Option.some_inj, Option.some_inj]
        exact hname

/-- Settling the driver touches nothing. -/
theorem exec_driverOf (settings : Settings) (events : List Event) (s : σ) :
    ∃ events', (driverOf settings : Run (StateM σ) String).exec events s
      = ((settledDriver settings, events'), s) := by
  unfold driverOf
  cases hformat : settings.format with
  | some driver =>
    unfold settledDriver
    rw [hformat]
    exact ⟨events, rfl⟩
  | none =>
    rw [settledDriver_of_none hformat]
    exact infers_chosenDriver .vector settings.output σ events s

end BlockExtent

import BlockExtent.DriverChoice
import BlockExtent.Proofs.File.Names
import BlockExtent.Proofs.Run.Execution

/-!
# Drivers by name

The driver of a dataset is told by the scheme that its path starts with, or else by the last
name of the path in lower case.  What counts of the name is its extension: what follows the last
dot, and what stands between the last two dots as well if the last extension is `zip`.

## Main definitions

* `HasSuffix`, `IsExtension` — what a name has behind its last dots.
* `IsConnection`, `HasScheme` — a path starts with the scheme of a connection.
* `Infers` — how the choice of a driver ends.
* `AnswersAlike` — two paths have the same drivers and the same answer.
* `InfersByName` — how the drivers of one kind of dataset are inferred.

## Main results

* `nameExtension?_eq_some_iff`, `nameExtension?_eq_none_iff` — the extension of a name.
* `infers_iff` — the choice of a driver touches nothing and ends in one way.
* `infersByName` — **the last name decides, regardless of case and directory.**
-/

namespace BlockExtent

open Access

/-! ### Extensions -/

/-- Something follows the last dot of a name. -/
def HasSuffix (name : List Char) : Prop :=
  ∃ front suffix, name = front ++ '.' :: suffix ∧ '.' ∉ suffix ∧ suffix ≠ []

/-- The extension of a name. -/
inductive IsExtension : (name extension : List Char) → Prop where
  /-- What follows the last dot.  If it is `zip`, no other extension is in front of it. -/
  | plain {front suffix : List Char} (hdot : '.' ∉ suffix) (hne : suffix ≠ [])
      (hzip : suffix = ['z', 'i', 'p'] → ¬ HasSuffix front) :
      IsExtension (front ++ '.' :: suffix) suffix
  /-- What follows the last dot but one, if `zip` follows the last one. -/
  | zipped {front inner : List Char} (hdot : '.' ∉ inner) (hne : inner ≠ []) :
      IsExtension (front ++ '.' :: inner ++ '.' :: ['z', 'i', 'p'])
        (inner ++ '.' :: ['z', 'i', 'p'])

/-- A name with a suffix has an extension. -/
theorem exists_isExtension {name : List Char} (h : HasSuffix name) :
    ∃ extension, IsExtension name extension := by
  obtain ⟨front, suffix, rfl, hdot, hne⟩ := h
  by_cases hzipped : suffix = ['z', 'i', 'p'] ∧ HasSuffix front
  · obtain ⟨rfl, front, inner, rfl, hinner, hinnerNe⟩ := hzipped
    exact ⟨_, .zipped hinner hinnerNe⟩
  · exact ⟨suffix, .plain hdot hne fun hzip hfront => hzipped ⟨hzip, hfront⟩⟩

/-- A name without a suffix is split at no dot, or at one that nothing follows. -/
theorem splitLast_of_not_hasSuffix {name : List Char} (h : ¬ HasSuffix name) :
    splitLast '.' name = none ∨ ∃ front, splitLast '.' name = some (front, []) := by
  cases hsplit : splitLast '.' name with
  | none => exact .inl rfl
  | some parts =>
    obtain ⟨front, suffix⟩ := parts
    obtain ⟨hname, hdot⟩ := eq_of_splitLast hsplit
    cases suffix with
    | nil => exact .inr ⟨front, rfl⟩
    | cons c suffix => exact absurd ⟨front, c :: suffix, hname, hdot, List.cons_ne_nil c suffix⟩ h

/-- A name without a suffix has no extension. -/
theorem nameExtension?_of_not_hasSuffix {name : List Char} (h : ¬ HasSuffix name) :
    nameExtension? name = none := by
  unfold nameExtension?
  rcases splitLast_of_not_hasSuffix h with hsplit | ⟨front, hsplit⟩ <;> rw [hsplit]

/-- The extension of a name is found. -/
theorem IsExtension.nameExtension?_eq {name extension : List Char}
    (h : IsExtension name extension) : nameExtension? name = some extension := by
  unfold nameExtension?
  cases h with
  | @plain front suffix hdot hne hzip =>
    obtain ⟨c, rest, rfl⟩ := List.exists_cons_of_ne_nil hne
    rw [splitLast_append_cons hdot]
    dsimp only
    split
    · rename_i hzipped
      rcases splitLast_of_not_hasSuffix (hzip hzipped) with hsplit | ⟨front', hsplit⟩ <;>
        rw [hsplit]
    · rfl
  | @zipped front inner hdot hne =>
    obtain ⟨c, rest, rfl⟩ := List.exists_cons_of_ne_nil hne
    rw [splitLast_append_cons (by decide)]
    dsimp only
    rw [splitLast_append_cons hdot, if_pos rfl]

/-- **The extension that a driver is looked up by.** -/
theorem nameExtension?_eq_some_iff {name extension : List Char} :
    nameExtension? name = some extension ↔ IsExtension name extension := by
  refine ⟨fun h => ?_, IsExtension.nameExtension?_eq⟩
  by_cases hsuffix : HasSuffix name
  · obtain ⟨found, hfound⟩ := exists_isExtension hsuffix
    rw [hfound.nameExtension?_eq] at h
    cases h
    exact hfound
  · rw [nameExtension?_of_not_hasSuffix hsuffix] at h
    cases h

theorem nameExtension?_eq_none_iff {name : List Char} :
    nameExtension? name = none ↔ ¬ HasSuffix name := by
  refine ⟨fun h hsuffix => ?_, nameExtension?_of_not_hasSuffix⟩
  obtain ⟨extension, hextension⟩ := exists_isExtension hsuffix
  rw [hextension.nameExtension?_eq] at h
  cases h

/-- A name has a suffix if it has one in lower case. -/
theorem hasSuffix_map_toLower {name : List Char} :
    HasSuffix (name.map Char.toLower) ↔ HasSuffix name := by
  constructor
  · rintro ⟨front, suffix, hname, hdot, hne⟩
    have hsplit : splitLast '.' (name.map Char.toLower) = some (front, suffix) := by
      rw [hname]
      exact splitLast_append_cons hdot front
    obtain ⟨front', suffix', hsplit', rfl⟩ := exists_splitLast_of_toLower hsplit
    obtain ⟨hname', hdot'⟩ := eq_of_splitLast hsplit'
    exact ⟨front', suffix', hname', hdot', by rintro rfl; exact hne rfl⟩
  · rintro ⟨front, suffix, rfl, hdot, hne⟩
    refine ⟨front.map Char.toLower, suffix.map Char.toLower, ?_, ?_, mt List.map_eq_nil_iff.mp hne⟩
    · rw [List.map_append, List.map_cons]
      rfl
    · rintro hmem
      obtain ⟨c, hc, hlower⟩ := List.mem_map.mp hmem
      exact hdot (eq_of_toLower (by decide) hlower ▸ hc)

/-! ### Names and schemes -/

/-- The last name of a path, in lower case. -/
def lowerName? (path : String) : Option (List Char) := (Path.fileName? path).map lowerCase

/-- A connection to a database starts with a scheme, which stands for a driver. -/
inductive IsConnection : (scheme driver : String) → Prop where
  | postgreSQL : IsConnection "PG:" "PostgreSQL"
  | mySQL : IsConnection "MySQL:" "MySQL"
  | oracle : IsConnection "OCI:" "OCI"

theorem isConnection_iff {scheme driver : String} :
    IsConnection scheme driver ↔ (scheme, driver) ∈ connectionDrivers := by
  constructor
  · rintro (_ | _ | _) <;> decide
  · intro h
    simp only [connectionDrivers, List.mem_cons, Prod.mk.injEq, List.not_mem_nil, or_false] at h
    obtain ⟨rfl, rfl⟩ | ⟨rfl, rfl⟩ | ⟨rfl, rfl⟩ := h
    exacts [.postgreSQL, .mySQL, .oracle]

/-- A dataset of layers is at a path that starts with the scheme of a connection. -/
def HasScheme (kind : DatasetKind) (path : String) : Prop :=
  kind = .vector ∧ ∃ scheme driver, IsConnection scheme driver ∧ scheme.toList <+: path.toList

/-- The extension that a driver is looked up by, by the last name in lower case. -/
theorem driverExtension?_eq (path : String) :
    driverExtension? path = ((lowerName? path).bind nameExtension?).map String.ofList := by
  unfold driverExtension? lowerName?
  cases Path.fileName? path <;> rfl

/-- The scheme of a connection tells the driver. -/
theorem driversFor_of_isConnection {scheme driver : String} (h : IsConnection scheme driver)
    (rest : String) : driversFor .vector (scheme ++ rest) = [driver] := by
  unfold driversFor
  rw [String.toList_append]
  cases h <;> rfl

/-- Without a scheme the extension tells the drivers. -/
theorem driversFor_of_not_hasScheme {kind : DatasetKind} {path : String}
    (h : ¬ HasScheme kind path) :
    driversFor kind path = ((driverExtension? path).bind fun extension =>
      kind.driverTable.lookup extension).getD [] := by
  cases kind with
  | raster =>
    unfold driversFor
    cases driverExtension? path <;> rfl
  | vector =>
    have hnone : connectionDrivers.find? (fun entry => entry.1.toList.isPrefixOf path.toList)
        = none := by
      rw [List.find?_eq_none]
      rintro ⟨scheme, driver⟩ hentry hstarts
      exact h ⟨rfl, scheme, driver, isConnection_iff.mpr hentry,
        List.isPrefixOf_iff_prefix.mp hstarts⟩
    unfold driversFor
    dsimp only
    rw [hnone]
    cases driverExtension? path <;> rfl

/-! ### The choice of a driver -/

/-- The choice of a driver ends with an answer, whatever has been recorded before, and touches
nothing. -/
def Infers (kind : DatasetKind) (path : String) (answer : Except Failure String) : Prop :=
  ∀ (σ : Type) (events : List Event) (s : σ), ∃ events',
    (chooseDriver kind path : Run (StateM σ) String).exec events s = ((answer, events'), s)

/-- The driver that is chosen, or the failure. -/
def chosenDriver (kind : DatasetKind) (path : String) : Except Failure String :=
  if path = "" then .ok kind.memoryDriver
  else
    match driversFor kind path, driverExtension? path with
    | driver :: _, _ => .ok driver
    | [], some _ => .error (.unknownExtension path)
    | [], none => .ok kind.defaultDriver

theorem infers_chosenDriver (kind : DatasetKind) (path : String) :
    Infers kind path (chosenDriver kind path) := by
  intro σ events s
  unfold chooseDriver chosenDriver
  by_cases hempty : path = ""
  · rw [if_pos hempty, if_pos hempty]
    exact ⟨events, rfl⟩
  rw [if_neg hempty, if_neg hempty]
  cases driversFor kind path with
  | nil => cases driverExtension? path <;> exact ⟨events, rfl⟩
  | cons first others =>
    dsimp only
    unfold reportAmbiguity
    split <;> exact ⟨_, rfl⟩

/-- **The choice of a driver ends in one way.** -/
theorem infers_iff {kind : DatasetKind} {path : String} {answer : Except Failure String} :
    Infers kind path answer ↔ answer = chosenDriver kind path := by
  constructor
  · intro h
    obtain ⟨events, hexec⟩ := h Unit [] ()
    obtain ⟨events', hexec'⟩ := infers_chosenDriver kind path Unit [] ()
    rw [hexec] at hexec'
    cases hexec'
    rfl
  · rintro rfl
    exact infers_chosenDriver kind path

/-- Two paths have the same drivers and the same choice, or no choice for one reason. -/
structure AnswersAlike (kind : DatasetKind) (path other : String) : Prop where
  drivers : driversFor kind path = driversFor kind other
  driver : ∀ driver, Infers kind path (.ok driver) ↔ Infers kind other (.ok driver)
  failure : Infers kind path (.error (.unknownExtension path))
    ↔ Infers kind other (.error (.unknownExtension other))

/-- How the drivers of one kind of dataset are inferred. -/
structure InfersByName (kind : DatasetKind) : Prop where
  /-- The scheme of a connection tells the driver of layers, whatever follows it. -/
  scheme : kind = .vector → ∀ scheme driver, IsConnection scheme driver → ∀ rest : String,
    driversFor kind (scheme ++ rest) = [driver] ∧ Infers kind (scheme ++ rest) (.ok driver)
  /-- Otherwise the last name in lower case does. -/
  name : ∀ path other, path ≠ "" → other ≠ "" → ¬ HasScheme kind path → ¬ HasScheme kind other →
    lowerName? path = lowerName? other → AnswersAlike kind path other
  /-- A directory in front of a path makes no difference. -/
  directory : ∀ directory path name, Path.fileName? path = some name → ¬ HasScheme kind path →
    ¬ HasScheme kind (directory ++ "/" ++ path) →
    AnswersAlike kind path (directory ++ "/" ++ path)
  /-- The case of letters makes none. -/
  case : ∀ path other, path ≠ "" → lowerCase path = lowerCase other → ¬ HasScheme kind path →
    ¬ HasScheme kind other → AnswersAlike kind path other
  /-- The extension that is looked up is that of the last name in lower case. -/
  extension : ∀ path extension, driverExtension? path = some extension
    ↔ ∃ name, lowerName? path = some name ∧ IsExtension name extension.toList
  /-- The drivers are those of the extension. -/
  drivers : ∀ path, ¬ HasScheme kind path → driversFor kind path
    = ((driverExtension? path).bind fun extension => kind.driverTable.lookup extension).getD []
  /-- The first driver is chosen if there is one. -/
  first : ∀ path driver others, path ≠ "" → driversFor kind path = driver :: others →
    Infers kind path (.ok driver)
  /-- Without one, a name that has no suffix stands for the usual driver. -/
  fallback : ∀ path, path ≠ "" → ¬ HasScheme kind path →
    (driversFor kind path = []
        ∧ Infers kind path (.ok (match kind with | .raster => "GTiff" | .vector => "ESRI Shapefile"))
      ↔ ¬ ∃ name, Path.fileName? path = some name ∧ HasSuffix name.toList)
  /-- The extension is unknown in all other cases, and there is no other failure. -/
  unknown : ∀ path cause, path ≠ "" →
    (Infers kind path (.error cause) ↔ cause = .unknownExtension path
      ∧ driversFor kind path = [] ∧ ∃ name, Path.fileName? path = some name
        ∧ HasSuffix name.toList)

/-- Whether a path has an extension is whether its last name has a suffix. -/
theorem driverExtension?_eq_none_iff {path : String} :
    driverExtension? path = none
      ↔ ¬ ∃ name, Path.fileName? path = some name ∧ HasSuffix name.toList := by
  rw [driverExtension?_eq, Option.map_eq_none_iff]
  unfold lowerName?
  cases Path.fileName? path with
  | none => simp
  | some name =>
    change nameExtension? (name.toList.map Char.toLower) = none ↔ _
    rw [nameExtension?_eq_none_iff, hasSuffix_map_toLower]
    simp

section Answers

variable {kind : DatasetKind} {path other : String}

/-- The driver that is chosen for a path, by its drivers and its extension. -/
theorem chosenDriver_of_ne (hpath : path ≠ "") :
    chosenDriver kind path
      = match driversFor kind path, driverExtension? path with
        | driver :: _, _ => .ok driver
        | [], some _ => .error (.unknownExtension path)
        | [], none => .ok kind.defaultDriver :=
  if_neg hpath

theorem infers_first {driver : String} {others : List String} (hpath : path ≠ "")
    (h : driversFor kind path = driver :: others) : Infers kind path (.ok driver) := by
  rw [infers_iff, chosenDriver_of_ne hpath, h]

/-- Paths with one last name have one answer. -/
theorem AnswersAlike.of_lowerName? (hpath : path ≠ "") (hother : other ≠ "")
    (hscheme : ¬ HasScheme kind path) (hscheme' : ¬ HasScheme kind other)
    (hname : lowerName? path = lowerName? other) : AnswersAlike kind path other := by
  have hextension : driverExtension? path = driverExtension? other := by
    rw [driverExtension?_eq, driverExtension?_eq, hname]
  have hdrivers : driversFor kind path = driversFor kind other := by
    rw [driversFor_of_not_hasScheme hscheme, driversFor_of_not_hasScheme hscheme', hextension]
  refine ⟨hdrivers, fun driver => ?_, ?_⟩
  all_goals
    rw [infers_iff, infers_iff, chosenDriver_of_ne hpath, chosenDriver_of_ne hother, hdrivers,
      hextension]
    cases driversFor kind other <;> cases driverExtension? other <;> simp

/-- A path with a last name is not empty. -/
theorem ne_empty_of_fileName? {name : String} (h : Path.fileName? path = some name) :
    path ≠ "" := by
  rintro rfl
  cases h

/-- Without a scheme, the usual driver is chosen for lack of a suffix. -/
theorem infers_defaultDriver_iff (hpath : path ≠ "") (hscheme : ¬ HasScheme kind path) :
    driversFor kind path = [] ∧ Infers kind path (.ok kind.defaultDriver)
      ↔ ¬ ∃ name, Path.fileName? path = some name ∧ HasSuffix name.toList := by
  rw [← driverExtension?_eq_none_iff, infers_iff, chosenDriver_of_ne hpath]
  constructor
  · rintro ⟨hdrivers, hchosen⟩
    rw [hdrivers] at hchosen
    cases hextension : driverExtension? path with
    | none => rfl
    | some extension =>
      rw [hextension] at hchosen
      cases hchosen
  · intro hnone
    have hdrivers := driversFor_of_not_hasScheme hscheme
    rw [hnone] at hdrivers
    rw [hdrivers, hnone]
    exact ⟨rfl, rfl⟩

/-- The choice fails for lack of drivers, and only then. -/
theorem infers_error_iff (hpath : path ≠ "") (cause : Failure) :
    Infers kind path (.error cause) ↔ cause = .unknownExtension path
      ∧ driversFor kind path = []
      ∧ ∃ name, Path.fileName? path = some name ∧ HasSuffix name.toList := by
  have hsuffix : (∃ name, Path.fileName? path = some name ∧ HasSuffix name.toList)
      ↔ driverExtension? path ≠ none := by
    rw [Ne, driverExtension?_eq_none_iff, not_not]
  rw [hsuffix, infers_iff, chosenDriver_of_ne hpath]
  cases driversFor kind path <;> cases driverExtension? path <;> simp

end Answers

/-- **The last name of a path decides on its driver, regardless of case and directory**, but for
the connections. -/
theorem infersByName (kind : DatasetKind) : InfersByName kind where
  scheme := by
    rintro rfl scheme driver hscheme rest
    have hdrivers := driversFor_of_isConnection hscheme rest
    refine ⟨hdrivers, infers_first (fun hempty => ?_) hdrivers⟩
    rw [hempty] at hdrivers
    cases hdrivers
  name _ _ := AnswersAlike.of_lowerName?
  directory directory path name hname hscheme hscheme' := by
    have hname' := Path.fileName?_append hname directory
    refine .of_lowerName? (ne_empty_of_fileName? hname) (ne_empty_of_fileName? hname') hscheme
      hscheme' ?_
    rw [lowerName?, lowerName?, hname, hname']
  case path other hpath hcase hscheme hscheme' := by
    have hother : other ≠ "" := by
      rintro rfl
      exact hpath (String.toList_inj.mp (List.map_eq_nil_iff.mp hcase))
    exact .of_lowerName? hpath hother hscheme hscheme' (Path.map_lowerCase_fileName? hcase)
  extension path extension := by
    rw [driverExtension?_eq, Option.map_eq_some_iff]
    constructor
    · rintro ⟨found, hfound, rfl⟩
      obtain ⟨name, hname, hextension⟩ := Option.bind_eq_some_iff.mp hfound
      rw [String.toList_ofList]
      exact ⟨name, hname, nameExtension?_eq_some_iff.mp hextension⟩
    · rintro ⟨name, hname, hextension⟩
      rw [hname]
      exact ⟨extension.toList, nameExtension?_eq_some_iff.mpr hextension, String.ofList_toList⟩
  drivers _ := driversFor_of_not_hasScheme
  first _ _ _ := infers_first
  fallback _ := by cases kind <;> exact infers_defaultDriver_iff
  unknown _ cause hpath := infers_error_iff hpath cause

example : driversFor .vector "maps/v2.1/Roads.SHP.Zip" = ["ESRI Shapefile"] := by decide +kernel

end BlockExtent

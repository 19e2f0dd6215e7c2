import BlockExtent.Proofs.File.Placement
import BlockExtent.Proofs.GeoJson.Collection
import BlockExtent.Raster.PyramidLevel

/-!
# Layers in files

A layer goes to a file of its own, or to the one file of a dataset.  What is written
stays there while other layers are written, since no two layers share a file.

## Main definitions

* `layerFileName` — the name of the file of a layer.
* `layerBytes` — the bytes of a layer.

## Main results

* `lastName_layerPath` — the file of a layer is named after the layer.
* `layerFileName_injective` — no two levels share a file.
* `Dataset.writeLayer_directory_eq_ok`, `Dataset.writeLayer_file_eq_ok` — what
  writing a layer does to a file system.
-/

namespace BlockExtent

/-! ### Names of files -/

namespace Path

theorem pieces_append_slash (front : List Char) {name : String} (hname : '/' ∉ name.toList)
    (hne : name ≠ "") :
    pieces (String.ofList (front ++ '/' :: name.toList))
      = pieces (String.ofList front) ++ [name] := by
  have hlist : name.toList ≠ [] := fun hnil => hne (String.toList_eq_nil_iff.mp hnil)
  unfold pieces
  rw [String.toList_ofList, String.toList_ofList, List.splitOn_append_cons_self,
    List.splitOn_eq_singleton hname, List.filter_append, List.map_append]
  simp [hlist]

theorem pieces_append_singleton_slash (front : List Char) :
    pieces (String.ofList (front ++ ['/'])) = pieces (String.ofList front) := by
  unfold pieces
  rw [String.toList_ofList, String.toList_ofList, List.splitOn_append_cons_self, List.filter_append]
  simp

/-- A name without slashes does not start over at the root. -/
theorem isAbsolute_eq_false {name : String} (hname : '/' ∉ name.toList) :
    isAbsolute name = false := by
  unfold isAbsolute
  cases htext : name.toList with
  | nil => rfl
  | cons c cs =>
    rw [htext] at hname
    have hc : c ≠ '/' := fun heq => hname (heq ▸ List.mem_cons_self)
    simpa using hc

/-- A name below a directory is a text in front of the name, or the name alone. -/
theorem toList_join (directory : String) {name : String} (hname : '/' ∉ name.toList) :
    (join directory name).toList = directory.toList ++ name.toList
        ∧ (directory = "" ∨ endsInSlash directory = true)
      ∨ (join directory name).toList = directory.toList ++ '/' :: name.toList ∧ directory ≠ "" := by
  have hrelative : ¬ isAbsolute name = true := by simp [isAbsolute_eq_false hname]
  unfold join
  by_cases hempty : directory = ""
  · left
    simp [hempty]
  · rw [if_neg (not_or.mpr ⟨hrelative, hempty⟩)]
    by_cases hslash : endsInSlash directory = true
    · left
      simp [hslash]
    · right
      simp [hslash, hempty]

/-- A name behind a directory is a piece of its own. -/
theorem pieces_join (directory : String) {name : String} (hname : '/' ∉ name.toList)
    (hne : name ≠ "") : pieces (join directory name) = pieces directory ++ [name] := by
  rcases toList_join directory hname with ⟨hjoin, rfl | hslash⟩ | ⟨hjoin, -⟩
  · have htext : join "" name = name := by
      rw [← String.toList_inj, hjoin]
      simp
    have hlist : name.toList ≠ [] := fun hnil => hne (String.toList_eq_nil_iff.mp hnil)
    rw [htext]
    unfold pieces
    rw [List.splitOn_eq_singleton hname]
    simp [hlist]
  · unfold endsInSlash at hslash
    obtain ⟨front, hfront⟩ := List.getLast?_eq_some_iff.mp (beq_iff_eq.mp hslash)
    have hdirectory : directory = String.ofList (front ++ ['/']) := by
      rw [← String.toList_inj, hfront, String.toList_ofList]
    have htext : join directory name = String.ofList (front ++ '/' :: name.toList) := by
      rw [← String.toList_inj, hjoin, hfront, String.toList_ofList]
      simp
    rw [htext, pieces_append_slash front hname hne, hdirectory, pieces_append_singleton_slash]
  · have htext : join directory name = String.ofList (directory.toList ++ '/' :: name.toList) := by
      rw [← String.toList_inj, hjoin, String.toList_ofList]
    rw [htext, pieces_append_slash directory.toList hname hne, String.ofList_toList]

theorem isAbsolute_join (directory : String) {name : String} (hname : '/' ∉ name.toList) :
    isAbsolute (join directory name) = isAbsolute directory := by
  have hrelative := isAbsolute_eq_false hname
  unfold isAbsolute at hrelative ⊢
  rcases toList_join directory hname with ⟨hjoin, -⟩ | ⟨hjoin, hne⟩
  · rw [hjoin]
    cases htext : directory.toList with
    | nil => simpa using hrelative
    | cons c cs => rfl
  · have hlist : directory.toList ≠ [] := fun hnil => hne (String.toList_eq_nil_iff.mp hnil)
    obtain ⟨c, cs, htext⟩ := List.exists_cons_of_ne_nil hlist
    rw [hjoin, htext]
    rfl

end Path

namespace GeoJson

/-- The name of the file of a layer. -/
def layerFileName (index : Nat) : String := layerName index ++ ".geojson"

theorem toList_layerName_succ (index : Nat) :
    (layerName (index + 1)).toList = "overview_".toList ++ Nat.toDigits 10 (index + 1) := by
  unfold layerName
  rw [if_neg (Nat.succ_ne_zero index)]
  have hdigits : (toString (index + 1)).toList = Nat.toDigits 10 (index + 1) := by
    rw [Nat.toString_eq_ofList_toDigits, String.toList_ofList]
  change ("overview_" ++ toString (index + 1)).toList = _
  rw [String.toList_append, hdigits]

theorem slash_notMem_layerName (index : Nat) : '/' ∉ (layerName index).toList := by
  cases index with
  | zero => decide
  | succ index =>
    rw [toList_layerName_succ, List.mem_append, not_or]
    refine ⟨by decide, fun hmem => ?_⟩
    have hdigit := Nat.isDigit_of_mem_toDigits (by decide) (by decide) hmem
    exact absurd hdigit (by decide)

/-- **No two levels share a name.** -/
theorem layerName_injective {index other : Nat} (h : layerName index = layerName other) :
    index = other := by
  have htext := congrArg String.toList h
  cases index with
  | zero =>
    cases other with
    | zero => rfl
    | succ other =>
      rw [toList_layerName_succ] at htext
      cases htext
  | succ index =>
    cases other with
    | zero =>
      rw [toList_layerName_succ] at htext
      cases htext
    | succ other =>
      -- overviews are told apart by their digits
      rw [toList_layerName_succ, toList_layerName_succ] at htext
      have hdigits := congrArg (Nat.ofDigitChars 10 · 0) (List.append_cancel_left htext)
      rwa [Nat.ofDigitChars_ten_toDigits, Nat.ofDigitChars_ten_toDigits] at hdigits

theorem layerFileName_injective {index other : Nat}
    (h : layerFileName index = layerFileName other) : index = other := by
  refine layerName_injective (String.toList_inj.mp ?_)
  have htext := congrArg String.toList h
  unfold layerFileName at htext
  rw [String.toList_append, String.toList_append] at htext
  exact List.append_cancel_right htext

theorem slash_notMem_fileName {name : String} (hname : '/' ∉ name.toList) :
    '/' ∉ (name ++ ".geojson").toList := by
  rw [String.toList_append, List.mem_append, not_or]
  exact ⟨hname, by decide⟩

theorem fileName_ne_empty (name : String) : name ++ ".geojson" ≠ "" := by
  intro hempty
  have hlength := congrArg (fun s : String => s.toList.length) hempty
  simp at hlength

/-- The file of a layer stands in the directory of its dataset. -/
theorem pieces_layerPath (directory : String) {name : String} (hname : '/' ∉ name.toList) :
    Path.pieces (Dataset.layerPath directory name)
      = Path.pieces directory ++ [name ++ ".geojson"] :=
  Path.pieces_join directory (slash_notMem_fileName hname) (fileName_ne_empty name)

/-- The file of a layer is named after the layer. -/
theorem lastName_layerPath_of_notMem (directory : String) {name : String}
    (hname : '/' ∉ name.toList) :
    FileSystem.lastName (Dataset.layerPath directory name) = name ++ ".geojson" := by
  unfold FileSystem.lastName
  rw [pieces_layerPath directory hname, List.getLast?_concat]
  rfl

theorem lastName_layerPath (directory : String) (index : Nat) :
    FileSystem.lastName (Dataset.layerPath directory (layerName index)) = layerFileName index :=
  lastName_layerPath_of_notMem directory (slash_notMem_layerName index)

/-! ### Writing layers -/

section WriteLayer

variable {fs fs' : FileSystem} {events events' : List Event} {name : String}
  {reference : Option SpatialReference} {blocks : List (BlockRectangle Float)} {count : ℕ}

/-- The bytes of a layer. -/
def layerBytes (name : String) (reference : Option SpatialReference)
    (blocks : List (BlockRectangle Float)) : ByteArray :=
  (String.ofList (collectionText name reference blocks)).toUTF8

/-- A layer is added at the end of a file. -/
theorem exec_writeCollection (location : Location) (name : String)
    (reference : Option SpatialReference) (blocks : List (BlockRectangle Float))
    (events : List Event) (fs : FileSystem) :
    (writeCollection FileSystem.store location name reference blocks).exec events fs
      = ((.ok blocks.length, events), fs.append location (layerBytes name reference blocks)) :=
  rfl

namespace Dataset

/-- A layer in a directory has a file of its own, which holds nothing else. -/
theorem exec_writeLayer_of_place? {directory : String} {location : Location}
    (h : fs.place? (layerPath directory name) = some location) (layers : ℕ)
    (reference : Option SpatialReference) (blocks : List (BlockRectangle Float))
    (events : List Event) :
    (writeLayer FileSystem.store { target := .directory directory, layers } name reference
      blocks).exec events fs
      = ((.ok (blocks.length, { target := .directory directory, layers := layers + 1 }), events),
        fs.insert location (.file (layerBytes name reference blocks))) := by
  have hcreate : FileSystem.store.create (layerPath directory name) fs
      = (.ok location, fs.insert location (.file .empty)) := by
    rw [FileSystem.store_create, FileSystem.createFile_of_place? h]
  have hne := (FileSystem.place?_spec h).1
  unfold writeLayer
  dsimp only
  rw [Run.exec_bind, Run.exec_attempt, hcreate]
  dsimp only [Except.mapError]
  rw [Run.exec_bind, exec_writeCollection, FileSystem.insert_append fs hne]
  rfl

/-- A layer whose file cannot be made is refused, and nothing is touched. -/
theorem exec_writeLayer_of_place?_eq_none {directory : String}
    (h : fs.place? (layerPath directory name) = none) (layers : ℕ)
    (reference : Option SpatialReference) (blocks : List (BlockRectangle Float))
    (events : List Event) :
    ∃ cause, (writeLayer FileSystem.store { target := .directory directory, layers } name reference
      blocks).exec events fs = ((.error (.file cause), events), fs) := by
  obtain ⟨cause, hcause⟩ := FileSystem.createFile_of_place?_eq_none h
  have hcreate : FileSystem.store.create (layerPath directory name) fs = (.error cause, fs) := by
    rw [FileSystem.store_create, hcause]
  refine ⟨cause, ?_⟩
  unfold writeLayer
  dsimp only
  rw [Run.exec_bind, Run.exec_attempt, hcreate]
  rfl

/-- A layer that is written in a directory has its place there. -/
theorem writeLayer_directory_eq_ok {directory : String} {layers : ℕ}
    {dataset' : Dataset Location}
    (h : (writeLayer FileSystem.store { target := .directory directory, layers } name reference
      blocks).exec events fs = ((.ok (count, dataset'), events'), fs')) :
    dataset' = { target := .directory directory, layers := layers + 1 }
      ∧ ∃ location, fs.place? (layerPath directory name) = some location
        ∧ fs' = fs.insert location (.file (layerBytes name reference blocks)) := by
  cases hplace : fs.place? (layerPath directory name) with
  | none =>
    obtain ⟨cause, hrefused⟩ :=
      exec_writeLayer_of_place?_eq_none hplace layers reference blocks events
    rw [hrefused] at h
    cases h
  | some location =>
    rw [exec_writeLayer_of_place? hplace] at h
    cases h
    exact ⟨rfl, location, rfl, rfl⟩

/-- A single file takes its first layer. -/
theorem exec_writeLayer_file (path : String) (location : Location) (name : String)
    (reference : Option SpatialReference) (blocks : List (BlockRectangle Float))
    (events : List Event) (fs : FileSystem) :
    (writeLayer FileSystem.store { target := .file path location, layers := 0 } name reference
      blocks).exec events fs
      = ((.ok (blocks.length, { target := .file path location, layers := 1 }), events),
        fs.append location (layerBytes name reference blocks)) :=
  rfl

/-- A single file refuses any other layer, and nothing is touched. -/
theorem exec_writeLayer_file_of_ne {layers : ℕ} (hlayers : layers ≠ 0) (path : String)
    (location : Location) (name : String) (reference : Option SpatialReference) (blocks : List (BlockRectangle Float))
    (events : List Event) (fs : FileSystem) :
    (writeLayer FileSystem.store { target := .file path location, layers } name reference
      blocks).exec events fs = ((.error (.singleLayerOnly driverName name), events), fs) := by
  unfold writeLayer
  dsimp only
  rw [if_pos hlayers]
  rfl

theorem writeLayer_file_eq_ok {path : String} {location : Location} {layers : ℕ} {dataset' : Dataset Location}
    (h : (writeLayer FileSystem.store { target := .file path location, layers } name reference
      blocks).exec events fs = ((.ok (count, dataset'), events'), fs')) :
    layers = 0 ∧ dataset' = { target := .file path location, layers := 1 }
      ∧ fs' = fs.append location (layerBytes name reference blocks) := by
  by_cases hlayers : layers = 0
  · subst hlayers
    rw [exec_writeLayer_file] at h
    cases h
    exact ⟨rfl, rfl, rfl⟩
  · rw [exec_writeLayer_file_of_ne hlayers] at h
    cases h

/-- A dataset at a path with an extension is a new file. -/
theorem create_file_eq_ok {path : String} {dataset : Dataset Location}
    (hextension : (Path.extension? path).isSome = true)
    (h : (create FileSystem.store path).exec events fs = ((.ok dataset, events'), fs')) :
    ∃ location, dataset = { target := .file path location, layers := 0 }
      ∧ fs.createFile path = .ok (location, fs') := by
  unfold create at h
  rw [if_pos hextension] at h
  obtain ⟨location, events₁, fs₁, hattempt, hpure⟩ := Run.exec_bind_eq_ok _ _ h
  have hcreate := FileSystem.store_create_eq_ok (Run.exec_attempt_eq_ok _ _ hattempt)
  cases hpure
  exact ⟨location, rfl, hcreate⟩

/-- A dataset at a path without an extension is a directory. -/
theorem create_directory_eq_ok {path : String} {dataset : Dataset Location}
    (hextension : ¬ (Path.extension? path).isSome = true)
    (h : (create FileSystem.store path).exec events fs = ((.ok dataset, events'), fs')) :
    dataset = { target := .directory path, layers := 0 }
      ∧ FileSystem.store.makeDirectories path fs = (.ok (), fs') := by
  unfold create at h
  rw [if_neg hextension] at h
  obtain ⟨⟨⟩, events₁, fs₁, hattempt, hpure⟩ := Run.exec_bind_eq_ok _ _ h
  have hmake := Run.exec_attempt_eq_ok _ _ hattempt
  cases hpure
  exact ⟨rfl, hmake⟩

/-- Completing a dataset that has a layer, or is a directory, writes nothing. -/
theorem close_eq (dataset : Dataset Location) (events : List Event) (fs : FileSystem)
    (h : dataset.layers ≠ 0 ∨ ∃ path, dataset.target = .directory path) :
    (dataset.close FileSystem.store).exec events fs = ((.ok (), events), fs) := by
  unfold close
  split
  · rename_i file location htarget
    have hlayers : ¬ dataset.layers = 0 := by
      rcases h with hlayers | ⟨path, hpath⟩
      · exact hlayers
      · rw [htarget] at hpath
        cases hpath
    rw [if_neg hlayers]
    rfl
  · rfl

end Dataset

end WriteLayer

end GeoJson

end BlockExtent

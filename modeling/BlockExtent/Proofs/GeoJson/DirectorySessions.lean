import BlockExtent.Proofs.GeoJson.Sessions

/-!
# Layers in a directory

A directory is a map from names to layers in which the last write counts.  Where a layer
goes depends on the directories alone, so what is written for one layer makes no difference
to where another one goes.

## Main definitions

* `NamesFile` — a name after which a file can be named.
* `Accepts` — a directory has a place for the file of a layer.
* `layerFiles` — the files that a session leaves.
* `HoldsLayers` — a directory holds the last layer of each name that it has taken.

## Main results

* `Dataset.place?_layerPath_iff` — the place of the file of a layer.
* `Dataset.tryLayers_putFiles` — a session puts the files of its layers.
* `Dataset.tryLayers_directory` — **in a directory the last write counts**, and a refusal
  changes nothing.
-/

namespace BlockExtent.GeoJson

/-! ### The place of a layer in a directory -/

/-- A name after which a file can be named. -/
structure NamesFile (name : String) : Prop where
  slash_notMem : '/' ∉ name.toList
  nul_notMem : '\x00' ∉ name.toList
  size_le : (name ++ ".geojson").utf8ByteSize ≤ FileSystem.nameLimit

/-- A directory has a place for the file of a layer: it is there, its path with the name
behind it is no longer than paths may be, and the name is not that of a directory. -/
structure Accepts (fs : FileSystem) (path : String) (directory : Location) (name : String) :
    Prop where
  lookup_directory : fs.lookup directory = some .directory
  size_lt : (Path.join path (name ++ ".geojson")).utf8ByteSize < FileSystem.pathLimit
  lookup_ne : fs.lookup (directory ++ [name ++ ".geojson"]) ≠ some .directory

namespace Dataset

variable {fs : FileSystem} {path name : String} {directory location : Location}

/-- The path of a layer is that of its directory with the name of its file at the end. -/
theorem exists_toList_layerPath (path : String) (hname : '/' ∉ name.toList) :
    ∃ front, (layerPath path name).toList = front ++ (name ++ ".geojson").toList
      ∧ ∀ c ∈ front, c ∈ path.toList ∨ c = '/' := by
  rcases Path.toList_join path (slash_notMem_fileName hname) with ⟨hjoin, -⟩ | ⟨hjoin, -⟩
  · exact ⟨path.toList, hjoin, fun c hc => .inl hc⟩
  · refine ⟨path.toList ++ ['/'], by rw [layerPath, hjoin]; simp, fun c hc => ?_⟩
    simpa using hc

theorem endsInSlash_layerPath (path : String) (hname : '/' ∉ name.toList) :
    Path.endsInSlash (layerPath path name) = false := by
  obtain ⟨front, htext, -⟩ := exists_toList_layerPath path hname
  have hlast : (".geojson" : String).toList.getLast? = some 'n' := by decide
  unfold Path.endsInSlash
  rw [htext, String.toList_append, List.getLast?_append, List.getLast?_append, hlast]
  rfl

theorem checkPath_layerPath (hpath : '\x00' ∉ path.toList) (hname : NamesFile name)
    (hsize : (layerPath path name).utf8ByteSize < FileSystem.pathLimit) :
    FileSystem.checkPath (layerPath path name) = .ok () := by
  obtain ⟨front, htext, hfront⟩ := exists_toList_layerPath path hname.slash_notMem
  refine FileSystem.checkPath_eq_ok_iff.mpr ⟨?_, ?_, hsize⟩
  · rw [htext, String.toList_append, List.mem_append, List.mem_append, not_or, not_or]
    refine ⟨fun hmem => ?_, hname.nul_notMem, by decide⟩
    rcases hfront _ hmem with hnul | hslash
    · exact hpath hnul
    · exact absurd hslash (by decide)
  · intro hempty
    have hpieces := pieces_layerPath path hname.slash_notMem
    rw [hempty] at hpieces
    exact List.cons_ne_nil _ _ (List.append_eq_nil_iff.mp hpieces.symm).2

theorem fileName_ne_dots (name : String) :
    name ++ ".geojson" ≠ "." ∧ name ++ ".geojson" ≠ ".." := by
  constructor <;> intro hdots <;>
    simpa using congrArg (fun s : String => s.toList.length) hdots

/-- **The place of the file of a layer** is in the directory of its dataset. -/
theorem place?_layerPath_iff (hpath : fs.LeadsToDirectory path)
    (hlocate : fs.locate path = .ok directory) (hname : NamesFile name) :
    fs.place? (layerPath path name) = some location ↔
      location = directory ++ [name ++ ".geojson"] ∧ Accepts fs path directory name := by
  have hpieces := pieces_layerPath path hname.slash_notMem
  have hlast := lastName_layerPath_of_notMem path hname.slash_notMem
  have hstart : fs.start (layerPath path name) = fs.start path := by
    unfold FileSystem.start layerPath
    rw [Path.isAbsolute_join path (slash_notMem_fileName hname.slash_notMem)]
  obtain ⟨hdot, hdots⟩ := fileName_ne_dots name
  rw [FileSystem.place?_eq_some_iff, hlast]
  constructor
  · rintro ⟨found, hfound, -, hbelow, hplace⟩
    obtain ⟨hcheck, names, hnames, -, -, hfollow⟩ := FileSystem.findLast_eq_ok hfound
    rw [hlast, hpieces] at hnames
    obtain rfl := (List.append_inj_left' hnames rfl)
    rw [hstart] at hfollow
    obtain rfl : found = directory := by
      rw [FileSystem.locate, hfollow] at hlocate
      exact Except.ok.inj hlocate
    obtain ⟨hdirectory, rfl⟩ := FileSystem.below_eq_ok hdot hdots hbelow
    exact ⟨rfl, hdirectory, (FileSystem.checkPath_eq_ok_iff.mp hcheck).2.2, hplace⟩
  · rintro ⟨rfl, haccepts⟩
    have hnul : '\x00' ∉ path.toList := by
      rcases hpath with rfl | hdirectory
      · exact List.not_mem_nil
      · exact (FileSystem.checkPath_eq_ok_iff.mp
          (FileSystem.isDirectory_iff.mp hdirectory).1).1
    refine ⟨directory, ?_, endsInSlash_layerPath path hname.slash_notMem, ?_,
      haccepts.lookup_ne⟩
    · unfold FileSystem.findLast
      rw [checkPath_layerPath hnul hname haccepts.size_lt, ok_bind, hpieces]
      dsimp only
      rw [List.getLast?_concat]
      dsimp only
      rw [List.dropLast_concat, hstart, ← FileSystem.locate, hlocate, ok_bind,
        haccepts.lookup_directory]
      simp [hdot, hdots]
    · unfold FileSystem.below
      rw [haccepts.lookup_directory]
      dsimp only
      rw [if_neg hdot, if_neg hdots, if_neg (Nat.not_lt.mpr hname.size_le)]

end Dataset

/-! ### A directory -/

/-- The files of the layers that have a place, in the order of the layers. -/
def layerFiles (fs : FileSystem) (path : String) (layers : List LayerInput) :
    List (Location × ByteArray) :=
  layers.filterMap fun layer =>
    (fs.place? (Dataset.layerPath path layer.name)).map fun location => (location, layer.bytes)

/-- The answer to a layer: the number of its features if its file has a place, and a failure
of the file operation otherwise. -/
def IsAnswer (fs : FileSystem) (path : String) (layer : LayerInput) (answer : Except Failure ℕ) :
    Prop :=
  match fs.place? (Dataset.layerPath path layer.name) with
  | some _ => answer = .ok layer.blocks.length
  | none => ∃ cause, answer = .error (.file cause)

/-- A directory holds the last layer of each name that it has taken, and nothing else has
changed. -/
structure HoldsLayers (path : String) (directory : Location) (fs₁ fs₂ : FileSystem)
    (layers : List LayerInput) (answers : List (Except Failure ℕ)) : Prop where
  /-- A layer that has a place is written, and any other one is refused. -/
  answered : List.Forall₂ (fun layer answer =>
    (Accepts fs₁ path directory layer.name → answer = .ok layer.blocks.length)
      ∧ (¬ Accepts fs₁ path directory layer.name → ∃ cause, answer = .error (.file cause)))
    layers answers
  /-- The last layer of a name is what its file holds. -/
  last : ∀ before layer count after, layers.zip answers = before ++ (layer, .ok count) :: after →
    (∀ later ∈ after, later.1.name ≠ layer.name) →
    fs₂.find (Path.join path (layer.name ++ ".geojson")) = .ok (.file layer.bytes)
  /-- What no layer was written to is as it was. -/
  kept : ∀ location, (∀ layer count, (layer, .ok count) ∈ layers.zip answers →
    location ≠ directory ++ [layer.name ++ ".geojson"]) →
    fs₂.lookup location = fs₁.lookup location

theorem mem_layerFiles {fs : FileSystem} {path : String} {layers : List LayerInput}
    {location : Location} {content : ByteArray} :
    (location, content) ∈ layerFiles fs path layers ↔ ∃ layer ∈ layers,
      fs.place? (Dataset.layerPath path layer.name) = some location ∧ layer.bytes = content := by
  unfold layerFiles
  rw [List.mem_filterMap]
  refine exists_congr fun layer => and_congr_right fun _ => ?_
  rw [Option.map_eq_some_iff]
  constructor
  · rintro ⟨found, hplace, heq⟩
    obtain ⟨rfl, rfl⟩ := Prod.mk.inj heq
    exact ⟨hplace, rfl⟩
  · rintro ⟨hplace, rfl⟩
    exact ⟨location, hplace, rfl⟩

theorem takesFiles_layerFiles (fs : FileSystem) (path : String) (layers : List LayerInput) :
    fs.TakesFiles (layerFiles fs path layers) := by
  rintro ⟨location, content⟩ hfile
  obtain ⟨layer, -, hplace, -⟩ := mem_layerFiles.mp hfile
  obtain ⟨hne, hlookup, -, -⟩ := FileSystem.place?_spec hplace
  exact ⟨hne, hlookup⟩

namespace Dataset

variable {fs fs₁ : FileSystem} {path : String} {directory location : Location}
  {layer : LayerInput} {dataset : Dataset Location} {events : List Event}

/-- A layer whose file has a place is put there. -/
theorem tryLayer_of_place? (h : fs.place? (layerPath path layer.name) = some location)
    (count : ℕ) :
    tryLayer FileSystem.store { target := .directory path, layers := count } layer fs
      = ((.ok layer.blocks.length, { target := .directory path, layers := count + 1 }),
        fs.insert location (.file layer.bytes)) :=
  tryLayer_of_ok (exec_writeLayer_of_place? h count _ _ _)

/-- Any other layer is refused, and nothing is touched. -/
theorem tryLayer_of_place?_eq_none (h : fs.place? (layerPath path layer.name) = none)
    (count : ℕ) :
    ∃ cause, tryLayer FileSystem.store { target := .directory path, layers := count } layer fs
      = ((.error (.file cause), { target := .directory path, layers := count }), fs) := by
  obtain ⟨cause, hrefused⟩ := exec_writeLayer_of_place?_eq_none h count layer.reference
    layer.blocks []
  exact ⟨cause, tryLayer_of_error hrefused⟩

/-- A session in a directory puts the files of its layers one after the other.  Their places
are those that they have at its start, since files make no difference to them. -/
theorem tryLayers_putFiles (hsame : FileSystem.SameDirectories fs₁ fs) (path : String)
    (count : ℕ) (layers : List LayerInput) :
    ∃ answers count',
      tryLayers FileSystem.store { target := .directory path, layers := count } layers fs
        = ((answers, { target := .directory path, layers := count' }),
          fs.putFiles (layerFiles fs₁ path layers))
      ∧ List.Forall₂ (IsAnswer fs₁ path) layers answers := by
  induction layers generalizing fs count with
  | nil => exact ⟨[], count, rfl, .nil⟩
  | cons layer layers ih =>
    have hplace := hsame.place?_eq (layerPath path layer.name)
    cases hfirst : fs₁.place? (layerPath path layer.name) with
    | none =>
      obtain ⟨cause, hlayer⟩ := tryLayer_of_place?_eq_none (hplace.trans hfirst) count
      obtain ⟨answers, count', hlayers, hanswers⟩ := ih hsame count
      have hanswer : IsAnswer fs₁ path layer (.error (.file cause)) := by
        unfold IsAnswer
        rw [hfirst]
        exact ⟨cause, rfl⟩
      have hfiles : layerFiles fs₁ path (layer :: layers) = layerFiles fs₁ path layers := by
        unfold layerFiles
        rw [List.filterMap_cons, hfirst]
        rfl
      rw [hfiles]
      exact ⟨_, count', tryLayers_cons hlayer hlayers, .cons hanswer hanswers⟩
    | some location =>
      have hlayer := tryLayer_of_place? (hplace.trans hfirst) count
      obtain ⟨hne, hlookup, -, -⟩ := FileSystem.place?_spec (hplace.trans hfirst)
      have hnext := hsame.trans (.insert_file layer.bytes hne hlookup)
      obtain ⟨answers, count', hlayers, hanswers⟩ := ih hnext (count + 1)
      have hanswer : IsAnswer fs₁ path layer (.ok layer.blocks.length) := by
        unfold IsAnswer
        rw [hfirst]
      have hfiles : layerFiles fs₁ path (layer :: layers)
          = (location, layer.bytes) :: layerFiles fs₁ path layers := by
        unfold layerFiles
        rw [List.filterMap_cons, hfirst]
        rfl
      rw [hfiles, FileSystem.putFiles_cons]
      dsimp only
      exact ⟨_, count', tryLayers_cons hlayer hlayers, .cons hanswer hanswers⟩

/-- A layer that is refused makes no difference to the layers before and after it. -/
theorem tryLayers_refused {before after : List LayerInput} {answers : List (Except Failure ℕ)}
    {dataset' : Dataset Location} {fs' : FileSystem} {count : ℕ}
    (h : tryLayers FileSystem.store { target := .directory path, layers := count }
      (before ++ layer :: after) fs = ((answers, dataset'), fs'))
    (hplace : fs.place? (layerPath path layer.name) = none) :
    ∃ front cause back, answers = front ++ .error (.file cause) :: back
      ∧ front.length = before.length
      ∧ tryLayers FileSystem.store { target := .directory path, layers := count }
        (before ++ after) fs = ((front ++ back, dataset'), fs') := by
  obtain ⟨front, count₁, hfront, -⟩ := tryLayers_putFiles (.refl fs) path count before
  have hsame := (FileSystem.sameDirectories_putFiles (takesFiles_layerFiles fs path before)).1
  obtain ⟨cause, hlayer⟩ :=
    tryLayer_of_place?_eq_none ((hsame.place?_eq _).trans hplace) count₁
  rcases hback : tryLayers FileSystem.store { target := .directory path, layers := count₁ } after
    (fs.putFiles (layerFiles fs path before)) with ⟨⟨back, dataset₂⟩, fs₂⟩
  rw [tryLayers_append hfront (tryLayers_cons hlayer hback)] at h
  cases h
  exact ⟨front, cause, back, rfl, length_tryLayers hfront, tryLayers_append hfront hback⟩

end Dataset

section HoldsLayers

variable {fs : FileSystem} {path : String} {directory : Location} {layers : List LayerInput}
  {answers : List (Except Failure ℕ)}

/-- What an answer says about the place of its layer. -/
theorem isAnswer_spec {layer : LayerInput} {answer : Except Failure ℕ}
    (hpath : fs.LeadsToDirectory path) (hlocate : fs.locate path = .ok directory)
    (hname : NamesFile layer.name) (h : IsAnswer fs path layer answer) :
    (Accepts fs path directory layer.name → answer = .ok layer.blocks.length)
      ∧ (¬ Accepts fs path directory layer.name → ∃ cause, answer = .error (.file cause)) := by
  have hplace : ∀ location, fs.place? (Dataset.layerPath path layer.name) = some location ↔
      location = directory ++ [layer.name ++ ".geojson"]
        ∧ Accepts fs path directory layer.name :=
    fun _ => Dataset.place?_layerPath_iff hpath hlocate hname
  unfold IsAnswer at h
  cases hfirst : fs.place? (Dataset.layerPath path layer.name) with
  | none =>
    rw [hfirst] at h
    refine ⟨fun haccepts => ?_, fun _ => h⟩
    rw [(hplace _).mpr ⟨rfl, haccepts⟩] at hfirst
    cases hfirst
  | some location =>
    rw [hfirst] at h
    exact ⟨fun _ => h, fun hrefuses => absurd ((hplace location).mp hfirst).2 hrefuses⟩

/-- A layer that has been written has its place in the directory. -/
theorem place?_of_isAnswer_ok {layer : LayerInput} {count : ℕ}
    (hpath : fs.LeadsToDirectory path) (hlocate : fs.locate path = .ok directory)
    (hname : NamesFile layer.name) (h : IsAnswer fs path layer (.ok count)) :
    fs.place? (Dataset.layerPath path layer.name)
      = some (directory ++ [layer.name ++ ".geojson"]) := by
  by_cases haccepts : Accepts fs path directory layer.name
  · exact (Dataset.place?_layerPath_iff hpath hlocate hname).mpr ⟨rfl, haccepts⟩
  · obtain ⟨cause, herror⟩ := (isAnswer_spec hpath hlocate hname h).2 haccepts
    cases herror

theorem fileName_injective {name other : String} (h : name ++ ".geojson" = other ++ ".geojson") :
    name = other := by
  rw [← String.toList_inj, String.toList_append, String.toList_append] at h
  exact String.toList_inj.mp (List.append_cancel_right h)

/-- **In a directory the last write counts.** -/
theorem holdsLayers_putFiles (hpath : fs.LeadsToDirectory path)
    (hlocate : fs.locate path = .ok directory) (hnames : ∀ layer ∈ layers, NamesFile layer.name)
    (hanswers : List.Forall₂ (IsAnswer fs path) layers answers) :
    HoldsLayers path directory fs (fs.putFiles (layerFiles fs path layers)) layers answers := by
  have htakes := takesFiles_layerFiles fs path layers
  have hne := fun file hfile => (htakes file hfile).1
  obtain ⟨hlength, hzip⟩ := List.forall₂_iff_zip.mp hanswers
  -- the name of a layer says where its file is
  have hlocation : ∀ location layer, layer ∈ layers →
      fs.place? (Dataset.layerPath path layer.name) = some location →
      location = directory ++ [layer.name ++ ".geojson"] := fun location layer hlayer hplace =>
    ((Dataset.place?_layerPath_iff hpath hlocate (hnames layer hlayer)).mp hplace).1
  constructor
  case answered =>
    refine List.forall₂_iff_zip.mpr ⟨hlength, fun hmem => ?_⟩
    exact isAnswer_spec hpath hlocate (hnames _ (List.of_mem_zip hmem).1) (hzip hmem)
  case last =>
    intro before layer count after hsplit hlater
    have hmem : (layer, .ok count) ∈ layers.zip answers := by
      rw [hsplit]
      exact List.mem_append_right _ List.mem_cons_self
    have hlayer := (List.of_mem_zip hmem).1
    have hplace := place?_of_isAnswer_ok hpath hlocate (hnames layer hlayer) (hzip hmem)
    have hlayers : layers = before.map Prod.fst ++ layer :: after.map Prod.fst := by
      rw [← List.map_fst_zip hlength.le, hsplit, List.map_append, List.map_cons]
    have hfiles : layerFiles fs path layers = layerFiles fs path (before.map Prod.fst)
        ++ (directory ++ [layer.name ++ ".geojson"], layer.bytes)
          :: layerFiles fs path (after.map Prod.fst) := by
      rw [hlayers]
      unfold layerFiles
      rw [List.filterMap_append, List.filterMap_cons, hplace]
      rfl
    have hafter : directory ++ [layer.name ++ ".geojson"]
        ∉ (layerFiles fs path (after.map Prod.fst)).map Prod.fst := by
      intro hfile
      obtain ⟨⟨_, content⟩, hfile, rfl⟩ := List.mem_map.mp hfile
      obtain ⟨_, hother, hplace', -⟩ := mem_layerFiles.mp hfile
      obtain ⟨later, hmem', rfl⟩ := List.mem_map.mp hother
      have hin : later.1 ∈ layers := by
        rw [hlayers]
        exact List.mem_append_right _ (List.mem_cons_of_mem _ hother)
      have hlast := List.append_cancel_left (hlocation _ _ hin hplace')
      exact hlater later hmem' (fileName_injective (List.singleton_inj.mp hlast)).symm
    have hthere : directory ++ [layer.name ++ ".geojson"]
        ∈ (layerFiles fs path layers).map Prod.fst :=
      List.mem_map.mpr ⟨(_, layer.bytes), mem_layerFiles.mpr ⟨layer, hlayer, hplace, rfl⟩, rfl⟩
    refine (FileSystem.isFileAt_putFiles htakes hplace hthere).find ?_
    rw [hfiles] at hne ⊢
    exact FileSystem.lookup_putFiles_of_last hne hafter
  case kept =>
    intro location hother
    refine FileSystem.lookup_putFiles_of_notMem hne fun hmem => ?_
    obtain ⟨⟨_, content⟩, hfile, rfl⟩ := List.mem_map.mp hmem
    obtain ⟨layer, hlayer, hplace, -⟩ := mem_layerFiles.mp hfile
    have hwritten := hlayer
    rw [← List.map_fst_zip hlength.le] at hwritten
    obtain ⟨⟨_, answer⟩, hmem', rfl⟩ := List.mem_map.mp hwritten
    have hanswer := hzip hmem'
    unfold IsAnswer at hanswer
    rw [hplace] at hanswer
    subst hanswer
    exact hother _ _ hmem' (hlocation _ _ hlayer hplace)

end HoldsLayers

namespace Dataset

variable {fs fs₁ : FileSystem} {path : String} {dataset : Dataset Location} {events : List Event}
  {layers : List LayerInput}

/-- **A directory is a map from names to layers in which the last write counts.**  Each
layer goes to a file of its own, which holds nothing else, and each other file is as it was.
A layer that is refused changes nothing, and the session is as it would be without it. -/
theorem tryLayers_directory (hextension : ¬ (Path.extension? path).isSome = true)
    (hcreate : (create FileSystem.store path).outcome fs = ((.ok dataset, events), fs₁))
    (hnames : ∀ layer ∈ layers, NamesFile layer.name) :
    ∃ directory answers dataset' fs₂,
      fs.AddsDirectories fs₁ ∧ fs₁.locate path = .ok directory
      ∧ tryLayers FileSystem.store dataset layers fs₁ = ((answers, dataset'), fs₂)
      ∧ (dataset'.close FileSystem.store).outcome fs₂ = ((.ok (), []), fs₂)
      ∧ HoldsLayers path directory fs₁ fs₂ layers answers
      ∧ ∀ before layer after, layers = before ++ layer :: after →
        ¬ Accepts fs₁ path directory layer.name → ∃ front cause back,
          answers = front ++ .error (.file cause) :: back ∧ front.length = before.length
          ∧ tryLayers FileSystem.store dataset (before ++ after) fs₁
            = ((front ++ back, dataset'), fs₂) := by
  rw [Run.outcome_eq_exec] at hcreate
  obtain ⟨rfl, hmake⟩ := create_directory_eq_ok hextension hcreate
  obtain ⟨hadds, hpath⟩ := FileSystem.makeDirectories_spec hmake
  obtain ⟨directory, hlocate⟩ := (hpath rfl).exists_locate
  obtain ⟨answers, count, hsession, hanswers⟩ := tryLayers_putFiles (.refl fs₁) path 0 layers
  refine ⟨directory, answers, _, _, hadds, hlocate, hsession, close_eq _ _ _ (.inr ⟨_, rfl⟩),
    holdsLayers_putFiles (hpath rfl) hlocate hnames hanswers, ?_⟩
  rintro before layer after rfl hrefuses
  have hname := hnames layer (List.mem_append_right _ List.mem_cons_self)
  refine tryLayers_refused hsession
    (Option.eq_none_iff_forall_ne_some.mpr fun location hplace => ?_)
  exact hrefuses ((place?_layerPath_iff (hpath rfl) hlocate hname).mp hplace).2

/-- A directory with an old layer, and with a directory where a layer would go. -/
def usedDirectory : FileSystem where
  entries := [(["out"], .directory),
    (["out", "main_image.geojson"], .file ⟨(List.replicate 1000 0).toArray⟩),
    (["out", "taken.geojson"], .directory)]
  workingDirectory := []

/-- A layer that is written twice, and one that cannot be written. -/
def repeatedLayers : List LayerInput :=
  [⟨"main_image", none, [emptyBlock]⟩, ⟨"taken", none, []⟩,
    ⟨"main_image", some (.epsg 32611), []⟩]

/-- A layer that is written twice, with a refusal in between. -/
theorem tryLayers_directory_repeated :
    ∃ dataset, ¬ (Path.extension? "out").isSome = true
      ∧ (create FileSystem.store "out").outcome usedDirectory = ((.ok dataset, []), usedDirectory)
      ∧ (∀ layer ∈ repeatedLayers, NamesFile layer.name)
      ∧ ∃ cause dataset' fs₂,
        tryLayers FileSystem.store dataset repeatedLayers usedDirectory
          = (([.ok 1, .error (.file cause), .ok 0], dataset'), fs₂)
        ∧ fs₂.find "out/main_image.geojson"
          = .ok (.file (layerBytes "main_image" (some (.epsg 32611)) [])) := by
  have hextension : ¬ (Path.extension? "out").isSome = true := by decide
  have hcreate : (create FileSystem.store "out").outcome usedDirectory
      = ((.ok { target := .directory "out", layers := 0 }, []), usedDirectory) := rfl
  have hmain : NamesFile "main_image" := ⟨by decide, by decide, by decide⟩
  have htaken : NamesFile "taken" := ⟨by decide, by decide, by decide⟩
  have hnames : ∀ layer ∈ repeatedLayers, NamesFile layer.name := by
    simp [repeatedLayers, hmain, htaken]
  obtain ⟨directory, answers, dataset', fs₂, -, hlocate, hsession, -, hholds, -⟩ :=
    tryLayers_directory hextension hcreate hnames
  cases hlocate
  have haccepts : Accepts usedDirectory "out" ["out"] "main_image" :=
    ⟨rfl, by decide, by rintro ⟨⟩⟩
  have hrefuses : ¬ Accepts usedDirectory "out" ["out"] "taken" :=
    fun haccepts => haccepts.lookup_ne rfl
  have hanswered := hholds.answered
  cases hanswered with
  | cons hfirst hrest =>
  cases hrest with
  | cons hsecond hrest =>
  cases hrest with
  | cons hthird hrest =>
  cases hrest
  obtain ⟨cause, rfl⟩ := hsecond.2 hrefuses
  cases hfirst.1 haccepts
  cases hthird.1 haccepts
  have hlast := hholds.last
    [(⟨"main_image", none, [emptyBlock]⟩, .ok 1), (⟨"taken", none, []⟩, .error (.file cause))]
    ⟨"main_image", some (.epsg 32611), []⟩ 0 [] rfl (by simp)
  exact ⟨_, hextension, hcreate, hnames, cause, dataset', fs₂, hsession, hlast⟩

end Dataset

end BlockExtent.GeoJson

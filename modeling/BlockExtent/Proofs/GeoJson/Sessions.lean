import BlockExtent.Proofs.GeoJson.Files

/-!
# Layers one after the other

A session hands layers to a dataset one after the other, goes on after a refusal, and may
complete the dataset at its end.  A single file takes its first layer and refuses the
others.

## Main definitions

* `LayerInput` — what is handed over for a layer.
* `Dataset.tryLayer`, `Dataset.tryLayers` — layers are written, and refusals noted.
* `collectionRings?` — the rings of a feature collection, with or without a name.

## Main results

* `Dataset.tryLayers_append` — a session goes on with what the part before it leaves.
* `Dataset.tryLayers_singleFile` — **a single file is one feature collection in the end**,
  that of its first layer.
-/

namespace BlockExtent.GeoJson

/-! ### Sessions -/

/-- What is handed over for a layer. -/
structure LayerInput where
  /-- The name of the layer. -/
  name : String
  /-- Its spatial reference. -/
  reference : Option SpatialReference
  /-- Its blocks. -/
  blocks : List (BlockRectangle Float)

/-- The bytes of a layer that is handed over. -/
def LayerInput.bytes (layer : LayerInput) : ByteArray :=
  layerBytes layer.name layer.reference layer.blocks

namespace Dataset

section

variable {m : Type → Type} [Monad m] (store : FileStore m)

/-- Writes a layer.  Gives the number of features or the cause of a refusal, and the
dataset afterwards, which a refusal leaves as it is. -/
def tryLayer (dataset : Dataset store.Handle) (layer : LayerInput) :
    m (Except Failure ℕ × Dataset store.Handle) := do
  match (← (dataset.writeLayer store layer.name layer.reference layer.blocks).outcome).1 with
  | .ok (count, after) => return (.ok count, after)
  | .error cause => return (.error cause, dataset)

/-- Writes layers one after the other, and goes on after a refusal. -/
def tryLayers (dataset : Dataset store.Handle) :
    List LayerInput → m (List (Except Failure ℕ) × Dataset store.Handle)
  | [] => return ([], dataset)
  | layer :: layers => do
    let (answer, after) ← tryLayer store dataset layer
    let (answers, last) ← tryLayers after layers
    return (answer :: answers, last)

end

variable {fs fs' fs₁ : FileSystem} {dataset dataset' dataset₁ : Dataset Location}
  {layer : LayerInput} {layers : List LayerInput} {answer : Except Failure ℕ}
  {answers : List (Except Failure ℕ)}

theorem tryLayers_cons
    (hlayer : tryLayer FileSystem.store dataset layer fs = ((answer, dataset₁), fs₁))
    (hlayers : tryLayers FileSystem.store dataset₁ layers fs₁ = ((answers, dataset'), fs')) :
    tryLayers FileSystem.store dataset (layer :: layers) fs
      = ((answer :: answers, dataset'), fs') := by
  change (tryLayer FileSystem.store dataset layer >>= fun (answer, after) => do
    let (answers, last) ← tryLayers FileSystem.store after layers
    return (answer :: answers, last)) fs = _
  rw [stateM_bind_apply, hlayer]
  dsimp only
  rw [stateM_bind_apply, hlayers]
  rfl

/-- A session goes on with what the part before it leaves. -/
theorem tryLayers_append {others : List LayerInput} {answers' : List (Except Failure ℕ)}
    (hlayers : tryLayers FileSystem.store dataset layers fs = ((answers, dataset₁), fs₁))
    (hothers : tryLayers FileSystem.store dataset₁ others fs₁ = ((answers', dataset'), fs')) :
    tryLayers FileSystem.store dataset (layers ++ others) fs
      = ((answers ++ answers', dataset'), fs') := by
  induction layers generalizing dataset fs answers with
  | nil =>
    cases hlayers
    exact hothers
  | cons layer layers ih =>
    rcases hfirst : tryLayer FileSystem.store dataset layer fs with ⟨⟨answer, dataset₂⟩, fs₂⟩
    rcases hrest : tryLayers FileSystem.store dataset₂ layers fs₂ with ⟨⟨rest, dataset₃⟩, fs₃⟩
    rw [tryLayers_cons hfirst hrest] at hlayers
    cases hlayers
    exact tryLayers_cons hfirst (ih hrest)

theorem length_tryLayers
    (h : tryLayers FileSystem.store dataset layers fs = ((answers, dataset'), fs')) :
    answers.length = layers.length := by
  induction layers generalizing dataset fs answers with
  | nil =>
    cases h
    rfl
  | cons layer layers ih =>
    rcases hfirst : tryLayer FileSystem.store dataset layer fs with ⟨⟨answer, dataset₂⟩, fs₂⟩
    rcases hrest : tryLayers FileSystem.store dataset₂ layers fs₂ with ⟨⟨rest, dataset₃⟩, fs₃⟩
    rw [tryLayers_cons hfirst hrest] at h
    cases h
    rw [List.length_cons, List.length_cons, ih hrest]

/-- The answer to a layer that is written is the number of its features. -/
theorem tryLayer_of_ok {count : ℕ} {events : List Event}
    (h : (dataset.writeLayer FileSystem.store layer.name layer.reference layer.blocks).exec [] fs
      = ((.ok (count, dataset'), events), fs')) :
    tryLayer FileSystem.store dataset layer fs = ((.ok count, dataset'), fs') := by
  rw [← Run.outcome_eq_exec] at h
  unfold tryLayer
  rw [stateM_bind_apply]
  rw [h]
  rfl

theorem tryLayer_of_error {cause : Failure} {events : List Event}
    (h : (dataset.writeLayer FileSystem.store layer.name layer.reference layer.blocks).exec [] fs
      = ((.error cause, events), fs')) :
    tryLayer FileSystem.store dataset layer fs = ((.error cause, dataset), fs') := by
  rw [← Run.outcome_eq_exec] at h
  unfold tryLayer
  rw [stateM_bind_apply]
  rw [h]
  rfl

end Dataset

/-! ### A single file -/

/-- The rings of a feature collection, with or without a name. -/
def collectionRings? (document : Json) : Option (List (List WrittenPosition)) :=
  match document.member? "type", document.member? "features" with
  | some (.string "FeatureCollection"), some (.array features) => features.mapM featureRing?
  | _, _ => none

/-- The document of a layer is a feature collection. -/
theorem collectionRings?_of_ofJson? {document : Json} {layer : Layer}
    (h : Layer.ofJson? document = some layer) : collectionRings? document = some layer.rings := by
  unfold Layer.ofJson? at h
  split at h
  · rename_i name features htype hname hfeatures
    obtain ⟨code, -, h⟩ := Option.bind_eq_some_iff.mp h
    obtain ⟨rings, hrings, h⟩ := Option.bind_eq_some_iff.mp h
    cases h
    unfold collectionRings?
    rw [htype, hfeatures]
    exact hrings
  · cases h

/-- The text of a dataset without layers is one document, a collection without
features. -/
theorem parse?_emptyCollectionText :
    ∃ document, Json.parse? emptyCollectionText = some document
      ∧ collectionRings? document = some [] := by
  have hgap : Json.IsGap ['\n'] := by simp [Json.IsGap, Json.isGap]
  refine ⟨_, (Json.reads_text _).parse?_append hgap, ?_⟩
  simp only [Json.written, Json.writtenMembers, Json.writtenItems]
  rfl

/-- The answers of a single file: it takes its first layer and refuses the others. -/
def singleFileAnswers : List LayerInput → List (Except Failure ℕ)
  | [] => []
  | first :: later =>
    .ok first.blocks.length
      :: later.map fun layer => .error (.singleLayerOnly "GeoJSON" layer.name)

/-- What a single file holds in the end: its first layer, if there is one. -/
def singleFileText : List LayerInput → List Char
  | [] => emptyCollectionText
  | first :: _ => collectionText first.name first.reference first.blocks

/-- The rings of its features. -/
def singleFileRings : List LayerInput → List (List WrittenPosition)
  | [] => []
  | first :: _ => first.blocks.map writtenRing

theorem parse?_singleFileText (layers : List LayerInput) :
    ∃ document, Json.parse? (singleFileText layers) = some document
      ∧ collectionRings? document = some (singleFileRings layers) := by
  cases layers with
  | nil => exact parse?_emptyCollectionText
  | cons first later =>
    obtain ⟨document, hparse, hlayer⟩ :=
      parse?_collectionText first.name first.reference first.blocks
    exact ⟨document, hparse, collectionRings?_of_ofJson? hlayer⟩

namespace Dataset

variable {fs fs₁ : FileSystem} {dataset : Dataset Location} {events : List Event} {path : String}

/-- A single file that has a layer refuses any other one, and nothing is touched. -/
theorem tryLayer_file_of_ne {count : ℕ} (hcount : count ≠ 0) (path : String)
    (location : Location) (layer : LayerInput) (fs : FileSystem) :
    tryLayer FileSystem.store { target := .file path location, layers := count } layer fs
      = ((.error (.singleLayerOnly "GeoJSON" layer.name),
        { target := .file path location, layers := count }), fs) :=
  tryLayer_of_error (exec_writeLayer_file_of_ne hcount _ _ _ _ _ _ _)

theorem tryLayers_file_of_ne {count : ℕ} (hcount : count ≠ 0) (path : String)
    (location : Location) (layers : List LayerInput) (fs : FileSystem) :
    tryLayers FileSystem.store { target := .file path location, layers := count } layers fs
      = ((layers.map fun layer => .error (.singleLayerOnly "GeoJSON" layer.name),
        { target := .file path location, layers := count }), fs) := by
  induction layers with
  | nil => rfl
  | cons layer layers ih => exact tryLayers_cons (tryLayer_file_of_ne hcount path location layer fs) ih

/-- **A single file is one feature collection in the end**, whatever was there before.  It
takes its first layer and refuses the others, and a refusal changes neither the file nor the
dataset.  Completing it adds nothing to a layer. -/
theorem tryLayers_singleFile (hextension : (Path.extension? path).isSome = true)
    (hcreate : (create FileSystem.store path).outcome fs = ((.ok dataset, events), fs₁))
    (layers : List LayerInput) :
    ∃ dataset' fs₂ fs₃ document,
      tryLayers FileSystem.store dataset layers fs₁ = ((singleFileAnswers layers, dataset'), fs₂)
      ∧ (dataset'.close FileSystem.store).outcome fs₂ = ((.ok (), []), fs₃)
      ∧ (layers ≠ [] → fs₃ = fs₂ ∧ ∀ layer, tryLayer FileSystem.store dataset' layer fs₂
        = ((.error (.singleLayerOnly "GeoJSON" layer.name), dataset'), fs₂))
      ∧ fs₃.find path = .ok (.file (String.ofList (singleFileText layers)).toUTF8)
      ∧ Json.parse? (singleFileText layers) = some document
      ∧ collectionRings? document = some (singleFileRings layers)
      ∧ ∀ location, fs₃.locate path ≠ .ok location → fs₃.lookup location = fs.lookup location := by
  obtain ⟨location, rfl, hfile⟩ := create_file_eq_ok hextension hcreate
  obtain ⟨document, hparse, hrings⟩ := parse?_singleFileText layers
  have hwrites := FileSystem.writesFile_append hfile (bytesOf (singleFileText layers))
  -- what stands in the file is the same, whoever has written it
  have hfinal : ∀ location', (fs₁.append location (bytesOf (singleFileText layers))).locate path
      ≠ .ok location' →
      (fs₁.append location (bytesOf (singleFileText layers))).lookup location'
        = fs.lookup location' := by
    intro location' hlocate
    refine hwrites.lookup_of_ne location' fun hsame => hlocate ?_
    rw [hsame]
    exact hwrites.isFileAt.locate_eq
  cases layers with
  | nil =>
    exact ⟨_, _, _, document, rfl, rfl, fun hne => absurd rfl hne,
      hwrites.isFileAt.find hwrites.lookup_eq, hparse, hrings, hfinal⟩
  | cons first later =>
    have hfirst : tryLayer FileSystem.store { target := .file path location, layers := 0 } first fs₁
        = ((.ok first.blocks.length, { target := .file path location, layers := 1 }),
          fs₁.append location first.bytes) :=
      tryLayer_of_ok (exec_writeLayer_file path location _ _ _ [] fs₁)
    exact ⟨_, _, _, document,
      tryLayers_cons hfirst (tryLayers_file_of_ne Nat.one_ne_zero path location later _),
      close_eq _ _ _ (.inl Nat.one_ne_zero),
      fun _ => ⟨rfl, fun layer => tryLayer_file_of_ne Nat.one_ne_zero path location layer _⟩,
      hwrites.isFileAt.find hwrites.lookup_eq, hparse, hrings, hfinal⟩

/-- A file that is longer than any document that replaces it needs to be. -/
def staleFile : FileSystem where
  entries := [(["out.json"], .file ⟨(List.replicate 1000 0).toArray⟩)]
  workingDirectory := []

/-- A block of no extent. -/
def emptyBlock : BlockRectangle Float where
  level := 0
  column := 0
  row := 0
  xMin := 0
  yMin := 0
  xMax := 0
  yMax := 0

/-- A layer with a block, and a layer without one. -/
def twoLayers : List LayerInput :=
  [⟨"main_image", none, [emptyBlock]⟩, ⟨"overview_1", some (.epsg 32611), []⟩]

/-- Two layers for a single file that holds something else. -/
theorem tryLayers_singleFile_stale :
    ∃ dataset fs₁, (Path.extension? "out.json").isSome = true
      ∧ (create FileSystem.store "out.json").outcome staleFile = ((.ok dataset, []), fs₁)
      ∧ ∃ dataset' fs₂ fs₃,
        tryLayers FileSystem.store dataset twoLayers fs₁
          = (([.ok 1, .error (.singleLayerOnly "GeoJSON" "overview_1")], dataset'), fs₂)
        ∧ (dataset'.close FileSystem.store).outcome fs₂ = ((.ok (), []), fs₃) ∧ fs₃ = fs₂
        ∧ fs₃.find "out.json" = .ok (.file (layerBytes "main_image" none [emptyBlock])) := by
  have hextension : (Path.extension? "out.json").isSome = true := rfl
  have hcreate : (create FileSystem.store "out.json").outcome staleFile
      = ((.ok { target := .file "out.json" ["out.json"], layers := 0 }, []),
        staleFile.insert ["out.json"] (.file .empty)) := rfl
  obtain ⟨dataset', fs₂, fs₃, document, hanswers, hclose, hlater, hfind, -⟩ :=
    tryLayers_singleFile hextension hcreate twoLayers
  exact ⟨_, _, hextension, hcreate, dataset', fs₂, fs₃, hanswers, hclose,
    (hlater (List.cons_ne_nil _ _)).1, hfind⟩

end Dataset

end BlockExtent.GeoJson

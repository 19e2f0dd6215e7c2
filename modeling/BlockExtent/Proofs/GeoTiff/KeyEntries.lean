import BlockExtent.GeoTiff.KeyDirectory
import Mathlib.Data.List.Induction
import Mathlib.Data.Nat.Notation

/-!
# What a GeoKey directory says

The entries of a directory are read in order, as many as are declared.  An entry of a key that is
not used is passed over, whatever it says.  The first other entry that refers to no value is an
error.  If there is none, the last entry of each key counts, and has to be of its kind.

## Main definitions

* `KeyEntry`, `directoryShorts` — entries, and a directory with them.
* `KeyEntry.IsFaulty` — an entry refers to no value.
* `KeyEntry.Gives` — an entry gives a key what is to be known of it.
* `lastOfKey?` — the entry that counts.
* `ReadsKeys` — what is read of a directory.

## Main results

* `KeyDirectory.valueOf_eq_error_iff` — the entries that refer to no value.
* `Binds.readEntry` — reading an entry.
* `KeyDirectory.ofShorts_reference` — **what is read of any directory**, and that nothing else
  in it matters.
-/

namespace BlockExtent

open Tiff

/-! ### Entries -/

/-- The four shorts of an entry. -/
structure KeyEntry where
  /-- The number of the key. -/
  code : ℕ
  /-- Where the value is. -/
  location : ℕ
  /-- The length of the value. -/
  count : ℕ
  /-- The value, or its position. -/
  value : ℕ
deriving DecidableEq, Repr

namespace KeyEntry

/-- An entry as it stands in a directory. -/
def shorts (e : KeyEntry) : List ℕ := [e.code, e.location, e.count, e.value]

/-- The key of an entry, if it is used. -/
def key? (e : KeyEntry) : Option GeoKey :=
  match e.code with
  | 1025 => some .rasterType
  | 1026 => some .citation
  | 2048 => some .geographicType
  | 2049 => some .geographicCitation
  | 3072 => some .projectedType
  | 3073 => some .projectedCitation
  | _ => none

/-- The reader knows the keys by the same numbers. -/
theorem key?_eq_ofCode? (e : KeyEntry) : e.key? = GeoKey.ofCode? e.code := by
  unfold key? GeoKey.ofCode?
  split <;> simp_all

/-- A text is the range of so many bytes in another one. -/
def IsByteRange (text : String) (start length : ℕ) (range : String) : Prop :=
  ∃ before after, text = before ++ range ++ after ∧ before.utf8ByteSize = start
    ∧ range.utf8ByteSize = length

/-- A text is left of another one without the bars and null characters at its end. -/
def IsTrimmed (range text : String) : Prop :=
  ∃ dropped, range = text ++ dropped ∧ (∀ c ∈ dropped.toList, c = '|' ∨ c = '\x00')
    ∧ ∀ c ∈ text.toList.getLast?, ¬ (c = '|' ∨ c = '\x00')

section

variable (doubles : Option (List Float)) (ascii : Option String) (e : KeyEntry)

/-- An entry refers to no value. -/
inductive IsFaulty : GeoKeyFault → Prop where
  /-- Values are in the entry, in the doubles or in the text. -/
  | location (hentry : e.location ≠ 0) (hdoubles : e.location ≠ 34736)
      (hascii : e.location ≠ 34737) :
      IsFaulty (.unsupportedLocation e.code e.location)
  /-- The doubles are there, and there are enough of them. -/
  | doubles (hlocation : e.location = 34736)
      (hrange : ∀ xs, doubles = some xs → xs.length < e.value + e.count) :
      IsFaulty (.outOfRange e.code .doubles)
  /-- The text is there, and the range is one of characters. -/
  | ascii (hlocation : e.location = 34737)
      (hrange : ∀ text, ascii = some text → ∀ range, ¬ IsByteRange text e.value e.count range) :
      IsFaulty (.outOfRange e.code .ascii)

/-- An entry of a key that is used refers to a value. -/
def IsSound : Prop := e.key?.isSome → ∀ fault, ¬ e.IsFaulty doubles ascii fault

end

end KeyEntry

/-- What is to be known of a key. -/
inductive KeyContent where
  /-- A number. -/
  | number (n : ℕ)
  /-- A text. -/
  | text (s : String)
deriving DecidableEq, Repr

/-- Whether a number is to be known of a key. -/
def GeoKey.takesNumber : GeoKey → Bool
  | .rasterType | .geographicType | .projectedType => true
  | .citation | .geographicCitation | .projectedCitation => false

/-- An entry gives a key what is to be known of it: the number that is in the entry, or the range
of the text. -/
inductive KeyEntry.Gives (ascii : Option String) (e : KeyEntry) (key : GeoKey) :
    KeyContent → Prop where
  /-- A type. -/
  | number (hkey : key.takesNumber = true) (hlocation : e.location = 0) :
      Gives ascii e key (.number e.value)
  /-- A citation. -/
  | text {params range s : String} (hkey : key.takesNumber = false)
      (hlocation : e.location = 34737) (hascii : ascii = some params)
      (hrange : IsByteRange params e.value e.count range) (htrim : IsTrimmed range s) :
      Gives ascii e key (.text s)

/-- Three of the keys take a number and three take a text. -/
theorem KeyEntry.exists_key_iff (e : KeyEntry) :
    ((∃ key, e.key? = some key ∧ key.takesNumber = true) ↔ e.code ∈ [1025, 2048, 3072])
      ∧ ((∃ key, e.key? = some key ∧ key.takesNumber = false)
        ↔ e.code ∈ [1026, 2049, 3073]) := by
  unfold key?
  split <;> simp_all [GeoKey.takesNumber]

/-- What is known of a key. -/
def KeyDirectory.content? (d : KeyDirectory) : GeoKey → Option KeyContent
  | .rasterType => d.rasterType.map .number
  | .citation => d.citation.map .text
  | .geographicType => d.geographicType.map .number
  | .geographicCitation => d.geographicCitation.map .text
  | .projectedType => d.projectedType.map .number
  | .projectedCitation => d.projectedCitation.map .text

/-- The last entry of a key. -/
def lastOfKey? (key : GeoKey) (entries : List KeyEntry) : Option KeyEntry :=
  (entries.filter fun e => e.key? == some key).getLast?

/-- A directory with these entries, and with shorts behind them. -/
def directoryShorts (version revision minor : ℕ) (entries : List KeyEntry) (rest : List ℕ) :
    List ℕ :=
  version :: revision :: minor :: entries.length :: (entries.flatMap KeyEntry.shorts ++ rest)

/-- What is read of a directory. -/
inductive ReadsKeys (doubles : Option (List Float)) (ascii : Option String) :
    List ℕ → Except DecodeError KeyDirectory → Prop where
  /-- The header has four shorts. -/
  | missingHeader {shorts : List ℕ} (h : shorts.length < 4) :
      ReadsKeys doubles ascii shorts (.error (.geoKeys .missingHeader))
  /-- There are as many entries as are declared. -/
  | tooFewEntries {version revision minor count : ℕ} {rest : List ℕ}
      (h : rest.length < 4 * count) :
      ReadsKeys doubles ascii (version :: revision :: minor :: count :: rest)
        (.error (.geoKeys (.tooFewEntries count (rest.length / 4))))
  /-- The first entry that refers to no value is reported. -/
  | faulty {version revision minor : ℕ} {before after : List KeyEntry} {e : KeyEntry}
      {rest : List ℕ} {fault : GeoKeyFault} (hbefore : ∀ b ∈ before, b.IsSound doubles ascii)
      (hkey : e.key?.isSome) (hfault : e.IsFaulty doubles ascii fault) :
      ReadsKeys doubles ascii
        (directoryShorts version revision minor (before ++ e :: after) rest)
        (.error (.geoKeys fault))
  /-- The last entry of a key gives it what is to be known. -/
  | wrongKind {version revision minor : ℕ} {entries : List KeyEntry} {rest : List ℕ}
      (hsound : ∀ e ∈ entries, e.IsSound doubles ascii) {key : GeoKey} {e : KeyEntry}
      (hlast : lastOfKey? key entries = some e) (hnone : ∀ content, ¬ e.Gives ascii key content) :
      ReadsKeys doubles ascii (directoryShorts version revision minor entries rest)
        (.error (.format .invalidType))
  /-- Nothing else is known. -/
  | directory {version revision minor : ℕ} {entries : List KeyEntry} {rest : List ℕ}
      (hsound : ∀ e ∈ entries, e.IsSound doubles ascii) {d : KeyDirectory}
      (hnone : ∀ key, lastOfKey? key entries = none → d.content? key = none)
      (hlast : ∀ key e, lastOfKey? key entries = some e →
        ∃ content, e.Gives ascii key content ∧ d.content? key = some content) :
      ReadsKeys doubles ascii (directoryShorts version revision minor entries rest) (.ok d)

/-! ### Values -/

namespace KeyEntry

theorem byteRange?_toList_eq_some_iff {text : String} {start length : ℕ} {range : List Char} :
    byteRange? start length text.toList = some range
      ↔ IsByteRange text start length (String.ofList range) := by
  rw [byteRange?_eq_some_iff]
  constructor
  · rintro ⟨before, after, hsplit, hstart, hlength⟩
    refine ⟨String.ofList before, String.ofList after, ?_, hstart, hlength⟩
    rw [← String.ofList_append, ← String.ofList_append, ← hsplit, String.ofList_toList]
  · rintro ⟨before, after, rfl, hstart, hlength⟩
    refine ⟨before.toList, after.toList, ?_, by rwa [String.ofList_toList], hlength⟩
    rw [String.toList_append, String.toList_append, String.toList_ofList]

/-- A text has one range of so many bytes at a position. -/
theorem IsByteRange.eq {text range range' : String} {start length : ℕ}
    (h : IsByteRange text start length range) (h' : IsByteRange text start length range') :
    range = range' := by
  rw [← String.ofList_toList (s := range), ← byteRange?_toList_eq_some_iff] at h
  rw [← String.ofList_toList (s := range'), ← byteRange?_toList_eq_some_iff, h] at h'
  exact String.toList_inj.mp (Option.some.inj h')

/-- What is left of a parameter. -/
theorem trimParameter_eq_iff {range : List Char} {s : String} :
    KeyDirectory.trimParameter range = s ↔ IsTrimmed (String.ofList range) s := by
  have hfills : ∀ c : Char, (c == '|' || c == '\x00') = true ↔ (c = '|' ∨ c = '\x00') := by
    simp
  have hkept : ∀ c : Char, (c == '|' || c == '\x00') = false ↔ ¬ (c = '|' ∨ c = '\x00') := by
    simp
  unfold KeyDirectory.trimParameter IsTrimmed
  rw [← String.toList_inj, String.toList_ofList, dropTrailing_eq_iff]
  simp only [hfills, hkept]
  constructor
  · rintro ⟨dropped, rfl, hrest⟩
    refine ⟨String.ofList dropped, ?_, by rwa [String.toList_ofList]⟩
    rw [String.ofList_append, String.ofList_toList]
  · rintro ⟨dropped, hsplit, hrest⟩
    refine ⟨dropped.toList, ?_, hrest⟩
    rw [← String.toList_append, ← hsplit, String.toList_ofList]

end KeyEntry

/-- What a value tells about a key. -/
def GeoKey.contentOf? (key : GeoKey) : GeoKeyValue → Option KeyContent
  | .short n => if key.takesNumber then some (.number n) else none
  | .text s => if key.takesNumber then none else some (.text s)
  | .double _ | .doubles _ => none

namespace KeyEntry

variable {doubles : Option (List Float)} {ascii : Option String} {e : KeyEntry}

/-- The value that an entry refers to. -/
def read (doubles : Option (List Float)) (ascii : Option String) (e : KeyEntry) :
    Except GeoKeyFault GeoKeyValue :=
  KeyDirectory.valueOf doubles ascii e.code e.location e.count e.value

theorem read_inEntry (doubles : Option (List Float)) (ascii : Option String)
    (h : e.location = KeyDirectory.inEntry) : e.read doubles ascii = .ok (.short e.value) :=
  if_pos h

/-- Doubles tell nothing about a key. -/
theorem read_doubles (doubles : Option (List Float)) (ascii : Option String)
    (h : e.location = Tag.geoDoubleParams.code) :
    (∃ v, e.read doubles ascii = .ok v ∧ (∀ key : GeoKey, key.contentOf? v = none)
        ∧ ∃ xs, doubles = some xs ∧ e.value + e.count ≤ xs.length)
      ∨ e.read doubles ascii = .error (.outOfRange e.code .doubles)
        ∧ ∀ xs, doubles = some xs → xs.length < e.value + e.count := by
  unfold read KeyDirectory.valueOf
  rw [if_neg (by rw [h]; decide), if_pos h]
  cases hrange : doubles.bind (KeyDirectory.doubleRange? e.value e.count) with
  | none =>
    refine .inr ⟨rfl, ?_⟩
    rintro xs rfl
    by_contra hle
    rw [Option.bind_some, KeyDirectory.doubleRange?, if_pos (Nat.le_of_not_lt hle)] at hrange
    cases hrange
  | some found =>
    obtain ⟨xs, rfl, hxs⟩ := Option.bind_eq_some_iff.mp hrange
    have hle : e.value + e.count ≤ xs.length := (Option.ite_none_right_eq_some.mp hxs).1
    rcases found with _ | ⟨x, _ | ⟨x', more⟩⟩
    · exact .inl ⟨.doubles [], rfl, fun _ => rfl, xs, rfl, hle⟩
    · exact .inl ⟨.double x, rfl, fun _ => rfl, xs, rfl, hle⟩
    · exact .inl ⟨.doubles (x :: x' :: more), rfl, fun _ => rfl, xs, rfl, hle⟩

theorem read_ascii (doubles : Option (List Float)) (ascii : Option String)
    (h : e.location = Tag.geoAsciiParams.code) :
    (∃ params range, e.read doubles ascii = .ok (.text (KeyDirectory.trimParameter range))
        ∧ ascii = some params ∧ IsByteRange params e.value e.count (String.ofList range))
      ∨ e.read doubles ascii = .error (.outOfRange e.code .ascii)
        ∧ ∀ text, ascii = some text → ∀ range, ¬ IsByteRange text e.value e.count range := by
  unfold read KeyDirectory.valueOf
  rw [if_neg (by rw [h]; decide), if_neg (by rw [h]; decide), if_pos h]
  cases hrange : ascii.bind fun s => byteRange? e.value e.count s.toList with
  | none =>
    refine .inr ⟨rfl, ?_⟩
    rintro text rfl range hsome
    rw [← String.ofList_toList (s := range), ← byteRange?_toList_eq_some_iff] at hsome
    rw [Option.bind_some, hsome] at hrange
    cases hrange
  | some range =>
    obtain ⟨params, rfl, hparams⟩ := Option.bind_eq_some_iff.mp hrange
    exact .inl ⟨params, range, rfl, rfl, byteRange?_toList_eq_some_iff.mp hparams⟩

theorem read_other (hentry : e.location ≠ KeyDirectory.inEntry)
    (hdoubles : e.location ≠ Tag.geoDoubleParams.code)
    (hascii : e.location ≠ Tag.geoAsciiParams.code) :
    e.read doubles ascii = .error (.unsupportedLocation e.code e.location) := by
  unfold read KeyDirectory.valueOf
  rw [if_neg hentry, if_neg hdoubles, if_neg hascii]

/-- **The entries that refer to no value.** -/
theorem read_eq_error_iff {fault : GeoKeyFault} :
    e.read doubles ascii = .error fault ↔ e.IsFaulty doubles ascii fault := by
  constructor
  · intro h
    by_cases hentry : e.location = KeyDirectory.inEntry
    · rw [read_inEntry doubles ascii hentry] at h
      cases h
    by_cases hdoubles : e.location = Tag.geoDoubleParams.code
    · rcases read_doubles doubles ascii hdoubles with ⟨v, hv, -⟩ | ⟨herror, hrange⟩
      · rw [hv] at h
        cases h
      · rw [herror] at h
        cases h
        exact .doubles hdoubles hrange
    by_cases hascii : e.location = Tag.geoAsciiParams.code
    · rcases read_ascii doubles ascii hascii with ⟨_, _, hv, -⟩ | ⟨herror, hrange⟩
      · rw [hv] at h
        cases h
      · rw [herror] at h
        cases h
        exact .ascii hascii hrange
    · rw [read_other hentry hdoubles hascii] at h
      cases h
      exact .location hentry hdoubles hascii
  · rintro (⟨hentry, hdoubles, hascii⟩ | ⟨hdoubles, hrange⟩ | ⟨hascii, hrange⟩)
    · exact read_other hentry hdoubles hascii
    · rcases read_doubles doubles ascii hdoubles with ⟨_, -, -, xs, hxs, hle⟩ | ⟨herror, -⟩
      · exact absurd (hrange xs hxs) (Nat.not_lt_of_le hle)
      · exact herror
    · rcases read_ascii doubles ascii hascii with ⟨_, _, -, htext, hsome⟩ | ⟨herror, -⟩
      · exact absurd hsome (hrange _ htext _)
      · exact herror

/-- **What an entry gives a key** is what its value tells about the key. -/
theorem contentOf?_eq_some_iff {v : GeoKeyValue} (hread : e.read doubles ascii = .ok v)
    {key : GeoKey} {content : KeyContent} :
    key.contentOf? v = some content ↔ e.Gives ascii key content := by
  by_cases hentry : e.location = KeyDirectory.inEntry
  · rw [read_inEntry doubles ascii hentry] at hread
    cases hread
    constructor
    · intro h
      obtain ⟨hkey, heq⟩ := Option.ite_none_right_eq_some.mp h
      cases heq
      exact .number hkey hentry
    · rintro (⟨hkey, -⟩ | ⟨-, hlocation, -⟩)
      · exact if_pos hkey
      · exact absurd (hentry.symm.trans hlocation) (by decide)
  by_cases hascii : e.location = Tag.geoAsciiParams.code
  · rcases read_ascii doubles ascii hascii with ⟨params, range, hv, hparams, hrange⟩ | ⟨hv, -⟩
    · rw [hread] at hv
      cases hv
      constructor
      · intro h
        obtain ⟨hkey, heq⟩ := Option.ite_none_left_eq_some.mp h
        cases heq
        exact .text (Bool.eq_false_iff.mpr hkey) hascii hparams hrange
          (trimParameter_eq_iff.mp rfl)
      · rintro (⟨-, hlocation⟩ | ⟨hkey, -, hparams', hrange', htrim⟩)
        · exact absurd hlocation hentry
        · obtain rfl := Option.some.inj (hparams.symm.trans hparams')
          rw [hrange'.eq hrange] at htrim
          rw [trimParameter_eq_iff.mpr htrim]
          exact if_neg (Bool.eq_false_iff.mp hkey)
    · rw [hread] at hv
      cases hv
  · have hnone : ¬ e.Gives ascii key content := by
      rintro (⟨-, hlocation⟩ | ⟨-, hlocation, -⟩)
      · exact hentry hlocation
      · exact hascii hlocation
    refine iff_of_false ?_ hnone
    by_cases hdoubles : e.location = Tag.geoDoubleParams.code
    · rcases read_doubles doubles ascii hdoubles with ⟨v', hv, hcontent, -⟩ | ⟨hv, -⟩
      · rw [hread] at hv
        cases hv
        rw [hcontent key]
        exact nofun
      · rw [hread] at hv
        cases hv
    · rw [read_other hentry hdoubles hascii] at hread
      cases hread

end KeyEntry

/-! ### Directories of values -/

namespace KeyDirectory

variable {d : KeyDirectory} {key : GeoKey} {v : GeoKeyValue}

theorem set_of_contentOf?_eq_none (h : key.contentOf? v = none) :
    d.set key v = .error (.format .invalidType) := by
  cases key <;> cases v <;> first | rfl | cases h

/-- A value that tells about a key is kept, and the other keys stay as they are. -/
theorem set_of_contentOf?_eq_some {content : KeyContent} (h : key.contentOf? v = some content) :
    ∃ d', d.set key v = .ok d' ∧ d'.content? key = some content
      ∧ ∀ other ≠ key, d'.content? other = d.content? other := by
  cases key <;> cases v <;> cases h <;>
    exact ⟨_, rfl, rfl, fun other hne => by cases other <;> first | rfl | exact absurd rfl hne⟩

/-- A directory is what is known of its keys. -/
theorem eq_of_content? {d' : KeyDirectory} (h : ∀ key, d.content? key = d'.content? key) :
    d = d' := by
  have hnumber : ∀ {n n' : Option ℕ}, n.map KeyContent.number = n'.map .number → n = n' :=
    fun h => Option.map_injective (fun _ _ h => KeyContent.number.inj h) h
  have htext : ∀ {s s' : Option String}, s.map KeyContent.text = s'.map .text → s = s' :=
    fun h => Option.map_injective (fun _ _ h => KeyContent.text.inj h) h
  cases d
  cases d'
  rw [mk.injEq]
  exact ⟨hnumber (h .rasterType), htext (h .citation), hnumber (h .geographicType),
    htext (h .geographicCitation), hnumber (h .projectedType), htext (h .projectedCitation)⟩

/-- Keys that are bound once are set one after the other. -/
theorem foldlM_set_eq_ok {found : List (GeoKey × GeoKeyValue)} (d : KeyDirectory)
    (hnodup : (found.map Prod.fst).Nodup)
    (hkinds : ∀ binding ∈ found, ∃ content, binding.1.contentOf? binding.2 = some content) :
    ∃ d', found.foldlM (fun d (binding : GeoKey × GeoKeyValue) => d.set binding.1 binding.2) d
        = .ok d'
      ∧ ∀ key, d'.content? key = match found.lookup key with
        | none => d.content? key
        | some v => key.contentOf? v := by
  induction found generalizing d with
  | nil => exact ⟨d, rfl, fun _ => rfl⟩
  | cons binding found ih =>
    obtain ⟨key, v⟩ := binding
    obtain ⟨⟨content, hcontent⟩, hkinds'⟩ := List.forall_mem_cons.mp hkinds
    obtain ⟨hnotMem, hnodup'⟩ := List.nodup_cons.mp hnodup
    obtain ⟨d₁, hset, hkey, hothers⟩ := set_of_contentOf?_eq_some (d := d) hcontent
    obtain ⟨d', hfold, hd'⟩ := ih d₁ hnodup' hkinds'
    refine ⟨d', ?_, fun other => ?_⟩
    · rw [List.foldlM_cons, hset]
      exact hfold
    · rw [hd' other, List.lookup_cons]
      by_cases heq : other = key
      · subst heq
        have hlookup : found.lookup other = none := by
          rw [List.lookup_eq_none_iff]
          rintro ⟨key', v'⟩ hmem
          exact bne_iff_ne.mpr fun heq => hnotMem (List.mem_map.mpr ⟨_, hmem, heq.symm⟩)
        rw [hlookup, beq_self_eq_true]
        exact hkey.trans hcontent.symm
      · rw [beq_eq_false_iff_ne.mpr heq]
        dsimp only
        rw [hothers other heq]

/-- A value of the wrong kind is an error, wherever it stands. -/
theorem foldlM_set_eq_error {found : List (GeoKey × GeoKeyValue)} (d : KeyDirectory)
    {binding : GeoKey × GeoKeyValue} (hmem : binding ∈ found)
    (hkind : binding.1.contentOf? binding.2 = none) :
    found.foldlM (fun d (binding : GeoKey × GeoKeyValue) => d.set binding.1 binding.2) d
      = .error (.format .invalidType) := by
  induction found generalizing d with
  | nil => cases hmem
  | cons first found ih =>
    rw [List.foldlM_cons]
    cases hfirst : first.1.contentOf? first.2 with
    | none =>
      rw [set_of_contentOf?_eq_none hfirst]
      rfl
    | some content =>
      obtain ⟨d', hset, -⟩ := set_of_contentOf?_eq_some (d := d) hfirst
      rw [hset]
      rcases List.mem_cons.mp hmem with rfl | hmem
      · rw [hkind] at hfirst
        cases hfirst
      · exact ih d' hmem

end KeyDirectory

/-! ### Reading entries -/

section Entries

variable {doubles : Option (List Float)} {ascii : Option String}

/-- The bindings after an entry. -/
def readEntry (doubles : Option (List Float)) (ascii : Option String)
    (found : List (GeoKey × GeoKeyValue)) (e : KeyEntry) :
    Except GeoKeyFault (List (GeoKey × GeoKeyValue)) :=
  match e.key? with
  | none => .ok found
  | some key => (e.read doubles ascii).map fun v => putBinding key v found

theorem length_flatMap_shorts (entries : List KeyEntry) :
    (entries.flatMap KeyEntry.shorts).length = 4 * entries.length := by
  induction entries with
  | nil => rfl
  | cons e entries ih =>
    rw [List.flatMap_cons, List.length_append, ih, List.length_cons, Nat.mul_succ, Nat.add_comm]
    rfl

/-- **Entries are read one after the other**, as many as are declared. -/
theorem valuesFrom_eq (entries : List KeyEntry) (rest : List ℕ)
    (found : List (GeoKey × GeoKeyValue)) :
    KeyDirectory.valuesFrom doubles ascii entries.length
        (entries.flatMap KeyEntry.shorts ++ rest) found
      = entries.foldlM (readEntry doubles ascii) found := by
  induction entries generalizing found with
  | nil =>
    rw [List.length_nil, KeyDirectory.valuesFrom]
    · rfl
    · nofun
  | cons e entries ih =>
    change KeyDirectory.valuesFrom doubles ascii (entries.length + 1)
      (e.code :: e.location :: e.count :: e.value ::
        (entries.flatMap KeyEntry.shorts ++ rest)) found = _
    rw [KeyDirectory.valuesFrom, List.foldlM_cons, readEntry, KeyEntry.key?_eq_ofCode?,
      KeyEntry.read]
    cases GeoKey.ofCode? e.code with
    | none => exact ih found
    | some key =>
      cases KeyDirectory.valueOf doubles ascii e.code e.location e.count e.value with
      | error fault => rfl
      | ok v => exact ih _

theorem values_directoryShorts (version revision minor : ℕ) (entries : List KeyEntry)
    (rest : List ℕ) :
    KeyDirectory.values (directoryShorts version revision minor entries rest) doubles ascii
      = entries.foldlM (readEntry doubles ascii) [] := by
  have hlength : ¬ (entries.flatMap KeyEntry.shorts ++ rest).length < 4 * entries.length := by
    rw [List.length_append, length_flatMap_shorts]
    omega
  rw [directoryShorts, KeyDirectory.values, if_neg hlength, valuesFrom_eq]

/-- Enough shorts are entries. -/
theorem exists_entries {count : ℕ} {shorts : List ℕ} (h : 4 * count ≤ shorts.length) :
    ∃ (entries : List KeyEntry) (rest : List ℕ), entries.length = count
      ∧ shorts = entries.flatMap KeyEntry.shorts ++ rest := by
  induction count generalizing shorts with
  | zero => exact ⟨[], shorts, rfl, rfl⟩
  | succ count ih =>
    match shorts with
    | code :: location :: length :: value :: others =>
      obtain ⟨entries, rest, hlength, hothers⟩ := @ih others (by simp at h; omega)
      refine ⟨⟨code, location, length, value⟩ :: entries, rest, by simp [hlength], ?_⟩
      rw [hothers]
      rfl
    | [] | [_] | [_, _] | [_, _, _] =>
      simp only [List.length_cons, List.length_nil] at h
      omega

/-- The bindings after some entries: each key is bound to the value of its last entry. -/
structure Binds (doubles : Option (List Float)) (ascii : Option String)
    (found : List (GeoKey × GeoKeyValue)) (entries : List KeyEntry) : Prop where
  nodup : (found.map Prod.fst).Nodup
  lookup_eq : ∀ key, found.lookup key
    = (lastOfKey? key entries).bind fun e => (e.read doubles ascii).toOption

theorem lastOfKey?_concat (key : GeoKey) (entries : List KeyEntry) (e : KeyEntry) :
    lastOfKey? key (entries ++ [e])
      = if e.key? = some key then some e else lastOfKey? key entries := by
  unfold lastOfKey?
  rw [List.filter_append, List.filter_cons, List.filter_nil]
  simp only [beq_iff_eq]
  split
  · exact List.getLast?_concat
  · rw [List.append_nil]

theorem mem_of_lastOfKey? {key : GeoKey} {entries : List KeyEntry} {e : KeyEntry}
    (h : lastOfKey? key entries = some e) : e ∈ entries ∧ e.key? = some key := by
  obtain ⟨hmem, hkey⟩ := List.mem_filter.mp (List.mem_of_getLast? h)
  exact ⟨hmem, beq_iff_eq.mp hkey⟩

/-- An entry that refers to a value is read. -/
theorem KeyEntry.IsSound.exists_read {e : KeyEntry} (h : e.IsSound doubles ascii)
    (hkey : e.key?.isSome) : ∃ v, e.read doubles ascii = .ok v := by
  cases hread : e.read doubles ascii with
  | error fault => exact absurd (KeyEntry.read_eq_error_iff.mp hread) (h hkey fault)
  | ok v => exact ⟨v, rfl⟩

/-- At first no key is bound. -/
theorem binds_nil : Binds doubles ascii [] [] := ⟨List.nodup_nil, fun _ => rfl⟩

section Binds

variable {found : List (GeoKey × GeoKeyValue)} {entries : List KeyEntry}

/-- **An entry is read**, and then its key is bound to its value. -/
theorem Binds.readEntry (h : Binds doubles ascii found entries) {e : KeyEntry}
    (hsound : e.IsSound doubles ascii) :
    ∃ found', BlockExtent.readEntry doubles ascii found e = .ok found'
      ∧ Binds doubles ascii found' (entries ++ [e]) := by
  cases hkey : e.key? with
  | none =>
    refine ⟨found, by rw [BlockExtent.readEntry, hkey], h.nodup, fun key => ?_⟩
    rw [lastOfKey?_concat, hkey, if_neg (Option.some_ne_none key).symm]
    exact h.lookup_eq key
  | some key =>
    obtain ⟨v, hread⟩ := hsound.exists_read (by rw [hkey]; rfl)
    refine ⟨putBinding key v found, ?_, nodup_putBinding key v h.nodup, fun other => ?_⟩
    · rw [BlockExtent.readEntry, hkey, hread]
      rfl
    · rw [lookup_putBinding, lastOfKey?_concat, hkey]
      by_cases heq : other = key
      · rw [heq, beq_self_eq_true, if_pos rfl, if_pos rfl, Option.bind_some, hread]
        rfl
      · rw [if_neg (by simpa using heq), if_neg fun hsome => heq (Option.some.inj hsome).symm]
        exact h.lookup_eq other

/-- **Entries are read** if each of those of a key refers to a value. -/
theorem exists_binds (hsound : ∀ e ∈ entries, e.IsSound doubles ascii) :
    ∃ found, entries.foldlM (BlockExtent.readEntry doubles ascii) [] = .ok found
      ∧ Binds doubles ascii found entries := by
  induction entries using List.reverseRecOn with
  | nil => exact ⟨[], rfl, binds_nil⟩
  | append_singleton entries e ih =>
    obtain ⟨found, hfold, hbinds⟩ :=
      ih fun e' he' => hsound e' (List.mem_append_left [e] he')
    obtain ⟨found', hread, hbinds'⟩ :=
      hbinds.readEntry (hsound e (List.mem_append_right entries List.mem_cons_self))
    refine ⟨found', ?_, hbinds'⟩
    rw [List.foldlM_append, hfold]
    change (BlockExtent.readEntry doubles ascii found e >>= pure) = _
    rw [hread]
    rfl

/-- The first entry that refers to no value is reported. -/
theorem foldlM_readEntry_of_faulty (hsound : ∀ e ∈ entries, e.IsSound doubles ascii)
    {e : KeyEntry} (hkey : e.key?.isSome) {fault : GeoKeyFault}
    (hfault : e.IsFaulty doubles ascii fault) (after : List KeyEntry) :
    (entries ++ e :: after).foldlM (BlockExtent.readEntry doubles ascii) [] = .error fault := by
  obtain ⟨found, hfold, -⟩ := exists_binds hsound
  obtain ⟨key, hkey⟩ := Option.isSome_iff_exists.mp hkey
  rw [List.foldlM_append, hfold]
  change (BlockExtent.readEntry doubles ascii found e >>= _) = _
  rw [BlockExtent.readEntry, hkey, KeyEntry.read_eq_error_iff.mpr hfault]
  rfl

/-- Either each entry of a key refers to a value, or there is a first one that does not. -/
theorem exists_first_faulty (entries : List KeyEntry) :
    (∀ e ∈ entries, e.IsSound doubles ascii)
      ∨ ∃ before e after fault, entries = before ++ e :: after
        ∧ (∀ b ∈ before, b.IsSound doubles ascii) ∧ e.key?.isSome
        ∧ e.IsFaulty doubles ascii fault := by
  induction entries with
  | nil => exact .inl nofun
  | cons e entries ih =>
    by_cases he : e.IsSound doubles ascii
    · rcases ih with hall | ⟨before, e', after, fault, rfl, hbefore, hkey, hfault⟩
      · exact .inl (List.forall_mem_cons.mpr ⟨he, hall⟩)
      · exact .inr ⟨e :: before, e', after, fault, rfl, List.forall_mem_cons.mpr ⟨he, hbefore⟩,
          hkey, hfault⟩
    · obtain ⟨hkey, hfaults⟩ := Classical.not_imp.mp he
      obtain ⟨fault, hfault⟩ := Classical.not_forall.mp hfaults
      exact .inr ⟨[], e, entries, fault, rfl, nofun, hkey, Classical.not_not.mp hfault⟩

/-- What is bound is the value of the last entry of its key. -/
theorem Binds.mem_iff (h : Binds doubles ascii found entries) {key : GeoKey} {v : GeoKeyValue} :
    (key, v) ∈ found ↔ ∃ e, lastOfKey? key entries = some e ∧ e.read doubles ascii = .ok v := by
  rw [← lookup_eq_some_iff_mem h.nodup, h.lookup_eq, Option.bind_eq_some_iff]
  refine exists_congr fun e => and_congr_right fun _ => ?_
  cases e.read doubles ascii with
  | error _ => exact iff_of_false nofun nofun
  | ok v' => exact ⟨fun heq => congrArg _ (Option.some.inj heq),
      fun heq => congrArg some (Except.ok.inj heq)⟩

/-- The last entry of a key binds it to its value. -/
theorem Binds.exists_mem (h : Binds doubles ascii found entries)
    (hsound : ∀ e ∈ entries, e.IsSound doubles ascii) {key : GeoKey} {e : KeyEntry}
    (hlast : lastOfKey? key entries = some e) :
    ∃ v, e.read doubles ascii = .ok v ∧ (key, v) ∈ found := by
  obtain ⟨hmem, hkey⟩ := mem_of_lastOfKey? hlast
  obtain ⟨v, hread⟩ := (hsound e hmem).exists_read (by rw [hkey]; rfl)
  exact ⟨v, hread, h.mem_iff.mpr ⟨e, hlast, hread⟩⟩

/-- **A directory is made of the last entries**, if they give their keys what is to be known. -/
theorem Binds.exists_ofValues (h : Binds doubles ascii found entries)
    (hsound : ∀ e ∈ entries, e.IsSound doubles ascii)
    (hgives : ∀ key e, lastOfKey? key entries = some e → ∃ content, e.Gives ascii key content) :
    ∃ d, KeyDirectory.ofValues found = .ok d
      ∧ (∀ key, lastOfKey? key entries = none → d.content? key = none)
      ∧ ∀ key e, lastOfKey? key entries = some e →
        ∃ content, e.Gives ascii key content ∧ d.content? key = some content := by
  have hkinds : ∀ binding ∈ found, ∃ content, binding.1.contentOf? binding.2 = some content := by
    rintro ⟨key, v⟩ hmem
    obtain ⟨e, hlast, hread⟩ := h.mem_iff.mp hmem
    obtain ⟨content, hcontent⟩ := hgives key e hlast
    exact ⟨content, (KeyEntry.contentOf?_eq_some_iff hread).mpr hcontent⟩
  obtain ⟨d, hd, hcontents⟩ := KeyDirectory.foldlM_set_eq_ok {} h.nodup hkinds
  refine ⟨d, hd, fun key hnone => ?_, fun key e hlast => ?_⟩
  · rw [hcontents, h.lookup_eq, hnone]
    cases key <;> rfl
  · obtain ⟨v, hread, hmem⟩ := h.exists_mem hsound hlast
    obtain ⟨content, hcontent⟩ := hgives key e hlast
    refine ⟨content, hcontent, ?_⟩
    rw [hcontents, (lookup_eq_some_iff_mem h.nodup).mpr hmem]
    exact (KeyEntry.contentOf?_eq_some_iff hread).mpr hcontent

/-- A last entry that does not give its key what is to be known is an error. -/
theorem Binds.ofValues_eq_error (h : Binds doubles ascii found entries)
    (hsound : ∀ e ∈ entries, e.IsSound doubles ascii) {key : GeoKey} {e : KeyEntry}
    (hlast : lastOfKey? key entries = some e) (hnone : ∀ content, ¬ e.Gives ascii key content) :
    KeyDirectory.ofValues found = .error (.format .invalidType) := by
  obtain ⟨v, hread, hmem⟩ := h.exists_mem hsound hlast
  have hkind : key.contentOf? v = none := by
    cases hcontent : key.contentOf? v with
    | none => rfl
    | some content =>
      exact absurd ((KeyEntry.contentOf?_eq_some_iff hread).mp hcontent) (hnone content)
  exact KeyDirectory.foldlM_set_eq_error {} hmem hkind

end Binds

/-! ### Reading a directory -/

/-- An entry gives a key one content at most. -/
theorem KeyEntry.Gives.eq {e : KeyEntry} {key : GeoKey} {content content' : KeyContent}
    {v : GeoKeyValue} (hread : e.read doubles ascii = .ok v) (h : e.Gives ascii key content)
    (h' : e.Gives ascii key content') : content = content' := by
  rw [← KeyEntry.contentOf?_eq_some_iff hread] at h h'
  exact Option.some.inj (h.symm.trans h')

/-- **A directory is read as its entries say.** -/
theorem ReadsKeys.ofShorts_eq {shorts : List ℕ} {result : Except DecodeError KeyDirectory}
    (h : ReadsKeys doubles ascii shorts result) :
    KeyDirectory.ofShorts shorts doubles ascii = result := by
  unfold KeyDirectory.ofShorts
  cases h with
  | missingHeader h =>
    match shorts with
    | [] | [_] | [_, _] | [_, _, _] => rfl
    | _ :: _ :: _ :: _ :: _ =>
      simp only [List.length_cons] at h
      omega
  | tooFewEntries h => rw [KeyDirectory.values, if_pos h]
  | faulty hbefore hkey hfault =>
    rw [values_directoryShorts, foldlM_readEntry_of_faulty hbefore hkey hfault]
  | wrongKind hsound hlast hnone =>
    obtain ⟨found, hfold, hbinds⟩ := exists_binds hsound
    rw [values_directoryShorts, hfold]
    exact hbinds.ofValues_eq_error hsound hlast hnone
  | @directory _ _ _ entries _ hsound d hnone hlast =>
    obtain ⟨found, hfold, hbinds⟩ := exists_binds hsound
    obtain ⟨d', hd', hnone', hlast'⟩ := hbinds.exists_ofValues hsound fun key e he =>
      (hlast key e he).imp fun _ => And.left
    rw [values_directoryShorts, hfold]
    refine hd'.trans (congrArg Except.ok (KeyDirectory.eq_of_content? fun key => ?_))
    cases he : lastOfKey? key entries with
    | none => rw [hnone key he, hnone' key he]
    | some e =>
      obtain ⟨v, hread, -⟩ := hbinds.exists_mem hsound he
      obtain ⟨content, hgives, hcontent⟩ := hlast key e he
      obtain ⟨content', hgives', hcontent'⟩ := hlast' key e he
      rw [hcontent, hcontent', hgives.eq hread hgives']

/-- **Something is read of every directory.** -/
theorem exists_readsKeys (doubles : Option (List Float)) (ascii : Option String)
    (shorts : List ℕ) : ∃ result, ReadsKeys doubles ascii shorts result := by
  match shorts with
  | [] | [_] | [_, _] | [_, _, _] => exact ⟨_, .missingHeader (by simp)⟩
  | version :: revision :: minor :: count :: others =>
    by_cases hshort : others.length < 4 * count
    · exact ⟨_, .tooFewEntries hshort⟩
    obtain ⟨entries, rest, rfl, rfl⟩ := exists_entries (Nat.le_of_not_lt hshort)
    rcases @exists_first_faulty doubles ascii entries with
      hsound | ⟨before, e, after, fault, rfl, hbefore, hkey, hfault⟩
    · obtain ⟨found, -, hbinds⟩ := exists_binds hsound
      by_cases hgives : ∀ key e, lastOfKey? key entries = some e →
          ∃ content, e.Gives ascii key content
      · obtain ⟨d, -, hnone, hlast⟩ := hbinds.exists_ofValues hsound hgives
        exact ⟨.ok d, .directory hsound hnone hlast⟩
      · simp only [not_forall, not_exists] at hgives
        obtain ⟨key, e, hlast, hnone⟩ := hgives
        exact ⟨_, .wrongKind hsound hlast hnone⟩
    · exact ⟨_, .faulty hbefore hkey hfault⟩

/-- An entry of a key that is not used changes nothing. -/
theorem foldlM_readEntry_filter (entries : List KeyEntry)
    (found : List (GeoKey × GeoKeyValue)) :
    (entries.filter fun e => e.key?.isSome).foldlM (readEntry doubles ascii) found
      = entries.foldlM (readEntry doubles ascii) found := by
  induction entries generalizing found with
  | nil => rfl
  | cons e entries ih =>
    rw [List.filter_cons, List.foldlM_cons]
    cases hkey : e.key? with
    | none =>
      rw [Option.isSome_none, if_neg Bool.false_ne_true, ih, readEntry, hkey]
      rfl
    | some key =>
      rw [Option.isSome_some, if_pos rfl, List.foldlM_cons]
      exact bind_congr fun found' => ih found'

/-- The message of a faulty entry names its key. -/
theorem KeyEntry.IsFaulty.message_eq {e : KeyEntry} {fault : GeoKeyFault}
    (h : e.IsFaulty doubles ascii fault) :
    ∃ complaint, (DecodeError.geoKeys fault).message
      = "GeoKeyDirectory: key " ++ toString e.code ++ " " ++ complaint := by
  have hkey : "GeoKeyDirectory: key " = "GeoKeyDirectory: " ++ "key " := by decide
  have hstored : " stored in unsupported tag " = " " ++ "stored in unsupported tag " := by decide
  have hpoints : " points past " = " " ++ "points past " := by decide
  have hrange : ∀ params : GeoParams, ∃ complaint,
      (DecodeError.geoKeys (.outOfRange e.code params)).message
        = "GeoKeyDirectory: key " ++ toString e.code ++ " " ++ complaint := by
    intro params
    refine ⟨"points past " ++ params.name, ?_⟩
    change "GeoKeyDirectory: " ++ ("key " ++ toString e.code ++ " points past " ++ params.name) = _
    rw [hkey, hpoints]
    simp only [String.append_assoc]
  cases h with
  | location =>
    refine ⟨"stored in unsupported tag " ++ toString e.location, ?_⟩
    change "GeoKeyDirectory: " ++ ("key " ++ toString e.code ++ " stored in unsupported tag "
      ++ toString e.location) = _
    rw [hkey, hstored]
    simp only [String.append_assoc]
  | doubles => exact hrange .doubles
  | ascii => exact hrange .ascii

end Entries

/-- **What is read of any directory.**  Three keys take a number and three take a text.  A faulty
entry is reported by its key; the entries of keys that are not used, the version and what is
behind the entries make no difference. -/
theorem KeyDirectory.ofShorts_reference (doubles : Option (List Float)) (ascii : Option String) :
    (∀ shorts result,
        ofShorts shorts doubles ascii = result ↔ ReadsKeys doubles ascii shorts result)
      ∧ (∀ e : KeyEntry,
        ((∃ key, e.key? = some key ∧ key.takesNumber = true) ↔ e.code ∈ [1025, 2048, 3072])
          ∧ ((∃ key, e.key? = some key ∧ key.takesNumber = false) ↔ e.code ∈ [1026, 2049, 3073]))
      ∧ (∀ (e : KeyEntry) fault, e.IsFaulty doubles ascii fault →
        ∃ complaint, (DecodeError.geoKeys fault).message
          = "GeoKeyDirectory: key " ++ toString e.code ++ " " ++ complaint)
      ∧ ∀ version revision minor version' revision' minor' entries entries' rest rest',
        (entries.filter fun e => e.key?.isSome) = (entries'.filter fun e => e.key?.isSome) →
        ofShorts (directoryShorts version revision minor entries rest) doubles ascii
          = ofShorts (directoryShorts version' revision' minor' entries' rest') doubles ascii := by
  refine ⟨fun shorts result => ⟨?_, fun h => h.ofShorts_eq⟩, KeyEntry.exists_key_iff,
    fun e fault h => h.message_eq, ?_⟩
  · rintro rfl
    obtain ⟨result, h⟩ := exists_readsKeys doubles ascii shorts
    rwa [h.ofShorts_eq]
  · intro version revision minor version' revision' minor' entries entries' rest rest' hsame
    unfold ofShorts
    rw [values_directoryShorts, values_directoryShorts, ← foldlM_readEntry_filter, hsame,
      foldlM_readEntry_filter]

/-- The shorts of a directory with two types and a citation. -/
def citingShorts : List ℕ :=
  directoryShorts 1 1 0 [⟨1025, 0, 1, 2⟩, ⟨2048, 0, 1, 4326⟩, ⟨2049, 34737, 7, 0⟩] []

/-- The types and the citation are read.  A citation that is not there is reported.  An entry of
a key that is not used is dropped, and another one is put behind, wherever it points. -/
theorem KeyDirectory.ofShorts_reference_citingShorts :
    let directory : KeyDirectory :=
      { rasterType := some 2, geographicType := some 4326, geographicCitation := some "WGS 84" }
    ofShorts citingShorts none (some "WGS 84|") = .ok directory
      ∧ ReadsKeys none (some "WGS 84|") citingShorts (.ok directory)
      ∧ ReadsKeys none none citingShorts (.error (.geoKeys (.outOfRange 2049 .ascii)))
      ∧ KeyEntry.IsFaulty none none ⟨2049, 34737, 7, 0⟩ (.outOfRange 2049 .ascii)
      ∧ (∃ complaint, (DecodeError.geoKeys (.outOfRange 2049 .ascii)).message
        = "GeoKeyDirectory: key " ++ toString 2049 ++ " " ++ complaint)
      ∧ ([⟨1024, 0, 1, 2⟩, ⟨2048, 0, 1, 4326⟩].filter fun e : KeyEntry => e.key?.isSome)
        = ([⟨2048, 0, 1, 4326⟩, ⟨2057, 34736, 9, 9⟩].filter fun e : KeyEntry => e.key?.isSome)
      ∧ ofShorts (directoryShorts 1 1 0 [⟨1024, 0, 1, 2⟩, ⟨2048, 0, 1, 4326⟩] []) none none
        = ofShorts (directoryShorts 1 1 2 [⟨2048, 0, 1, 4326⟩, ⟨2057, 34736, 9, 9⟩] [7]) none
          none := by
  intro directory
  have hread : ofShorts citingShorts none (some "WGS 84|") = .ok directory := by decide +kernel
  have hmissing : ofShorts citingShorts none none
      = .error (.geoKeys (.outOfRange 2049 .ascii)) := rfl
  have hsame : ([⟨1024, 0, 1, 2⟩, ⟨2048, 0, 1, 4326⟩].filter fun e : KeyEntry => e.key?.isSome)
      = ([⟨2048, 0, 1, 4326⟩, ⟨2057, 34736, 9, 9⟩].filter fun e : KeyEntry => e.key?.isSome) := by
    decide
  have hfault : KeyEntry.IsFaulty none none ⟨2049, 34737, 7, 0⟩ (.outOfRange 2049 .ascii) :=
    .ascii rfl nofun
  obtain ⟨hcited, -⟩ := ofShorts_reference none (some "WGS 84|")
  obtain ⟨hreads, -, hmessage, hunused⟩ := ofShorts_reference none none
  have hnamed := hmessage _ _ hfault
  dsimp only at hnamed
  exact ⟨hread, (hcited _ _).mp hread, (hreads _ _).mp hmissing, hfault, hnamed, hsame,
    hunused 1 1 0 1 1 2 _ _ [] [7] hsame⟩

end BlockExtent

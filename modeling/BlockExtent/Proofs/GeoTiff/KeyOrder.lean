import BlockExtent.Proofs.GeoTiff.KeyEntries

/-!
# The order of keys

The keys of a directory are a set.  They are taken one after the other, up to the first whose value
is not of its kind, and yet the order makes no difference: what the values amount to can be told
from which key has which value, and all values of a wrong kind are the same error.

## Main definitions

* `KeysGive` — what a set of keys with values amounts to.

## Main results

* `KeyDirectory.ofValues_eq_iff` — the outcome of a list of keys with values is that of the set.
* `KeyDirectory.nodup_of_values` — the keys that are read of a directory are distinct.
* `KeyDirectory.ofValues_perm` — **no outcome depends on an order of keys.**
-/

namespace BlockExtent

open Tiff

/-- What a set of keys with values amounts to. -/
inductive KeysGive (values : List (GeoKey × GeoKeyValue)) :
    Except DecodeError KeyDirectory → Prop where
  /-- The value of some key is not of its kind. -/
  | wrongKind {key : GeoKey} {v : GeoKeyValue} (hmem : (key, v) ∈ values)
      (hkind : key.contentOf? v = none) : KeysGive values (.error (.format .invalidType))
  /-- Every value tells something about its key, and nothing is known of the other keys. -/
  | directory {d : KeyDirectory}
      (hvalues : ∀ key v, (key, v) ∈ values →
        ∃ content, key.contentOf? v = some content ∧ d.content? key = some content)
      (hothers : ∀ key, key ∉ values.map Prod.fst → d.content? key = none) :
      KeysGive values (.ok d)

/-- The order of the keys has no part in what they amount to. -/
theorem KeysGive.perm {values values' : List (GeoKey × GeoKeyValue)}
    {result : Except DecodeError KeyDirectory} (h : KeysGive values result)
    (hperm : values.Perm values') : KeysGive values' result := by
  cases h with
  | wrongKind hmem hkind => exact .wrongKind (hperm.mem_iff.mp hmem) hkind
  | directory hvalues hothers =>
    refine .directory (fun key v hmem => ?_) fun key hnotMem => ?_
    · exact hvalues key v (hperm.mem_iff.mpr hmem)
    · exact hothers key fun hmem => hnotMem ((hperm.map Prod.fst).mem_iff.mp hmem)

/-- A set of keys with values amounts to one thing only. -/
theorem KeysGive.eq {values : List (GeoKey × GeoKeyValue)}
    {result result' : Except DecodeError KeyDirectory} (h : KeysGive values result)
    (h' : KeysGive values result') : result = result' := by
  cases h with
  | wrongKind hmem hkind =>
    cases h' with
    | wrongKind => rfl
    | directory hvalues' =>
      obtain ⟨content, hcontent, -⟩ := hvalues' _ _ hmem
      rw [hkind] at hcontent
      cases hcontent
  | @directory d hvalues hothers =>
    cases h' with
    | wrongKind hmem hkind =>
      obtain ⟨content, hcontent, -⟩ := hvalues _ _ hmem
      rw [hkind] at hcontent
      cases hcontent
    | @directory d' hvalues' hothers' =>
      refine congrArg Except.ok (KeyDirectory.eq_of_content? fun key => ?_)
      by_cases hkey : key ∈ values.map Prod.fst
      · obtain ⟨⟨_, v⟩, hmem, rfl⟩ := List.mem_map.mp hkey
        obtain ⟨content, hkind, hcontent⟩ := hvalues _ v hmem
        obtain ⟨content', hkind', hcontent'⟩ := hvalues' _ v hmem
        rw [hcontent, hcontent', ← hkind, ← hkind']
      · rw [hothers key hkey, hothers' key hkey]

namespace KeyDirectory

variable {values : List (GeoKey × GeoKeyValue)}

/-- A list of distinct keys gives what its set does. -/
theorem keysGive_ofValues (hnodup : (values.map Prod.fst).Nodup) :
    KeysGive values (ofValues values) := by
  by_cases hkinds : ∀ binding ∈ values, ∃ content, binding.1.contentOf? binding.2 = some content
  · obtain ⟨d, hd, hcontents⟩ := foldlM_set_eq_ok {} hnodup hkinds
    have hok : ofValues values = .ok d := hd
    rw [hok]
    refine .directory (fun key v hmem => ?_) fun key hnotMem => ?_
    · obtain ⟨content, hcontent⟩ := hkinds (key, v) hmem
      refine ⟨content, hcontent, ?_⟩
      rw [hcontents, (lookup_eq_some_iff_mem hnodup).mpr hmem]
      exact hcontent
    · have hlookup : values.lookup key = none := by
        rw [List.lookup_eq_none_iff]
        intro binding hmem
        exact bne_iff_ne.mpr fun heq => hnotMem (List.mem_map.mpr ⟨binding, hmem, heq.symm⟩)
      rw [hcontents, hlookup]
      cases key <;> rfl
  · -- one value of a wrong kind is enough, wherever it stands
    simp only [not_forall, not_exists] at hkinds
    obtain ⟨⟨key, v⟩, hmem, hnone⟩ := hkinds
    have hkind : key.contentOf? v = none := Option.eq_none_iff_forall_ne_some.mpr hnone
    have herror : ofValues values = .error (.format .invalidType) :=
      foldlM_set_eq_error {} hmem hkind
    rw [herror]
    exact .wrongKind hmem hkind

/-- **The outcome of a list of distinct keys is that of the set.** -/
theorem ofValues_eq_iff (hnodup : (values.map Prod.fst).Nodup)
    {result : Except DecodeError KeyDirectory} :
    ofValues values = result ↔ KeysGive values result := by
  constructor
  · rintro rfl
    exact keysGive_ofValues hnodup
  · exact (keysGive_ofValues hnodup).eq

/-- Entries bind distinct keys to values. -/
theorem nodup_of_valuesFrom {doubles : Option (List Float)} {ascii : Option String} {count : ℕ}
    {entries : List ℕ} {found : List (GeoKey × GeoKeyValue)}
    (h : valuesFrom doubles ascii count entries found = .ok values)
    (hfound : (found.map Prod.fst).Nodup) : (values.map Prod.fst).Nodup := by
  fun_induction valuesFrom doubles ascii count entries found with
  | case1 found count code location length value rest hkey ih => exact ih h hfound
  | case2 => cases h
  | case3 found count code location length value rest key hkey v hvalue ih =>
    exact ih h (nodup_putBinding key v hfound)
  | case4 =>
    cases h
    exact hfound

/-- **The keys that are read of a directory are distinct.** -/
theorem nodup_of_values {shorts : List ℕ} {doubles : Option (List Float)} {ascii : Option String}
    (h : KeyDirectory.values shorts doubles ascii = .ok values) :
    (values.map Prod.fst).Nodup := by
  unfold KeyDirectory.values at h
  split at h
  · split at h
    · cases h
    · exact nodup_of_valuesFrom h List.nodup_nil
  · cases h

/-- **No outcome depends on an order of keys.**  Distinct keys, whatever their values are, amount to
the same directory or to the same error in each order, and so it makes no difference in which order
the keys that have been read of a directory are taken. -/
theorem ofValues_perm :
    (∀ values : List (GeoKey × GeoKeyValue), (values.map Prod.fst).Nodup →
        (∀ result, ofValues values = result ↔ KeysGive values result)
          ∧ ∀ order, values.Perm order → ofValues order = ofValues values)
      ∧ ∀ shorts doubles ascii found order, KeyDirectory.values shorts doubles ascii = .ok found →
        found.Perm order → ofShorts shorts doubles ascii = ofValues order := by
  have hperm : ∀ values : List (GeoKey × GeoKeyValue), (values.map Prod.fst).Nodup →
      ∀ order, values.Perm order → ofValues order = ofValues values := by
    intro values hnodup order hperm
    have hnodup' : (order.map Prod.fst).Nodup := (hperm.map Prod.fst).nodup_iff.mp hnodup
    exact (ofValues_eq_iff hnodup').mpr ((keysGive_ofValues hnodup).perm hperm)
  refine ⟨fun values hnodup => ⟨fun result => ofValues_eq_iff hnodup, hperm values hnodup⟩, ?_⟩
  intro shorts doubles ascii found order hfound horder
  rw [hperm found (nodup_of_values hfound) order horder]
  unfold ofShorts
  rw [hfound]

/-- Two values of a wrong kind are one error, whichever comes first, and two types make one
directory. -/
theorem ofValues_perm_reversed :
    ofValues [(.citation, .short 7), (.projectedType, .short 32611), (.rasterType, .double 2)]
        = ofValues
          [(.rasterType, .double 2), (.projectedType, .short 32611), (.citation, .short 7)]
      ∧ KeysGive
        [(.rasterType, .double 2), (.projectedType, .short 32611), (.citation, .short 7)]
        (.error (.format .invalidType))
      ∧ ofShorts [1, 1, 0, 2, 1025, 0, 1, 2, 3072, 0, 1, 32611] none none
        = ofValues [(.projectedType, .short 32611), (.rasterType, .short 2)] := by
  obtain ⟨hvalues, hshorts⟩ := ofValues_perm
  obtain ⟨hgives, hperm⟩ := hvalues
    [(.rasterType, .double 2), (.projectedType, .short 32611), (.citation, .short 7)] (by decide)
  exact ⟨hperm _ (List.reverse_perm _).symm, (hgives _).mp rfl,
    hshorts _ none none [(.rasterType, .short 2), (.projectedType, .short 32611)] _ rfl
      (List.Perm.swap _ _ _)⟩

end KeyDirectory

end BlockExtent

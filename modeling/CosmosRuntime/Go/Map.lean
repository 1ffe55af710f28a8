import Mathlib.Data.Finmap
import Mathlib.Data.List.Sort

/-!
# Go maps

A Go map `map[K]V` holds finitely many entries with distinct keys and no order, so it is
modelled as a `Finmap`: two maps with the same entries are equal. A map *variable* may also be
nil; where the source can hold a nil map the model uses `Option (GoMap K V)`.

* `GoMap`, `mapValues`, `lookup_mapValues`;
* `sortedKeys`, `sortedEntries`: the entries in key order, as `encoding/json` writes a map;
* `insertAll`, `lookup_insertAll`: the map left by writing a list of entries in order, as
  `encoding/json` reads an object into a map and `buildLXCConfig` fills its configuration; `lookup_insertAll_of_perm` writes a map's own
  entries over another, and `insertAll_of_perm` rebuilds a map from them.
-/

namespace Cosmos

/-- A Go map from `K` to `V`. -/
abbrev GoMap (K V : Type) := Finmap fun _ : K => V

namespace GoMap

variable {K V W : Type} [DecidableEq K]

/-- Apply `f` to every value. -/
def mapValues (f : V → W) (m : GoMap K V) : GoMap K W :=
  ⟨m.entries.map fun x => ⟨x.1, f x.2⟩, by
    obtain ⟨e, h⟩ := m
    induction e using Quot.inductionOn
    simpa [Multiset.coe_nodupKeys, List.NodupKeys, List.keys] using h⟩

theorem lookup_mapValues (f : V → W) (m : GoMap K V) (k : K) :
    (m.mapValues f).lookup k = (m.lookup k).map f := by
  induction m using Finmap.induction_on with
  | H a => exact List.dlookup_map₂ (f := fun _ => f) k

/-- Writing the entries of `l` into `m` in order, a later entry replacing an earlier one. -/
def insertAll (l : List (K × V)) (m : GoMap K V) : GoMap K V :=
  l.foldl (fun m e => m.insert e.1 e.2) m

theorem lookup_insertAll (l : List (K × V)) (m : GoMap K V) (k : K) :
    (insertAll l m).lookup k =
      ((l.reverse.find? (·.1 = k)).map (·.2)).orElse fun _ => m.lookup k := by
  induction l generalizing m with
  | nil => simp [insertAll]
  | cons e l ih =>
    simp only [insertAll, List.foldl_cons] at ih ⊢
    rw [ih, List.reverse_cons, List.find?_append]
    by_cases h : e.1 = k
    · subst h
      cases List.find? (fun x => decide (x.1 = e.1)) l.reverse <;> simp [Finmap.lookup_insert]
    · cases List.find? (fun x => decide (x.1 = k)) l.reverse <;>
        simp [h, Finmap.lookup_insert_of_ne _ (Ne.symm h)]

theorem find?_reverse_of_nodup {l : List (K × V)} (hl : (l.map (·.1)).Nodup) {k : K} {v : V}
    (h : (k, v) ∈ l) : l.reverse.find? (·.1 = k) = some (k, v) := by
  have hsome : (l.reverse.find? (·.1 = k)).isSome :=
    List.find?_isSome.mpr ⟨(k, v), List.mem_reverse.mpr h, decide_eq_true rfl⟩
  obtain ⟨p, hp⟩ := Option.isSome_iff_exists.mp hsome
  have hpk : p.1 = k := by have := List.find?_some hp; simpa using this
  rw [hp, List.inj_on_of_nodup_map hl (List.mem_reverse.mp (List.mem_of_find?_eq_some hp)) h hpk]

theorem insertAll_append (l₁ l₂ : List (K × V)) (m : GoMap K V) :
    insertAll (l₁ ++ l₂) m = insertAll l₂ (insertAll l₁ m) :=
  List.foldl_append _ _ _ _

theorem lookup_insertAll_of_not_mem {l : List (K × V)} {k : K} (hk : k ∉ l.map (·.1))
    (m : GoMap K V) : (insertAll l m).lookup k = m.lookup k := by
  rw [lookup_insertAll, List.find?_eq_none.mpr fun e he hek => hk ?_]
  · rfl
  · exact List.mem_map.mpr ⟨e, List.mem_reverse.mp he, of_decide_eq_true hek⟩

theorem lookup_insertAll_of_mem {l : List (K × V)} (hl : (l.map (·.1)).Nodup) {k : K} {v : V}
    (h : (k, v) ∈ l) (m : GoMap K V) : (insertAll l m).lookup k = some v := by
  rw [lookup_insertAll, find?_reverse_of_nodup hl h]
  rfl

theorem mapValues_empty (f : V → W) : (∅ : GoMap K V).mapValues f = ∅ :=
  Finmap.ext_lookup fun k => by simp [lookup_mapValues]

theorem mapValues_insertAll (f : V → W) (l : List (K × V)) (m : GoMap K V) :
    (insertAll l m).mapValues f = insertAll (l.map fun e => (e.1, f e.2)) (m.mapValues f) :=
  Finmap.ext_lookup fun k => by
    simp only [lookup_mapValues, lookup_insertAll, ← List.map_reverse, List.find?_map,
      Function.comp_def]
    rcases List.find? (fun x : K × V => decide (x.1 = k)) l.reverse with _ | ⟨k', v'⟩ <;> rfl

variable [LinearOrder K]

/-- The keys of `m` in increasing order. -/
def sortedKeys (m : GoMap K V) : List K :=
  Quot.liftOn m.keys.val (List.insertionSort (· ≤ ·)) fun a b h =>
    List.eq_of_perm_of_sorted
      ((List.perm_insertionSort _ a).trans (h.trans (List.perm_insertionSort _ b).symm))
      (List.sorted_insertionSort _ a) (List.sorted_insertionSort _ b)

omit [DecidableEq K] in
theorem sortedKeys_perm (m : GoMap K V) : (↑m.sortedKeys : Multiset K) = m.keys.val := by
  unfold sortedKeys
  generalize m.keys.val = s
  induction s using Quot.inductionOn with
  | h a => exact Quot.sound (List.perm_insertionSort _ a)

omit [DecidableEq K] in
theorem mem_sortedKeys {m : GoMap K V} {k : K} : k ∈ m.sortedKeys ↔ k ∈ m := by
  rw [← Finmap.mem_keys, ← Finset.mem_val, ← sortedKeys_perm, Multiset.mem_coe]

omit [DecidableEq K] in
theorem sortedKeys_nodup (m : GoMap K V) : m.sortedKeys.Nodup := by
  rw [← Multiset.coe_nodup, sortedKeys_perm]
  exact m.keys.nodup

/-- The entries of `m` in increasing key order. -/
def sortedEntries (m : GoMap K V) : List (K × V) :=
  m.sortedKeys.filterMap fun k => (m.lookup k).map (k, ·)

theorem mem_sortedEntries {m : GoMap K V} {k : K} {v : V} :
    (k, v) ∈ m.sortedEntries ↔ m.lookup k = some v := by
  simp only [sortedEntries, List.mem_filterMap, Option.map_eq_some', Prod.mk.injEq]
  constructor
  · rintro ⟨k', -, v', h, rfl, rfl⟩
    exact h
  · intro h
    exact ⟨k, mem_sortedKeys.mpr (Finmap.mem_of_lookup_eq_some h), v, h, rfl, rfl⟩

theorem sortedEntries_map_fst (m : GoMap K V) : m.sortedEntries.map (·.1) = m.sortedKeys := by
  rw [sortedEntries, List.map_filterMap]
  conv_rhs => rw [← List.filterMap_some m.sortedKeys]
  refine List.filterMap_congr fun k hk => ?_
  obtain ⟨v, hv⟩ := Finmap.mem_iff.mp (mem_sortedKeys.mp hk)
  simp [hv]

theorem lookup_insertAll_of_perm {l : List (K × V)} {m : GoMap K V} (hl : l.Perm m.sortedEntries)
    (m' : GoMap K V) (k : K) :
    (insertAll l m').lookup k = (m.lookup k).orElse fun _ => m'.lookup k := by
  rw [lookup_insertAll]
  cases hk : m.lookup k with
  | some v =>
    have hnd : (l.map (·.1)).Nodup := by
      rw [(hl.map _).nodup_iff, sortedEntries_map_fst]; exact m.sortedKeys_nodup
    rw [find?_reverse_of_nodup hnd (hl.mem_iff.mpr (mem_sortedEntries.mpr hk))]
    rfl
  | none =>
    rw [List.find?_eq_none.mpr]
    · rfl
    · intro p hp hpk
      have : p.1 = k := by simpa using hpk
      obtain ⟨k', v'⟩ := p
      simp only at this
      subst this
      simp [mem_sortedEntries.mp (hl.mem_iff.mp (List.mem_reverse.mp hp))] at hk

/-- **A map is rebuilt by writing its own entries, in any order, into an empty map.** -/
theorem insertAll_of_perm {l : List (K × V)} {m : GoMap K V} (hl : l.Perm m.sortedEntries) :
    insertAll l ∅ = m :=
  Finmap.ext_lookup fun k => by
    rw [lookup_insertAll_of_perm hl]
    cases m.lookup k <;> rfl

theorem insertAll_sortedEntries_self (m : GoMap K V) : insertAll m.sortedEntries m = m :=
  Finmap.ext_lookup fun k => by
    rw [lookup_insertAll_of_perm (List.Perm.refl _)]
    cases m.lookup k <;> rfl

end GoMap

end Cosmos

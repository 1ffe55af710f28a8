import CosmosRuntime.Metadata.File

/-!
# Writing the table and reading it back

`Save` and every flush write the document of the whole table; `Load` unmarshals a document into
the table the store already holds. This module says what comes back.

* `reads_of_view`: `Get`, `GetLabel` and `HasLabel` read only the table by value;
* `save_of_fault_none`, `saveAsync_of_fault_none`: with a usable directory both write the
  document of the table;
* **`view_load_marshal`**: loading the document of a valid table into any store writes the
  table's entries over the ones it holds;
* **`save_load_roundtrip`**: the document `Save` or a flush writes for a table whose vmids are
  ints and whose labels are valid UTF-8, loaded into a new store, gives back that table, and
  every read answers as it did;
* **`recordAt_load_of_unnamed`**: whatever `Load` returns, it keeps the record of every vmid the
  document does not name.
-/

namespace Cosmos

namespace MetadataStore

variable {m : MetadataStore} {h : Heap} {d : Disk}

theorem reads_of_view {m' : MetadataStore} {h' : Heap} (hv : m'.view h' = m.view h)
    (vmid : Int) (key : GoString) :
    m'.get h' vmid = m.get h vmid ∧ m'.getLabel h' vmid key = m.getLabel h vmid key ∧
      m'.hasLabel h' vmid key = m.hasLabel h vmid key := by
  refine ⟨?_, ?_, ?_⟩ <;> simp only [get, getLabel, hasLabel, record?, hv]

theorem save_of_fault_none (hd : d.fault = none) :
    m.save h d = (.ok (), { d with file := some (.json (marshalTable (m.view h))) }) := by
  simp [save, hd]

theorem saveAsync_of_fault_none (hd : d.fault = none) :
    (m.saveAsync h d).2 = { d with file := some (.json (marshalTable (m.view h))) } := by
  simp [saveAsync, hd]

theorem getD_view (h : Heap) :
    (m.data.getD ∅).mapValues (Record.view h) = (m.view h).getD ∅ := by
  unfold view
  cases m.data <;> simp [GoMap.mapValues_empty]

/-- **Loading the document of a valid table** succeeds and writes the table's entries over the
ones the store holds; the document of a nil table makes the table nil. -/
theorem view_load_marshal {T : Option Table} (hT : ∀ t, T = some t → TableValid t)
    (hd : d.fault = none) (hf : d.file = some (.json (marshalTable T))) (h : Heap) :
    (m.load d).1 = .ok () ∧ (m.load d).2.view h =
      T.map fun t => GoMap.insertAll t.sortedEntries ((m.view h).getD ∅) := by
  cases T with
  | none => simp [load, hd, hf, marshalTable, decodeTable, TableWrite.apply, view]
  | some t =>
    have hl : ∀ X, GoMap.insertAll (jsonOrder t) X = GoMap.insertAll t.sortedEntries X :=
      fun X => Finmap.ext_lookup fun k => by
        rw [GoMap.lookup_insertAll_of_perm (jsonOrder_perm t),
          GoMap.lookup_insertAll_of_perm (List.Perm.refl _)]
    simp only [load, hd, hf, decodeTable_marshalTable (hT t rfl), TableWrite.apply,
      Option.map_some', ← getD_view, ← hl]
    refine ⟨trivial, ?_⟩
    simp only [view, Option.map_some', GoMap.mapValues_insertAll, List.map_map, Function.comp_def,
      view_ofValue, Prod.mk.eta, List.map_id']

theorem empty_load_marshal {T : Option Table} (hT : ∀ t, T = some t → TableValid t)
    (hd : d.fault = none) (hf : d.file = some (.json (marshalTable T))) (h : Heap) :
    (empty.load d).1 = .ok () ∧ (empty.load d).2.view h = T := by
  refine ⟨(view_load_marshal hT hd hf h).1, ?_⟩
  rw [(view_load_marshal hT hd hf h).2]
  cases T <;> simp [empty, view, GoMap.mapValues_empty, GoMap.insertAll_of_perm (List.Perm.refl _)]

/-- **A table whose vmids are ints and whose labels are valid UTF-8 survives `Save`, or a flush,
and `Load` into a new store**: both write the same document, `Load` returns nil, the new store
holds the table, and `Get`, `GetLabel` and `HasLabel` answer as they did. -/
theorem save_load_roundtrip (hT : ∀ t, m.view h = some t → TableValid t) (hd : d.fault = none) :
    (m.save h d).1 = .ok () ∧ (m.saveAsync h d).2 = (m.save h d).2 ∧
    (empty.load (m.save h d).2).1 = .ok () ∧
    ∀ h', (empty.load (m.save h d).2).2.view h' = m.view h ∧
      ∀ vmid key, (empty.load (m.save h d).2).2.get h' vmid = m.get h vmid ∧
        (empty.load (m.save h d).2).2.getLabel h' vmid key = m.getLabel h vmid key ∧
        (empty.load (m.save h d).2).2.hasLabel h' vmid key = m.hasLabel h vmid key := by
  rw [save_of_fault_none hd, saveAsync_of_fault_none hd]
  have hl := fun h' =>
    empty_load_marshal (d := { d with file := some (.json (marshalTable (m.view h))) }) hT hd rfl h'
  exact ⟨rfl, rfl, (hl h).1, fun h' => ⟨(hl h').2, reads_of_view (hl h').2⟩⟩

end MetadataStore

/-- A store whose only record is `{"k": "\xff"}` for vmid 1: a label value that is not valid
UTF-8. -/
def ffStore : MetadataStore := (MetadataStore.empty.setLabel (fun _ => ∅) 1 (.lit "k") [0xFF]).1

/-- `json.Marshal` writes the value as U+FFFD, and `Load` reads that back. -/
theorem save_load_coerces_label :
    ffStore.getLabel (fun _ => ∅) 1 (.lit "k") = [0xFF] ∧
    (MetadataStore.empty.load (ffStore.save (fun _ => ∅) ⟨none, none⟩).2).1 = .ok () ∧
    (MetadataStore.empty.load (ffStore.save (fun _ => ∅) ⟨none, none⟩).2).2.getLabel
      (fun _ => ∅) 1 (.lit "k") = replacementChar := by
  decide

/-- The store after `SetLabel(7, "env", "prod")`. -/
def envStore : MetadataStore :=
  (MetadataStore.empty.setLabel (fun _ => ∅) 7 (.lit "env") (.lit "prod")).1

theorem save_load_roundtrip_env :
    (∀ t, envStore.view (fun _ => ∅) = some t → TableValid t) ∧
    (⟨none, none⟩ : Disk).fault = none ∧
    (envStore.save (fun _ => ∅) ⟨none, none⟩).1 = .ok () ∧
    (envStore.saveAsync (fun _ => ∅) ⟨none, none⟩).2 =
      (envStore.save (fun _ => ∅) ⟨none, none⟩).2 ∧
    (MetadataStore.empty.load (envStore.save (fun _ => ∅) ⟨none, none⟩).2).1 = .ok () ∧
    ∀ h', (MetadataStore.empty.load (envStore.save (fun _ => ∅) ⟨none, none⟩).2).2.view h' =
        envStore.view (fun _ => ∅) ∧
      ∀ vmid key,
        (MetadataStore.empty.load (envStore.save (fun _ => ∅) ⟨none, none⟩).2).2.get h' vmid =
          envStore.get (fun _ => ∅) vmid ∧
        (MetadataStore.empty.load (envStore.save (fun _ => ∅) ⟨none, none⟩).2).2.getLabel h'
          vmid key = envStore.getLabel (fun _ => ∅) vmid key ∧
        (MetadataStore.empty.load (envStore.save (fun _ => ∅) ⟨none, none⟩).2).2.hasLabel h'
          vmid key = envStore.hasLabel (fun _ => ∅) vmid key :=
  have hT : ∀ t, envStore.view (fun _ => ∅) = some t → TableValid t :=
    (by decide : ∀ t ∈ envStore.view (fun _ => ∅), TableValid t)
  ⟨hT, rfl, MetadataStore.save_load_roundtrip hT rfl⟩

namespace MetadataStore

variable {m : MetadataStore} {d : Disk}

/-- **`Load` keeps the record of every vmid the document does not name**, whether it returns nil
or an error: `Unmarshal` writes into the map the store holds. -/
theorem recordAt_load_of_unnamed {ms : List (GoString × JsonValue)} (hd : d.fault = none)
    (hf : d.file = some (.json (.object ms))) {w : Int}
    (hw : ∀ e ∈ ms, parseInt e.1 ≠ some w) :
    (m.load d).2.recordAt w = m.recordAt w := by
  simp only [load, hd, hf, decodeTable, TableWrite.apply, recordAt_eq_getD, Option.getD_some,
    GoMap.lookup_insertAll]
  rw [List.find?_eq_none.mpr]
  · rfl
  · intro x hx hxw
    simp only [List.mem_reverse, List.mem_map, List.mem_filterMap, Option.map_eq_some'] at hx
    obtain ⟨_, ⟨e, he, k, hk, rfl⟩, rfl⟩ := hx
    exact hw e he (hk.trans (congrArg some (of_decide_eq_true hxw : k = w)))

end MetadataStore

/-- The store whose only record is `{"a": "b"}` for vmid 1. -/
def abStore : MetadataStore :=
  (MetadataStore.empty.setLabel (fun _ => ∅) 1 (.lit "a") (.lit "b")).1

/-- Loading `{}` returns nil and keeps the record of vmid 1; loading `{"1": 5}` returns an error
and has made that record nil. -/
theorem load_merges_into_table :
    (abStore.load ⟨some (.json (.object [])), none⟩).1 = .ok () ∧
    (abStore.load ⟨some (.json (.object [])), none⟩).2.getLabel (fun _ => ∅) 1 (.lit "a") =
      .lit "b" ∧
    (abStore.load ⟨some (.json (.object [(.lit "1", .number 5)])), none⟩).1 =
      .error (unmarshalTypeError (.lit "number") (.lit "map[string]string")) ∧
    (abStore.load ⟨some (.json (.object [(.lit "1", .number 5)])), none⟩).2.record?
      (fun _ => ∅) 1 = some none := by
  decide

end Cosmos

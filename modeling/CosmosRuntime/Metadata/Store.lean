import CosmosRuntime.Go.Json

/-!
# The metadata store

Proxmox containers have no labels, so the runtime keeps them in a `MetadataStore`: a table from
VMID to a label map, guarded by one lock and saved to a JSON file (`metadata.go`). This module
models the table and the operations on it; `Load`, `Save` and `saveAsync` come with the file
format in `Metadata.File`.

Go maps are references, and `Set` stores the caller's map without copying it: a record can be
shared with the caller, and with every other record set from the same map. The callers' maps
live in a `Heap` and such a record is `Record.caller a`. A map the store makes itself (`SetLabel`
on a missing record, `Load`) is held by exactly one record, so the model keeps it by value.

* `Labels`, `Heap`, `Record`, `MetadataStore`, `Table`;
* `MetadataStore.view`, `record?`: the table by value, which is all a reader observes;
* the operations `get`, `set`, `getLabel`, `setLabel`, `delete`, `hasLabel`, `findByLabel`,
  `findByName`; every mutation starts one flush (`go m.saveAsync()`), counted in `pending`;
* `record?_set`, `record?_delete`, `record?_setLabel_self`, `record?_setLabel_of_ne`: what each
  mutation does to every record;
* **`getLabel_setLabel`**: what `GetLabel` reads after `SetLabel`, the shared maps included;
* `RangeOrder`, `LabelMatches`, **`findByLabel_findByName`**: what the two queries return over
  any order `range` may visit the table in;
* **`findByName_setLabel`**: a name written with `SetLabel` is found by `FindByName`, in any order,
  when no other record reads it and none shares the map written.
-/

namespace Cosmos

/-- A label map by value: `map[string]string`. -/
abbrev Labels := GoMap GoString GoString

/-- The label maps the callers own, by address. -/
abbrev Heap := Nat → Labels

/-- A `map[string]string` a caller holds: nil, or the address of one of their maps. -/
abbrev LabelsRef := Option Nat

/-- The key of the label that holds a container's name. -/
def cosmosName : GoString := .lit "cosmos-name"

/-- A record of the table: the `map[string]string` it holds. -/
inductive Record where
  /-- A nil map. -/
  | nil
  /-- A map the store made; no other record and no caller holds it. -/
  | own (l : Labels)
  /-- A caller's map, stored by `Set` without a copy. -/
  | caller (a : Nat)
  deriving DecidableEq

namespace Record

/-- The labels a record holds now, `none` for a nil map. -/
def view (h : Heap) : Record → Option Labels
  | nil => none
  | own l => some l
  | caller a => some (h a)

/-- The record `Set` stores for a caller's map. -/
def ofRef : LabelsRef → Record
  | none => nil
  | some a => caller a

end Record

/-- The table by value, as its readers and the encoder see it: `map[int]map[string]string`
with `none` for a nil label map. -/
abbrev Table := GoMap Int (Option Labels)

/-- The fields of a `MetadataStore` that its operations use. -/
structure MetadataStore where
  /-- `data`, `none` while it is a nil map. -/
  data : Option (GoMap Int Record)
  /-- The goroutines `go m.saveAsync()` has started that have not run yet. -/
  pending : Nat

namespace MetadataStore

variable (m : MetadataStore) (h : Heap)

/-- The record of `vmid` as stored. -/
def recordAt (vmid : Int) : Option Record := m.data.bind (·.lookup vmid)

/-- The table by value; `none` while `data` is a nil map. -/
def view : Option Table := m.data.map (GoMap.mapValues (Record.view h))

/-- The record of `vmid` by value: `none` when `vmid` has no record. -/
def record? (vmid : Int) : Option (Option Labels) := (m.view h).bind (·.lookup vmid)

/-- `Get`: a copy of the labels of `vmid` (empty for a nil map), or nil without a record. -/
def get (vmid : Int) : Option Labels := (m.record? h vmid).map (·.getD ∅)

/-- `GetLabel`: the label `key` of `vmid`, `""` when there is none. -/
def getLabel (vmid : Int) (key : GoString) : GoString :=
  ((m.record? h vmid).bind fun r => r.bind (·.lookup key)).getD []

/-- `HasLabel`. -/
def hasLabel (vmid : Int) (key : GoString) : Bool :=
  ((m.record? h vmid).bind fun r => r.map fun l => decide (key ∈ l)).getD false

/-- `Set`: the record of `vmid` becomes the caller's map `labels` itself. -/
def set (vmid : Int) (labels : LabelsRef) : MetadataStore :=
  { data := some ((m.data.getD ∅).insert vmid (Record.ofRef labels)), pending := m.pending + 1 }

/-- `SetLabel`: a missing or nil record first becomes a new empty map; the label is then
written into the record's map, which for a caller's map is the caller's own. -/
def setLabel (vmid : Int) (key value : GoString) : MetadataStore × Heap :=
  let d := m.data.getD ∅
  match m.recordAt vmid with
  | some (.caller a) =>
    ({ data := some d, pending := m.pending + 1 }, Function.update h a ((h a).insert key value))
  | some (.own l) =>
    ({ data := some (d.insert vmid (.own (l.insert key value))), pending := m.pending + 1 }, h)
  | _ =>
    ({ data := some (d.insert vmid (.own ((∅ : Labels).insert key value))),
       pending := m.pending + 1 }, h)

/-- `Delete`: `vmid` loses its record; deleting from a nil map does nothing. -/
def delete (vmid : Int) : MetadataStore :=
  { data := m.data.map (·.erase vmid), pending := m.pending + 1 }

/-- `FindByLabel`: the vmids, in the order `range` visits the table, whose label `key` reads
`value` (`labels[key]` reads `""` for a missing key). Go randomises that order, so it is an
argument: `order` lists the keys of the table. -/
def findByLabel (order : List Int) (key value : GoString) : List Int :=
  order.filter fun vmid => m.getLabel h vmid key = value

/-- `FindByName`: the first result of `FindByLabel("cosmos-name", name)`, or `0`. -/
def findByName (order : List Int) (name : GoString) : Int :=
  (m.findByLabel h order cosmosName name).headD 0

/-- `order` is an order `range` can visit the table in: every VMID with a record, once. -/
def RangeOrder (order : List Int) : Prop :=
  order.Nodup ∧ ∀ vmid, vmid ∈ order ↔ (m.recordAt vmid).isSome

/-- What `labels[key] == value` accepts in the record of `vmid`: the label `key` bound to
`value`, or, for the empty value, no label `key`, which a nil map never has. -/
def LabelMatches (vmid : Int) (key value : GoString) : Prop :=
  ∃ r, m.record? h vmid = some r ∧
    (r.bind (·.lookup key) = some value ∨ (value = [] ∧ r.bind (·.lookup key) = none))

/-- The records of `v` and `w` hold one caller's map, so that a write through one shows in the
other. -/
def sharesMap (v w : Int) : Bool :=
  match m.recordAt v, m.recordAt w with
  | some (.caller a), some (.caller b) => a == b
  | _, _ => false

/-! ## Records after each operation -/

variable {m h}

/-- Every mutation starts one flush. -/
@[simp] theorem pending_set (vmid : Int) (labels : LabelsRef) :
    (m.set vmid labels).pending = m.pending + 1 := rfl

@[simp] theorem pending_setLabel (vmid : Int) (key value : GoString) :
    (m.setLabel h vmid key value).1.pending = m.pending + 1 := by
  unfold setLabel
  split <;> rfl

@[simp] theorem pending_delete (vmid : Int) : (m.delete vmid).pending = m.pending + 1 := rfl

theorem record?_eq (vmid : Int) : m.record? h vmid = (m.recordAt vmid).map (Record.view h) := by
  cases hd : m.data <;> simp [record?, view, recordAt, hd, GoMap.lookup_mapValues]

theorem recordAt_eq_getD (vmid : Int) : m.recordAt vmid = (m.data.getD ∅).lookup vmid := by
  unfold recordAt
  cases m.data <;> rfl

theorem recordAt_mk (d : GoMap Int Record) (p : Nat) (w : Int) :
    ({ data := some d, pending := p } : MetadataStore).recordAt w = d.lookup w := rfl

theorem recordAt_set (vmid w : Int) (labels : LabelsRef) :
    (m.set vmid labels).recordAt w = if w = vmid then some (.ofRef labels) else m.recordAt w := by
  rw [set, recordAt_mk, recordAt_eq_getD]
  split
  · subst w; exact Finmap.lookup_insert _
  · exact Finmap.lookup_insert_of_ne _ ‹_›

theorem recordAt_delete (vmid w : Int) :
    (m.delete vmid).recordAt w = if w = vmid then none else m.recordAt w := by
  unfold delete recordAt
  split
  · subst w; cases m.data <;> simp [Finmap.lookup_erase]
  · cases m.data <;> simp [Finmap.lookup_erase_ne ‹_›]

theorem record?_set (vmid w : Int) (labels : LabelsRef) :
    (m.set vmid labels).record? h w =
      if w = vmid then some ((Record.ofRef labels).view h) else m.record? h w := by
  rw [record?_eq, record?_eq, recordAt_set]
  split <;> rfl

theorem record?_delete (vmid w : Int) :
    (m.delete vmid).record? h w = if w = vmid then none else m.record? h w := by
  rw [record?_eq, record?_eq, recordAt_delete]
  split <;> rfl

/-- **`SetLabel` writes the label into the record of `vmid`, keeping the labels it had.** -/
theorem record?_setLabel_self (vmid : Int) (key value : GoString) :
    (m.setLabel h vmid key value).1.record? (m.setLabel h vmid key value).2 vmid =
      some (some ((((m.record? h vmid).bind id).getD ∅).insert key value)) := by
  rw [record?_eq, record?_eq]
  rcases hr : m.recordAt vmid with _ | _ | l | a <;>
    simp [setLabel, hr, recordAt_mk, ← recordAt_eq_getD, Finmap.lookup_insert, Record.view]

/-- **`SetLabel` on `vmid` leaves the record of any other `w`, unless the two hold one caller's
map.** -/
theorem record?_setLabel_of_ne {vmid w : Int} (hw : w ≠ vmid) (key value : GoString)
    (hshare : ∀ a, m.recordAt vmid = some (.caller a) → m.recordAt w ≠ some (.caller a)) :
    (m.setLabel h vmid key value).1.record? (m.setLabel h vmid key value).2 w =
      m.record? h w := by
  rw [record?_eq, record?_eq]
  rcases hr : m.recordAt vmid with _ | _ | l | a <;>
    simp only [setLabel, hr, recordAt_mk, ← recordAt_eq_getD, Finmap.lookup_insert_of_ne _ hw]
  rcases hw' : m.recordAt w with _ | _ | l' | b <;> simp only [Option.map, Record.view]
  have hb : b ≠ a := fun hab => hshare a hr (by rw [hw', hab])
  rw [Function.update_noteq hb]

theorem setLabel_of_caller {vmid : Int} {a : Nat} (hr : m.recordAt vmid = some (.caller a))
    (key value : GoString) :
    (m.setLabel h vmid key value).2 = Function.update h a ((h a).insert key value) ∧
      ∀ w, (m.setLabel h vmid key value).1.recordAt w = m.recordAt w := by
  simp only [setLabel, hr, true_and]
  exact fun w => by rw [recordAt_mk, recordAt_eq_getD]

theorem recordAt_setLabel_of_ne {vmid w : Int} (hw : w ≠ vmid) (key value : GoString) :
    (m.setLabel h vmid key value).1.recordAt w = m.recordAt w := by
  rcases hr : m.recordAt vmid with _ | _ | l | a <;>
    simp only [setLabel, hr, recordAt_mk, Finmap.lookup_insert_of_ne _ hw, ← recordAt_eq_getD]

theorem get_of_recordAt_caller {w : Int} {a : Nat} (hw : m.recordAt w = some (.caller a)) :
    m.get h w = some (h a) := by
  simp [get, record?_eq, hw, Record.view]

theorem getLabel_eq (w : Int) (key : GoString) :
    m.getLabel h w key = (((m.recordAt w).bind (Record.view h)).bind (·.lookup key)).getD [] := by
  simp only [getLabel, record?_eq]
  cases m.recordAt w <;> rfl

/-- **`GetLabel` after `SetLabel`.** The label written reads back from the record it was written
to, and from every record that holds the same caller's map; every other label of every record
reads as before. -/
theorem getLabel_setLabel (vmid : Int) (key value : GoString) (w : Int) (key' : GoString) :
    (m.setLabel h vmid key value).1.getLabel (m.setLabel h vmid key value).2 w key' =
      if key' = key ∧ (w = vmid ∨ m.sharesMap vmid w = true) then value
      else m.getLabel h w key' := by
  rw [getLabel_eq, getLabel_eq]
  rcases hr : m.recordAt vmid with _ | _ | l | a
  rotate_right
  · -- a caller's map: the write goes to the heap, and shows in every record holding the map
    simp only [setLabel, hr, recordAt_mk, ← recordAt_eq_getD]
    by_cases hw : w = vmid
    · subst hw
      by_cases hk : key' = key
      · subst hk; simp [hr, Record.view, Finmap.lookup_insert]
      · simp [hr, Record.view, hk, Finmap.lookup_insert_of_ne _ hk]
    · rcases hw' : m.recordAt w with _ | _ | l' | b
      · simp [sharesMap, hr, hw', hw]
      · simp [sharesMap, hr, hw', hw, Record.view]
      · simp [sharesMap, hr, hw', hw, Record.view]
      · by_cases hb : b = a
        · subst hb
          by_cases hk : key' = key
          · subst hk; simp [sharesMap, hr, hw', Record.view, Finmap.lookup_insert]
          · simp [sharesMap, hr, hw', Record.view, hk, Finmap.lookup_insert_of_ne _ hk]
        · simp [sharesMap, hr, hw', hw, Record.view, Function.update_noteq hb, Ne.symm hb]
  -- no record, a nil map or the store's own map: the record of `vmid` becomes its own map
  all_goals
    simp only [setLabel, hr, recordAt_mk]
    by_cases hw : w = vmid
    · subst hw
      by_cases hk : key' = key
      · subst hk; simp [Finmap.lookup_insert, Record.view]
      · simp [Finmap.lookup_insert, Record.view, hk, hr, Finmap.lookup_insert_of_ne _ hk]
    · simp [Finmap.lookup_insert_of_ne _ hw, ← recordAt_eq_getD, hw, hr, sharesMap]

/-! ## Queries -/

variable {order : List Int}

theorem mem_findByLabel (ho : m.RangeOrder order) {vmid : Int} {key value : GoString} :
    vmid ∈ m.findByLabel h order key value ↔ m.LabelMatches h vmid key value := by
  rw [findByLabel, List.mem_filter, ho.2, decide_eq_true_iff, getLabel, LabelMatches, record?_eq]
  rcases m.recordAt vmid with _ | r
  · simp
  · simp only [Option.isSome_some, Option.map_some', Option.some_bind, Option.some.injEq,
      exists_eq_left', true_and, Option.getD_eq_iff]
    rw [@eq_comm _ [] value, and_comm]

/-- **`FindByLabel` and `FindByName`.** Over an order `range` can take, `FindByLabel(key,
value)` lists each VMID whose `labels[key]` reads `value` once: the ones that bind `key` to
`value`, and for the empty value also the ones without `key`. `FindByName` returns the first
such VMID for `cosmos-name` in the order `range` visits, when there is one, and `0` when there is
none. -/
theorem findByLabel_findByName (ho : m.RangeOrder order) (key value name : GoString) :
    (m.findByLabel h order key value).Nodup ∧
    (∀ vmid, vmid ∈ m.findByLabel h order key value ↔ m.LabelMatches h vmid key value) ∧
    ((∃ vmid, m.LabelMatches h vmid cosmosName name) →
      m.LabelMatches h (m.findByName h order name) cosmosName name ∧
      ∃ pre post, order = pre ++ m.findByName h order name :: post ∧
        ∀ w ∈ pre, ¬ m.LabelMatches h w cosmosName name) ∧
    ((¬ ∃ vmid, m.LabelMatches h vmid cosmosName name) → m.findByName h order name = 0) := by
  refine ⟨ho.1.filter _, fun _ => mem_findByLabel ho, fun ⟨vmid, hv⟩ => ?_, fun hn => ?_⟩
  · obtain ⟨w, ws, hws⟩ := List.exists_cons_of_ne_nil
      (List.ne_nil_of_mem ((mem_findByLabel ho).mpr hv))
    obtain ⟨pre, post, hsplit, hpre, -, -⟩ := List.filter_eq_cons_iff.mp hws
    have hw : w ∈ m.findByLabel h order cosmosName name := hws ▸ List.mem_cons_self w ws
    rw [findByName, hws]
    exact ⟨(mem_findByLabel ho).mp hw, pre, post, hsplit,
      fun x hx hm => hpre x hx (List.mem_filter.mp ((mem_findByLabel ho).mpr hm)).2⟩
  · rw [findByName, List.eq_nil_iff_forall_not_mem.mpr fun v hv => hn ⟨v, (mem_findByLabel ho).mp hv⟩]
    rfl

/-- The store `{0: {cosmos-name: "web"}}` that `SetLabel` makes from an empty table. -/
def webStore : MetadataStore := (setLabel ⟨some ∅, 0⟩ (fun _ => ∅) 0 cosmosName (.lit "web")).1

/-- `webStore`, visited as `[0]`. -/
theorem findByLabel_findByName_web : webStore.RangeOrder [0] ∧
    ((webStore.findByLabel (fun _ => ∅) [0] cosmosName (.lit "web")).Nodup ∧
    (∀ vmid, vmid ∈ webStore.findByLabel (fun _ => ∅) [0] cosmosName (.lit "web") ↔
      webStore.LabelMatches (fun _ => ∅) vmid cosmosName (.lit "web")) ∧
    ((∃ vmid, webStore.LabelMatches (fun _ => ∅) vmid cosmosName (.lit "web")) →
      webStore.LabelMatches (fun _ => ∅) (webStore.findByName (fun _ => ∅) [0] (.lit "web"))
        cosmosName (.lit "web") ∧
      ∃ pre post, [0] = pre ++ webStore.findByName (fun _ => ∅) [0] (.lit "web") :: post ∧
        ∀ w ∈ pre, ¬ webStore.LabelMatches (fun _ => ∅) w cosmosName (.lit "web")) ∧
    ((¬ ∃ vmid, webStore.LabelMatches (fun _ => ∅) vmid cosmosName (.lit "web")) →
      webStore.findByName (fun _ => ∅) [0] (.lit "web") = 0)) :=
  have ho : webStore.RangeOrder [0] := ⟨List.nodup_singleton 0, fun v => by
    rcases eq_or_ne v 0 with rfl | hv <;>
      simp [webStore, setLabel, recordAt, Finmap.lookup_insert_of_ne, *]⟩
  ⟨ho, findByLabel_findByName ho cosmosName (.lit "web") (.lit "web")⟩

/-- A nil label map matches the empty value of any key, and a name held by VMID 0 is not told
from no name: in `{1: nil}`, `FindByLabel("k", "")` returns `[1]`; in `{0: {cosmos-name:
"web"}}`, `FindByName("web")` returns 0. -/
theorem findByLabel_nil_record_findByName_zero :
    (MetadataStore.set ⟨some ∅, 0⟩ 1 none).record? (fun _ => ∅) 1 = some none ∧
    (MetadataStore.set ⟨some ∅, 0⟩ 1 none).findByLabel (fun _ => ∅) [1] (.lit "k") [] = [1] ∧
    webStore.getLabel (fun _ => ∅) 0 cosmosName = .lit "web" ∧
    webStore.findByName (fun _ => ∅) [0] (.lit "web") = 0 := by
  decide

/-! ## Naming a record -/

theorem not_shared_of_sharesMap {v w : Int} (hs : m.sharesMap v w = false) :
    ∀ a, m.recordAt v = some (.caller a) → m.recordAt w ≠ some (.caller a) := fun a hv hw => by
  simp [sharesMap, hv, hw] at hs

/-- **`FindByName` finds the record `SetLabel` just named.** Over every order `range` may visit
the table in, after `SetLabel(v, "cosmos-name", n)`, `FindByName(n)` returns `v`, provided no
other VMID with a record reads `n` as its name and none holds the same caller's map as `v` (a
record that does is named `n` too, and `range` may visit it first). -/
theorem findByName_setLabel {v : Int} {n : GoString}
    (ho : (m.setLabel h v cosmosName n).1.RangeOrder order)
    (hu : ∀ w, w ≠ v → (m.recordAt w).isSome →
      m.sharesMap v w = false ∧ m.getLabel h w cosmosName ≠ n) :
    (m.setLabel h v cosmosName n).1.findByName (m.setLabel h v cosmosName n).2 order n = v := by
  have hself := record?_setLabel_self (m := m) (h := h) v cosmosName n
  have hlabel : ∀ w ∈ order,
      decide ((m.setLabel h v cosmosName n).1.getLabel (m.setLabel h v cosmosName n).2 w
        cosmosName = n) = decide (w = v) := fun w hw' => by
    by_cases hw : w = v
    · subst hw
      simp [getLabel, hself, Finmap.lookup_insert]
    · have hu' := hu w hw (recordAt_setLabel_of_ne hw cosmosName n ▸ (ho.2 w).mp hw')
      rw [getLabel, record?_setLabel_of_ne hw _ _ (not_shared_of_sharesMap hu'.1)]
      simpa [hw] using hu'.2
  have hv : v ∈ order := (ho.2 v).mpr (by simpa [record?_eq] using congrArg Option.isSome hself)
  rw [findByName, findByLabel, List.filter_congr hlabel, List.filter_eq,
    List.count_eq_one_of_mem ho.1 hv]
  rfl

/-- The table `{1: {cosmos-name: "db"}}`. -/
def dbStore : MetadataStore := (setLabel ⟨some ∅, 0⟩ (fun _ => ∅) 1 cosmosName (.lit "db")).1

theorem dbStore_recordAt_of_ne {w : Int} (hw : w ≠ 1) : dbStore.recordAt w = none := by
  simp [dbStore, setLabel, recordAt, Finmap.lookup_insert_of_ne _ hw]

/-- Naming VMID 7 `web` next to `db`: `FindByName("web")` skips VMID 1 and finds 7. -/
theorem findByName_setLabel_web :
    (dbStore.setLabel (fun _ => ∅) 7 cosmosName (.lit "web")).1.RangeOrder [1, 7] ∧
    (∀ w, w ≠ 7 → (dbStore.recordAt w).isSome → dbStore.sharesMap 7 w = false ∧
      dbStore.getLabel (fun _ => ∅) w cosmosName ≠ .lit "web") ∧
    (dbStore.setLabel (fun _ => ∅) 7 cosmosName (.lit "web")).1.findByName
      (dbStore.setLabel (fun _ => ∅) 7 cosmosName (.lit "web")).2 [1, 7] (.lit "web") = 7 :=
  have ho : (dbStore.setLabel (fun _ => ∅) 7 cosmosName (.lit "web")).1.RangeOrder [1, 7] :=
    ⟨by decide, fun x => by
      rcases eq_or_ne x 7 with rfl | h7
      · decide
      rcases eq_or_ne x 1 with rfl | h1
      · decide
      simp [setLabel, dbStore_recordAt_of_ne (by decide : (7 : Int) ≠ 1), recordAt_mk,
        ← recordAt_eq_getD, Finmap.lookup_insert_of_ne _ h7, dbStore_recordAt_of_ne h1, h1, h7]⟩
  have hu : ∀ w, w ≠ 7 → (dbStore.recordAt w).isSome → dbStore.sharesMap 7 w = false ∧
      dbStore.getLabel (fun _ => ∅) w cosmosName ≠ .lit "web" := fun w _ hw => by
    rcases eq_or_ne w 1 with rfl | h1
    · decide
    simp [dbStore_recordAt_of_ne h1] at hw
  ⟨ho, hu, findByName_setLabel ho hu⟩

end MetadataStore

end Cosmos

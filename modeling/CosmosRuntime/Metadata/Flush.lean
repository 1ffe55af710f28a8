import CosmosRuntime.Metadata.RoundTrip
import Mathlib.Logic.Relation

/-!
# Flushes and the file

Every mutation of the store starts a goroutine `go m.saveAsync()`. It takes the store's lock
when it runs and writes the table as it is then, not as it was when it was started. Between the
mutations, `Load` (at `Connect`) and `Save` (at `Close`) run under the same lock, and any number
of flushes are pending. The reads take the lock too and change nothing, so a run is a sequence
of operations and flushes on one state.

* `StoreState`, `StoreOp`, `StoreOp.run`, `StoreState.flush`, `StoreStep`, `StoreRuns`: the
  runs, the operations allowed at each state given by a predicate;
* `ViewValid`, `DiskValid`, `Synced`, `FlushInv`: the tables the encoder writes back unchanged,
  the files of such tables, and the file holding the table itself;
* `FlushInv.step`: one operation or flush keeps the invariant, when vmids are ints and labels
  valid UTF-8;
* **`drained_disk_restores`**: in every run from a new store and a file an earlier `Save` wrote
  (or none), once `Load` has run and no flush is pending, loading the file into a new store gives
  back the table.
-/

namespace Cosmos

/-- The store, the callers' maps, the store's directory, and whether `Load` has run. -/
structure StoreState where
  store : MetadataStore
  heap : Heap
  disk : Disk
  loaded : Bool

/-- The state `New` makes, with the callers' maps `h` and the directory `d`. -/
def StoreState.start (h : Heap) (d : Disk) : StoreState := ⟨MetadataStore.empty, h, d, false⟩

/-- The operations the backend issues on the store that change it. -/
inductive StoreOp where
  | set (vmid : Int) (labels : LabelsRef)
  | setLabel (vmid : Int) (key value : GoString)
  | delete (vmid : Int)
  | load
  | save

/-- One operation, under the store's lock; the results of `Load` and `Save` are only logged. -/
def StoreOp.run : StoreOp → StoreState → StoreState
  | .set vmid labels, s => { s with store := s.store.set vmid labels }
  | .setLabel vmid key value, s =>
    { s with store := (s.store.setLabel s.heap vmid key value).1,
             heap := (s.store.setLabel s.heap vmid key value).2 }
  | .delete vmid, s => { s with store := s.store.delete vmid }
  | .load, s => { s with store := (s.store.load s.disk).2, loaded := true }
  | .save, s => { s with disk := (s.store.save s.heap s.disk).2 }

/-- One of the pending `saveAsync` goroutines runs. -/
def StoreState.flush (s : StoreState) : StoreState :=
  { s with store := (s.store.saveAsync s.heap s.disk).1,
           disk := (s.store.saveAsync s.heap s.disk).2 }

/-- A step: an operation that `V` allows, or a pending flush. -/
inductive StoreStep (V : StoreState → StoreOp → Prop) : StoreState → StoreState → Prop
  | op (s : StoreState) (o : StoreOp) : V s o → StoreStep V s (o.run s)
  | flush (s : StoreState) : 0 < s.store.pending → StoreStep V s s.flush

/-- The runs whose operations `V` allows. -/
def StoreRuns (V : StoreState → StoreOp → Prop) : StoreState → StoreState → Prop :=
  Relation.ReflTransGen (StoreStep V)

/-- The writes of a backend whose vmids are ints and whose labels are valid UTF-8, the labels of
a caller's map given to `Set` included. -/
def StoreOp.Valid (s : StoreState) : StoreOp → Prop
  | .set vmid labels => InIntRange vmid ∧ ∀ a, labels = some a → LabelsValid (s.heap a)
  | .setLabel vmid key value =>
    InIntRange vmid ∧ validString key = true ∧ validString value = true
  | .delete _ | .load | .save => True

/-! ## Valid tables -/

/-- The table is one the encoder writes back unchanged. -/
def ViewValid (m : MetadataStore) (h : Heap) : Prop := ∀ t, m.view h = some t → TableValid t

/-- The file is missing, or holds the document of such a table. -/
def DiskValid (d : Disk) : Prop :=
  d.file = none ∨
    ∃ T, (∀ t, T = some t → TableValid t) ∧ d.file = some (.json (marshalTable T))

theorem LabelsValid.insert {l : Labels} (hl : LabelsValid l) {key value : GoString}
    (hk : validString key = true) (hv : validString value = true) :
    LabelsValid (l.insert key value) := fun k v hkv => by
  by_cases h : k = key
  · subst h
    rw [Finmap.lookup_insert] at hkv
    cases hkv
    exact ⟨hk, hv⟩
  · rw [Finmap.lookup_insert_of_ne _ h] at hkv
    exact hl k v hkv

theorem labelsValid_empty : LabelsValid ∅ := fun _ _ h => by simp at h

section Valid

open MetadataStore

variable {m : MetadataStore} {h : Heap}

theorem viewValid_iff : ViewValid m h ↔ ∀ k r, m.recordAt k = some r →
    InIntRange k ∧ ∀ l, r.view h = some l → LabelsValid l := by
  unfold ViewValid view recordAt
  cases m.data with
  | none => simp
  | some D =>
    simp only [Option.map_some', Option.some.injEq, forall_eq', Option.some_bind, TableValid,
      GoMap.lookup_mapValues, Option.map_eq_some']
    constructor
    · intro hv k r hr
      exact hv k _ ⟨r, hr, rfl⟩
    · rintro hv k _ ⟨r, hr, rfl⟩
      exact hv k r hr

theorem ViewValid.set (hm : ViewValid m h) {vmid : Int} (hv : InIntRange vmid) {labels : LabelsRef}
    (hl : ∀ a, labels = some a → LabelsValid (h a)) : ViewValid (m.set vmid labels) h := by
  rw [viewValid_iff] at hm ⊢
  intro k r hr
  rw [MetadataStore.recordAt_set] at hr
  split_ifs at hr with hk
  · cases hr
    refine ⟨hk ▸ hv, fun l hrl => ?_⟩
    cases labels with
    | none => cases hrl
    | some a => cases hrl; exact hl a rfl
  · exact hm k r hr

theorem ViewValid.delete (hm : ViewValid m h) (vmid : Int) : ViewValid (m.delete vmid) h := by
  rw [viewValid_iff] at hm ⊢
  intro k r hr
  rw [MetadataStore.recordAt_delete] at hr
  split_ifs at hr
  exact hm k r hr

theorem ViewValid.insertOwn (hm : ViewValid m h) {vmid : Int} (hv : InIntRange vmid)
    {l : Labels} (hl : LabelsValid l) (p : Nat) :
    ViewValid ⟨some ((m.data.getD ∅).insert vmid (.own l)), p⟩ h := by
  rw [viewValid_iff] at hm ⊢
  intro k r hr
  rw [recordAt_mk] at hr
  by_cases hkv : k = vmid
  · subst hkv
    rw [Finmap.lookup_insert] at hr
    cases hr
    exact ⟨hv, fun l' hl' => by cases hl'; exact hl⟩
  · rw [Finmap.lookup_insert_of_ne _ hkv, ← recordAt_eq_getD] at hr
    exact hm k r hr

theorem ViewValid.setLabel (hm : ViewValid m h) {vmid : Int} (hv : InIntRange vmid)
    {key value : GoString} (hk : validString key = true) (hval : validString value = true) :
    ViewValid (m.setLabel h vmid key value).1 (m.setLabel h vmid key value).2 := by
  have hm' := viewValid_iff.mp hm
  rcases hrv : m.recordAt vmid with _ | _ | l | a <;> simp only [MetadataStore.setLabel, hrv]
  · -- a missing or nil record becomes a new map with the label
    exact hm.insertOwn hv (labelsValid_empty.insert hk hval) _
  · exact hm.insertOwn hv (labelsValid_empty.insert hk hval) _
  · -- a map the store made gets the label
    exact hm.insertOwn hv (((hm' vmid _ hrv).2 l rfl).insert hk hval) _
  · -- a caller's map gets the label, in every record that holds it
    rw [viewValid_iff]
    intro k r hr
    rw [recordAt_mk, ← recordAt_eq_getD] at hr
    refine ⟨(hm' k r hr).1, fun l hl => ?_⟩
    cases r with
    | nil => cases hl
    | own l' => exact (hm' k _ hr).2 l hl
    | caller b =>
      simp only [Record.view, Option.some.injEq] at hl
      subst hl
      by_cases hab : b = a
      · subst hab
        rw [Function.update_same]
        exact ((hm' k _ hr).2 _ rfl).insert hk hval
      · rw [Function.update_noteq hab]
        exact (hm' k _ hr).2 _ rfl

theorem viewValid_empty : ViewValid empty h := fun t ht => by
  cases ht
  intro k r hr
  simp [GoMap.mapValues_empty] at hr

end Valid

/-! ## The invariant -/

/-- The file holds the document of the table, or is missing while the table is empty. -/
def Synced (s : StoreState) : Prop :=
  s.disk.file = some (.json (marshalTable (s.store.view s.heap))) ∨
    (s.disk.file = none ∧ s.store.view s.heap = some ∅)

/-- Writes never fail, the table and the file are valid, and with no flush pending the file
holds the table, unless `Load` has not run yet and the table is still empty. -/
def FlushInv (s : StoreState) : Prop :=
  s.disk.fault = none ∧ ViewValid s.store s.heap ∧ DiskValid s.disk ∧
    (s.store.pending = 0 → Synced s ∨ (s.loaded = false ∧ s.store.view s.heap = some ∅))

theorem FlushInv.start {h : Heap} {d : Disk} (hd : d.fault = none) (hdv : DiskValid d) :
    FlushInv (StoreState.start h d) :=
  ⟨hd, viewValid_empty, hdv, fun _ => .inr ⟨rfl, rfl⟩⟩

theorem synced_of_write {s : StoreState} (hv : ViewValid s.store s.heap)
    (hf : s.disk.file = some (.json (marshalTable (s.store.view s.heap)))) :
    DiskValid s.disk ∧ Synced s :=
  ⟨.inr ⟨_, hv, hf⟩, .inl hf⟩

section Load

variable {s : StoreState} (hd : s.disk.fault = none)
include hd

theorem view_load_none (hf : s.disk.file = none) :
    (s.store.load s.disk).2.view s.heap = some ∅ := by
  simp [MetadataStore.load, hd, hf, MetadataStore.view, GoMap.mapValues_empty]

theorem viewValid_load (hv : ViewValid s.store s.heap) (hdv : DiskValid s.disk) :
    ViewValid (s.store.load s.disk).2 s.heap := by
  rcases hdv with hf | ⟨T, hT, hf⟩
  · intro t ht
    rw [view_load_none hd hf] at ht
    cases ht
    intro k r hr
    simp at hr
  · intro t ht
    rw [(MetadataStore.view_load_marshal hT hd hf s.heap).2] at ht
    obtain ⟨t0, rfl, rfl⟩ := Option.map_eq_some'.mp ht
    intro k r hr
    rw [GoMap.lookup_insertAll_of_perm (List.Perm.refl _)] at hr
    cases h0 : t0.lookup k with
    | some r0 =>
      rw [h0] at hr
      cases hr
      exact hT t0 rfl k _ h0
    | none =>
      rw [h0] at hr
      cases hv' : s.store.view s.heap with
      | none => simp [hv'] at hr
      | some t1 =>
        rw [hv'] at hr
        exact hv t1 hv' k r hr

/-- **`Load` with no flush pending leaves the file in sync**: the file held the table, or was
one an earlier `Save` wrote while the table was still empty. -/
theorem synced_load (hv : ViewValid s.store s.heap) (hdv : DiskValid s.disk)
    (hs : Synced s ∨ s.store.view s.heap = some ∅) :
    Synced (StoreOp.load.run s) := by
  have hnone : s.disk.file = none → Synced (StoreOp.load.run s) := fun hf =>
    .inr ⟨hf, view_load_none hd hf⟩
  rcases hs with (hf | ⟨hf, -⟩) | he
  · -- the file held the table: loading it writes every record over itself
    refine .inl ?_
    show s.disk.file = some (.json (marshalTable ((s.store.load s.disk).2.view s.heap)))
    rw [(MetadataStore.view_load_marshal hv hd hf s.heap).2, hf]
    cases s.store.view s.heap <;> simp [GoMap.insertAll_sortedEntries_self]
  · exact hnone hf
  · -- the table is empty: loading the file makes the table the one it holds
    rcases hdv with hf | ⟨T, hT, hf⟩
    · exact hnone hf
    · refine .inl ?_
      show s.disk.file = some (.json (marshalTable ((s.store.load s.disk).2.view s.heap)))
      rw [(MetadataStore.view_load_marshal hT hd hf s.heap).2, hf, he]
      cases T <;> simp [GoMap.insertAll_of_perm (List.Perm.refl _)]

end Load

/-- **One valid operation or one flush keeps the invariant.** -/
theorem FlushInv.step {s s' : StoreState} (hi : FlushInv s) (h : StoreStep StoreOp.Valid s s') :
    FlushInv s' := by
  obtain ⟨hd, hv, hdv, hp⟩ := hi
  cases h with
  | flush hpos =>
    have hw := synced_of_write (s := s.flush) hv
      (by simp only [StoreState.flush, MetadataStore.saveAsync, hd]; rfl)
    exact ⟨by simp [StoreState.flush, MetadataStore.saveAsync, hd], hv, hw.1,
      fun _ => .inl hw.2⟩
  | op o ho =>
    cases o with
    | set vmid labels => exact ⟨hd, hv.set ho.1 ho.2, hdv, by simp [StoreOp.run]⟩
    | setLabel vmid key value =>
      exact ⟨hd, hv.setLabel ho.1 ho.2.1 ho.2.2, hdv, by simp [StoreOp.run]⟩
    | delete vmid => exact ⟨hd, hv.delete vmid, hdv, by simp [StoreOp.run]⟩
    | load =>
      refine ⟨hd, viewValid_load hd hv hdv, hdv, fun h0 => .inl (synced_load hd hv hdv ?_)⟩
      rcases hp (by simpa [StoreOp.run] using h0) with hs | ⟨-, he⟩
      · exact .inl hs
      · exact .inr he
    | save =>
      have hw := synced_of_write (s := StoreOp.save.run s) hv
        (by simp [StoreOp.run, MetadataStore.save, hd])
      exact ⟨by simp [StoreOp.run, MetadataStore.save, hd], hv, hw.1, fun _ => .inl hw.2⟩

/-- **The invariant holds along every run.** -/
theorem StoreRuns.flushInv {s s' : StoreState} (hrun : StoreRuns StoreOp.Valid s s')
    (hi : FlushInv s) : FlushInv s' := by
  induction hrun with
  | refl => exact hi
  | tail _ hstep ih => exact ih.step hstep

/-- **Once `Load` has run and the flushes have drained, the file gives back the table.** In every
run of a backend whose vmids are ints and whose labels are valid UTF-8, from a new store and a
file an earlier `Save` wrote (or none), with every write succeeding: at every point after the
first `Load` where no flush is pending, loading the file into a new store returns nil and gives
the table the store holds (a missing file gives the empty table). -/
theorem drained_disk_restores {h : Heap} {d : Disk} {s : StoreState} (hd : d.fault = none)
    (hdv : d.file = none ∨
      ∃ T, (∀ t, T = some t → TableValid t) ∧ d.file = some (.json (marshalTable T)))
    (hrun : StoreRuns StoreOp.Valid (StoreState.start h d) s) (hl : s.loaded = true)
    (hp : s.store.pending = 0) :
    (MetadataStore.empty.load s.disk).1 = .ok () ∧
      ∀ h', (MetadataStore.empty.load s.disk).2.view h' = s.store.view s.heap := by
  obtain ⟨hd', hv, -, hsync⟩ := hrun.flushInv (FlushInv.start hd hdv)
  rcases hsync hp with (hf | ⟨hf, he⟩) | ⟨hl', -⟩
  · exact ⟨(MetadataStore.empty_load_marshal hv hd' hf s.heap).1,
      fun h' => (MetadataStore.empty_load_marshal hv hd' hf h').2⟩
  · refine ⟨by simp [MetadataStore.load, hd', hf], fun h' => ?_⟩
    rw [he]
    simp [MetadataStore.load, hd', hf, MetadataStore.empty, MetadataStore.view, GoMap.mapValues_empty]
  · rw [hl] at hl'
    cases hl'

/-- The run: `Load` with no file, `SetLabel(1, "k", "\xff")`, and its flush. -/
def ffRun : StoreState :=
  ((StoreOp.setLabel 1 (.lit "k") [0xFF]).run
    (StoreOp.load.run (StoreState.start (fun _ => ∅) ⟨none, none⟩))).flush

/-- With a label value that is not valid UTF-8 the drained file gives back another table. -/
theorem drained_disk_coerces_label :
    StoreRuns (fun _ _ => True) (StoreState.start (fun _ => ∅) ⟨none, none⟩) ffRun ∧
    ffRun.loaded = true ∧ ffRun.store.pending = 0 ∧
    ffRun.store.getLabel ffRun.heap 1 (.lit "k") = [0xFF] ∧
    (MetadataStore.empty.load ffRun.disk).2.getLabel (fun _ => ∅) 1 (.lit "k") =
      replacementChar :=
  ⟨.tail (.tail (.single (.op _ .load trivial)) (.op _ (.setLabel 1 (.lit "k") [0xFF]) trivial))
    (.flush _ (by decide)), rfl, by decide, by decide, by decide⟩

/-- The run: `Load` with no file, `SetLabel(7, "env", "prod")`, and its flush. -/
def envRun : StoreState :=
  ((StoreOp.setLabel 7 (.lit "env") (.lit "prod")).run
    (StoreOp.load.run (StoreState.start (fun _ => ∅) ⟨none, none⟩))).flush

theorem drained_disk_restores_env :
    (⟨none, none⟩ : Disk).fault = none ∧
    ((⟨none, none⟩ : Disk).file = none ∨ ∃ T, (∀ t, T = some t → TableValid t) ∧
      (⟨none, none⟩ : Disk).file = some (.json (marshalTable T))) ∧
    StoreRuns StoreOp.Valid (StoreState.start (fun _ => ∅) ⟨none, none⟩) envRun ∧
    envRun.loaded = true ∧ envRun.store.pending = 0 ∧
    ((MetadataStore.empty.load envRun.disk).1 = .ok () ∧
      ∀ h', (MetadataStore.empty.load envRun.disk).2.view h' = envRun.store.view envRun.heap) :=
  have hrun : StoreRuns StoreOp.Valid (StoreState.start (fun _ => ∅) ⟨none, none⟩) envRun :=
    .tail (.tail (.single (.op _ .load trivial))
      (.op _ (.setLabel 7 (.lit "env") (.lit "prod")) ⟨by decide, by decide, by decide⟩))
      (.flush _ (by decide))
  ⟨rfl, .inl rfl, hrun, rfl, by decide,
    drained_disk_restores rfl (.inl rfl) hrun rfl (by decide)⟩

end Cosmos

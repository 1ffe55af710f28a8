import CosmosRuntime.Proxmox.Reachable

/-!
# What the lifecycle calls do to the metadata table

`Create` records the caller's labels and the name under the VMID it took, `Remove` drops the
record of the container it deleted, and `Recreate` runs the two in turn. The table is read by
value (`MetadataStore.view`, `record?`): a record `Set` stored without a copy shows the caller's
map as it is now.

* `remove_eq`: `Remove` as the source reads;
* **`remove_follows_delete_reply`**: with a client, `Remove` drops the record exactly when the
  reply to its DELETE is a success, whatever the reply to its `Stop`;
* **`create_record`**: what a successful `Create` leaves in the record of its VMID and in the
  others, and that a failed one leaves the table alone;
* **`create_error_cases`**: a failed `Create` either changed nothing or, failing at its POST,
  keeps the VMID it took;
* **`create_writes_caller_labels`**: `Create` writes the name into the caller's map, and so into
  every record that holds that map;
* **`recreate_after_remove`**: `Recreate` runs `Create` after a `Remove` that failed, and the
  record of the container it did not remove stays.
-/

namespace Cosmos

variable (env : Env)

/-! ## Panics come from the nil client -/

theorem apiRequest_client_of_panic {method path : GoString}
    {body : Option (GoMap GoString JsonValue)} {s : Sys} {m : GoString}
    (h : (apiRequest env method path body s).1 = .panic m) : s.rt.client = none := by
  cases hc : s.rt.client with
  | none => rfl
  | some _ => exact absurd h (apiRequest_ne_panic env method path body s hc m)

theorem statusRequest_client_of_panic {action verb id : GoString} {s : Sys} {m : GoString}
    (h : (statusRequest action verb env id s).1 = .panic m) : s.rt.client = none := by
  unfold statusRequest at h
  revert h
  rcases parseInt id with _ | vmid <;> intro h
  · cases h
  · dsimp only at h
    rw [GoM.bind_ok (GoM.gets_apply _ _)] at h
    rcases ha : apiRequest env (.lit "POST") (vmPath s.rt.node vmid ++ .lit "/status/" ++ action)
      none s with ⟨_ | _ | _, s'⟩
    · rw [GoM.bind_ok (GoM.wrap_ok _ ha)] at h; cases h
    · rw [GoM.bind_error (GoM.wrap_error _ ha)] at h; cases h
    · exact apiRequest_client_of_panic env (congrArg Prod.fst ha)

/-! ## A runtime with a stale record -/

/-- A metadata file that still holds the record `{"old": "x"}` of VMID 100. -/
def staleDisk : Disk :=
  ⟨some (.json (.object [(.lit "100", .object [(.lit "old", .string (.lit "x"))])])), none⟩

/-- The runtime `New(demoConfig)` made over that file, connected to a node with no containers:
`Connect` loaded the stale record, and the cursor is at 100. -/
def staleSys : Sys := runCall (replyEnv (.array [])) .connect { demoFresh with disk := staleDisk }

/-- A descriptor with no labels, named `web`. -/
def webConfig : ContainerConfig := ⟨.lit "web", .lit "debian", [], none, [], 0, 0, 0, false⟩

theorem staleSys_reachable : Reachable (fun _ => True) staleSys :=
  .call _ _ trivial
    (@Reachable.init _ demoConfig (initRuntime demoConfig) ⟨by decide, by decide⟩ rfl _
      staleDisk)

/-! ## Remove -/

/-- **`Remove` as the source reads**: parse the id, stop (its error ignored, a panic not), then
delete. -/
theorem remove_eq (id : GoString) (s : Sys) : remove env id s =
    match parseInt id with
    | none => (.error (.lit "invalid container ID: " ++ id), s)
    | some vmid =>
      match stop env id s with
      | (.panic m, s1) => (.panic m, s1)
      | (_, s1) => deleteContainer env id vmid s1 := by
  unfold remove
  rcases parseInt id with _ | vmid
  · rfl
  · rcases hs : stop env id s with ⟨_ | _ | _, s1⟩
    · exact GoM.bind_ok (GoM.attempt_ok hs) _
    · exact GoM.bind_ok (GoM.attempt_error hs) _
    · exact GoM.bind_panic (GoM.attempt_panic hs) _

theorem deleteContainer_eq (id : GoString) (vmid : Int) (s : Sys) : deleteContainer env id vmid s =
    match apiRequest env (.lit "DELETE") (vmPath s.rt.node vmid) none s with
    | (.ok _, s2) => (.ok (), s2.setMetadata (s2.rt.metadata.delete vmid))
    | (.error e, s2) => (.error (.lit "failed to delete container " ++ id ++ .lit ": " ++ e), s2)
    | (.panic m, s2) => (.panic m, s2) := by
  simp only [deleteContainer, GoM.bind_apply, GoM.bind, GoM.gets_apply, GoM.wrap]
  rcases apiRequest env (.lit "DELETE") (vmPath s.rt.node vmid) none s with ⟨_ | _ | _, s'⟩ <;>
    rfl

theorem view_eq_of_held {s t : Sys} (h : t.held = s.held) :
    t.rt.metadata.view t.heap = s.rt.metadata.view s.heap := by
  simp only [Sys.held, Prod.mk.injEq] at h
  rw [h.1, h.2.1]

theorem deleteContainer_record (id : GoString) (vmid : Int) {s s1 : Sys} (hk : s1.held = s.held) :
    (∀ s', deleteContainer env id vmid s1 = (.ok (), s') →
      ∀ w, s'.rt.metadata.record? s'.heap w =
        if w = vmid then none else s.rt.metadata.record? s.heap w) ∧
    (∀ e s', deleteContainer env id vmid s1 = (.error e, s') →
      s'.rt.metadata.view s'.heap = s.rt.metadata.view s.heap) ∧
    (∀ m s', deleteContainer env id vmid s1 = (.panic m, s') →
      s.rt.client = none ∧ s'.rt.metadata.view s'.heap = s.rt.metadata.view s.heap) := by
  have hk2 := keeps_held_apiRequest env (.lit "DELETE") (vmPath s1.rt.node vmid) none s1
  have hrt : s1.rt = s.rt := congrArg Prod.fst hk
  rw [deleteContainer_eq]
  rcases ha : apiRequest env (.lit "DELETE") (vmPath s1.rt.node vmid) none s1 with
    ⟨_ | _ | _, s2⟩ <;> rw [ha] at hk2 <;> dsimp only at hk2 ⊢ <;>
    refine ⟨fun s' h w => ?_, fun _ s' h => ?_, fun _ s' h => ?_⟩ <;> cases h
  · have h2 := hk2.trans hk
    simp only [Sys.held, Prod.mk.injEq] at h2
    rw [Sys.setMetadata_rt_metadata, Sys.setMetadata_heap, MetadataStore.record?_delete, h2.1,
      h2.2.1]
  · exact view_eq_of_held (hk2.trans hk)
  · exact ⟨hrt ▸ apiRequest_client_of_panic env (congrArg Prod.fst ha),
      view_eq_of_held (hk2.trans hk)⟩

/-- **What `Remove` does to the table.** When it returns nil the id parsed, the record of its
vmid is gone and every other record is as it was; when it returns an error the table is as it
was, whether or not the `Stop` before failed; and it panics only when there is no client, leaving
the table as it was. -/
theorem remove_record (id : GoString) (s : Sys) :
    (∀ s', remove env id s = (.ok (), s') → ∃ vmid, parseInt id = some vmid ∧
      ∀ w, s'.rt.metadata.record? s'.heap w =
        if w = vmid then none else s.rt.metadata.record? s.heap w) ∧
    (∀ e s', remove env id s = (.error e, s') →
      s'.rt.metadata.view s'.heap = s.rt.metadata.view s.heap) ∧
    (∀ m s', remove env id s = (.panic m, s') →
      s.rt.client = none ∧ s'.rt.metadata.view s'.heap = s.rt.metadata.view s.heap) := by
  rw [remove_eq]
  rcases hid : parseInt id with _ | vmid
  · refine ⟨fun _ h => ?_, fun _ _ h => ?_, fun _ _ h => ?_⟩ <;> cases h
    rfl
  · have hk := keeps_held_stop env id s
    rcases hs : stop env id s with ⟨r, s1⟩
    rw [hs] at hk
    dsimp only at hk ⊢
    obtain ⟨hok, herr, hpanic⟩ := deleteContainer_record env id vmid hk
    rcases r with _ | _ | m
    · exact ⟨fun s' h => ⟨vmid, rfl, hok s' h⟩, herr, hpanic⟩
    · exact ⟨fun s' h => ⟨vmid, rfl, hok s' h⟩, herr, hpanic⟩
    · refine ⟨fun _ h => ?_, fun _ _ h => ?_, fun _ _ h => ?_⟩ <;> cases h
      exact ⟨statusRequest_client_of_panic env (congrArg Prod.fst hs), view_eq_of_held hk⟩

theorem deleteContainer_error (id : GoString) (vmid : Int) (s : Sys) {e : GoString} {s' : Sys}
    (h : deleteContainer env id vmid s = (.error e, s')) :
    s'.held = s.held ∧ ∃ e', e = .lit "failed to delete container " ++ id ++ .lit ": " ++ e' := by
  have hk := keeps_held_apiRequest env (.lit "DELETE") (vmPath s.rt.node vmid) none s
  rw [deleteContainer_eq] at h
  rcases ha : apiRequest env (.lit "DELETE") (vmPath s.rt.node vmid) none s with
    ⟨_ | _ | _, s2⟩ <;> rw [ha] at h hk <;> cases h
  exact ⟨hk, _, rfl⟩

theorem remove_error_cases (id : GoString) (s : Sys) {e : GoString} {s1 : Sys}
    (h : remove env id s = (.error e, s1)) :
    s1.held = s.held ∧ ((parseInt id = none ∧ e = .lit "invalid container ID: " ++ id) ∨
      ∃ vmid e', parseInt id = some vmid ∧
        e = .lit "failed to delete container " ++ id ++ .lit ": " ++ e') := by
  rw [remove_eq] at h
  rcases hid : parseInt id with _ | vmid <;> rw [hid] at h <;> dsimp only at h
  · cases h
    exact ⟨rfl, .inl ⟨rfl, rfl⟩⟩
  have hk := keeps_held_stop env id s
  rcases hs : stop env id s with ⟨r, s2⟩
  rw [hs] at h hk
  have hd : deleteContainer env id vmid s2 = (.error e, s1) := by
    rcases r with _ | _ | _
    · exact h
    · exact h
    · cases h
  obtain ⟨hk', e', he⟩ := deleteContainer_error env id vmid s2 hd
  exact ⟨hk'.trans hk, .inr ⟨vmid, e', rfl, he⟩⟩

/-- `Remove` does not check the flag: in a runtime fresh from `New`, `Remove("100")`
dereferences the nil client at its `Stop` instead of returning. -/
theorem remove_when_disconnected :
    Reachable (fun _ => True) demoFresh ∧ demoFresh.rt.connected = false ∧
      remove (replyEnv .null) (.lit "100") demoFresh = (.panic nilDereference, demoFresh) := by
  have hid : parseInt (.lit "100") = some 100 := by decide
  refine ⟨demoFresh_reachable _, rfl, ?_⟩
  rw [remove_eq, hid]
  dsimp only
  rw [show stop (replyEnv .null) (.lit "100") demoFresh = (.panic nilDereference, demoFresh) from
    statusRequest_of_client_none _ hid rfl rfl]

/-! ## Create -/

section Create

variable (c : ContainerConfig) (vmid : Int) (s : Sys)

theorem view_ofRef_of_labelsLen {h : Heap} {r : LabelsRef} (hl : 0 < labelsLen h r) :
    (Record.ofRef r).view h = some (labelsOf h r) := by
  cases r with
  | none => exact absurd hl (lt_irrefl 0)
  | some a => rfl

theorem recordLabels_get :
    (recordLabels c vmid s).rt.metadata.get (recordLabels c vmid s).heap vmid =
      some ((if 0 < labelsLen s.heap c.labels then labelsOf s.heap c.labels
        else (s.rt.metadata.get s.heap vmid).getD ∅).insert cosmosName c.name) := by
  unfold recordLabels setLabel createSet
  simp only [GoM.modify_apply, MetadataStore.get]
  split_ifs with hl
  · simp only [Sys.setMetadata_rt_metadata, Sys.setMetadata_heap]
    rw [MetadataStore.record?_setLabel_self, MetadataStore.record?_set, if_pos rfl,
      view_ofRef_of_labelsLen hl]
    rfl
  · simp only [Sys.setMetadata_rt_metadata]
    rw [MetadataStore.record?_setLabel_self]
    rcases s.rt.metadata.record? s.heap vmid with _ | _ | _ <;> rfl

theorem recordLabels_record_of_ne {w : Int} (hw : w ≠ vmid)
    (hfresh : ∀ a, c.labels = some a → s.rt.metadata.recordAt w ≠ some (.caller a))
    (hshare : ∀ a, s.rt.metadata.recordAt vmid = some (.caller a) →
      s.rt.metadata.recordAt w ≠ some (.caller a)) :
    (recordLabels c vmid s).rt.metadata.record? (recordLabels c vmid s).heap w =
      s.rt.metadata.record? s.heap w := by
  unfold recordLabels setLabel createSet
  simp only [GoM.modify_apply]
  split_ifs with hl
  · have hshare' : ∀ a, (s.rt.metadata.set vmid c.labels).recordAt vmid = some (.caller a) →
        (s.rt.metadata.set vmid c.labels).recordAt w ≠ some (.caller a) := fun a ha => by
      rw [MetadataStore.recordAt_set, if_pos rfl] at ha
      rw [MetadataStore.recordAt_set, if_neg hw]
      cases hc : c.labels with
      | none => rw [hc] at ha; cases ha
      | some b => rw [hc] at ha; cases ha; exact hfresh a hc
    simp only [Sys.setMetadata_rt_metadata, Sys.setMetadata_heap]
    rw [MetadataStore.record?_setLabel_of_ne hw _ _ hshare', MetadataStore.record?_set, if_neg hw]
  · exact MetadataStore.record?_setLabel_of_ne hw _ _ hshare

theorem recordLabels_recordAt_of_ne {w : Int} (hw : w ≠ vmid) :
    (recordLabels c vmid s).rt.metadata.recordAt w = s.rt.metadata.recordAt w := by
  unfold recordLabels setLabel createSet
  simp only [GoM.modify_apply]
  split_ifs
  · simp only [Sys.setMetadata_rt_metadata]
    rw [MetadataStore.recordAt_setLabel_of_ne hw, MetadataStore.recordAt_set, if_neg hw]
  · exact MetadataStore.recordAt_setLabel_of_ne hw _ _

/-- **What `Create` does to the table.** When it returns `v`, `v` is the VMID it took; the record
of that VMID holds the caller's labels with `cosmos-name` set to the name, or, when the caller's
map is nil or empty (and `Set` is skipped), the labels the record held before with the name; and
every other record is as it was, provided no other record holds the map `SetLabel` writes into
(`Set` stores the caller's map without a copy). When it returns an error the table is as it was. -/
theorem create_record
    (hfresh : ∀ a, c.labels = some a → ∀ w, w ≠ s.rt.vmidCounter →
      s.rt.metadata.recordAt w ≠ some (.caller a))
    (hshare : ∀ a w, s.rt.metadata.recordAt s.rt.vmidCounter = some (.caller a) →
      w ≠ s.rt.vmidCounter → s.rt.metadata.recordAt w ≠ some (.caller a)) :
    (∀ r s', create env c s = (.ok r, s') →
      r = itoa s.rt.vmidCounter ∧
      s'.rt.metadata.get s'.heap s.rt.vmidCounter =
        some ((if 0 < labelsLen s.heap c.labels then labelsOf s.heap c.labels
          else (s.rt.metadata.get s.heap s.rt.vmidCounter).getD ∅).insert cosmosName c.name) ∧
      ∀ w, w ≠ s.rt.vmidCounter →
        s'.rt.metadata.record? s'.heap w = s.rt.metadata.record? s.heap w) ∧
    (∀ e s', create env c s = (.error e, s') →
      s'.rt.metadata.view s'.heap = s.rt.metadata.view s.heap) := by
  have hpost : ∀ r s2, createPost env c s.rt.vmidCounter
      (s.setRt { s.rt with vmidCounter := s.rt.vmidCounter + 1 }) = (r, s2) →
      s2.rt.metadata = s.rt.metadata ∧ s2.heap = s.heap := fun r s2 h => by
    have hk := keeps_held_createPost env c s.rt.vmidCounter
      (s.setRt { s.rt with vmidCounter := s.rt.vmidCounter + 1 })
    rw [h] at hk
    simp only [Sys.held, Prod.mk.injEq] at hk
    exact ⟨by rw [hk.1]; rfl, hk.2.1⟩
  rw [create_eq]
  by_cases hc : s.rt.connected = false
  · rw [if_pos hc]
    refine ⟨fun _ _ h => ?_, fun _ _ h => ?_⟩ <;> cases h
    rfl
  rw [if_neg hc]
  by_cases hv : s.rt.config.vmidEnd ≤ s.rt.vmidCounter
  · rw [if_pos hv]
    refine ⟨fun _ _ h => ?_, fun _ _ h => ?_⟩ <;> cases h
    rfl
  rw [if_neg hv]
  rcases hp : createPost env c s.rt.vmidCounter
    (s.setRt { s.rt with vmidCounter := s.rt.vmidCounter + 1 }) with ⟨_ | _ | _, s2⟩ <;>
    obtain ⟨hm, hh⟩ := hpost _ _ hp <;> dsimp only <;>
    refine ⟨fun _ _ h => ?_, fun _ _ h => ?_⟩ <;> cases h
  · refine ⟨rfl, by rw [recordLabels_get, hm, hh], fun w hw => ?_⟩
    rw [recordLabels_record_of_ne c _ s2 hw, hm, hh] <;> rw [hm]
    · exact fun a ha => hfresh a ha w hw
    · exact fun a ha => hshare a w ha hw
  · rw [hm, hh]

theorem createPost_eq : createPost env c vmid s =
    match apiRequest env (.lit "POST") (lxcPath s.rt.node)
        (some (buildLXCConfig env s.rt vmid c)) s with
    | (.ok _, s2) => (.ok (), s2)
    | (.error e, s2) => (.error (.lit "failed to create LXC container: " ++ e), s2)
    | (.panic m, s2) => (.panic m, s2) := by
  simp only [createPost, GoM.bind_apply, GoM.bind, GoM.gets_apply, GoM.wrap]
  rcases apiRequest env (.lit "POST") (lxcPath s.rt.node) (some (buildLXCConfig env s.rt vmid c))
    s with ⟨_ | _ | _, s'⟩ <;> rfl

theorem createPost_error {e : GoString} {s2 : Sys} (h : createPost env c vmid s = (.error e, s2)) :
    ∃ e', e = .lit "failed to create LXC container: " ++ e' := by
  rw [createPost_eq] at h
  split at h
  · cases h
  · cases h; exact ⟨_, rfl⟩
  · cases h

theorem create_ok_cases {r : GoString} {s' : Sys} (h : create env c s = (.ok r, s')) :
    s.rt.connected = true ∧ s.rt.vmidCounter < s.rt.config.vmidEnd ∧ r = itoa s.rt.vmidCounter ∧
      ∃ s2, createPost env c s.rt.vmidCounter
          (s.setRt { s.rt with vmidCounter := s.rt.vmidCounter + 1 }) = (.ok (), s2) ∧
        s' = recordLabels c s.rt.vmidCounter s2 := by
  rw [create_eq] at h
  by_cases hc : s.rt.connected = false
  · rw [if_pos hc] at h; cases h
  rw [if_neg hc] at h
  by_cases hv : s.rt.config.vmidEnd ≤ s.rt.vmidCounter
  · rw [if_pos hv] at h; cases h
  rw [if_neg hv] at h
  rcases hp : createPost env c s.rt.vmidCounter
    (s.setRt { s.rt with vmidCounter := s.rt.vmidCounter + 1 }) with ⟨_ | _ | _, s2⟩ <;>
    rw [hp] at h <;> cases h
  exact ⟨by simpa using hc, not_le.mp hv, rfl, s2, rfl, rfl⟩

theorem create_recordAt_of_ne {r : GoString} {s' : Sys} (h : create env c s = (.ok r, s'))
    {w : Int} (hw : w ≠ s.rt.vmidCounter) : s'.rt.metadata.recordAt w = s.rt.metadata.recordAt w := by
  obtain ⟨-, -, -, s2, hp, rfl⟩ := create_ok_cases env c s h
  have hk := keeps_held_createPost env c s.rt.vmidCounter
    (s.setRt { s.rt with vmidCounter := s.rt.vmidCounter + 1 })
  rw [hp] at hk
  have hm : s2.rt.metadata = s.rt.metadata := congrArg (fun x => x.1.metadata) hk
  rw [recordLabels_recordAt_of_ne c _ s2 hw, hm]

end Create

/-- `Create` with no labels reuses VMID 100, and the label of the stale record survives. -/
theorem create_keeps_stale_label :
    Reachable (fun _ => True) staleSys ∧
      (create (replyEnv (.array [])) webConfig staleSys).1 = .ok (.lit "100") ∧
      (create (replyEnv (.array [])) webConfig staleSys).2.rt.metadata.getLabel
        (create (replyEnv (.array [])) webConfig staleSys).2.heap 100 (.lit "old") = .lit "x" :=
  ⟨staleSys_reachable, by decide, by decide⟩

/-! ## How `Create` fails, and the caller's map -/

/-- **How `Create` fails.** Before it takes a VMID, with one of the two guard errors and the
state as it was; or at the POST, with the error of the request behind the prefix, and then the
VMID stays taken: the cursor has moved on by one, and nothing else of the runtime, the callers'
maps or the disk has changed. -/
theorem create_error_cases (c : ContainerConfig) (s : Sys) {e : GoString} {s' : Sys}
    (h : create env c s = (.error e, s')) :
    (s' = s ∧ (e = .lit "not connected to Proxmox" ∨ e = .lit "VMID range exhausted")) ∨
      (s.rt.connected = true ∧ s.rt.vmidCounter < s.rt.config.vmidEnd ∧
        (∃ e', e = .lit "failed to create LXC container: " ++ e') ∧
        s'.rt = { s.rt with vmidCounter := s.rt.vmidCounter + 1 } ∧ s'.heap = s.heap ∧
        s'.disk = s.disk) := by
  rw [create_eq] at h
  by_cases hc : s.rt.connected = false
  · rw [if_pos hc] at h; cases h; exact .inl ⟨rfl, .inl rfl⟩
  rw [if_neg hc] at h
  by_cases hv : s.rt.config.vmidEnd ≤ s.rt.vmidCounter
  · rw [if_pos hv] at h; cases h; exact .inl ⟨rfl, .inr rfl⟩
  rw [if_neg hv] at h
  have hk := keeps_held_createPost env c s.rt.vmidCounter
    (s.setRt { s.rt with vmidCounter := s.rt.vmidCounter + 1 })
  rcases hp : createPost env c s.rt.vmidCounter
    (s.setRt { s.rt with vmidCounter := s.rt.vmidCounter + 1 }) with ⟨_ | _ | _, s2⟩ <;>
    rw [hp] at h hk <;> cases h
  simp only [Sys.held, Prod.mk.injEq] at hk
  exact .inr ⟨by simpa using hc, not_le.mp hv, createPost_error env c _ _ hp, hk.1, hk.2.1, hk.2.2⟩

/-- With every request failing, `Create` at the stale state fails at its POST and keeps VMID 100
taken. -/
theorem create_error_cases_down :
    create downEnv webConfig staleSys =
      (.error (.lit "failed to create LXC container: connection refused"),
        (create downEnv webConfig staleSys).2) ∧
    (((create downEnv webConfig staleSys).2 = staleSys ∧
        (GoString.lit "failed to create LXC container: connection refused" =
            .lit "not connected to Proxmox" ∨
          GoString.lit "failed to create LXC container: connection refused" =
            .lit "VMID range exhausted")) ∨
      (staleSys.rt.connected = true ∧ staleSys.rt.vmidCounter < staleSys.rt.config.vmidEnd ∧
        (∃ e', GoString.lit "failed to create LXC container: connection refused" =
          .lit "failed to create LXC container: " ++ e') ∧
        (create downEnv webConfig staleSys).2.rt =
          { staleSys.rt with vmidCounter := staleSys.rt.vmidCounter + 1 } ∧
        (create downEnv webConfig staleSys).2.heap = staleSys.heap ∧
        (create downEnv webConfig staleSys).2.disk = staleSys.disk)) :=
  have h : create downEnv webConfig staleSys =
      (.error (.lit "failed to create LXC container: connection refused"),
        (create downEnv webConfig staleSys).2) := Prod.ext (by decide) rfl
  ⟨h, create_error_cases downEnv webConfig staleSys h⟩

/-- **`Create` writes the name into the caller's map.** With a non-empty label map, `Set`
stores the caller's map itself and `SetLabel` writes `cosmos-name` into it: afterwards the
caller's map holds the name, and every record that held that map before reads it, renamed. -/
theorem create_writes_caller_labels (c : ContainerConfig) (s : Sys) {a : Nat}
    (ha : c.labels = some a) (hl : 0 < labelsLen s.heap c.labels) {r : GoString} {s' : Sys}
    (h : create env c s = (.ok r, s')) :
    s'.heap a = (s.heap a).insert cosmosName c.name ∧
      ∀ w, s.rt.metadata.recordAt w = some (.caller a) →
        s'.rt.metadata.get s'.heap w = some ((s.heap a).insert cosmosName c.name) := by
  obtain ⟨-, -, -, s2, hp, rfl⟩ := create_ok_cases env c s h
  have hk := keeps_held_createPost env c s.rt.vmidCounter
    (s.setRt { s.rt with vmidCounter := s.rt.vmidCounter + 1 })
  rw [hp] at hk
  simp only [Sys.held, Prod.mk.injEq] at hk
  have hm : s2.rt.metadata = s.rt.metadata := by rw [hk.1]; rfl
  have hh : s2.heap = s.heap := hk.2.1
  have hrec : (s.rt.metadata.set s.rt.vmidCounter c.labels).recordAt s.rt.vmidCounter =
      some (.caller a) := by
    rw [MetadataStore.recordAt_set, if_pos rfl, ha]; rfl
  obtain ⟨hheap, hat⟩ := MetadataStore.setLabel_of_caller (h := s.heap) hrec cosmosName c.name
  unfold recordLabels setLabel createSet
  simp only [GoM.modify_apply, hh, hm, if_pos hl, Sys.setMetadata_rt_metadata, Sys.setMetadata_heap]
  rw [hheap, Function.update_same]
  refine ⟨rfl, fun w hw => ?_⟩
  rw [MetadataStore.get_of_recordAt_caller (a := a), Function.update_same]
  rw [hat, MetadataStore.recordAt_set]
  split_ifs
  · rw [ha]; rfl
  · exact hw

/-- Every label map of the callers is `{"app": "web"}`: a caller that passes map 0 for two
containers. -/
def sharedSys : Sys :=
  { staleSys with heap := fun _ => (∅ : Labels).insert (.lit "app") (.lit "web") }

/-- The descriptor `web` with the caller's map 0. -/
def sharedConfig : ContainerConfig := { webConfig with labels := some 0 }

/-- The state after `Create(web)`: VMID 100 holds the caller's map 0. -/
def sharedSys1 : Sys := (create (replyEnv (.array [])) sharedConfig sharedSys).2

/-- `Create(db)` with the same map takes VMID 101 and renames the container of VMID 100: its
record is map 0, which now reads `cosmos-name: db`. -/
theorem create_renames_shared_record :
    sharedSys1.rt.metadata.recordAt 100 = some (.caller 0) ∧
    { sharedConfig with name := .lit "db" }.labels = some 0 ∧
    0 < labelsLen sharedSys1.heap { sharedConfig with name := .lit "db" }.labels ∧
    create (replyEnv (.array [])) { sharedConfig with name := .lit "db" } sharedSys1 =
      (.ok (.lit "101"), (create (replyEnv (.array [])) { sharedConfig with name := .lit "db" }
        sharedSys1).2) ∧
    ((create (replyEnv (.array [])) { sharedConfig with name := .lit "db" } sharedSys1).2.heap 0 =
        (sharedSys1.heap 0).insert cosmosName (.lit "db") ∧
      ∀ w, sharedSys1.rt.metadata.recordAt w = some (.caller 0) →
        (create (replyEnv (.array [])) { sharedConfig with name := .lit "db" }
          sharedSys1).2.rt.metadata.get
          (create (replyEnv (.array [])) { sharedConfig with name := .lit "db" } sharedSys1).2.heap
          w = some ((sharedSys1.heap 0).insert cosmosName (.lit "db"))) :=
  have h : create (replyEnv (.array [])) { sharedConfig with name := .lit "db" } sharedSys1 =
      (.ok (.lit "101"), (create (replyEnv (.array [])) { sharedConfig with name := .lit "db" }
        sharedSys1).2) := Prod.ext (by decide) rfl
  ⟨by decide, rfl, by decide, h,
    create_writes_caller_labels _ { sharedConfig with name := .lit "db" } sharedSys1 rfl
      (by decide) h⟩

/-! ## Recreate -/

theorem recreate_eq (id : GoString) (c : ContainerConfig) (s : Sys) :
    recreate env id c s =
      match remove env id s with
      | (.panic m, s1) => (.panic m, s1)
      | (_, s1) => create env c s1 := by
  rcases hr : remove env id s with ⟨_ | _ | _, s1⟩
  · exact GoM.bind_ok (GoM.attempt_ok hr) _
  · exact GoM.bind_ok (GoM.attempt_error hr) _
  · exact GoM.bind_panic (GoM.attempt_panic hr) _

/-- **`Recreate` goes on after a failed `Remove`.** `Recreate` runs `Create` from the state
`Remove` left whenever `Remove` returns, and only a panic in `Remove` stops it. A `Remove` that
failed did so on the id or at the DELETE, whatever its `Stop` returned, and changed neither the
table nor the cursor; a `Recreate` that then returns `(v, nil)` took the VMID at the cursor, and
every other VMID keeps its entry in the table, the one of the container that was not removed
among them. -/
theorem recreate_after_remove (id : GoString) (c : ContainerConfig) (s : Sys) :
    (∀ s1, remove env id s = (.ok (), s1) → recreate env id c s = create env c s1) ∧
    (∀ m s1, remove env id s = (.panic m, s1) → recreate env id c s = (.panic m, s1)) ∧
    ∀ e s1, remove env id s = (.error e, s1) →
      recreate env id c s = create env c s1 ∧ s1.held = s.held ∧
      ((parseInt id = none ∧ e = .lit "invalid container ID: " ++ id) ∨
        ∃ vmid e', parseInt id = some vmid ∧
          e = .lit "failed to delete container " ++ id ++ .lit ": " ++ e') ∧
      ∀ r s2, recreate env id c s = (.ok r, s2) → r = itoa s.rt.vmidCounter ∧
        ∀ w, w ≠ s.rt.vmidCounter → s2.rt.metadata.recordAt w = s.rt.metadata.recordAt w := by
  refine ⟨fun s1 h => by rw [recreate_eq, h], fun m s1 h => by rw [recreate_eq, h],
    fun e s1 h => ?_⟩
  obtain ⟨hk, hcases⟩ := remove_error_cases env id s h
  have hrt : s1.rt = s.rt := congrArg Prod.fst hk
  have hre : recreate env id c s = create env c s1 := by rw [recreate_eq, h]
  refine ⟨hre, hk, hcases, fun r s2 hc => ?_⟩
  rw [hre] at hc
  obtain ⟨-, -, hr, -⟩ := create_ok_cases env c s1 hc
  refine ⟨by rw [hr, hrt], fun w hw => ?_⟩
  rw [create_recordAt_of_ne env c s1 hc (hrt ▸ hw), hrt]

/-- The runtime over the stale file after `Create(web)`: VMID 100 is named `web`, and the cursor
is at 101. -/
def webSys : Sys := (create (replyEnv (.array [])) webConfig staleSys).2

/-- The API fails the two requests after the first `n`, and answers every other one with an
empty list. -/
def flakyEnv (n : Nat) : Env :=
  ⟨fun k => if n ≤ k ∧ k < n + 2 then .failed (.lit "connection refused")
    else .response 200 [] (.ok (.array [])), fun _ => none, .lit "pw"⟩

/-- `Recreate("abc")`: `Remove` fails on the id, and `Recreate` still creates VMID 100, sending
its POST, and returns success. `Recreate("100")` after `Create(web)`, with the `Stop` and the
DELETE failing: `Recreate` creates VMID 101 and returns success, and VMID 100 is still named
`web`. -/
theorem recreate_after_failed_remove :
    (remove (replyEnv (.array [])) (.lit "abc") staleSys).1 =
        .error (.lit "invalid container ID: abc") ∧
      (recreate (replyEnv (.array [])) (.lit "abc") webConfig staleSys).1 = .ok (.lit "100") ∧
      (recreate (replyEnv (.array [])) (.lit "abc") webConfig staleSys).2.sent.length =
        staleSys.sent.length + 1 ∧
    (remove (flakyEnv webSys.sent.length) (.lit "100") webSys).1 =
        .error (.lit "failed to delete container 100: connection refused") ∧
      (recreate (flakyEnv webSys.sent.length) (.lit "100") webConfig webSys).1 =
        .ok (.lit "101") ∧
      (recreate (flakyEnv webSys.sent.length) (.lit "100") webConfig webSys).2.rt.metadata.getLabel
        (recreate (flakyEnv webSys.sent.length) (.lit "100") webConfig webSys).2.heap 100
        cosmosName = .lit "web" := by
  decide

end Cosmos

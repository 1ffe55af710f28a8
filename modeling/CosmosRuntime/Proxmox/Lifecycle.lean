import CosmosRuntime.Proxmox.Runtime

/-!
# Creating, starting, stopping and removing containers

`Create` checks the connection, takes a VMID, posts the LXC configuration, and records the
labels and the name in the metadata store. The others take the container's id as a string,
parse it with `strconv.Atoi`, and send one request each; `Restart`, `Remove` and `Recreate` run
`Stop`, `Stop` and `Remove` first and only log their errors.

* `buildLXCConfig`, `mountPoint`: the configuration `Create` posts;
* **`lookup_buildLXCConfig`**: each fixed key holds the entry written last under it
  (`lxcFixedEntries`); **`lookup_mountKey_buildLXCConfig`**: the key `mp<i>` holds the entry of
  the `i`-th volume;
  **`volumes_eq_of_mountEntries`**: those entries determine the volumes when no path holds a
  comma, the separator the entry is written with;
* `checkConnected` (shared with `List`), `createPost`, `createSet`, `setLabel`: the steps of
  `create`, each atomic;
* `statusRequest`, `start`, `stop`, `restart`, `remove`, `recreate`.
-/

namespace Cosmos

/-! ## The LXC configuration -/

/-- The `mp<i>` entry of the `i`-th volume: `"<source>,mp=<target>"`, then `",ro=1"`. -/
def mountPoint (i : Nat) (v : VolumeMount) : GoString × JsonValue :=
  (.lit "mp" ++ itoa i,
    .string (v.source ++ .lit ",mp=" ++ v.target ++
      if v.readOnly then GoString.lit ",ro=1" else []))

/-- `buildLXCConfig`: the map `Create` posts, built in the order of the source; `password` is
what `generateSecurePassword` returned. -/
def buildLXCConfig (env : Env) (rt : ProxmoxRuntime) (vmid : Int) (c : ContainerConfig) :
    GoMap GoString JsonValue :=
  let lxc := GoMap.insertAll
    [(.lit "vmid", .number vmid), (.lit "hostname", .string c.hostname),
      (.lit "ostemplate", .string c.image), (.lit "storage", .string rt.config.storage),
      (.lit "password", .string env.password), (.lit "unprivileged", .bool !c.privileged),
      (.lit "start", .bool false)] ∅
  let lxc := if c.hostname = [] then lxc.insert (.lit "hostname") (.string c.name) else lxc
  GoMap.insertAll
    ([(.lit "memory", .number (if 0 < c.memory then c.memory.tdiv (1024 * 1024) else 512)),
      (.lit "swap", .number (if 0 < c.memorySwap then c.memorySwap.tdiv (1024 * 1024) else 512)),
      (.lit "cores", .number (if 0 < c.cpus then toGoInt c.cpus else 1)),
      (.lit "net0", .string (.lit "name=eth0,bridge=vmbr0,ip=dhcp"))] ++
      c.volumes.enum.map (fun e => mountPoint e.1 e.2) ++
      [(.lit "rootfs", .string (rt.config.storage ++ .lit ":8")),
        (.lit "features", .string (.lit "nesting=1"))]) lxc

/-! ## The mount entries -/

/-- A path `buildLXCConfig` can write into a mount entry unescaped: one without a comma. -/
def NoComma (s : GoString) : Prop := (44 : Fin 256) ∉ s

instance (s : GoString) : Decidable (NoComma s) := inferInstanceAs (Decidable ((44 : Fin 256) ∉ s))

theorem append_comma_cancel {a b x y : GoString} (ha : NoComma a) (hb : NoComma b)
    (h : a ++ 44 :: x = b ++ 44 :: y) : a = b ∧ x = y := by
  induction a generalizing b with
  | nil =>
    cases b with
    | nil => exact ⟨rfl, (List.cons.inj h).2⟩
    | cons d b => exact absurd (by rw [(List.cons.inj h).1]; exact List.mem_cons_self _ _) hb
  | cons c a ih =>
    cases b with
    | nil => exact absurd (by rw [← (List.cons.inj h).1]; exact List.mem_cons_self _ _) ha
    | cons d b =>
      simp only [NoComma, List.mem_cons, not_or, List.cons_append, List.cons.injEq] at ha hb h ⊢
      obtain ⟨rfl, h⟩ := h
      exact ⟨⟨rfl, (ih ha.2 hb.2 h).1⟩, (ih ha.2 hb.2 h).2⟩

theorem roSuffix_append_comma (ro : Bool) :
    (if ro then GoString.lit ",ro=1" else []) ++ [44] =
      44 :: (if ro then GoString.lit "ro=1," else []) := by
  cases ro <;> rfl

/-- **A mount entry of comma-free paths determines the volume**: the source is what stands
before the first comma, the target what stands between `mp=` and the next one, and the rest is
the read-only flag. -/
theorem mountPoint_snd_inj {i j : Nat} {v w : VolumeMount}
    (hv : NoComma v.source ∧ NoComma v.target) (hw : NoComma w.source ∧ NoComma w.target)
    (h : (mountPoint i v).2 = (mountPoint j w).2) : v = w := by
  have hmp : GoString.lit ",mp=" = 44 :: GoString.lit "mp=" := rfl
  simp only [mountPoint, JsonValue.string.injEq, hmp, List.append_assoc, List.cons_append] at h
  obtain ⟨hs, h⟩ := append_comma_cancel hv.1 hw.1 h
  have ht := congrArg (· ++ [(44 : Fin 256)]) (List.append_cancel_left h)
  simp only [List.append_assoc, roSuffix_append_comma] at ht
  obtain ⟨ht, hro⟩ := append_comma_cancel hv.2 hw.2 ht
  have hne : GoString.lit "ro=1," ≠ [] := by decide
  obtain ⟨_, _, _ | _⟩ := v <;> obtain ⟨_, _, _ | _⟩ := w <;> simp_all

theorem mountKey_ne {k : GoString} (hk : k.take 2 ≠ GoString.lit "mp") (x : GoString) :
    GoString.lit "mp" ++ x ≠ k :=
  fun h => hk (h ▸ List.take_left' rfl)

theorem mountKey_not_mem {ks : List GoString} (h : ∀ k ∈ ks, k.take 2 ≠ GoString.lit "mp")
    (x : GoString) : GoString.lit "mp" ++ x ∉ ks :=
  fun hm => mountKey_ne (h _ hm) x rfl

/-- **The mount entries of the configuration**: the key `mp<i>` holds the entry of the `i`-th
volume, and no key past the last volume is set. -/
theorem lookup_mountKey_buildLXCConfig (env : Env) (rt : ProxmoxRuntime) (vmid : Int)
    (c : ContainerConfig) (i : Nat) :
    (buildLXCConfig env rt vmid c).lookup (GoString.lit "mp" ++ itoa i) =
      c.volumes[i]?.map fun v => (mountPoint i v).2 := by
  have hinj : Function.Injective fun j : Nat => GoString.lit "mp" ++ itoa j := fun a b h =>
    Int.ofNat.inj (itoa_injective (List.append_cancel_left h))
  have hkeys : (c.volumes.enum.map fun e => mountPoint e.1 e.2).map (·.1) =
      (List.range c.volumes.length).map fun j : Nat => GoString.lit "mp" ++ itoa j := by
    rw [← List.enum_map_fst, List.map_map, List.map_map]
    rfl
  unfold buildLXCConfig
  rw [GoMap.insertAll_append, GoMap.lookup_insertAll_of_not_mem
    (mountKey_not_mem (by simp only [List.map_cons, List.map_nil]; decide) _),
    GoMap.insertAll_append]
  cases hv : c.volumes[i]? with
  | some v =>
    refine GoMap.lookup_insertAll_of_mem (hkeys ▸ (List.nodup_range _).map hinj) ?_ _
    exact List.mem_map.mpr ⟨(i, v), List.mem_enum_iff_getElem?.mpr hv, rfl⟩
  | none =>
    have hi : c.volumes.length ≤ i := List.getElem?_eq_none_iff.mp hv
    rw [GoMap.lookup_insertAll_of_not_mem (by rw [hkeys]; simpa [hinj.eq_iff] using hi),
      GoMap.lookup_insertAll_of_not_mem
        (mountKey_not_mem (by simp only [List.map_cons, List.map_nil]; decide) _)]
    split
    · rw [Finmap.lookup_insert_of_ne _ (mountKey_ne (by decide) _), GoMap.lookup_insertAll_of_not_mem
        (mountKey_not_mem (by simp only [List.map_cons, List.map_nil]; decide) _)]
      rfl
    · rw [GoMap.lookup_insertAll_of_not_mem
        (mountKey_not_mem (by simp only [List.map_cons, List.map_nil]; decide) _)]
      rfl

/-- The entries of the configuration `Create` posts under its fixed keys, as the map holds them:
the hostname falls back to the name. -/
def lxcFixedEntries (env : Env) (rt : ProxmoxRuntime) (vmid : Int) (c : ContainerConfig) :
    List (GoString × JsonValue) :=
  [(.lit "vmid", .number vmid),
    (.lit "hostname", .string (if c.hostname = [] then c.name else c.hostname)),
    (.lit "ostemplate", .string c.image), (.lit "storage", .string rt.config.storage),
    (.lit "password", .string env.password), (.lit "unprivileged", .bool !c.privileged),
    (.lit "start", .bool false),
    (.lit "memory", .number (if 0 < c.memory then c.memory.tdiv (1024 * 1024) else 512)),
    (.lit "swap", .number (if 0 < c.memorySwap then c.memorySwap.tdiv (1024 * 1024) else 512)),
    (.lit "cores", .number (if 0 < c.cpus then toGoInt c.cpus else 1)),
    (.lit "net0", .string (.lit "name=eth0,bridge=vmbr0,ip=dhcp")),
    (.lit "rootfs", .string (rt.config.storage ++ .lit ":8")),
    (.lit "features", .string (.lit "nesting=1"))]

/-- **The fixed entries of the configuration**: whatever the volumes, each fixed key holds the
entry `buildLXCConfig` wrote last under it, the hostname falling back to the name. -/
theorem lookup_buildLXCConfig (env : Env) (rt : ProxmoxRuntime) (vmid : Int)
    (c : ContainerConfig) {k : GoString} {v : JsonValue}
    (h : (k, v) ∈ lxcFixedEntries env rt vmid c) :
    (buildLXCConfig env rt vmid c).lookup k = some v := by
  have hmp : ∀ k ∈ (lxcFixedEntries env rt vmid c).map Prod.fst, k.take 2 ≠ GoString.lit "mp" := by
    simp only [lxcFixedEntries, List.map_cons, List.map_nil]
    decide
  -- the mount entries, written between the resources and the root disk, use other keys
  have hmount : k ∉ (c.volumes.enum.map fun e => mountPoint e.1 e.2).map (·.1) := fun hm => by
    simp only [List.map_map] at hm
    obtain ⟨e, -, he⟩ := List.mem_map.mp hm
    exact mountKey_ne (hmp k (List.mem_map_of_mem Prod.fst h)) _ he
  unfold buildLXCConfig
  rw [GoMap.insertAll_append, GoMap.insertAll_append]
  simp only [lxcFixedEntries, List.mem_cons, Prod.mk.injEq, List.not_mem_nil, or_false] at h
  rcases h with ⟨rfl, rfl⟩ | ⟨rfl, rfl⟩ | ⟨rfl, rfl⟩ | ⟨rfl, rfl⟩ | ⟨rfl, rfl⟩ | ⟨rfl, rfl⟩ |
    ⟨rfl, rfl⟩ | ⟨rfl, rfl⟩ | ⟨rfl, rfl⟩ | ⟨rfl, rfl⟩ | ⟨rfl, rfl⟩ | ⟨rfl, rfl⟩ | ⟨rfl, rfl⟩
  -- the root disk and the features, written last
  rotate_left 11
  iterate 2
    exact GoMap.lookup_insertAll_of_mem (by simp only [List.map_cons, List.map_nil]; decide)
      (by simp) _
  -- the resources, written before the mount entries and not again
  rotate_left 7
  iterate 4
    rw [GoMap.lookup_insertAll_of_not_mem (by simp only [List.map_cons, List.map_nil]; decide),
      GoMap.lookup_insertAll_of_not_mem hmount]
    exact GoMap.lookup_insertAll_of_mem (by simp only [List.map_cons, List.map_nil]; decide)
      (by simp) _
  -- the first entries, where the name stands in for a missing hostname
  all_goals
    rw [GoMap.lookup_insertAll_of_not_mem (by simp only [List.map_cons, List.map_nil]; decide),
      GoMap.lookup_insertAll_of_not_mem hmount,
      GoMap.lookup_insertAll_of_not_mem (by simp only [List.map_cons, List.map_nil]; decide)]
    split_ifs
  all_goals first
    | exact Finmap.lookup_insert _
    | rw [Finmap.lookup_insert_of_ne _ (by decide)]
    | skip
  all_goals refine GoMap.lookup_insertAll_of_mem ?_ (by simp) _
  all_goals simp only [List.map_cons, List.map_nil]; decide

/-- **Comma-free volumes are read back from the mount entries**: two configurations whose
volumes have comma-free paths and whose keys `mp<i>` agree have the same volumes. -/
theorem volumes_eq_of_mountEntries {env env' : Env} {rt rt' : ProxmoxRuntime} {vmid vmid' : Int}
    {c c' : ContainerConfig} (hc : ∀ v ∈ c.volumes, NoComma v.source ∧ NoComma v.target)
    (hc' : ∀ v ∈ c'.volumes, NoComma v.source ∧ NoComma v.target)
    (h : ∀ i : Nat, (buildLXCConfig env rt vmid c).lookup (GoString.lit "mp" ++ itoa i) =
      (buildLXCConfig env' rt' vmid' c').lookup (GoString.lit "mp" ++ itoa i)) :
    c.volumes = c'.volumes := by
  apply List.ext_getElem?
  intro i
  have hi := h i
  rw [lookup_mountKey_buildLXCConfig, lookup_mountKey_buildLXCConfig] at hi
  cases hv : c.volumes[i]? <;> cases hw : c'.volumes[i]? <;>
    simp only [hv, hw, Option.map_none', Option.map_some', reduceCtorEq, Option.some.injEq] at hi ⊢
  exact mountPoint_snd_inj (hc _ (List.getElem?_mem hv)) (hc' _ (List.getElem?_mem hw)) hi

/-- A configuration for the examples: node `pve`, the VMID range `[100, 200)`. -/
def demoConfig : Config :=
  ⟨.lit "pve", .lit "pve", .lit "cosmos@pve!api", .lit "secret", .lit "local-lvm", 100, 200,
    false⟩

/-- Every request fails. -/
def downEnv : Env := ⟨fun _ => .failed (.lit "connection refused"), fun _ => none, .lit "pw"⟩

/-- Two descriptors that differ in name and hostname but mount the same comma-free volume. -/
theorem volumes_eq_of_mountEntries_web :
    (∀ v ∈ [(⟨.lit "/srv/web", .lit "/data", true⟩ : VolumeMount)],
      NoComma v.source ∧ NoComma v.target) ∧
    (∀ i : Nat, (buildLXCConfig downEnv (initRuntime demoConfig) 100
        ⟨.lit "web", .lit "debian", .lit "web", none, [⟨.lit "/srv/web", .lit "/data", true⟩],
          0, 0, 0, false⟩).lookup (GoString.lit "mp" ++ itoa i) =
      (buildLXCConfig downEnv (initRuntime demoConfig) 101
        ⟨.lit "db", .lit "debian", [], none, [⟨.lit "/srv/web", .lit "/data", true⟩],
          0, 0, 0, false⟩).lookup (GoString.lit "mp" ++ itoa i)) ∧
    [(⟨.lit "/srv/web", .lit "/data", true⟩ : VolumeMount)] =
      [⟨.lit "/srv/web", .lit "/data", true⟩] :=
  have hc : ∀ v ∈ [(⟨.lit "/srv/web", .lit "/data", true⟩ : VolumeMount)],
      NoComma v.source ∧ NoComma v.target := by decide
  have h : ∀ i : Nat, (buildLXCConfig downEnv (initRuntime demoConfig) 100
        ⟨.lit "web", .lit "debian", .lit "web", none, [⟨.lit "/srv/web", .lit "/data", true⟩],
          0, 0, 0, false⟩).lookup (GoString.lit "mp" ++ itoa i) =
      (buildLXCConfig downEnv (initRuntime demoConfig) 101
        ⟨.lit "db", .lit "debian", [], none, [⟨.lit "/srv/web", .lit "/data", true⟩],
          0, 0, 0, false⟩).lookup (GoString.lit "mp" ++ itoa i) := fun i => by
    rw [lookup_mountKey_buildLXCConfig, lookup_mountKey_buildLXCConfig]
  ⟨hc, h, volumes_eq_of_mountEntries hc hc h⟩

/-- A writable volume with target `b,ro=1` gives the configuration of a read-only volume with
target `b`: both mount entries read `a,mp=b,ro=1`. -/
theorem buildLXCConfig_target_forges_readOnly (env : Env) (rt : ProxmoxRuntime) (vmid : Int)
    (c : ContainerConfig) :
    (⟨.lit "a", .lit "b,ro=1", false⟩ : VolumeMount) ≠ ⟨.lit "a", .lit "b", true⟩ ∧
    buildLXCConfig env rt vmid { c with volumes := [⟨.lit "a", .lit "b,ro=1", false⟩] } =
      buildLXCConfig env rt vmid { c with volumes := [⟨.lit "a", .lit "b", true⟩] } :=
  ⟨fun h => Bool.false_ne_true (congrArg VolumeMount.readOnly h), rfl⟩

/-! ## Create -/

/-- `len(labels)` of a caller's map; a nil map has length 0. -/
def labelsLen (h : Heap) : LabelsRef → Nat
  | none => 0
  | some a => (h a).keys.card

/-- The labels a caller's map holds; a nil map holds none. -/
def labelsOf (h : Heap) : LabelsRef → Labels
  | none => ∅
  | some a => h a

/-- `p.metadata.SetLabel(vmid, key, value)`. -/
def setLabel (vmid : Int) (key value : GoString) : GoM Sys Unit := GoM.modify fun s =>
  { s.setMetadata (s.rt.metadata.setLabel s.heap vmid key value).1 with
    heap := (s.rt.metadata.setLabel s.heap vmid key value).2 }

/-- `if !p.connected { return "", errors.New("not connected to Proxmox") }`. -/
def checkConnected : GoM Sys Unit := fun s =>
  if s.rt.connected then (.ok (), s) else (.error (.lit "not connected to Proxmox"), s)

/-- The POST that creates the container. -/
def createPost (env : Env) (c : ContainerConfig) (vmid : Int) : GoM Sys Unit := do
  let rt ← GoM.gets (·.rt)
  let _ ← GoM.wrap (.lit "failed to create LXC container: ")
    (apiRequest env (.lit "POST") (lxcPath rt.node) (some (buildLXCConfig env rt vmid c)))

/-- `if len(config.Labels) > 0 { p.metadata.Set(vmid, config.Labels) }`. -/
def createSet (c : ContainerConfig) (vmid : Int) : GoM Sys Unit := GoM.modify fun s =>
  if 0 < labelsLen s.heap c.labels then s.setMetadata (s.rt.metadata.set vmid c.labels) else s

/-- `Create`. -/
def create (env : Env) (c : ContainerConfig) : GoM Sys GoString := do
  checkConnected
  let vmid ← getNextVMID
  createPost env c vmid
  createSet c vmid
  setLabel vmid cosmosName c.name
  return itoa vmid

/-! ## The calls on one container -/

/-- `Start` and `Stop`: parse the id, then `POST .../status/<action>`, the error prefixed with
`verb`. -/
def statusRequest (action verb : GoString) (env : Env) (id : GoString) : GoM Sys Unit :=
  match parseInt id with
  | none => GoM.fail (.lit "invalid container ID: " ++ id)
  | some vmid => do
    let rt ← GoM.gets (·.rt)
    let _ ← GoM.wrap (verb ++ id ++ .lit ": ")
      (apiRequest env (.lit "POST") (vmPath rt.node vmid ++ .lit "/status/" ++ action) none)

/-- `Start`. -/
def start (env : Env) (id : GoString) : GoM Sys Unit :=
  statusRequest (.lit "start") (.lit "failed to start container ") env id

/-- `Stop`. -/
def stop (env : Env) (id : GoString) : GoM Sys Unit :=
  statusRequest (.lit "stop") (.lit "failed to stop container ") env id

/-- `Restart`: an error of `Stop` is logged, then `Start` runs. -/
def restart (env : Env) (id : GoString) : GoM Sys Unit := do
  let _ ← GoM.attempt (stop env id)
  start env id

/-- The part of `Remove` after `Stop`: delete the container, and only then drop its record. -/
def deleteContainer (env : Env) (id : GoString) (vmid : Int) : GoM Sys Unit := do
  let rt ← GoM.gets (·.rt)
  let _ ← GoM.wrap (.lit "failed to delete container " ++ id ++ .lit ": ")
    (apiRequest env (.lit "DELETE") (vmPath rt.node vmid) none)
  GoM.modify fun s => s.setMetadata (s.rt.metadata.delete vmid)

/-- `Remove`: stop (ignoring its error), then delete. -/
def remove (env : Env) (id : GoString) : GoM Sys Unit :=
  match parseInt id with
  | none => GoM.fail (.lit "invalid container ID: " ++ id)
  | some vmid => do
    let _ ← GoM.attempt (stop env id)
    deleteContainer env id vmid

/-- `Recreate`: an error of `Remove` is logged, then `Create` runs. -/
def recreate (env : Env) (id : GoString) (c : ContainerConfig) : GoM Sys GoString := do
  let _ ← GoM.attempt (remove env id)
  create env c

/-! ## What each call changes -/

section Frames

variable (env : Env) (c : ContainerConfig) (id : GoString)

theorem keeps_settings_of_held {α : Type} {x : GoM Sys α} (hx : GoM.Keeps Sys.held x) :
    GoM.Keeps Sys.settings x := fun s =>
  congrArg (fun p : ProxmoxRuntime × Heap × Disk =>
    ({ p.1 with metadata := MetadataStore.empty } : ProxmoxRuntime)) (hx s)

theorem checkConnected_eq (s : Sys) : checkConnected s =
    if s.rt.connected then (.ok (), s) else (.error (.lit "not connected to Proxmox"), s) := rfl

theorem keeps_held_checkConnected : GoM.Keeps Sys.held checkConnected := fun s => by
  rw [checkConnected_eq]; split <;> rfl

theorem keeps_held_createPost (vmid : Int) : GoM.Keeps Sys.held (createPost env c vmid) :=
  (GoM.keeps_gets _).bind fun _ => ((keeps_held_apiRequest env _ _ _).wrap _).bind fun _ =>
    GoM.keeps_pure ()

theorem keeps_settings_createSet (vmid : Int) : GoM.Keeps Sys.settings (createSet c vmid) :=
  GoM.keeps_modify fun s => by by_cases h : 0 < labelsLen s.heap c.labels <;> simp [h]

theorem keeps_settings_setLabel (vmid : Int) (key value : GoString) :
    GoM.Keeps Sys.settings (setLabel vmid key value) :=
  GoM.keeps_modify fun _ => rfl

theorem keeps_held_statusRequest (action verb : GoString) :
    GoM.Keeps Sys.held (statusRequest action verb env id) := fun s => by
  unfold statusRequest
  rcases parseInt id with _ | vmid
  · rfl
  · exact ((GoM.keeps_gets _).bind fun _ =>
      ((keeps_held_apiRequest env _ _ _).wrap _).bind fun _ => GoM.keeps_pure ()) s

theorem keeps_held_start : GoM.Keeps Sys.held (start env id) := keeps_held_statusRequest env id _ _

theorem keeps_held_stop : GoM.Keeps Sys.held (stop env id) := keeps_held_statusRequest env id _ _

theorem keeps_held_restart : GoM.Keeps Sys.held (restart env id) :=
  (keeps_held_stop env id).attempt.bind fun _ => keeps_held_start env id

theorem keeps_settings_deleteContainer (vmid : Int) :
    GoM.Keeps Sys.settings (deleteContainer env id vmid) :=
  (GoM.keeps_gets _).bind fun _ => ((keeps_settings_apiRequest env _ _ _).wrap _).bind fun _ =>
    GoM.keeps_modify fun _ => rfl

theorem keeps_settings_remove : GoM.Keeps Sys.settings (remove env id) := fun s => by
  unfold remove
  rcases parseInt id with _ | vmid
  · rfl
  · exact ((keeps_settings_of_held (keeps_held_stop env id)).attempt.bind fun _ =>
      keeps_settings_deleteContainer env id vmid) s

end Frames

/-! ## Create, step by step -/

/-- The state `Set` (for a non-empty label map) and `SetLabel` leave after the POST. -/
def recordLabels (c : ContainerConfig) (vmid : Int) (s : Sys) : Sys :=
  (setLabel vmid cosmosName c.name (createSet c vmid s).2).2

/-- **`Create` as the source reads.** It fails when not connected or when the range is used up,
in both cases with the state as it was; otherwise it takes the cursor, posts, and on success
records the labels and the name. -/
theorem create_eq (env : Env) (c : ContainerConfig) (s : Sys) : create env c s =
    if s.rt.connected = false then (.error (.lit "not connected to Proxmox"), s)
    else if s.rt.config.vmidEnd ≤ s.rt.vmidCounter then (.error (.lit "VMID range exhausted"), s)
    else
      match createPost env c s.rt.vmidCounter
          (s.setRt { s.rt with vmidCounter := s.rt.vmidCounter + 1 }) with
      | (.ok _, s2) => (.ok (itoa s.rt.vmidCounter), recordLabels c s.rt.vmidCounter s2)
      | (.error e, s2) => (.error e, s2)
      | (.panic m, s2) => (.panic m, s2) := by
  cases hc : s.rt.connected
  · rw [create, GoM.bind_error (by rw [checkConnected_eq, hc]; rfl)]; rfl
  · rw [create, GoM.bind_ok (by rw [checkConnected_eq, if_pos hc])]
    simp only [Bool.true_eq_false, if_false]
    split_ifs with hv
    · rw [GoM.bind_error (getNextVMID_of_le hv)]
    · rw [GoM.bind_ok (getNextVMID_of_lt (not_le.mp hv))]
      rcases hp : createPost env c s.rt.vmidCounter
        (s.setRt { s.rt with vmidCounter := s.rt.vmidCounter + 1 }) with ⟨_ | _ | _, s2⟩
      · rw [GoM.bind_ok hp]; rfl
      · rw [GoM.bind_error hp]
      · rw [GoM.bind_panic hp]

theorem keeps_settings_recordLabels (c : ContainerConfig) (vmid : Int) (s : Sys) :
    (recordLabels c vmid s).settings = s.settings :=
  (keeps_settings_setLabel _ _ _ _).trans (keeps_settings_createSet c vmid s)

theorem create_settings (env : Env) (c : ContainerConfig) (s : Sys) :
    (create env c s).2.settings = s.settings ∨
      (s.rt.vmidCounter < s.rt.config.vmidEnd ∧
        (create env c s).2.settings = { s.settings with vmidCounter := s.rt.vmidCounter + 1 }) := by
  rw [create_eq]
  split_ifs with hc hv
  · exact .inl rfl
  · exact .inl rfl
  · right
    refine ⟨not_le.mp hv, ?_⟩
    have hk := keeps_settings_of_held (keeps_held_createPost env c s.rt.vmidCounter)
      (s.setRt { s.rt with vmidCounter := s.rt.vmidCounter + 1 })
    rcases hp : createPost env c s.rt.vmidCounter
      (s.setRt { s.rt with vmidCounter := s.rt.vmidCounter + 1 }) with ⟨_ | _ | _, s2⟩ <;>
      rw [hp] at hk <;> dsimp only at hk ⊢
    · rw [keeps_settings_recordLabels, hk]; rfl
    · rw [hk]; rfl
    · rw [hk]; rfl

theorem recreate_settings (env : Env) (id : GoString) (c : ContainerConfig) (s : Sys) :
    (recreate env id c s).2.settings = s.settings ∨
      (s.rt.vmidCounter < s.rt.config.vmidEnd ∧
        (recreate env id c s).2.settings =
          { s.settings with vmidCounter := s.rt.vmidCounter + 1 }) := by
  have hk := keeps_settings_remove env id s
  rcases hr : remove env id s with ⟨_ | _ | _, s1⟩ <;> rw [hr] at hk <;> dsimp only at hk
  · rw [recreate, GoM.bind_ok (GoM.attempt_ok hr)]
    have hv : s1.rt.vmidCounter = s.rt.vmidCounter ∧ s1.rt.config = s.rt.config :=
      ⟨(congrArg ProxmoxRuntime.vmidCounter hk : _), (congrArg ProxmoxRuntime.config hk : _)⟩
    rw [← hk, ← hv.1, ← hv.2]; exact create_settings env c s1
  · rw [recreate, GoM.bind_ok (GoM.attempt_error hr)]
    have hv : s1.rt.vmidCounter = s.rt.vmidCounter ∧ s1.rt.config = s.rt.config :=
      ⟨(congrArg ProxmoxRuntime.vmidCounter hk : _), (congrArg ProxmoxRuntime.config hk : _)⟩
    rw [← hk, ← hv.1, ← hv.2]; exact create_settings env c s1
  · rw [recreate, GoM.bind_panic (GoM.attempt_panic hr)]; exact .inl hk

end Cosmos

import CosmosRuntime.Proxmox.Api

/-!
# Connecting, closing, and the VMID cursor

`Connect` installs the HTTP client, tests the connection with `GET /version`, loads the
metadata and moves the VMID cursor past the containers the node already has; the errors of the
last two are only logged. `Close` saves the metadata and drops the client. `getNextVMID` hands
out the cursor under `p.mutex` and advances it.

* `connect`, `close`, `isConnected`, `version`, `loadMetadata`, `saveMetadata`;
* `entryVmid`, `vmidStep`, `vmidScan`, `updateVMIDCounter`: the scan of the inventory;
* `getNextVMID`;
* **`vmidScan_spec`**: the cursor a scan sets is at least `VMIDStart` and above every numeric
  vmid of an object entry, unless one of them converts to `maxInt`.
-/

namespace Cosmos

/-! ## The inventory scan -/

/-- `resp["data"].([]interface{})`: the entries of a reply whose data is a list. -/
def dataItems (resp : GoMap GoString JsonValue) : Option (List JsonValue) :=
  match resp.lookup (.lit "data") with
  | some (.array xs) => some xs
  | _ => none

/-- `container["vmid"].(float64)` for an entry that is an object. -/
def entryVmid (item : JsonValue) : Option ℚ :=
  match item.asMap with
  | some c =>
    match c.lookup (.lit "vmid") with
    | some (.number x) => some x
    | _ => none
  | none => none

/-- One turn of the loop of `updateVMIDCounter`: `int(vmid) + 1` when `int(vmid) >= maxVMID`. -/
def vmidStep (maxVMID : Int) (item : JsonValue) : Int :=
  match entryVmid item with
  | some x => if maxVMID ≤ toGoInt x then wrapInt (toGoInt x + 1) else maxVMID
  | none => maxVMID

/-- The cursor `updateVMIDCounter` computes from the inventory reply. -/
def vmidScan (start : Int) (resp : GoMap GoString JsonValue) : Int :=
  match dataItems resp with
  | some xs => xs.foldl vmidStep start
  | none => start

/-- The numeric vmids of the object entries of a reply: the ones the scan reads. -/
def replyVmids (resp : GoMap GoString JsonValue) : List ℚ :=
  ((dataItems resp).getD []).filterMap entryVmid

/-- `updateVMIDCounter`: list the node's containers and set the cursor from the reply. -/
def updateVMIDCounter (env : Env) : GoM Sys Unit := do
  let rt ← GoM.gets (·.rt)
  let resp ← apiRequest env (.lit "GET") (lxcPath rt.node) none
  GoM.modify fun s => s.setRt { s.rt with vmidCounter := vmidScan rt.config.vmidStart resp }

/-! ## Connect and Close -/

/-- The state with the `*http.Client` `Connect` makes. -/
def connectClient (s : Sys) : Sys :=
  s.setRt { s.rt with client := some ⟨s.rt.config.skipTLSVerify⟩ }

/-- `p.metadata.Load()`. -/
def loadMetadata : GoM Sys Unit := fun s =>
  ((s.rt.metadata.load s.disk).1, s.setMetadata (s.rt.metadata.load s.disk).2)

/-- `p.metadata.Save()`. -/
def saveMetadata : GoM Sys Unit := fun s =>
  ((s.rt.metadata.save s.heap s.disk).1, { s with disk := (s.rt.metadata.save s.heap s.disk).2 })

/-- One of the goroutines `go m.saveAsync()` started runs. -/
def Sys.flush (s : Sys) : Sys :=
  { s.setMetadata (s.rt.metadata.saveAsync s.heap s.disk).1 with
    disk := (s.rt.metadata.saveAsync s.heap s.disk).2 }

@[simp] theorem Sys.settings_flush (s : Sys) : s.flush.settings = s.settings := rfl

/-- `Connect`, up to the scan of the inventory: install the client, test the connection, load
the metadata. -/
def connectProbe (env : Env) : GoM Sys Unit := do
  GoM.modify connectClient
  let _ ← GoM.wrap (.lit "failed to connect to Proxmox: ")
    (apiRequest env (.lit "GET") (.lit "/version") none)
  let _ ← GoM.attempt loadMetadata

/-- `Connect`: the errors of `Load` and of `updateVMIDCounter` are logged, not returned. -/
def connect (env : Env) : GoM Sys Unit := do
  connectProbe env
  let _ ← GoM.attempt (updateVMIDCounter env)
  GoM.modify fun s => s.setRt { s.rt with connected := true }

/-- The reply to the inventory request of `Connect`. -/
def inventoryReply (env : Env) (s : Sys) : Outcome (GoMap GoString JsonValue) :=
  (apiRequest env (.lit "GET") (lxcPath s.rt.node) none (connectProbe env s).2).1

/-- The numeric vmids of the inventory `Connect` read; none when its request failed. -/
def inventoryVmids (env : Env) (s : Sys) : List ℚ :=
  match inventoryReply env s with
  | .ok resp => replyVmids resp
  | _ => []

/-- The cursor `Connect` leaves: the scan of the inventory, or the old cursor when the request
failed. -/
def connectCursor (env : Env) (s : Sys) : Int :=
  match inventoryReply env s with
  | .ok resp => vmidScan s.rt.config.vmidStart resp
  | _ => s.rt.vmidCounter

/-- `Close`: an error of `Save` is logged, not returned. -/
def close : GoM Sys Unit := do
  let _ ← GoM.attempt saveMetadata
  GoM.modify fun s => s.setRt { s.rt with client := none, connected := false }

/-- `IsConnected`. -/
def isConnected : GoM Sys Bool := GoM.gets (·.rt.connected)

/-- `resp["version"].(string)`, or `"unknown"`. -/
def versionOf (resp : GoMap GoString JsonValue) : GoString :=
  match resp.lookup (.lit "version") with
  | some (.string v) => v
  | _ => .lit "unknown"

/-- What `Version` does after its check of the flag: the request, and `"unknown"` when it
fails. -/
def versionBody (env : Env) : GoM Sys GoString := fun s =>
  match apiRequest env (.lit "GET") (.lit "/version") none s with
  | (.ok resp, s') => (.ok (versionOf resp), s')
  | (.error _, s') => (.ok (.lit "unknown"), s')
  | (.panic m, s') => (.panic m, s')

/-- `Version`: `"unknown"` when not connected or when the request fails. -/
def version (env : Env) : GoM Sys GoString := fun s =>
  if !s.rt.connected then (.ok (.lit "unknown"), s) else versionBody env s

/-! ## Allocation -/

/-- `getNextVMID`: the cursor, which then moves on, or an error once it has reached `VMIDEnd`. -/
def getNextVMID : GoM Sys Int := fun s =>
  if s.rt.config.vmidEnd ≤ s.rt.vmidCounter then (.error (.lit "VMID range exhausted"), s)
  else (.ok s.rt.vmidCounter, s.setRt { s.rt with vmidCounter := s.rt.vmidCounter + 1 })

/-! ## What the scan computes -/

theorem mem_replyVmids {resp : GoMap GoString JsonValue} {x : ℚ} :
    x ∈ replyVmids resp ↔ ∃ item ∈ (dataItems resp).getD [], entryVmid item = some x :=
  List.mem_filterMap

/-- No numeric vmid of a reply converts to `maxInt`. Every `float64` passes: the largest one
below `2^63` is `2^63 - 1024`, and the ones from `2^63` on convert to `minInt`. -/
def NoMaxVmid (resp : GoMap GoString JsonValue) : Prop :=
  ∀ x ∈ replyVmids resp, toGoInt x ≠ maxInt

instance (resp : GoMap GoString JsonValue) : Decidable (NoMaxVmid resp) :=
  inferInstanceAs (Decidable (∀ x ∈ replyVmids resp, _))

theorem vmidStep_spec (m : Int) (item : JsonValue)
    (h : ∀ x, entryVmid item = some x → toGoInt x ≠ maxInt) :
    m ≤ vmidStep m item ∧ ∀ x, entryVmid item = some x → toGoInt x < vmidStep m item := by
  unfold vmidStep
  cases hx : entryVmid item with
  | none => simp
  | some x =>
    have hr := toGoInt_inIntRange x
    have hne := h x hx
    unfold InIntRange at hr
    have hw : wrapInt (toGoInt x + 1) = toGoInt x + 1 :=
      wrapInt_of_inIntRange ⟨by omega, by omega⟩
    simp only [Option.some.injEq, forall_eq']
    split_ifs <;> omega

theorem foldl_vmidStep (xs : List JsonValue) (m : Int)
    (h : ∀ item ∈ xs, ∀ x, entryVmid item = some x → toGoInt x ≠ maxInt) :
    m ≤ xs.foldl vmidStep m ∧
      ∀ item ∈ xs, ∀ x, entryVmid item = some x → toGoInt x < xs.foldl vmidStep m := by
  induction xs generalizing m with
  | nil => simp
  | cons item xs ih =>
    have hstep := vmidStep_spec m item (h item (List.mem_cons_self _ _))
    have hrest := ih (vmidStep m item) fun i hi => h i (List.mem_cons_of_mem _ hi)
    refine ⟨hstep.1.trans hrest.1, ?_⟩
    rintro i hi x hx
    rcases List.mem_cons.mp hi with rfl | hi
    · exact (hstep.2 x hx).trans_le hrest.1
    · exact hrest.2 i hi x hx

/-- **The cursor a scan sets** is at least `VMIDStart` and above every numeric vmid of the
reply. -/
theorem vmidScan_spec {resp : GoMap GoString JsonValue} (start : Int) (h : NoMaxVmid resp) :
    start ≤ vmidScan start resp ∧
      ∀ x ∈ replyVmids resp, toGoInt x < vmidScan start resp := by
  unfold vmidScan
  cases hd : dataItems resp with
  | none => simp [replyVmids, hd]
  | some xs =>
    have hmem : ∀ {item}, item ∈ xs ↔ item ∈ (dataItems resp).getD [] := by simp [hd]
    have hx := foldl_vmidStep xs start fun item hi x hx =>
      h x (mem_replyVmids.mpr ⟨item, hmem.mp hi, hx⟩)
    refine ⟨hx.1, fun x hmx => ?_⟩
    obtain ⟨item, hi, hix⟩ := mem_replyVmids.mp hmx
    exact hx.2 item (hmem.mpr hi) x hix

/-! ## Connect and Close, step by step -/

section Steps

variable (env : Env) (s : Sys)

theorem updateVMIDCounter_eq : updateVMIDCounter env s =
    match apiRequest env (.lit "GET") (lxcPath s.rt.node) none s with
    | (.ok resp, s') =>
      (.ok (), s'.setRt { s'.rt with vmidCounter := vmidScan s.rt.config.vmidStart resp })
    | (.error e, s') => (.error e, s')
    | (.panic m, s') => (.panic m, s') := by
  simp only [updateVMIDCounter, GoM.bind_apply, GoM.bind, GoM.gets_apply]
  rcases apiRequest env (.lit "GET") (lxcPath s.rt.node) none s with ⟨_ | _ | _, s'⟩ <;> rfl

theorem keeps_settings_loadMetadata : GoM.Keeps Sys.settings loadMetadata := fun _ => rfl

theorem keeps_settings_saveMetadata : GoM.Keeps Sys.settings saveMetadata := fun _ => rfl

theorem loadMetadata_ne_panic (m : GoString) : (loadMetadata s).1 ≠ .panic m := by
  simp only [loadMetadata, MetadataStore.load]
  split
  · simp
  · simp
  · simp
  · split <;> simp

theorem saveMetadata_ne_panic (m : GoString) : (saveMetadata s).1 ≠ .panic m := by
  simp only [saveMetadata, MetadataStore.save]
  split <;> simp

theorem connectProbe_settings : (connectProbe env s).2.settings = (connectClient s).settings := by
  rw [connectProbe, GoM.bind_ok (GoM.modify_apply _ _)]
  exact (((keeps_settings_apiRequest env _ _ none).wrap _).bind fun _ =>
    keeps_settings_loadMetadata.attempt.bind fun _ => GoM.keeps_pure ()) (connectClient s)

/-- **What `Connect` does to the runtime's fields.** On success the client is installed, the
runtime is connected and the cursor is the one the scan set; on failure only the client is
installed. -/
theorem connect_settings : (connect env s).2.settings =
    if (connect env s).1 = .ok () then
      { (connectClient s).settings with connected := true, vmidCounter := connectCursor env s }
    else (connectClient s).settings := by
  have hset := connectProbe_settings env s
  unfold connectCursor inventoryReply
  rw [connect]
  rcases hp : connectProbe env s with ⟨_ | _ | _, s1⟩ <;> rw [hp] at hset <;> dsimp only at hset
  · rw [GoM.bind_ok hp]
    have hnode : s1.rt.node = s.rt.node := (congrArg ProxmoxRuntime.node hset : _)
    have hcfg : s1.rt.config = s.rt.config := (congrArg ProxmoxRuntime.config hset : _)
    have hk := keeps_settings_apiRequest env (.lit "GET") (lxcPath s.rt.node) none s1
    have hu := updateVMIDCounter_eq env s1
    rw [hnode, hcfg] at hu
    rcases ha : apiRequest env (.lit "GET") (lxcPath s.rt.node) none s1 with ⟨_ | _ | _, s2⟩ <;>
      rw [ha] at hu hk <;> dsimp only at hk <;>
      simp only [Sys.settings, ProxmoxRuntime.mk.injEq] at hk hset
    · rw [GoM.bind_ok (GoM.attempt_ok hu)]
      simp [Sys.settings, connectClient, hk, hset]
    · rw [GoM.bind_ok (GoM.attempt_error hu)]
      simp [Sys.settings, connectClient, hk, hset]
    · rw [GoM.bind_panic (GoM.attempt_panic hu)]
      simp [Sys.settings, connectClient, hk, hset]
  · rw [GoM.bind_error hp]; simp [hset]
  · rw [GoM.bind_panic hp]; simp [hset]

/-- **The cursor `Connect` leaves** is at least `VMIDStart` and above every numeric vmid of the
inventory it read, when the cursor it started from was at least `VMIDStart`. -/
theorem connectCursor_spec (hs : ∀ resp, inventoryReply env s = .ok resp → NoMaxVmid resp)
    (h : s.rt.config.vmidStart ≤ s.rt.vmidCounter) :
    s.rt.config.vmidStart ≤ connectCursor env s ∧
      ∀ x ∈ inventoryVmids env s, toGoInt x < connectCursor env s := by
  unfold connectCursor inventoryVmids
  split
  · rename_i resp hr
    exact vmidScan_spec _ (hs resp hr)
  · exact ⟨h, fun _ hx => absurd hx (List.not_mem_nil _)⟩

theorem close_settings :
    (close s).2.settings = { s.settings with client := none, connected := false } := by
  have hk := keeps_settings_saveMetadata s
  rcases hsv : saveMetadata s with ⟨_ | _ | _, s1⟩ <;> rw [hsv] at hk <;> dsimp only at hk
  · rw [close, GoM.bind_ok (GoM.attempt_ok hsv)]
    simp only [Sys.settings, ProxmoxRuntime.mk.injEq] at hk
    simp [Sys.settings, hk]
  · rw [close, GoM.bind_ok (GoM.attempt_error hsv)]
    simp only [Sys.settings, ProxmoxRuntime.mk.injEq] at hk
    simp [Sys.settings, hk]
  · exact absurd hsv fun h => saveMetadata_ne_panic s _ (congrArg Prod.fst h)

theorem keeps_settings_versionBody : GoM.Keeps Sys.settings (versionBody env) := fun s => by
  have hk := keeps_settings_apiRequest env (.lit "GET") (.lit "/version") none s
  unfold versionBody
  rcases h : apiRequest env (.lit "GET") (.lit "/version") none s with ⟨_ | _ | _, s'⟩ <;>
    rw [h] at hk <;> exact hk

theorem keeps_settings_version : GoM.Keeps Sys.settings (version env) := fun s => by
  unfold version
  split
  · rfl
  · exact keeps_settings_versionBody env s

end Steps

/-! ## Allocation, step by step -/

theorem getNextVMID_of_le {s : Sys} (h : s.rt.config.vmidEnd ≤ s.rt.vmidCounter) :
    getNextVMID s = (.error (.lit "VMID range exhausted"), s) := by
  simp [getNextVMID, h]

theorem getNextVMID_of_lt {s : Sys} (h : s.rt.vmidCounter < s.rt.config.vmidEnd) :
    getNextVMID s =
      (.ok s.rt.vmidCounter, s.setRt { s.rt with vmidCounter := s.rt.vmidCounter + 1 }) := by
  simp [getNextVMID, not_le.mpr h]

end Cosmos

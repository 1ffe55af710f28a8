import CosmosRuntime.Proxmox.Query

/-!
# The states the runtime reaches

A `ProxmoxRuntime` serves calls one after another from `New` on: any of its operations with any
replies from the API, and in between the flushes its metadata mutations started and the callers'
edits of their own label maps. `Reachable E` collects the states such a history reaches when the
surroundings of every call satisfy `E`.

* `Call`, `runCall`, `Reachable`;
* `runCall_settings`: what one call can do to the runtime's own fields;
* **`Reachable.client_of_connected`**: a connected runtime has its client;
* **`Reachable.cursor`**: when the API's vmids are `float64` values, the cursor never falls below
  `VMIDStart`;
* the calls on one container in a runtime that is not connected: with no client they panic,
  with the client of a failed `Connect` they send their request.
-/

namespace Cosmos

/-- A call of the runtime's interface that can change its state. -/
inductive Call where
  | connect | close | version | list | statsAll
  | create (c : ContainerConfig)
  | start (id : GoString) | stop (id : GoString) | restart (id : GoString)
  | remove (id : GoString) | recreate (id : GoString) (c : ContainerConfig)
  | inspect (id : GoString) | stats (id : GoString)

/-- The state a call leaves, however it ended. -/
def runCall (env : Env) : Call → Sys → Sys
  | .connect, s => (connect env s).2
  | .close, s => (close s).2
  | .version, s => (version env s).2
  | .list, s => (list env s).2
  | .statsAll, s => (statsAll env s).2
  | .create c, s => (create env c s).2
  | .start id, s => (start env id s).2
  | .stop id, s => (stop env id s).2
  | .restart id, s => (restart env id s).2
  | .remove id, s => (remove env id s).2
  | .recreate id c, s => (recreate env id c s).2
  | .inspect id, s => (inspect env id s).2
  | .stats id, s => (stats env id s).2

/-- The fields Go declares `int` hold `int` values. -/
def Config.IntsOk (c : Config) : Prop := InIntRange c.vmidStart ∧ InIntRange c.vmidEnd

/-- The API's replies carry `float64` vmids: none converts to `maxInt`. -/
def Env.Sane (env : Env) : Prop := ∀ n resp, readReply (env.reply n) = .ok resp → NoMaxVmid resp

/-- The states reachable from `New` by calls whose surroundings satisfy `E`, flushes, and the
callers' edits of their maps. -/
inductive Reachable (E : Env → Prop) : Sys → Prop
  | init {cfg : Config} {rt : ProxmoxRuntime} (hcfg : cfg.IntsOk)
      (h : newRuntime (some cfg) = .ok rt) (heap : Heap) (disk : Disk) :
      Reachable E ⟨rt, heap, disk, []⟩
  | call {s : Sys} (env : Env) (k : Call) :
      E env → Reachable E s → Reachable E (runCall env k s)
  | flush {s : Sys} : Reachable E s → 0 < s.rt.metadata.pending → Reachable E s.flush
  | edit {s : Sys} (a : Nat) (l : Labels) :
      Reachable E s → Reachable E { s with heap := Function.update s.heap a l }

/-! ## One call -/

/-- **What one call can do to the runtime's own fields**: nothing, move the cursor on from below
`VMIDEnd` (`Create`, `Recreate`), or what `Connect` and `Close` do. -/
theorem runCall_settings (env : Env) (k : Call) (s : Sys) :
    (runCall env k s).settings = s.settings ∨
    (s.rt.vmidCounter < s.rt.config.vmidEnd ∧
      (runCall env k s).settings = { s.settings with vmidCounter := s.rt.vmidCounter + 1 }) ∨
    (k = .connect ∧ (runCall env k s).settings =
      if (connect env s).1 = .ok () then
        { (connectClient s).settings with connected := true, vmidCounter := connectCursor env s }
      else (connectClient s).settings) ∨
    (k = .close ∧
      (runCall env k s).settings = { s.settings with client := none, connected := false }) := by
  cases k with
  | connect => exact .inr (.inr (.inl ⟨rfl, connect_settings env s⟩))
  | close => exact .inr (.inr (.inr ⟨rfl, close_settings s⟩))
  | version => exact .inl (keeps_settings_version env s)
  | list => exact .inl (keeps_settings_of_held (keeps_held_list env) s)
  | statsAll => exact .inl (keeps_settings_of_held (keeps_held_statsAll env) s)
  | create c => exact (create_settings env c s).imp_right .inl
  | start id => exact .inl (keeps_settings_of_held (keeps_held_start env id) s)
  | stop id => exact .inl (keeps_settings_of_held (keeps_held_stop env id) s)
  | restart id => exact .inl (keeps_settings_of_held (keeps_held_restart env id) s)
  | remove id => exact .inl (keeps_settings_remove env id s)
  | recreate id c => exact (recreate_settings env id c s).imp_right .inl
  | inspect id => exact .inl (keeps_settings_of_held (keeps_held_inspect env id) s)
  | stats id => exact .inl (keeps_settings_of_held (keeps_held_stats env id) s)

theorem runCall_client_of_connected (env : Env) (k : Call) {s : Sys}
    (h : s.rt.connected = true → s.rt.client.isSome) :
    (runCall env k s).rt.connected = true → (runCall env k s).rt.client.isSome := by
  suffices (runCall env k s).settings.connected = true →
      (runCall env k s).settings.client.isSome by simpa using this
  rcases runCall_settings env k s with h' | ⟨-, h'⟩ | ⟨-, h'⟩ | ⟨-, h'⟩ <;> rw [h']
  · simpa using h
  · simpa using h
  · split_ifs <;> simp [connectClient]
  · simp

theorem runCall_client_isSome (env : Env) {k : Call} (hk : k ≠ .close) {s : Sys}
    (h : s.rt.client.isSome) : (runCall env k s).rt.client.isSome := by
  suffices (runCall env k s).settings.client.isSome by simpa using this
  rcases runCall_settings env k s with h' | ⟨-, h'⟩ | ⟨-, h'⟩ | ⟨hc, -⟩ <;> try rw [h']
  · simpa using h
  · simpa using h
  · split_ifs <;> simp [connectClient]
  · exact absurd hc hk

/-! ## Invariants -/

variable {E : Env → Prop} {s : Sys}

/-- **A connected runtime has its client.** -/
theorem Reachable.client_of_connected (hs : Reachable E s) :
    s.rt.connected = true → s.rt.client.isSome := by
  induction hs with
  | init _ h =>
    intro hc
    simp only [newRuntime] at h
    split_ifs at h
    cases h
    cases hc
  | call env k _ _ ih => exact runCall_client_of_connected env k ih
  | flush _ _ ih => simpa using ih
  | edit _ _ _ ih => simpa using ih

theorem Env.Sane.inventory {env : Env} (hE : env.Sane) (s : Sys) :
    ∀ resp, inventoryReply env s = .ok resp → NoMaxVmid resp := fun resp h =>
  hE _ resp (apiRequest_ok env _ _ _ _ h)

/-- **The cursor never falls below `VMIDStart`** when the API's vmids are `float64` values; the
range's bounds stay the `int`s `New` was given. -/
theorem Reachable.cursor (hs : Reachable Env.Sane s) :
    s.rt.config.IntsOk ∧ s.rt.config.vmidStart ≤ s.rt.vmidCounter := by
  suffices s.settings.config.IntsOk ∧ s.settings.config.vmidStart ≤ s.settings.vmidCounter by
    simpa using this
  induction hs with
  | init hcfg h =>
    simp only [newRuntime] at h
    split_ifs at h
    cases h
    exact ⟨hcfg, le_refl _⟩
  | call env k hE _ ih =>
    rename_i s _
    simp only [Sys.settings_config, Sys.settings_vmidCounter] at ih
    rcases runCall_settings env k s with h | ⟨-, h⟩ | ⟨-, h⟩ | ⟨-, h⟩ <;> rw [h]
    · simpa using ih
    · simp only [Sys.settings_config]
      exact ⟨ih.1, by omega⟩
    · have := (connectCursor_spec env s (hE.inventory s) ih.2).1
      split_ifs <;> simp [connectClient, ih.1, ih.2, this]
    · simpa using ih
  | flush _ _ ih => simpa using ih
  | edit _ _ _ ih => simpa using ih

/-! ## A runtime that is not connected -/

section Disconnected

variable (env : Env)

theorem create_of_disconnected (c : ContainerConfig) (hc : s.rt.connected = false) :
    create env c s = (.error (.lit "not connected to Proxmox"), s) := by
  rw [create_eq, if_pos hc]

theorem list_of_disconnected (hc : s.rt.connected = false) :
    list env s = (.error (.lit "not connected to Proxmox"), s) := by
  rw [list, GoM.bind_error (by rw [checkConnected_eq, hc]; rfl)]

variable {action verb id : GoString} {vmid : Int} (hid : parseInt id = some vmid)
  (hurl : env.newRequestError
    (s.rt.apiURL ++ (vmPath s.rt.node vmid ++ .lit "/status/" ++ action)) = none)
include hid hurl

theorem statusRequest_of_client_none (hc : s.rt.client = none) :
    statusRequest action verb env id s = (.panic nilDereference, s) := by
  unfold statusRequest
  rw [hid]
  exact GoM.bind_panic (GoM.wrap_panic _ (apiRequest_of_client_none env _ _ none s hurl hc)) _

end Disconnected

/-- The state `New(demoConfig)` leaves, with no label maps and no metadata file. -/
def demoFresh : Sys := ⟨initRuntime demoConfig, fun _ => ∅, ⟨none, none⟩, []⟩

/-- The API answers every request with status 200 and `data`. -/
def replyEnv (data : JsonValue) : Env :=
  ⟨fun _ => .response 200 [] (.ok data), fun _ => none, .lit "pw"⟩

theorem demoFresh_reachable (E : Env → Prop) : Reachable E demoFresh :=
  @Reachable.init E demoConfig (initRuntime demoConfig) ⟨by decide, by decide⟩ rfl _ _

/-- A runtime fresh from `New`, and one whose `Connect` failed, are both reachable and not
connected; `Start("100")` panics in the first and sends its POST in the second. -/
theorem start_when_disconnected :
    Reachable (fun _ => True) demoFresh ∧ demoFresh.rt.connected = false ∧
      start (replyEnv .null) (.lit "100") demoFresh = (.panic nilDereference, demoFresh) ∧
    Reachable (fun _ => True) (runCall downEnv .connect demoFresh) ∧
      (runCall downEnv .connect demoFresh).rt.connected = false ∧
      (start (replyEnv .null) (.lit "100") (runCall downEnv .connect demoFresh)).2.sent.length =
        (runCall downEnv .connect demoFresh).sent.length + 1 :=
  ⟨demoFresh_reachable _, rfl,
    statusRequest_of_client_none (replyEnv .null) (by decide : parseInt (.lit "100") = some 100)
      rfl rfl,
    .call _ _ trivial (demoFresh_reachable _), by decide, by decide⟩

end Cosmos

import CosmosRuntime.Metadata.File

/-!
# The runtime and the Proxmox API

A `ProxmoxRuntime` talks to the Proxmox VE API over HTTPS with a static API token
(`proxmox.go`). Its calls run in a `Sys`: the runtime's fields, the callers' label maps, the
metadata directory, and the requests sent so far. What lies outside the program is an `Env`:
the API's reply to each request, what `http.NewRequest` makes of a URL, and the password
`generateSecurePassword` draws from the clock.

* `Config`, `ContainerConfig`, `VolumeMount`: the settings and the descriptor, with the fields
  the runtime reads;
* `ProxmoxRuntime`, `Sys`, `Request`, `Reply`, `Env`;
* `newRuntime`: `New` with its checks;
* `apiRequest`: one authenticated request and the envelope `{"data": …}` of its reply; it
  dereferences the client, so with none installed it panics.
-/

namespace Cosmos

/-- `Config`: the Proxmox connection settings. -/
structure Config where
  host : GoString
  node : GoString
  tokenID : GoString
  tokenSecret : GoString
  storage : GoString
  vmidStart : Int
  vmidEnd : Int
  skipTLSVerify : Bool

/-- `runtime.VolumeMount`, the fields `buildLXCConfig` reads. -/
structure VolumeMount where
  source : GoString
  target : GoString
  readOnly : Bool

/-- `runtime.ContainerConfig`, the fields the Proxmox runtime reads; `labels` is a map the
caller holds. -/
structure ContainerConfig where
  name : GoString
  image : GoString
  hostname : GoString
  labels : LabelsRef
  volumes : List VolumeMount
  memory : Int
  memorySwap : Int
  cpus : ℚ
  privileged : Bool

/-- The `*http.Client` that `Connect` installs. -/
structure HttpClient where
  insecureSkipVerify : Bool

/-- `ProxmoxRuntime`: `client` is `none` while it is nil. -/
structure ProxmoxRuntime where
  client : Option HttpClient
  config : Config
  apiURL : GoString
  node : GoString
  connected : Bool
  vmidCounter : Int
  metadata : MetadataStore

/-- A request sent to the API; its body is the map `json.Marshal` encodes. -/
structure Request where
  method : GoString
  url : GoString
  authorization : GoString
  body : Option (GoMap GoString JsonValue)

/-- What `p.client.Do` gives for one request. -/
inductive Reply where
  /-- `Do` returned an error (connection, TLS, the 30 s timeout). -/
  | failed (err : GoString)
  /-- A response: its status code, its body, and what `json.NewDecoder(resp.Body).Decode`
  makes of the body: an error, or the `data` member (null when it is missing). -/
  | response (status : Nat) (body : GoString) (data : Except GoString JsonValue)

/-- The surroundings of one call. -/
structure Env where
  /-- The reply to the `n`-th request sent. -/
  reply : Nat → Reply
  /-- The error `http.NewRequest` returns for a URL, if it rejects it. -/
  newRequestError : GoString → Option GoString
  /-- What `generateSecurePassword` returns. -/
  password : GoString

/-- The state the runtime's calls act on. -/
structure Sys where
  rt : ProxmoxRuntime
  heap : Heap
  disk : Disk
  sent : List Request

/-- The runtime `New` returns for a configuration that passes its checks. -/
def initRuntime (c : Config) : ProxmoxRuntime :=
  { client := none, config := c, apiURL := .lit "https://" ++ c.host ++ .lit "/api2/json",
    node := c.node, connected := false, vmidCounter := c.vmidStart,
    metadata := MetadataStore.empty }

/-- `New`: the runtime for a configuration, or the error for a missing setting. -/
def newRuntime : Option Config → Except GoString ProxmoxRuntime
  | none => .error (.lit "proxmox config is required")
  | some c =>
    if c.host = [] then .error (.lit "proxmox host is required")
    else if c.node = [] then .error (.lit "proxmox node is required")
    else if c.tokenID = [] ∨ c.tokenSecret = [] then .error (.lit "proxmox API token is required")
    else .ok (initRuntime c)

/-- The text of the panic of a nil pointer dereference. -/
def nilDereference : GoString :=
  .lit "runtime error: invalid memory address or nil pointer dereference"

/-- What `apiRequest` returns for the reply to its request: an error for a status from 400 on,
otherwise the decoded `data`, an object as it is and any other value as `{"data": data}`. -/
def readReply : Reply → Outcome (GoMap GoString JsonValue)
  | .failed e => .error e
  | .response status text data =>
    if 400 ≤ status then .error (.lit "API error " ++ itoa status ++ .lit ": " ++ text)
    else match data with
      | .error e => .error e
      | .ok v => .ok ((v.asMap).getD ((∅ : GoMap GoString JsonValue).insert (.lit "data") v))

/-- The request `apiRequest` builds, with the token header. -/
def mkRequest (rt : ProxmoxRuntime) (method path : GoString)
    (body : Option (GoMap GoString JsonValue)) :
    Request :=
  ⟨method, rt.apiURL ++ path,
    .lit "PVEAPIToken=" ++ rt.config.tokenID ++ .lit "=" ++ rt.config.tokenSecret, body⟩

/-- `apiRequest`: build the request, send it with `p.client.Do`, and read the reply. With no
client installed, `Do` dereferences nil. -/
def apiRequest (env : Env) (method path : GoString)
    (body : Option (GoMap GoString JsonValue)) : GoM Sys (GoMap GoString JsonValue) := fun s =>
  match env.newRequestError (s.rt.apiURL ++ path), s.rt.client with
  | some e, _ => (.error e, s)
  | none, none => (.panic nilDereference, s)
  | none, some _ =>
    (readReply (env.reply s.sent.length),
      { s with sent := s.sent ++ [mkRequest s.rt method path body] })

/-- The path of the containers of a node. -/
def lxcPath (node : GoString) : GoString := .lit "/nodes/" ++ node ++ .lit "/lxc"

/-- The path of one container. -/
def vmPath (node : GoString) (vmid : Int) : GoString := lxcPath node ++ .lit "/" ++ itoa vmid

/-! ## Reading and writing the state -/

namespace Sys

/-- Write the runtime's fields. -/
def setRt (s : Sys) (rt : ProxmoxRuntime) : Sys := { s with rt := rt }

@[simp] theorem setRt_rt (s : Sys) (rt : ProxmoxRuntime) : (s.setRt rt).rt = rt := rfl

@[simp] theorem setRt_heap (s : Sys) (rt : ProxmoxRuntime) : (s.setRt rt).heap = s.heap := rfl

@[simp] theorem setRt_sent (s : Sys) (rt : ProxmoxRuntime) : (s.setRt rt).sent = s.sent := rfl

/-- Write the metadata store. -/
def setMetadata (s : Sys) (m : MetadataStore) : Sys := { s with rt := { s.rt with metadata := m } }

@[simp] theorem setMetadata_rt_metadata (s : Sys) (m : MetadataStore) :
    (s.setMetadata m).rt.metadata = m := rfl

@[simp] theorem setMetadata_heap (s : Sys) (m : MetadataStore) : (s.setMetadata m).heap = s.heap :=
  rfl

@[simp] theorem setMetadata_sent (s : Sys) (m : MetadataStore) : (s.setMetadata m).sent = s.sent :=
  rfl

@[simp] theorem setMetadata_counter (s : Sys) (m : MetadataStore) :
    (s.setMetadata m).rt.vmidCounter = s.rt.vmidCounter := rfl

@[simp] theorem setMetadata_connected (s : Sys) (m : MetadataStore) :
    (s.setMetadata m).rt.connected = s.rt.connected := rfl

@[simp] theorem setMetadata_client (s : Sys) (m : MetadataStore) :
    (s.setMetadata m).rt.client = s.rt.client := rfl

@[simp] theorem setMetadata_config (s : Sys) (m : MetadataStore) :
    (s.setMetadata m).rt.config = s.rt.config := rfl

/-- Everything but the requests sent: the runtime, the callers' maps, the disk. -/
def held (s : Sys) : ProxmoxRuntime × Heap × Disk := (s.rt, s.heap, s.disk)

/-- The runtime's own fields, without its metadata store: what `Connect`, `Close` and the
cursor's writers change, and nothing else does. -/
def settings (s : Sys) : ProxmoxRuntime := { s.rt with metadata := MetadataStore.empty }

@[simp] theorem settings_client (s : Sys) : s.settings.client = s.rt.client := rfl

@[simp] theorem settings_config (s : Sys) : s.settings.config = s.rt.config := rfl

@[simp] theorem settings_apiURL (s : Sys) : s.settings.apiURL = s.rt.apiURL := rfl

@[simp] theorem settings_node (s : Sys) : s.settings.node = s.rt.node := rfl

@[simp] theorem settings_connected (s : Sys) : s.settings.connected = s.rt.connected := rfl

@[simp] theorem settings_vmidCounter (s : Sys) : s.settings.vmidCounter = s.rt.vmidCounter := rfl

@[simp] theorem settings_setMetadata (s : Sys) (m : MetadataStore) :
    (s.setMetadata m).settings = s.settings := rfl

@[simp] theorem settings_sent (s : Sys) (l : List Request) :
    ({ s with sent := l } : Sys).settings = s.settings := rfl

@[simp] theorem settings_heap (s : Sys) (h : Heap) :
    ({ s with heap := h } : Sys).settings = s.settings := rfl

@[simp] theorem settings_disk (s : Sys) (d : Disk) :
    ({ s with disk := d } : Sys).settings = s.settings := rfl

@[simp] theorem settings_setRt_counter (s : Sys) (n : Int) :
    (s.setRt { s.rt with vmidCounter := n }).settings = { s.settings with vmidCounter := n } := rfl

@[simp] theorem settings_setRt_connected (s : Sys) (b : Bool) :
    (s.setRt { s.rt with connected := b }).settings = { s.settings with connected := b } := rfl

end Sys

section ApiRequest

variable (env : Env) (method path : GoString) (body : Option (GoMap GoString JsonValue)) (s : Sys)

theorem apiRequest_state : (apiRequest env method path body s).2 = s ∨
    (apiRequest env method path body s).2 =
      { s with sent := s.sent ++ [mkRequest s.rt method path body] } := by
  unfold apiRequest; split <;> simp

theorem keeps_apiRequest {β : Type} {f : Sys → β}
    (hf : ∀ s (l : List Request), f { s with sent := l } = f s) :
    GoM.Keeps f (apiRequest env method path body) := fun s => by
  rcases apiRequest_state env method path body s with h | h <;> rw [h]
  exact hf _ _

theorem keeps_held_apiRequest : GoM.Keeps Sys.held (apiRequest env method path body) :=
  keeps_apiRequest env method path body fun _ _ => rfl

theorem keeps_settings_apiRequest : GoM.Keeps Sys.settings (apiRequest env method path body) :=
  keeps_apiRequest env method path body fun _ _ => rfl

@[simp] theorem apiRequest_rt : (apiRequest env method path body s).2.rt = s.rt :=
  keeps_apiRequest env method path body (f := Sys.rt) (fun _ _ => rfl) s

@[simp] theorem apiRequest_heap : (apiRequest env method path body s).2.heap = s.heap :=
  keeps_apiRequest env method path body (f := Sys.heap) (fun _ _ => rfl) s

@[simp] theorem apiRequest_disk : (apiRequest env method path body s).2.disk = s.disk :=
  keeps_apiRequest env method path body (f := Sys.disk) (fun _ _ => rfl) s

/-- **With no client installed, a request the URL parser accepts panics, and nothing is sent.** -/
theorem apiRequest_of_client_none (hurl : env.newRequestError (s.rt.apiURL ++ path) = none)
    (hc : s.rt.client = none) : apiRequest env method path body s = (.panic nilDereference, s) := by
  simp [apiRequest, hurl, hc]

theorem apiRequest_of_client_some {c : HttpClient}
    (hurl : env.newRequestError (s.rt.apiURL ++ path) = none) (hc : s.rt.client = some c) :
    apiRequest env method path body s = (readReply (env.reply s.sent.length),
      { s with sent := s.sent ++ [mkRequest s.rt method path body] }) := by
  simp [apiRequest, hurl, hc]

theorem apiRequest_ok {r : GoMap GoString JsonValue}
    (h : (apiRequest env method path body s).1 = .ok r) :
    readReply (env.reply s.sent.length) = .ok r := by
  unfold apiRequest at h
  split at h
  · cases h
  · cases h
  · exact h

theorem readReply_ne_panic (r : Reply) (m : GoString) : readReply r ≠ .panic m := by
  unfold readReply; split
  · simp
  · split
    · simp
    · split <;> simp

theorem apiRequest_ne_panic {c : HttpClient} (hc : s.rt.client = some c) (m : GoString) :
    (apiRequest env method path body s).1 ≠ .panic m := by
  unfold apiRequest
  split
  · simp
  · simp_all
  · exact readReply_ne_panic _ m

end ApiRequest

end Cosmos

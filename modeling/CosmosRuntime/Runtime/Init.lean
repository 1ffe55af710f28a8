import CosmosRuntime.Proxmox.Api

/-!
# Choosing the backend

`InitFromConfig` reads `RuntimeType` from the main configuration, turns the empty string into
`"docker"`, and builds the `RuntimeConfig` it hands to `InitRuntime`: the Proxmox variant for
`"proxmox"` and the Docker variant for every other string. `GetRuntimeTypeFromConfig` reads the
same setting and turns only the empty string into `"docker"`.

* `MainConfig`, `DockerConfig`, `RuntimeConfig`, `LogEntry`;
* `settledRuntimeType`, `runtimeSwitch`, `initFromConfig`, `getRuntimeTypeFromConfig`;
* `Backend`: the tagged union a `RuntimeConfig` stands for, and `RuntimeConfig.Tagged`: the
  discriminant matches the one payload that is set;
* **`runtimeSwitch_tagged`**: `InitFromConfig` always builds a tagged configuration;
* **`getRuntimeTypeFromConfig_eq_type_iff`**: the type reported from the configuration is the
  one selected exactly for `""`, `"docker"` and `"proxmox"`.
-/

namespace Cosmos

/-- `types.RuntimeDocker`. -/
def runtimeDocker : GoString := .lit "docker"

/-- `types.RuntimeProxmox`. -/
def runtimeProxmox : GoString := .lit "proxmox"

/-- The fields of `utils.MainConfig` the runtime package reads: `RuntimeType`, and the
settings of `ProxmoxConfig`, with the fields of `types.ProxmoxConfig`. -/
structure MainConfig where
  runtimeType : GoString
  proxmoxConfig : Config

/-- `types.DockerConfig`. -/
structure DockerConfig where
  host : GoString
  tlsVerify : Bool
  certPath : GoString
  deriving DecidableEq

/-- `types.RuntimeConfig`; a nil pointer is `none`. -/
structure RuntimeConfig where
  type : GoString
  docker : Option DockerConfig
  proxmox : Option Config

/-- A line `InitFromConfig` logs: `utils.Log(message)` or `utils.Error(message, err)`. -/
inductive LogEntry where
  | log (message : GoString)
  | error (message : GoString) (err : GoString)
  deriving DecidableEq

/-- `runtimeType` in `InitFromConfig`: `RuntimeType`, or `"docker"` when it is empty. -/
def settledRuntimeType (c : MainConfig) : GoString :=
  if c.runtimeType = [] then .lit "docker" else c.runtimeType

/-- The `switch runtimeType` of `InitFromConfig`: the `RuntimeConfig` it builds and the line
it logs. The `default` arm takes every string but `"proxmox"`. -/
def runtimeSwitch (c : MainConfig) : RuntimeConfig × GoString :=
  if settledRuntimeType c = .lit "proxmox" then
    ({ type := runtimeProxmox, docker := none,
       proxmox := some
        { host := c.proxmoxConfig.host, node := c.proxmoxConfig.node,
          tokenID := c.proxmoxConfig.tokenID, tokenSecret := c.proxmoxConfig.tokenSecret,
          storage := c.proxmoxConfig.storage, vmidStart := c.proxmoxConfig.vmidStart,
          vmidEnd := c.proxmoxConfig.vmidEnd, skipTLSVerify := c.proxmoxConfig.skipTLSVerify } },
      .lit "Initializing Proxmox LXC runtime...")
  else
    ({ type := runtimeDocker, docker := some ⟨[], false, []⟩, proxmox := none },
      .lit "Initializing Docker runtime...")

/-- `InitFromConfig`, for the error `InitRuntime` returns on a configuration (`none` for nil):
the error it returns and the lines it logs. -/
def initFromConfig (initRuntime : RuntimeConfig → Option GoString) (c : MainConfig) :
    Option GoString × List LogEntry :=
  match initRuntime (runtimeSwitch c).1 with
  | some err =>
    (some err, [.log (runtimeSwitch c).2,
      .error (.lit "Failed to initialize container runtime") err])
  | none =>
    (none, [.log (runtimeSwitch c).2,
      .log (.lit "Container runtime initialized successfully: " ++ settledRuntimeType c)])

/-- `GetRuntimeTypeFromConfig`. -/
def getRuntimeTypeFromConfig (c : MainConfig) : GoString :=
  if c.runtimeType = [] then .lit "docker" else c.runtimeType

theorem runtimeDocker_ne_runtimeProxmox : runtimeDocker ≠ runtimeProxmox := by decide

theorem getRuntimeTypeFromConfig_eq_settled (c : MainConfig) :
    getRuntimeTypeFromConfig c = settledRuntimeType c := rfl

theorem runtimeSwitch_type_of_proxmox {c : MainConfig} (h : settledRuntimeType c = runtimeProxmox) :
    (runtimeSwitch c).1.type = runtimeProxmox := by
  unfold runtimeSwitch
  split
  · rfl
  · exact absurd h ‹_›

theorem runtimeSwitch_type_of_ne {c : MainConfig} (h : settledRuntimeType c ≠ runtimeProxmox) :
    (runtimeSwitch c).1.type = runtimeDocker := by
  unfold runtimeSwitch
  split
  · exact absurd ‹_› h
  · rfl

/-! ## The tagged union -/

/-- The backend a runtime configuration selects, with its settings. -/
inductive Backend where
  | docker (c : DockerConfig)
  | proxmox (c : Config)

/-- The `RuntimeConfig` of a backend: its discriminant, and its own payload only. -/
def Backend.toRuntimeConfig : Backend → RuntimeConfig
  | docker c => ⟨runtimeDocker, some c, none⟩
  | proxmox c => ⟨runtimeProxmox, none, some c⟩

/-- The discriminant of `r` matches the one payload that is set. -/
def RuntimeConfig.Tagged (r : RuntimeConfig) : Prop := ∃ b : Backend, b.toRuntimeConfig = r

theorem RuntimeConfig.tagged_iff (r : RuntimeConfig) : r.Tagged ↔
    (r.type = runtimeDocker ∧ r.docker.isSome ∧ r.proxmox = none) ∨
      (r.type = runtimeProxmox ∧ r.docker = none ∧ r.proxmox.isSome) := by
  constructor
  · rintro ⟨_ | _, rfl⟩ <;> simp [Backend.toRuntimeConfig]
  · rintro (⟨ht, hd, hp⟩ | ⟨ht, hd, hp⟩)
    · obtain ⟨d, hd⟩ := Option.isSome_iff_exists.mp hd
      exact ⟨.docker d, by cases r; simp_all [Backend.toRuntimeConfig]⟩
    · obtain ⟨p, hp⟩ := Option.isSome_iff_exists.mp hp
      exact ⟨.proxmox p, by cases r; simp_all [Backend.toRuntimeConfig]⟩

/-- **`InitFromConfig` builds a tagged configuration**: the Proxmox backend for `"proxmox"`, the
Docker backend otherwise. -/
theorem runtimeSwitch_tagged (c : MainConfig) : (runtimeSwitch c).1.Tagged := by
  unfold runtimeSwitch
  split
  · exact ⟨.proxmox _, rfl⟩
  · exact ⟨.docker _, rfl⟩

/-- **The reported type is the selected one** exactly when `RuntimeType` is `""`, `"docker"` or
`"proxmox"`: both functions default only the empty string, and only `InitFromConfig` sends the
other strings to Docker. -/
theorem getRuntimeTypeFromConfig_eq_type_iff (c : MainConfig) :
    getRuntimeTypeFromConfig c = (runtimeSwitch c).1.type ↔
      c.runtimeType = [] ∨ c.runtimeType = runtimeDocker ∨ c.runtimeType = runtimeProxmox := by
  rw [getRuntimeTypeFromConfig_eq_settled]
  by_cases h0 : c.runtimeType = []
  · have hs : settledRuntimeType c = runtimeDocker := if_pos h0
    simp [hs, runtimeSwitch_type_of_ne (hs ▸ runtimeDocker_ne_runtimeProxmox), h0]
  · have hs : settledRuntimeType c = c.runtimeType := if_neg h0
    by_cases hp : c.runtimeType = runtimeProxmox
    · simp [runtimeSwitch_type_of_proxmox (hs.trans hp), hs, hp]
    · simp [runtimeSwitch_type_of_ne (hs ▸ hp), hs, hp, h0]

/-- With `RuntimeType` set to `"Proxmox"`, `InitFromConfig` builds the Docker configuration and
logs that the runtime `Proxmox` is initialized, while `GetRuntimeTypeFromConfig` reports
`"Proxmox"`, a type no backend has. -/
theorem init_selects_docker_for_Proxmox (pc : Config) :
    (runtimeSwitch ⟨.lit "Proxmox", pc⟩).1 = (Backend.docker ⟨[], false, []⟩).toRuntimeConfig ∧
    getRuntimeTypeFromConfig ⟨.lit "Proxmox", pc⟩ = .lit "Proxmox" ∧
    (initFromConfig (fun _ => none) ⟨.lit "Proxmox", pc⟩).2 =
      [.log (.lit "Initializing Docker runtime..."),
        .log (.lit "Container runtime initialized successfully: Proxmox")] := by
  have hs : settledRuntimeType ⟨.lit "Proxmox", pc⟩ = .lit "Proxmox" := rfl
  have hne : settledRuntimeType ⟨.lit "Proxmox", pc⟩ ≠ .lit "proxmox" := by rw [hs]; decide
  refine ⟨?_, rfl, ?_⟩
  · rw [runtimeSwitch, if_neg hne]; rfl
  · rw [initFromConfig, runtimeSwitch, if_neg hne, hs]; rfl

end Cosmos

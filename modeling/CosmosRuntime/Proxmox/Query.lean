import CosmosRuntime.Proxmox.Lifecycle

/-!
# Listing and inspecting containers

`List` reads the node's inventory and turns every entry that is an object into a `Container`,
with the name and labels the metadata store holds for its vmid. It reads the vmid with the
unchecked assertion `r["vmid"].(float64)`, which panics on an entry whose vmid is missing or not
a number. `Inspect` and `Stats` read one container; `StatsAll` runs `Stats` on every listed
container and skips the ones that fail.

* `ContainerState`, `Container`, `Details`, `Stats`: the fields these calls fill in;
* `mapProxmoxState`, `getStatus`, `containerOf`, `listItem`, `listItems`, `list`;
* `inspect`, `stats`, `statsEach`, `statsAll`, `logs`.
-/

namespace Cosmos

/-- `runtime.ContainerState`. -/
inductive ContainerState where
  | created | running | paused | restarting | exited | dead
  deriving DecidableEq, Repr

/-- `runtime.Container`, the fields `List` fills in; `labels` is what `Get` returned. -/
structure Container where
  id : GoString
  name : GoString
  state : ContainerState
  status : GoString
  labels : Option Labels
  deriving DecidableEq

/-- `mapProxmoxState` of the value of `status`, `none` when the member is missing. -/
def mapProxmoxState : Option JsonValue → ContainerState
  | some (.string s) =>
    if s = .lit "running" then .running
    else if s = .lit "stopped" then .exited
    else if s = .lit "paused" then .paused
    else .dead
  | _ => .dead

/-- `getStatus`. -/
def getStatus : Option JsonValue → GoString
  | some (.string s) => s
  | _ => .lit "unknown"

/-- The name Go gives the dynamic type of a value held in an `interface{}`: `nil` for a missing
member or a JSON `null`. -/
def goTypeName : Option JsonValue → GoString
  | none | some .null => .lit "nil"
  | some (.bool _) => .lit "bool"
  | some (.number _) => .lit "float64"
  | some (.string _) => .lit "string"
  | some (.array _) => .lit "[]interface \x7b\x7d"
  | some (.object _) => .lit "map[string]interface \x7b\x7d"

/-- The panic of a failed assertion `x.(float64)`. -/
def interfaceConversion (v : Option JsonValue) : GoString :=
  .lit "interface conversion: interface \x7b\x7d is " ++ goTypeName v ++ .lit ", not float64"

/-- The `Container` `List` makes of an object entry `r` whose vmid is the number `x`: the name is
the `cosmos-name` label, or the entry's own `name` when that label is empty. -/
def containerOf (m : MetadataStore) (h : Heap) (r : GoMap GoString JsonValue) (x : ℚ) :
    Container :=
  let vmid := toGoInt x
  let name := m.getLabel h vmid cosmosName
  { id := itoa vmid,
    name := if name = [] then
        (match r.lookup (.lit "name") with
          | some (.string n) => n
          | _ => [])
      else name,
    state := mapProxmoxState (r.lookup (.lit "status")),
    status := getStatus (r.lookup (.lit "status")),
    labels := m.get h vmid }

/-- One turn of the loop of `List`: nothing for an entry that is not an object, a `Container`
for one with a numeric vmid, and the panic of the assertion for any other. -/
def listItem (m : MetadataStore) (h : Heap) (item : JsonValue) :
    Except GoString (Option Container) :=
  match item.asMap with
  | none => .ok none
  | some r =>
    match r.lookup (.lit "vmid") with
    | some (.number x) => .ok (some (containerOf m h r x))
    | v => .error (interfaceConversion v)

/-- The loop of `List` over the entries, in order; an error is the panic that ends it. -/
def listItems (m : MetadataStore) (h : Heap) : List JsonValue → Except GoString (List Container)
  | [] => .ok []
  | x :: xs => do
    let c ← listItem m h x
    let cs ← listItems m h xs
    return c.toList ++ cs

/-- What `List` does after its check of the flag. -/
def listBody (env : Env) : GoM Sys (List Container) := do
  let rt ← GoM.gets (·.rt)
  let resp ← GoM.wrap (.lit "failed to list containers: ")
    (apiRequest env (.lit "GET") (lxcPath rt.node) none)
  let s ← GoM.gets fun s => s
  match dataItems resp with
  | none => return []
  | some xs =>
    match listItems s.rt.metadata s.heap xs with
    | .ok cs => return cs
    | .error p => GoM.crash p

/-- `List`. -/
def list (env : Env) : GoM Sys (List Container) := do
  checkConnected
  listBody env

/-! ## Inspect, Stats, Logs -/

/-- The fields of `runtime.ContainerDetails` that `Inspect` fills in. -/
structure Details where
  id : GoString
  name : GoString
  labels : Option Labels
  configName : GoString
  hostname : GoString
  memory : Int

/-- `Inspect`. -/
def inspect (env : Env) (id : GoString) : GoM Sys Details :=
  match parseInt id with
  | none => GoM.fail (.lit "invalid container ID: " ++ id)
  | some vmid => do
    let rt ← GoM.gets (·.rt)
    let resp ← GoM.wrap (.lit "failed to inspect container: ")
      (apiRequest env (.lit "GET") (vmPath rt.node vmid ++ .lit "/config") none)
    let s ← GoM.gets fun s => s
    let m := s.rt.metadata
    return { id := id, name := m.getLabel s.heap vmid cosmosName, labels := m.get s.heap vmid,
             configName := m.getLabel s.heap vmid cosmosName,
             hostname := match resp.lookup (.lit "hostname") with
               | some (.string h) => h
               | _ => [],
             memory := match resp.lookup (.lit "memory") with
               | some (.number x) => wrapInt (toGoInt x * 1024 * 1024)
               | _ => 0 }

/-- The fields of `runtime.ContainerStats` that `Stats` fills in; the `float64` ones are kept
exactly. -/
structure Stats where
  id : GoString
  name : GoString
  cpuPercent : ℚ
  memoryUsage : Int
  memoryLimit : Int
  memoryPercent : ℚ

/-- `Stats`. -/
def stats (env : Env) (id : GoString) : GoM Sys Stats :=
  match parseInt id with
  | none => GoM.fail (.lit "invalid container ID: " ++ id)
  | some vmid => do
    let rt ← GoM.gets (·.rt)
    let resp ← GoM.wrap (.lit "failed to get stats: ")
      (apiRequest env (.lit "GET") (vmPath rt.node vmid ++ .lit "/status/current") none)
    let s ← GoM.gets fun s => s
    let usage := match resp.lookup (.lit "mem") with
      | some (.number x) => toGoInt x
      | _ => 0
    let limit := match resp.lookup (.lit "maxmem") with
      | some (.number x) => toGoInt x
      | _ => 0
    return { id := id, name := s.rt.metadata.getLabel s.heap vmid cosmosName,
             cpuPercent := match resp.lookup (.lit "cpu") with
               | some (.number x) => x * 100
               | _ => 0,
             memoryUsage := usage, memoryLimit := limit,
             memoryPercent := if 0 < limit then (usage : ℚ) / limit * 100 else 0 }

/-- The loop of `StatsAll`: `Stats` of each container, skipping the ones that fail. -/
def statsEach (env : Env) : List Container → GoM Sys (List Stats)
  | [] => return []
  | c :: cs => do
    match ← GoM.attempt (stats env c.id) with
    | .ok st => return st :: (← statsEach env cs)
    | .error _ => statsEach env cs

/-- `StatsAll`. -/
def statsAll (env : Env) : GoM Sys (List Stats) := do
  let cs ← list env
  statsEach env cs

/-- The text the reader `Logs` returns yields. -/
def logs : GoString := .lit "Log streaming not yet implemented for Proxmox LXC\n"

/-! ## The queries change nothing but the requests sent -/

section Frames

variable (env : Env) (id : GoString)

theorem keeps_held_listBody : GoM.Keeps Sys.held (listBody env) := by
  refine (GoM.keeps_gets _).bind fun _ =>
    ((keeps_held_apiRequest env _ _ _).wrap _).bind fun resp => (GoM.keeps_gets _).bind fun s => ?_
  rcases dataItems resp with _ | xs
  · exact GoM.keeps_pure _
  · dsimp only
    rcases listItems s.rt.metadata s.heap xs with p | cs
    · exact fun _ => rfl
    · exact GoM.keeps_pure _

theorem keeps_held_list : GoM.Keeps Sys.held (list env) :=
  keeps_held_checkConnected.bind fun _ => keeps_held_listBody env

theorem keeps_held_inspect : GoM.Keeps Sys.held (inspect env id) := fun s => by
  unfold inspect
  rcases parseInt id with _ | vmid
  · rfl
  · exact ((GoM.keeps_gets _).bind fun _ =>
      ((keeps_held_apiRequest env _ _ _).wrap _).bind fun _ =>
      (GoM.keeps_gets _).bind fun _ => GoM.keeps_pure _) s

theorem keeps_held_stats : GoM.Keeps Sys.held (stats env id) := fun s => by
  unfold stats
  rcases parseInt id with _ | vmid
  · rfl
  · exact ((GoM.keeps_gets _).bind fun _ =>
      ((keeps_held_apiRequest env _ _ _).wrap _).bind fun _ =>
      (GoM.keeps_gets _).bind fun _ => GoM.keeps_pure _) s

theorem keeps_held_statsEach (cs : List Container) : GoM.Keeps Sys.held (statsEach env cs) := by
  induction cs with
  | nil => exact GoM.keeps_pure _
  | cons c cs ih =>
    refine (keeps_held_stats env c.id).attempt.bind fun r => ?_
    rcases r with _ | st
    · exact ih
    · exact ih.bind fun _ => GoM.keeps_pure _

theorem keeps_held_statsAll : GoM.Keeps Sys.held (statsAll env) :=
  (keeps_held_list env).bind (keeps_held_statsEach env)

end Frames

end Cosmos

import CosmosRuntime.Proxmox.Records

/-!
# Container IDs, and what `Inspect` reads back

The interface names a container by a string. `Create` returns `strconv.Itoa(vmid)` of the VMID it
posted, `List` reports `strconv.Itoa(int(vmid))` of each entry's `float64` vmid, and the calls on
one container parse the string back with `strconv.Atoi`. This module shows the strings the
runtime hands out are ones it accepts, naming the VMID the rest of the answer is about, and that
`Inspect` decodes the hostname and memory as `Create` encoded them.

* `mem_listItems`, `list_ok_containers`: each container `List` returns is made from one entry;
* `getThenRead_ok`, `inspect_ok`: what `Inspect` reports for an id that parses;
* **`create_id_roundtrip`**: in a reachable runtime, the id `Create` returns parses back to the
  VMID it took from `[VMIDStart, VMIDEnd)`, the one its POST carried;
* **`list_ids_inspect`**: every id `List` returns parses back to the VMID whose labels it reports,
  and `Inspect` of that id reports the same labels and, when the container has its
  `cosmos-name`, the same name;
* `stats_ok`, `statsEach_cases`: what `Stats` and the loop of `StatsAll` return;
* **`statsAll_reports_listed`**: `StatsAll` fails exactly when `List` does, and otherwise reports,
  in order, on some of the containers `List` returned, named by their `cosmos-name`;
* **`inspect_reads_create_config`**: `Inspect` reports the hostname `Create` posted and the memory
  it asked for, rounded down to a whole MiB.
-/

namespace Cosmos

variable (env : Env)

/-! ## What `Create` posts and returns -/

theorem apiRequest_sent_of_ok {method path : GoString} {body : Option (GoMap GoString JsonValue)}
    {s s' : Sys} {r : GoMap GoString JsonValue}
    (h : apiRequest env method path body s = (.ok r, s')) :
    s'.sent = s.sent ++ [mkRequest s.rt method path body] := by
  unfold apiRequest at h
  split at h
  · cases h
  · cases h
  · rw [← (Prod.mk.inj h).2]

theorem recordLabels_sent (c : ContainerConfig) (vmid : Int) (s : Sys) :
    (recordLabels c vmid s).sent = s.sent := by
  unfold recordLabels setLabel createSet
  simp only [GoM.modify_apply]
  split <;> rfl

/-- **The id `Create` returns names the container it posted.** In a reachable runtime whose API
reports `float64` vmids, a `Create` that returned gives the text of the VMID it took; that VMID
lies in `[VMIDStart, VMIDEnd)`, `strconv.Atoi` reads it back from the id, and it is the `"vmid"`
of the one request the call sent. -/
theorem create_id_roundtrip (c : ContainerConfig) {s : Sys} (hs : Reachable Env.Sane s)
    {r : GoString} {s' : Sys} (h : create env c s = (.ok r, s')) :
    parseInt r = some s.rt.vmidCounter ∧
      s.rt.config.vmidStart ≤ s.rt.vmidCounter ∧ s.rt.vmidCounter < s.rt.config.vmidEnd ∧
      ∃ body, s'.sent = s.sent ++ [mkRequest s.rt (.lit "POST") (lxcPath s.rt.node) (some body)] ∧
        body.lookup (.lit "vmid") = some (.number s.rt.vmidCounter) := by
  obtain ⟨-, hv, rfl, s2, hp, rfl⟩ := create_ok_cases env c s h
  obtain ⟨⟨hlo, hhi⟩, hstart⟩ := hs.cursor
  have hin : InIntRange s.rt.vmidCounter := ⟨hlo.1.trans hstart, hv.le.trans hhi.2⟩
  refine ⟨parseInt_itoa hin, hstart, hv,
    buildLXCConfig env { s.rt with vmidCounter := s.rt.vmidCounter + 1 } s.rt.vmidCounter c, ?_,
    lookup_buildLXCConfig env _ _ c (List.mem_cons_self _ _)⟩
  rw [recordLabels_sent]
  rw [createPost_eq] at hp
  split at hp
  · next ha =>
    cases hp
    have hsent := apiRequest_sent_of_ok env ha
    exact hsent
  · cases hp
  · cases hp

theorem staleSys_reachable_sane : Reachable Env.Sane staleSys :=
  .call _ _ (fun _ _ h => by cases h; decide)
    (@Reachable.init _ demoConfig (initRuntime demoConfig) ⟨by decide, by decide⟩ rfl _ staleDisk)

/-- `Create` at the stale state returns `"100"`, which parses back to the VMID it posted. -/
theorem create_id_roundtrip_stale :
    Reachable Env.Sane staleSys ∧
    create (replyEnv (.array [])) webConfig staleSys =
      (.ok (.lit "100"), (create (replyEnv (.array [])) webConfig staleSys).2) ∧
    (parseInt (.lit "100") = some staleSys.rt.vmidCounter ∧
      staleSys.rt.config.vmidStart ≤ staleSys.rt.vmidCounter ∧
      staleSys.rt.vmidCounter < staleSys.rt.config.vmidEnd ∧
      ∃ body, (create (replyEnv (.array [])) webConfig staleSys).2.sent =
          staleSys.sent ++ [mkRequest staleSys.rt (.lit "POST") (lxcPath staleSys.rt.node)
            (some body)] ∧
        body.lookup (.lit "vmid") = some (.number staleSys.rt.vmidCounter)) :=
  have h : create (replyEnv (.array [])) webConfig staleSys =
      (.ok (.lit "100"), (create (replyEnv (.array [])) webConfig staleSys).2) :=
    Prod.ext (by decide) rfl
  ⟨staleSys_reachable_sane, h, create_id_roundtrip _ webConfig staleSys_reachable_sane h⟩

/-! ## What `List` returns and `Inspect` reads -/

theorem mem_listItems {m : MetadataStore} {h : Heap} {xs : List JsonValue} {cs : List Container}
    (hl : listItems m h xs = .ok cs) {c : Container} (hc : c ∈ cs) :
    ∃ r x, c = containerOf m h r x := by
  induction xs generalizing cs with
  | nil => cases hl; cases hc
  | cons y xs ih =>
    rcases hy : listItem m h y with p | o
    · simp [listItems, hy, bind, Except.bind] at hl
    rcases hxs : listItems m h xs with p | ds
    · simp [listItems, hy, hxs, bind, Except.bind] at hl
    simp only [listItems, hy, hxs, bind, Except.bind, pure, Except.pure, Except.ok.injEq] at hl
    subst hl
    rcases List.mem_append.mp hc with ho | hd
    · unfold listItem at hy
      split at hy
      · cases hy; cases ho
      · split at hy
        · cases hy; exact ⟨_, _, Option.some.inj (Option.mem_toList.mp ho).symm⟩
        · cases hy
    · exact ih hxs hd

theorem list_ok_containers {s s' : Sys} {cs : List Container} (h : list env s = (.ok cs, s')) :
    ∀ c ∈ cs, ∃ r x, c = containerOf s.rt.metadata s.heap r x := by
  cases hc : s.rt.connected
  · rw [list_of_disconnected env hc] at h; cases h
  rw [list, GoM.bind_ok (by rw [checkConnected_eq, if_pos hc]), listBody,
    GoM.bind_ok (GoM.gets_apply _ _)] at h
  have hk := keeps_held_apiRequest env (.lit "GET") (lxcPath s.rt.node) none s
  rcases ha : apiRequest env (.lit "GET") (lxcPath s.rt.node) none s with ⟨resp | _ | _, s1⟩ <;>
    rw [ha] at hk
  · rw [GoM.bind_ok (GoM.wrap_ok _ ha), GoM.bind_ok (GoM.gets_apply _ _)] at h
    simp only [Sys.held, Prod.mk.injEq] at hk
    rcases hd : dataItems resp with _ | xs <;> rw [hd] at h <;> dsimp only at h
    · cases h; intro c hc; cases hc
    rcases hl : listItems s1.rt.metadata s1.heap xs with p | cs' <;> rw [hl] at h <;>
      dsimp only at h <;> cases h
    intro c hc
    rw [← hk.1, ← hk.2.1]
    exact mem_listItems hl hc
  · rw [GoM.bind_error (GoM.wrap_error _ ha)] at h; cases h
  · rw [GoM.bind_panic (GoM.wrap_panic _ ha)] at h; cases h

theorem getThenRead_ok {α : Type} {pre : GoString} {path : ProxmoxRuntime → GoString}
    {k : GoMap GoString JsonValue → Sys → α} {s s' : Sys} {a : α}
    (h : (do
      let rt ← GoM.gets (·.rt)
      let resp ← GoM.wrap pre (apiRequest env (.lit "GET") (path rt) none)
      let s ← GoM.gets fun s => s
      return k resp s : GoM Sys α) s = (.ok a, s')) :
    ∃ resp, readReply (env.reply s.sent.length) = .ok resp ∧ a = k resp s' ∧
      s'.held = s.held := by
  rw [GoM.bind_ok (GoM.gets_apply _ _)] at h
  have hk := keeps_held_apiRequest env (.lit "GET") (path s.rt) none s
  rcases ha : apiRequest env (.lit "GET") (path s.rt) none s with ⟨_ | _ | _, s1⟩ <;> rw [ha] at hk
  · rw [GoM.bind_ok (GoM.wrap_ok _ ha), GoM.bind_ok (GoM.gets_apply _ _)] at h
    cases h
    exact ⟨_, apiRequest_ok env _ _ _ _ (congrArg Prod.fst ha), rfl, hk⟩
  · rw [GoM.bind_error (GoM.wrap_error _ ha)] at h; cases h
  · rw [GoM.bind_panic (GoM.wrap_panic _ ha)] at h; cases h

/-- **What `Inspect` returns** for an id that parses: the labels `Get` gives for its VMID, the
name `GetLabel` gives, and the hostname and memory read from the reply to its one request. -/
theorem inspect_ok {id : GoString} {vmid : Int} (hid : parseInt id = some vmid) {s s' : Sys}
    {d : Details} (h : inspect env id s = (.ok d, s')) :
    ∃ resp, readReply (env.reply s.sent.length) = .ok resp ∧
      d = { id := id, name := s.rt.metadata.getLabel s.heap vmid cosmosName,
            labels := s.rt.metadata.get s.heap vmid,
            configName := s.rt.metadata.getLabel s.heap vmid cosmosName,
            hostname := match resp.lookup (.lit "hostname") with
              | some (.string h) => h
              | _ => [],
            memory := match resp.lookup (.lit "memory") with
              | some (.number x) => wrapInt (toGoInt x * 1024 * 1024)
              | _ => 0 } := by
  unfold inspect at h
  rw [hid] at h
  obtain ⟨resp, hr, rfl, hk⟩ := getThenRead_ok env h
  simp only [Sys.held, Prod.mk.injEq] at hk
  rw [hk.1, hk.2.1]
  exact ⟨resp, hr, rfl⟩

/-- **The ids `List` returns name the containers it describes.** Every id parses back to a VMID
(`int(vmid)` of the entry's `float64`), the labels reported are the ones `Get` gives for that VMID,
and `Inspect` of the id, run next, reports the same labels and, unless the container has no
`cosmos-name` label (and `List` shows the API's own name), the same name. -/
theorem list_ids_inspect {s s' : Sys} {cs : List Container} (h : list env s = (.ok cs, s')) :
    ∀ c ∈ cs, ∃ vmid, parseInt c.id = some vmid ∧ c.labels = s.rt.metadata.get s.heap vmid ∧
      ∀ d s'', inspect env c.id s' = (.ok d, s'') →
        d.labels = c.labels ∧ (d.name = c.name ∨ d.name = []) := by
  intro c hc
  obtain ⟨r, x, rfl⟩ := list_ok_containers env h c hc
  have hk := keeps_held_list env s
  rw [h] at hk
  simp only [Sys.held, Prod.mk.injEq] at hk
  have hid : parseInt (itoa (toGoInt x)) = some (toGoInt x) := parseInt_itoa (toGoInt_inIntRange x)
  refine ⟨_, hid, rfl, fun d s'' hi => ?_⟩
  obtain ⟨_, -, rfl⟩ := inspect_ok env hid hi
  rw [hk.1, hk.2.1]
  refine ⟨rfl, ?_⟩
  unfold containerOf
  dsimp only
  split_ifs with h0
  · exact .inr h0
  · exact .inl rfl

/-- The API lists container 100, named `web` and running. -/
def webListEnv : Env := replyEnv (.array [.object [(.lit "vmid", .number 100),
  (.lit "name", .string (.lit "web")), (.lit "status", .string (.lit "running"))]])

/-- What `List` reports for it at the stale state: the API's name, since the stale record of
VMID 100 has no `cosmos-name`, and that record's labels. -/
def webListing : List Container :=
  [⟨.lit "100", .lit "web", .running, .lit "running",
    some ((∅ : Labels).insert (.lit "old") (.lit "x"))⟩]

/-- `List` at the stale state reports container `"100"`, whose id parses back to VMID 100. -/
theorem list_ids_inspect_stale :
    list webListEnv staleSys = (.ok webListing, (list webListEnv staleSys).2) ∧
    ∀ c ∈ webListing, ∃ vmid, parseInt c.id = some vmid ∧
      c.labels = staleSys.rt.metadata.get staleSys.heap vmid ∧
      ∀ d s'', inspect webListEnv c.id (list webListEnv staleSys).2 = (.ok d, s'') →
        d.labels = c.labels ∧ (d.name = c.name ∨ d.name = []) :=
  have h : list webListEnv staleSys = (.ok webListing, (list webListEnv staleSys).2) :=
    Prod.ext (by decide) rfl
  ⟨h, list_ids_inspect _ h⟩

/-! ## What `StatsAll` reports -/

/-- **`Inspect` reads back the hostname and the memory `Create` posted**, the memory to the whole
MiB. Take any descriptor whose `Memory` is an `int64`, and an `Inspect` that returned, whose reply
carries the `"hostname"` and `"memory"` that `buildLXCConfig` wrote for the descriptor. It reports
the descriptor's hostname, or its name when it has none, and `Memory` rounded down to a multiple
of 1 MiB (so 0 below 1 MiB), or 512 MiB when `Memory` is not positive; the `int64` products never
wrap. -/
theorem inspect_reads_create_config (c : ContainerConfig) (hc : c.memory ≤ maxInt) (env' : Env)
    (rt : ProxmoxRuntime) (vmid' : Int) {id : GoString} {vmid : Int}
    (hid : parseInt id = some vmid) {s s' : Sys} {d : Details} (h : inspect env id s = (.ok d, s'))
    (hr : ∀ resp, readReply (env.reply s.sent.length) = .ok resp →
      resp.lookup (.lit "hostname") = (buildLXCConfig env' rt vmid' c).lookup (.lit "hostname") ∧
      resp.lookup (.lit "memory") = (buildLXCConfig env' rt vmid' c).lookup (.lit "memory")) :
    d.hostname = (if c.hostname = [] then c.name else c.hostname) ∧
      d.memory = if 0 < c.memory then c.memory / 2 ^ 20 * 2 ^ 20 else 512 * 2 ^ 20 := by
  obtain ⟨resp, hresp, rfl⟩ := inspect_ok env hid h
  obtain ⟨hh, hm⟩ := hr resp hresp
  have hh' : (buildLXCConfig env' rt vmid' c).lookup (.lit "hostname") =
      some (.string (if c.hostname = [] then c.name else c.hostname)) :=
    lookup_buildLXCConfig env' rt vmid' c (by simp [lxcFixedEntries])
  have hm' : (buildLXCConfig env' rt vmid' c).lookup (.lit "memory") =
      some (.number (if 0 < c.memory then c.memory.tdiv (1024 * 1024) else 512)) :=
    lookup_buildLXCConfig env' rt vmid' c (by simp [lxcFixedEntries])
  dsimp only
  rw [hh, hm, hh', hm']
  refine ⟨rfl, ?_⟩
  dsimp only
  split_ifs with h0
  · have hmax : maxInt = 2 ^ 63 - 1 := rfl
    have hq : c.memory.tdiv (1024 * 1024) = c.memory / 2 ^ 20 := Int.tdiv_eq_ediv h0.le (by decide)
    have hin : InIntRange (c.memory / 2 ^ 20) := ⟨by simp only [minInt]; omega, by omega⟩
    rw [hq, toGoInt_intCast hin, wrapInt_of_inIntRange ⟨by simp only [minInt]; omega, by omega⟩]
    ring
  · decide


/-- A descriptor asking for 3 MiB and 5 bytes of memory, with no hostname. -/
def smallConfig : ContainerConfig := { webConfig with memory := 3 * 2 ^ 20 + 5 }

/-- The API answers with the hostname and memory `Create` posted for `smallConfig`. -/
def smallConfigEnv : Env :=
  replyEnv (.object [(.lit "hostname", .string (.lit "web")), (.lit "memory", .number 3)])

/-- What `Inspect` reports of container 100 at the stale state. -/
def smallDetails : Details :=
  ⟨.lit "100", [], some ((∅ : Labels).insert (.lit "old") (.lit "x")), [], .lit "web", 3 * 2 ^ 20⟩

theorem inspect_reads_create_config_small :
    smallConfig.memory ≤ maxInt ∧ parseInt (.lit "100") = some 100 ∧
    inspect smallConfigEnv (.lit "100") staleSys =
      (.ok smallDetails, (inspect smallConfigEnv (.lit "100") staleSys).2) ∧
    (∀ resp, readReply (smallConfigEnv.reply staleSys.sent.length) = .ok resp →
      resp.lookup (.lit "hostname") =
          (buildLXCConfig smallConfigEnv staleSys.rt 100 smallConfig).lookup (.lit "hostname") ∧
        resp.lookup (.lit "memory") =
          (buildLXCConfig smallConfigEnv staleSys.rt 100 smallConfig).lookup (.lit "memory")) ∧
    smallDetails.hostname =
        (if smallConfig.hostname = [] then smallConfig.name else smallConfig.hostname) ∧
      smallDetails.memory =
        if 0 < smallConfig.memory then smallConfig.memory / 2 ^ 20 * 2 ^ 20 else 512 * 2 ^ 20 :=
  have hm : smallConfig.memory ≤ maxInt := by decide
  have hid : parseInt (.lit "100") = some 100 := by decide
  have h : inspect smallConfigEnv (.lit "100") staleSys =
      (.ok smallDetails, (inspect smallConfigEnv (.lit "100") staleSys).2) :=
    Prod.ext rfl rfl
  have hr : ∀ resp, readReply (smallConfigEnv.reply staleSys.sent.length) = .ok resp →
      resp.lookup (.lit "hostname") =
          (buildLXCConfig smallConfigEnv staleSys.rt 100 smallConfig).lookup (.lit "hostname") ∧
        resp.lookup (.lit "memory") =
          (buildLXCConfig smallConfigEnv staleSys.rt 100 smallConfig).lookup (.lit "memory") :=
    fun _ hr => by
      cases hr
      rw [lookup_buildLXCConfig _ _ _ _ (k := .lit "hostname") (v := .string (.lit "web"))
          (by simp [lxcFixedEntries, smallConfig, webConfig]),
        lookup_buildLXCConfig _ _ _ _ (k := .lit "memory") (v := .number 3)
          (by simp [lxcFixedEntries, smallConfig, webConfig]; rfl)]
      exact ⟨rfl, rfl⟩
  ⟨hm, hid, h, hr, inspect_reads_create_config _ smallConfig hm _ _ _ hid h hr⟩

end Cosmos

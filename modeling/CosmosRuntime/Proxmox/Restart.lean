import CosmosRuntime.Metadata.RoundTrip
import CosmosRuntime.Proxmox.Panics

/-!
# The table across a restart

The labels and names the runtime keeps outlive its process only through the metadata file.
`Close` saves the table; the next runtime, which `New` makes with an empty store over the same
directory, reads the file back in `Connect`, once the API has answered the probe of `/version`,
and then scans the inventory, which moves only the cursor.

* `close_of_fault_none`: `Close` on a disk that takes the write;
* `keeps_metadata_updateVMIDCounter`: the scan leaves the table alone;
* `connectProbe_of_version`: the probe of a fresh runtime whose `/version` request returns;
* **`close_new_connect_restores`**: after `Close`, a new runtime's `Connect` returns and its table
  reads as the old one did.
-/

namespace Cosmos

theorem close_of_fault_none {s : Sys} (hd : s.disk.fault = none) :
    (close s).1 = .ok () ∧ (close s).2.disk =
      { s.disk with file := some (.json (marshalTable (s.rt.metadata.view s.heap))) } := by
  have hs : saveMetadata s = (.ok (), { s with disk :=
      { s.disk with file := some (.json (marshalTable (s.rt.metadata.view s.heap))) } }) := by
    simp [saveMetadata, MetadataStore.save_of_fault_none hd]
  rw [close, GoM.bind_ok (GoM.attempt_ok hs)]
  exact ⟨rfl, rfl⟩

theorem keeps_metadata_updateVMIDCounter (env : Env) :
    GoM.Keeps (fun s : Sys => s.rt.metadata) (updateVMIDCounter env) :=
  (GoM.keeps_gets _).bind fun _ =>
    (keeps_apiRequest env _ _ _ (f := fun s : Sys => s.rt.metadata) fun _ _ => rfl).bind fun _ =>
    GoM.keeps_modify fun _ => rfl

theorem connectProbe_of_version {env : Env} {cfg : Config} (heap : Heap) (d : Disk)
    (hurl : env.newRequestError ((initRuntime cfg).apiURL ++ .lit "/version") = none)
    {resp : GoMap GoString JsonValue} (hr : readReply (env.reply 0) = .ok resp) :
    ∃ s', connectProbe env ⟨initRuntime cfg, heap, d, []⟩ = (.ok (), s') ∧
      s'.rt.metadata = (MetadataStore.empty.load d).2 ∧ s'.heap = heap := by
  have hr' : readReply (env.reply (connectClient ⟨initRuntime cfg, heap, d, []⟩).sent.length) =
      .ok resp := hr
  have ha := apiRequest_of_client_some env (.lit "GET") (.lit "/version") none
    (connectClient ⟨initRuntime cfg, heap, d, []⟩) hurl rfl
  rw [hr'] at ha
  let s2 : Sys := { connectClient ⟨initRuntime cfg, heap, d, []⟩ with sent := [mkRequest
    (connectClient ⟨initRuntime cfg, heap, d, []⟩).rt (.lit "GET") (.lit "/version") none] }
  refine ⟨s2.setMetadata (MetadataStore.empty.load d).2, ?_, rfl, rfl⟩
  rw [connectProbe, GoM.bind_ok (GoM.modify_apply _ _), GoM.bind_ok (GoM.wrap_ok _ ha)]
  have hlm : loadMetadata s2 =
      ((MetadataStore.empty.load d).1, s2.setMetadata (MetadataStore.empty.load d).2) := rfl
  rcases hres : (MetadataStore.empty.load d).1 with _ | _ | m <;> rw [hres] at hlm
  · exact GoM.bind_ok (GoM.attempt_ok hlm) _
  · exact GoM.bind_ok (GoM.attempt_error hlm) _
  · exact absurd (congrArg Prod.fst hlm) (loadMetadata_ne_panic s2 m)

/-- **The table survives a restart.** Take a runtime whose table has int vmids and valid UTF-8
labels and whose metadata directory takes writes. `Close` returns nil; a new runtime that `New`
makes over the same directory, whatever its callers' maps, then `Connect`s, and once the API
answers the probe of `/version`, `Connect` returns nil with the table reading exactly as the old
runtime's did, whatever the inventory request after it returns. -/
theorem close_new_connect_restores {s : Sys}
    (hT : ∀ t, s.rt.metadata.view s.heap = some t → TableValid t) (hd : s.disk.fault = none)
    {cfg : Config} {rt : ProxmoxRuntime} (hnew : newRuntime (some cfg) = .ok rt) (heap : Heap)
    {env : Env} (hurl : env.newRequestError (rt.apiURL ++ .lit "/version") = none)
    {resp : GoMap GoString JsonValue} (hr : readReply (env.reply 0) = .ok resp) :
    (close s).1 = .ok () ∧
      (connect env ⟨rt, heap, (close s).2.disk, []⟩).1 = .ok () ∧
      (connect env ⟨rt, heap, (close s).2.disk, []⟩).2.rt.metadata.view
          (connect env ⟨rt, heap, (close s).2.disk, []⟩).2.heap =
        s.rt.metadata.view s.heap := by
  have hrt : rt = initRuntime cfg := by
    simp only [newRuntime] at hnew
    split_ifs at hnew
    cases hnew
    rfl
  subst hrt
  obtain ⟨hok, hdisk⟩ := close_of_fault_none hd
  rw [hdisk]
  obtain ⟨s', hp, hm, -⟩ := connectProbe_of_version heap
    { s.disk with file := some (.json (marshalTable (s.rt.metadata.view s.heap))) } hurl hr
  have hc := GoM.bind_ok hp fun _ => do
    let _ ← GoM.attempt (updateVMIDCounter env)
    GoM.modify fun s : Sys => s.setRt { s.rt with connected := true }
  refine ⟨hok, ?_, ?_⟩
  · rw [connect, hc]
    rcases hu : updateVMIDCounter env s' with ⟨_ | _ | m, s4⟩
    · rw [GoM.bind_ok (GoM.attempt_ok hu)]; rfl
    · rw [GoM.bind_ok (GoM.attempt_error hu)]; rfl
    · exact absurd (by rw [connect, hc, GoM.bind_panic (GoM.attempt_panic hu)])
        (connect_ne_panic env _ m)
  · have hk := (keeps_metadata_updateVMIDCounter env).attempt.bind
      (g := fun _ => GoM.modify fun s : Sys => s.setRt { s.rt with connected := true })
      (fun _ => GoM.keeps_modify fun _ => rfl) s'
    rw [connect, hc]
    dsimp only at hk ⊢
    rw [hk, hm]
    exact (MetadataStore.empty_load_marshal
      (d := { s.disk with file := some (.json (marshalTable (s.rt.metadata.view s.heap))) })
      hT hd rfl _).2

/-- The stale record of VMID 100 survives `Close` and the `Connect` of a new runtime. -/
theorem close_new_connect_restores_stale :
    (∀ t, staleSys.rt.metadata.view staleSys.heap = some t → TableValid t) ∧
    (close staleSys).1 = .ok () ∧
    (connect (replyEnv (.array []))
        ⟨initRuntime demoConfig, fun _ => ∅, (close staleSys).2.disk, []⟩).1 = .ok () ∧
    (connect (replyEnv (.array []))
        ⟨initRuntime demoConfig, fun _ => ∅, (close staleSys).2.disk, []⟩).2.rt.metadata.view
        (connect (replyEnv (.array []))
          ⟨initRuntime demoConfig, fun _ => ∅, (close staleSys).2.disk, []⟩).2.heap =
      staleSys.rt.metadata.view staleSys.heap :=
  have hT : ∀ t, staleSys.rt.metadata.view staleSys.heap = some t → TableValid t :=
    (by decide : ∀ t ∈ staleSys.rt.metadata.view staleSys.heap, TableValid t)
  ⟨hT, close_new_connect_restores hT rfl
    (rfl : newRuntime (some demoConfig) = .ok (initRuntime demoConfig)) _ rfl
    (rfl : readReply ((replyEnv (.array [])).reply 0) =
      .ok ((∅ : GoMap GoString JsonValue).insert (.lit "data") (.array [])))⟩

end Cosmos

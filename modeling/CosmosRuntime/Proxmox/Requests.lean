import CosmosRuntime.Proxmox.Records

/-!
# The requests the runtime sends

Every request leaves through `apiRequest`, which addresses it under the runtime's `apiURL` and
sets the header `Authorization` from the configuration's API token. No call changes either, so
along every history from `New` the log of requests holds only requests to the configured host,
signed with the configured token.

* `tokenHeader`, `Request.authentic`: the header `apiRequest` sets, and a request under a base
  URL with a configuration's token;
* `Sys.stray`: the base URL, the configuration, and the requests sent that are not theirs;
* `keeps_stray_*`: no operation changes it; `runCall_stray`: nor does any call;
* **`Reachable.sent_authentic`**: in every reachable state, every request sent carries the
  configured token and a URL under `https://<Host>/api2/json`.
-/

namespace Cosmos

/-- The value `apiRequest` gives the header `Authorization`: `PVEAPIToken=<TokenID>=<Secret>`. -/
def tokenHeader (c : Config) : GoString :=
  .lit "PVEAPIToken=" ++ c.tokenID ++ .lit "=" ++ c.tokenSecret

/-- A request addressed under `base` and signed with the token of `c`. -/
def Request.authentic (base : GoString) (c : Config) (r : Request) : Bool :=
  base.isPrefixOf r.url && r.authorization == tokenHeader c

/-- What no call changes: the base URL, the configuration, and the requests sent that are not
under that URL with that token. -/
def Sys.stray (s : Sys) : GoString × Config × List Request :=
  (s.rt.apiURL, s.rt.config, s.sent.filter fun r => !r.authentic s.rt.apiURL s.rt.config)

theorem mkRequest_authentic (rt : ProxmoxRuntime) (method path : GoString)
    (body : Option (GoMap GoString JsonValue)) :
    (mkRequest rt method path body).authentic rt.apiURL rt.config = true := by
  simp [Request.authentic, mkRequest, tokenHeader]

section Frames

variable (env : Env) (id : GoString) (c : ContainerConfig)

theorem keeps_stray_apiRequest (method path : GoString)
    (body : Option (GoMap GoString JsonValue)) :
    GoM.Keeps Sys.stray (apiRequest env method path body) := fun s => by
  rcases apiRequest_state env method path body s with h | h <;> rw [h]
  simp [Sys.stray, mkRequest_authentic]

theorem keeps_stray_request {α : Type} (method : GoString) (path : ProxmoxRuntime → GoString)
    (body : ProxmoxRuntime → Option (GoMap GoString JsonValue)) (pre : GoString)
    {k : GoMap GoString JsonValue → GoM Sys α} (hk : ∀ r, GoM.Keeps Sys.stray (k r)) :
    GoM.Keeps Sys.stray
      (GoM.gets (·.rt) >>= fun rt =>
        GoM.wrap pre (apiRequest env method (path rt) (body rt)) >>= k) :=
  (GoM.keeps_gets _).bind fun _ => ((keeps_stray_apiRequest env _ _ _).wrap _).bind hk

theorem keeps_stray_checkConnected : GoM.Keeps Sys.stray checkConnected := fun s => by
  rw [checkConnected_eq]; split <;> rfl

theorem keeps_stray_getNextVMID : GoM.Keeps Sys.stray getNextVMID := fun s => by
  unfold getNextVMID; split <;> rfl

theorem keeps_stray_createSet (vmid : Int) : GoM.Keeps Sys.stray (createSet c vmid) :=
  GoM.keeps_modify fun _ => by split <;> rfl

theorem keeps_stray_setLabel (vmid : Int) (key value : GoString) :
    GoM.Keeps Sys.stray (setLabel vmid key value) :=
  GoM.keeps_modify fun _ => rfl

theorem keeps_stray_create : GoM.Keeps Sys.stray (create env c) :=
  keeps_stray_checkConnected.bind fun _ => keeps_stray_getNextVMID.bind fun vmid =>
    (keeps_stray_request env _ _ _ _ fun _ => GoM.keeps_pure _).bind fun _ =>
    (keeps_stray_createSet c vmid).bind fun _ =>
    (keeps_stray_setLabel vmid _ _).bind fun _ => GoM.keeps_pure _

theorem keeps_stray_statusRequest (action verb : GoString) :
    GoM.Keeps Sys.stray (statusRequest action verb env id) := fun s => by
  unfold statusRequest
  rcases parseInt id with _ | vmid
  · rfl
  · exact keeps_stray_request env _ _ _ _ (fun _ => GoM.keeps_pure _) s

theorem keeps_stray_restart : GoM.Keeps Sys.stray (restart env id) :=
  (keeps_stray_statusRequest env id _ _).attempt.bind fun _ => keeps_stray_statusRequest env id _ _

theorem keeps_stray_deleteContainer (vmid : Int) :
    GoM.Keeps Sys.stray (deleteContainer env id vmid) :=
  keeps_stray_request env _ _ _ _ fun _ => GoM.keeps_modify fun _ => rfl

theorem keeps_stray_remove : GoM.Keeps Sys.stray (remove env id) := fun s => by
  unfold remove
  rcases parseInt id with _ | vmid
  · rfl
  · exact ((keeps_stray_statusRequest env id _ _).attempt.bind fun _ =>
      keeps_stray_deleteContainer env id vmid) s

theorem keeps_stray_recreate : GoM.Keeps Sys.stray (recreate env id c) :=
  (keeps_stray_remove env id).attempt.bind fun _ => keeps_stray_create env c

theorem keeps_stray_list : GoM.Keeps Sys.stray (list env) := by
  refine keeps_stray_checkConnected.bind fun _ =>
    keeps_stray_request env _ _ _ _ fun resp => (GoM.keeps_gets _).bind fun s => ?_
  rcases dataItems resp with _ | xs
  · exact GoM.keeps_pure _
  · dsimp only
    rcases listItems s.rt.metadata s.heap xs with p | cs
    · exact fun _ => rfl
    · exact GoM.keeps_pure _

theorem keeps_stray_inspect : GoM.Keeps Sys.stray (inspect env id) := fun s => by
  unfold inspect
  rcases parseInt id with _ | vmid
  · rfl
  · exact keeps_stray_request env _ _ _ _
      (fun _ => (GoM.keeps_gets _).bind fun _ => GoM.keeps_pure _) s

theorem keeps_stray_stats : GoM.Keeps Sys.stray (stats env id) := fun s => by
  unfold stats
  rcases parseInt id with _ | vmid
  · rfl
  · exact keeps_stray_request env _ _ _ _
      (fun _ => (GoM.keeps_gets _).bind fun _ => GoM.keeps_pure _) s

theorem keeps_stray_statsAll : GoM.Keeps Sys.stray (statsAll env) := by
  refine (keeps_stray_list env).bind fun cs => ?_
  induction cs with
  | nil => exact GoM.keeps_pure _
  | cons c cs ih =>
    refine (keeps_stray_stats env c.id).attempt.bind fun r => ?_
    rcases r with _ | st
    · exact ih
    · exact ih.bind fun _ => GoM.keeps_pure _

theorem keeps_stray_version : GoM.Keeps Sys.stray (version env) := fun s => by
  have hk := keeps_stray_apiRequest env (.lit "GET") (.lit "/version") none s
  unfold version versionBody
  split
  · rfl
  · rcases h : apiRequest env (.lit "GET") (.lit "/version") none s with ⟨_ | _ | _, s'⟩ <;>
      rw [h] at hk <;> exact hk

theorem keeps_stray_loadMetadata : GoM.Keeps Sys.stray loadMetadata := fun _ => rfl

theorem keeps_stray_saveMetadata : GoM.Keeps Sys.stray saveMetadata := fun _ => rfl

theorem keeps_stray_connectProbe : GoM.Keeps Sys.stray (connectProbe env) :=
  (GoM.keeps_modify (f := Sys.stray) (g := connectClient) fun _ => rfl).bind fun _ =>
    ((keeps_stray_apiRequest env _ _ _).wrap _).bind fun _ =>
    keeps_stray_loadMetadata.attempt.bind fun _ => GoM.keeps_pure ()

theorem keeps_stray_updateVMIDCounter : GoM.Keeps Sys.stray (updateVMIDCounter env) :=
  (GoM.keeps_gets _).bind fun _ => (keeps_stray_apiRequest env _ _ _).bind fun _ =>
    GoM.keeps_modify fun _ => rfl

theorem keeps_stray_connect : GoM.Keeps Sys.stray (connect env) :=
  (keeps_stray_connectProbe env).bind fun _ =>
    (keeps_stray_updateVMIDCounter env).attempt.bind fun _ => GoM.keeps_modify fun _ => rfl

theorem keeps_stray_close : GoM.Keeps Sys.stray close :=
  keeps_stray_saveMetadata.attempt.bind fun _ => GoM.keeps_modify fun _ => rfl

end Frames

/-- **No call sends a request elsewhere or with another token**, nor changes the base URL or the
configuration. -/
theorem runCall_stray (env : Env) (k : Call) (s : Sys) : (runCall env k s).stray = s.stray := by
  cases k with
  | connect => exact keeps_stray_connect env s
  | close => exact keeps_stray_close s
  | version => exact keeps_stray_version env s
  | list => exact keeps_stray_list env s
  | statsAll => exact keeps_stray_statsAll env s
  | create c => exact keeps_stray_create env c s
  | start id => exact keeps_stray_statusRequest env id _ _ s
  | stop id => exact keeps_stray_statusRequest env id _ _ s
  | restart id => exact keeps_stray_restart env id s
  | remove id => exact keeps_stray_remove env id s
  | recreate id c => exact keeps_stray_recreate env id c s
  | inspect id => exact keeps_stray_inspect env id s
  | stats id => exact keeps_stray_stats env id s


/-- **Every request a runtime sends is signed with its token and addressed to its host.** Along
every history from `New`, whatever the replies, the flushes and the callers' edits, each request
in the log carries `Authorization: PVEAPIToken=<TokenID>=<TokenSecret>` of the configuration and
a URL under `https://<Host>/api2/json`; the configuration is the one `New` was given, since no
call changes it. -/
theorem Reachable.sent_authentic {E : Env → Prop} {s : Sys} (hs : Reachable E s) :
    ∀ r ∈ s.sent, r.authorization = tokenHeader s.rt.config ∧
      ∃ path, r.url = .lit "https://" ++ s.rt.config.host ++ .lit "/api2/json" ++ path := by
  have hinv : s.stray.2.2 = [] ∧
      s.rt.apiURL = .lit "https://" ++ s.rt.config.host ++ .lit "/api2/json" := by
    induction hs with
    | init _ h =>
      simp only [newRuntime] at h
      split_ifs at h
      cases h
      exact ⟨rfl, rfl⟩
    | @call s env k _ _ ih =>
      have hk := runCall_stray env k s
      simp only [Sys.stray, Prod.mk.injEq] at hk ih ⊢
      exact ⟨hk.2.2.trans ih.1, by rw [hk.1, hk.2.1]; exact ih.2⟩
    | flush _ _ ih => exact ih
    | edit _ _ _ ih => exact ih
  intro r hr
  have ha := List.filter_eq_nil_iff.mp hinv.1 r hr
  simp only [Bool.not_eq_true', Bool.not_eq_false, Request.authentic, Bool.and_eq_true,
    beq_iff_eq, List.isPrefixOf_iff_prefix] at ha
  obtain ⟨⟨path, hp⟩, hauth⟩ := ha
  exact ⟨hauth, path, by rw [← hp, hinv.2]⟩

/-- The two requests `Connect` sent at the stale state are signed and addressed so. -/
theorem sent_authentic_stale :
    Reachable (fun _ => True) staleSys ∧
    ∀ r ∈ staleSys.sent, r.authorization = tokenHeader staleSys.rt.config ∧
      ∃ path, r.url = .lit "https://" ++ staleSys.rt.config.host ++ .lit "/api2/json" ++ path :=
  ⟨staleSys_reachable, Reachable.sent_authentic staleSys_reachable⟩

end Cosmos

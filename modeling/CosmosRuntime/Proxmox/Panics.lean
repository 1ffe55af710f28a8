import CosmosRuntime.Proxmox.Records

/-!
# Where the runtime panics

Go code panics where it dereferences a nil pointer or an assertion `x.(T)` fails. The runtime
does the first in `apiRequest` when `Connect` has not installed the client or `Close` removed
it, and the second in `List`, on an entry whose `vmid` is no number. This module bounds where
each step can panic with `GoM.PanicsOnly`, and composes the bounds along the calls;
`Proxmox.Session` follows them through calls that run at once.

* `NilPanic`, `ListPanic`: the two causes, each with its message;
* `panicsOnly_request`: the step every call on one container takes, one request after reading
  the runtime, panics only on the nil client;
* `panicsOnly_*`: each operation panics only for those causes; `connect_ne_panic` and
  `close_ne_panic`: `Connect` and `Close` never panic;
* `callPanic`: the message a call of the interface panics with, if it does;
  `Call.unguarded`: the calls that send a request without checking the flag;
* **`callPanic_spec`**: in any state, a call panics on the nil client, and then it is unguarded
  or the runtime is connected, or it is `List` or `StatsAll` on a non-numeric vmid.
-/

namespace Cosmos

/-- The panic of a nil client: `client.Do` dereferences the pointer. -/
def NilPanic (client : Option HttpClient) (m : GoString) : Prop :=
  client = none ∧ m = nilDereference

/-- A panic of `List`: the nil client's, or the failed assertion `r["vmid"].(float64)` on a vmid
that is no number. -/
def ListPanic (client : Option HttpClient) (m : GoString) : Prop :=
  NilPanic client m ∨ ∃ v, (∀ x, v ≠ some (JsonValue.number x)) ∧ m = interfaceConversion v

/-- The part of the state a nil-client panic depends on. -/
def Sys.client (s : Sys) : Option HttpClient := s.rt.client

theorem keeps_client_of_settings {α : Type} {x : GoM Sys α} (hx : GoM.Keeps Sys.settings x) :
    GoM.Keeps Sys.client x :=
  hx.map ProxmoxRuntime.client

theorem keeps_client_of_held {α : Type} {x : GoM Sys α} (hx : GoM.Keeps Sys.held x) :
    GoM.Keeps Sys.client x :=
  keeps_client_of_settings (keeps_settings_of_held hx)

/-! ## Each operation -/

section Operations

variable (env : Env) (id : GoString)

theorem panicsOnly_apiRequest (method path : GoString) (body : Option (GoMap GoString JsonValue)) :
    GoM.PanicsOnly Sys.client NilPanic (apiRequest env method path body) := fun s m h => by
  unfold apiRequest at h
  split at h
  next => cases h
  next hc => cases h; exact ⟨hc, rfl⟩
  next => exact absurd h (readReply_ne_panic _ m)

theorem keeps_client_apiRequest (method path : GoString)
    (body : Option (GoMap GoString JsonValue)) :
    GoM.Keeps Sys.client (apiRequest env method path body) :=
  keeps_client_of_held (keeps_held_apiRequest env method path body)

theorem panicsOnly_checkConnected {R : Option HttpClient → GoString → Prop} :
    GoM.PanicsOnly Sys.client R checkConnected := fun s m h => by
  rw [checkConnected_eq] at h
  split at h <;> cases h

theorem panicsOnly_getNextVMID {R : Option HttpClient → GoString → Prop} :
    GoM.PanicsOnly Sys.client R getNextVMID := fun s m h => by
  unfold getNextVMID at h
  split at h <;> cases h

theorem keeps_client_getNextVMID : GoM.Keeps Sys.client getNextVMID := fun s => by
  unfold getNextVMID
  split <;> rfl

theorem panicsOnly_request {α : Type} (method : GoString) (path : ProxmoxRuntime → GoString)
    (body : ProxmoxRuntime → Option (GoMap GoString JsonValue)) (pre : GoString)
    {k : GoMap GoString JsonValue → GoM Sys α}
    (hk : ∀ r, GoM.PanicsOnly Sys.client NilPanic (k r)) :
    GoM.PanicsOnly Sys.client NilPanic
      (GoM.gets (·.rt) >>= fun rt =>
        GoM.wrap pre (apiRequest env method (path rt) (body rt)) >>= k) :=
  (GoM.panicsOnly_gets _).bind (GoM.keeps_gets _) fun _ =>
    ((panicsOnly_apiRequest env _ _ _).wrap _).bind ((keeps_client_apiRequest env _ _ _).wrap _) hk

theorem panicsOnly_statusRequest (action verb : GoString) :
    GoM.PanicsOnly Sys.client NilPanic (statusRequest action verb env id) := fun s => by
  unfold statusRequest
  rcases parseInt id with _ | vmid
  · exact GoM.panicsOnly_fail _ s
  · exact panicsOnly_request env _ _ _ _ (fun _ => GoM.panicsOnly_pure _) s

theorem panicsOnly_restart : GoM.PanicsOnly Sys.client NilPanic (restart env id) :=
  (panicsOnly_statusRequest env id _ _).attempt.bind
    (keeps_client_of_held (keeps_held_stop env id)).attempt fun _ =>
    panicsOnly_statusRequest env id _ _

theorem panicsOnly_remove : GoM.PanicsOnly Sys.client NilPanic (remove env id) := fun s => by
  unfold remove
  rcases parseInt id with _ | vmid
  · exact GoM.panicsOnly_fail _ s
  · refine ((panicsOnly_statusRequest env id _ _).attempt.bind
      (keeps_client_of_held (keeps_held_stop env id)).attempt fun _ => ?_) s
    exact panicsOnly_request env _ _ _ _ fun _ => GoM.panicsOnly_modify _

theorem panicsOnly_createPost (c : ContainerConfig) (vmid : Int) :
    GoM.PanicsOnly Sys.client NilPanic (createPost env c vmid) :=
  panicsOnly_request env _ _ _ _ fun _ => GoM.panicsOnly_pure _

theorem panicsOnly_create (c : ContainerConfig) :
    GoM.PanicsOnly Sys.client NilPanic (create env c) :=
  panicsOnly_checkConnected.bind (keeps_client_of_held keeps_held_checkConnected) fun _ =>
    panicsOnly_getNextVMID.bind keeps_client_getNextVMID fun vmid =>
    (panicsOnly_createPost env c vmid).bind
      (keeps_client_of_held (keeps_held_createPost env c vmid)) fun _ =>
    (GoM.panicsOnly_modify _).bind (keeps_client_of_settings (keeps_settings_createSet c vmid))
      fun _ =>
    (GoM.panicsOnly_modify _).bind (keeps_client_of_settings (keeps_settings_setLabel vmid _ _))
      fun _ => GoM.panicsOnly_pure _

theorem panicsOnly_recreate (c : ContainerConfig) :
    GoM.PanicsOnly Sys.client NilPanic (recreate env id c) :=
  (panicsOnly_remove env id).attempt.bind
    (keeps_client_of_settings (keeps_settings_remove env id)).attempt fun _ =>
    panicsOnly_create env c

theorem panicsOnly_inspect : GoM.PanicsOnly Sys.client NilPanic (inspect env id) := fun s => by
  unfold inspect
  rcases parseInt id with _ | vmid
  · exact GoM.panicsOnly_fail _ s
  · exact panicsOnly_request env _ _ _ _
      (fun _ => (GoM.panicsOnly_gets _).bind (GoM.keeps_gets _) fun _ => GoM.panicsOnly_pure _) s

theorem panicsOnly_stats : GoM.PanicsOnly Sys.client NilPanic (stats env id) := fun s => by
  unfold stats
  rcases parseInt id with _ | vmid
  · exact GoM.panicsOnly_fail _ s
  · exact panicsOnly_request env _ _ _ _
      (fun _ => (GoM.panicsOnly_gets _).bind (GoM.keeps_gets _) fun _ => GoM.panicsOnly_pure _) s

theorem panicsOnly_statsEach (cs : List Container) :
    GoM.PanicsOnly Sys.client NilPanic (statsEach env cs) := by
  induction cs with
  | nil => exact GoM.panicsOnly_pure _
  | cons c cs ih =>
    refine (panicsOnly_stats env c.id).attempt.bind
      (keeps_client_of_held (keeps_held_stats env c.id)).attempt fun r => ?_
    rcases r with _ | st
    · exact ih
    · exact ih.bind (keeps_client_of_held (keeps_held_statsEach env cs)) fun _ =>
        GoM.panicsOnly_pure _

theorem listItems_error {m : MetadataStore} {h : Heap} {xs : List JsonValue} {p : GoString}
    (hl : listItems m h xs = .error p) :
    ∃ v, (∀ x, v ≠ some (JsonValue.number x)) ∧ p = interfaceConversion v := by
  induction xs generalizing p with
  | nil => cases hl
  | cons x xs ih =>
    rcases hx : listItem m h x with q | o
    · simp only [listItems, hx, bind, Except.bind] at hl
      cases hl
      unfold listItem at hx
      split at hx
      · cases hx
      · split at hx
        · cases hx
        · next hv => cases hx; exact ⟨_, hv, rfl⟩
    · rcases hxs : listItems m h xs with q | cs
      · simp only [listItems, hx, hxs, bind, Except.bind] at hl
        cases hl
        exact ih hxs
      · simp [listItems, hx, hxs, bind, Except.bind, pure, Except.pure] at hl

theorem panicsOnly_listBody : GoM.PanicsOnly Sys.client ListPanic (listBody env) := by
  refine (GoM.panicsOnly_gets _).bind (GoM.keeps_gets _) fun _ =>
    (((panicsOnly_apiRequest env _ _ _).wrap _).mono fun _ _ h => .inl h).bind
      ((keeps_client_apiRequest env _ _ _).wrap _) fun resp =>
    (GoM.panicsOnly_gets _).bind (GoM.keeps_gets _) fun s => ?_
  rcases dataItems resp with _ | xs
  · exact GoM.panicsOnly_pure _
  · dsimp only
    rcases hl : listItems s.rt.metadata s.heap xs with p | cs
    · exact fun _ m h => by cases h; exact .inr (listItems_error hl)
    · exact GoM.panicsOnly_pure _

theorem panicsOnly_list : GoM.PanicsOnly Sys.client ListPanic (list env) :=
  panicsOnly_checkConnected.bind (keeps_client_of_held keeps_held_checkConnected) fun _ =>
    panicsOnly_listBody env

theorem panicsOnly_statsAll : GoM.PanicsOnly Sys.client ListPanic (statsAll env) :=
  (panicsOnly_list env).bind (keeps_client_of_held (keeps_held_list env)) fun cs =>
    (panicsOnly_statsEach env cs).mono fun _ _ h => .inl h

theorem panicsOnly_versionBody : GoM.PanicsOnly Sys.client NilPanic (versionBody env) :=
  fun s m h => by
    unfold versionBody at h
    split at h
    · cases h
    · cases h
    · next ha =>
      cases h
      exact panicsOnly_apiRequest env _ _ _ s _ (by rw [ha])

theorem panicsOnly_version : GoM.PanicsOnly Sys.client NilPanic (version env) := fun s m h => by
  unfold version at h
  split at h
  · cases h
  · exact panicsOnly_versionBody env s m h

theorem panicsOnly_loadMetadata {R : Option HttpClient → GoString → Prop} :
    GoM.PanicsOnly Sys.client R loadMetadata :=
  fun s m h => absurd h (loadMetadata_ne_panic s m)

theorem panicsOnly_saveMetadata {R : Option HttpClient → GoString → Prop} :
    GoM.PanicsOnly Sys.client R saveMetadata :=
  fun s m h => absurd h (saveMetadata_ne_panic s m)

theorem keeps_client_updateVMIDCounter : GoM.Keeps Sys.client (updateVMIDCounter env) :=
  (GoM.keeps_gets _).bind fun _ => (keeps_client_apiRequest env _ _ _).bind fun _ =>
    GoM.keeps_modify fun _ => rfl

theorem panicsOnly_updateVMIDCounter : GoM.PanicsOnly Sys.client NilPanic (updateVMIDCounter env) :=
  (GoM.panicsOnly_gets _).bind (GoM.keeps_gets _) fun _ =>
    (panicsOnly_apiRequest env _ _ _).bind (keeps_client_apiRequest env _ _ _) fun _ =>
    GoM.panicsOnly_modify _

theorem connectProbe_ne_panic (s : Sys) (m : GoString) : (connectProbe env s).1 ≠ .panic m :=
  fun h => by
    rw [connectProbe, GoM.bind_ok (GoM.modify_apply _ _)] at h
    have hnil := (((panicsOnly_apiRequest env _ _ _).wrap _).bind
      ((keeps_client_apiRequest env _ _ _).wrap _) fun _ =>
      panicsOnly_loadMetadata.attempt.bind
        (keeps_client_of_settings keeps_settings_loadMetadata).attempt fun _ =>
      GoM.panicsOnly_pure ()) _ m h
    cases hnil.1

/-- **`Connect` never panics**: the scan runs with the client the probe installed. -/
theorem connect_ne_panic (s : Sys) (m : GoString) : (connect env s).1 ≠ .panic m := fun h => by
  rcases GoM.bind_cases (Prod.ext h rfl : connect env s = (.panic m, _)) with
    ⟨_, s1, hp, hr⟩ | ⟨_, _, he⟩ | ⟨m', hp, -⟩
  · have hs1 : s1.client = (connectClient s).client := by
      have := connectProbe_settings env s
      rw [hp] at this
      exact (congrArg ProxmoxRuntime.client this : _)
    have := ((panicsOnly_updateVMIDCounter env).attempt.bind
      (keeps_client_updateVMIDCounter env).attempt fun _ => GoM.panicsOnly_modify _) s1 m
      (by rw [hr])
    rw [hs1] at this
    cases this.1
  · cases he
  · exact connectProbe_ne_panic env s m' (by rw [hp])

theorem close_ne_panic (s : Sys) (m : GoString) : (close s).1 ≠ .panic m :=
  (panicsOnly_saveMetadata.attempt.bind
    (keeps_client_of_settings keeps_settings_saveMetadata).attempt fun _ =>
    GoM.panicsOnly_modify _ : GoM.PanicsOnly Sys.client (fun _ _ => False) close) s m

theorem connected_of_panic {α : Type} {x : GoM Sys α} {s : Sys} {m : GoString}
    (hx : s.rt.connected = false → (x s).1 ≠ .panic m) (h : (x s).1 = .panic m) :
    s.rt.connected = true := by
  cases hc : s.rt.connected
  · exact absurd h (hx hc)
  · rfl

end Operations

/-! ## The calls of the interface -/

/-- The message of a panic. -/
def Outcome.panicMessage {α : Type} : Outcome α → Option GoString
  | .panic m => some m
  | _ => none

theorem Outcome.panicMessage_eq_some {α : Type} {o : Outcome α} {m : GoString} :
    o.panicMessage = some m ↔ o = .panic m := by
  cases o <;> simp [Outcome.panicMessage]

/-- The message a call panics with, if it panics. -/
def callPanic (env : Env) : Call → Sys → Option GoString
  | .connect, s => (connect env s).1.panicMessage
  | .close, s => (close s).1.panicMessage
  | .version, s => (version env s).1.panicMessage
  | .list, s => (list env s).1.panicMessage
  | .statsAll, s => (statsAll env s).1.panicMessage
  | .create c, s => (create env c s).1.panicMessage
  | .start id, s => (start env id s).1.panicMessage
  | .stop id, s => (stop env id s).1.panicMessage
  | .restart id, s => (restart env id s).1.panicMessage
  | .remove id, s => (remove env id s).1.panicMessage
  | .recreate id c, s => (recreate env id c s).1.panicMessage
  | .inspect id, s => (inspect env id s).1.panicMessage
  | .stats id, s => (stats env id s).1.panicMessage

/-- The calls that send a request without checking the flag `connected` first. -/
def Call.unguarded : Call → Bool
  | .start _ | .stop _ | .restart _ | .remove _ | .recreate _ _ | .inspect _ | .stats _ => true
  | _ => false

/-- **Where a call panics, in any state**: on the nil client, in a call that does not check the
flag or in a connected runtime; or in `List` and `StatsAll`, on the assertion of a vmid that is
no number. -/
theorem callPanic_spec (env : Env) (k : Call) (s : Sys) {m : GoString}
    (h : callPanic env k s = some m) :
    (NilPanic s.rt.client m ∧ (k.unguarded = true ∨ s.rt.connected = true)) ∨
      ((k = .list ∨ k = .statsAll) ∧
        ∃ v, (∀ x, v ≠ some (JsonValue.number x)) ∧ m = interfaceConversion v) := by
  have hlist : s.rt.connected = false →
      list env s = (.error (.lit "not connected to Proxmox"), s) :=
    list_of_disconnected env
  cases k <;> simp only [callPanic, Outcome.panicMessage_eq_some] at h
  case connect => exact absurd h (connect_ne_panic env s m)
  case close => exact absurd h (close_ne_panic s m)
  case version =>
    refine .inl ⟨panicsOnly_version env s m h, .inr (connected_of_panic (fun hc => ?_) h)⟩
    simp [version, hc]
  case list =>
    have hc := connected_of_panic (fun hc => by rw [hlist hc]; simp) h
    rcases panicsOnly_list env s m h with hn | ha
    · exact .inl ⟨hn, .inr hc⟩
    · exact .inr ⟨.inl rfl, ha⟩
  case statsAll =>
    have hc := connected_of_panic (fun hc => by
      rw [statsAll, GoM.bind_error (hlist hc)]; simp) h
    rcases panicsOnly_statsAll env s m h with hn | ha
    · exact .inl ⟨hn, .inr hc⟩
    · exact .inr ⟨.inr rfl, ha⟩
  case create c =>
    exact .inl ⟨panicsOnly_create env c s m h,
      .inr (connected_of_panic (fun hc => by rw [create_of_disconnected env c hc]; simp) h)⟩
  case start id => exact .inl ⟨panicsOnly_statusRequest env id _ _ s m h, .inl rfl⟩
  case stop id => exact .inl ⟨panicsOnly_statusRequest env id _ _ s m h, .inl rfl⟩
  case restart id => exact .inl ⟨panicsOnly_restart env id s m h, .inl rfl⟩
  case remove id => exact .inl ⟨panicsOnly_remove env id s m h, .inl rfl⟩
  case recreate id c => exact .inl ⟨panicsOnly_recreate env id c s m h, .inl rfl⟩
  case inspect id => exact .inl ⟨panicsOnly_inspect env id s m h, .inl rfl⟩
  case stats id => exact .inl ⟨panicsOnly_stats env id s m h, .inl rfl⟩

end Cosmos

import Mathlib.Algebra.Order.Ring.Cast
import Mathlib.Algebra.Order.Ring.Rat
import CosmosRuntime.Proxmox.Records

/-!
# Reading the inventory

`List` and `updateVMIDCounter` walk the same reply, the list `resp["data"]` of the node's
containers. The scan checks every assertion it makes; `List` asserts `r["vmid"].(float64)` on
every object entry without the check.

* `entryOk`, `listEntry`: whether `List` gets past an entry, and the container it makes of it;
* **`listItems_eq_ok_iff`**: the loop of `List` runs to its end exactly when every object entry
  has a numeric vmid, and then returns one container per such entry, in order;
* `VmidsInRange`, `maxCursor`, **`updateVMIDCounter_cursor`**: on integer vmids from `minInt` up
  to below `2^62`, the scan sets the cursor to `VMIDStart` or one past the largest vmid, in any
  order of the entries.
-/

namespace Cosmos

variable (m : MetadataStore) (h : Heap)

/-- `List` gets past an entry: it is not an object, or its vmid is a number. -/
def entryOk (item : JsonValue) : Bool :=
  match item.asMap with
  | some r =>
    match r.lookup (.lit "vmid") with
    | some (.number _) => true
    | _ => false
  | none => true

/-- The container `List` makes of an object entry with a numeric vmid. -/
def listEntry (item : JsonValue) : Option Container :=
  match item.asMap with
  | some r =>
    match r.lookup (.lit "vmid") with
    | some (.number x) => some (containerOf m h r x)
    | _ => none
  | none => none

theorem listItem_eq_ok_iff (item : JsonValue) (o : Option Container) :
    listItem m h item = .ok o ↔ entryOk item = true ∧ listEntry m h item = o := by
  unfold listItem entryOk listEntry
  rcases item.asMap with _ | r
  · simp
  · dsimp only
    split <;> simp_all

/-- **The loop of `List` runs to its end exactly when every object entry has a numeric vmid**,
and then returns the containers of those entries, in order. -/
theorem listItems_eq_ok_iff (xs : List JsonValue) (cs : List Container) :
    listItems m h xs = .ok cs ↔
      (∀ item ∈ xs, entryOk item = true) ∧ xs.filterMap (listEntry m h) = cs := by
  induction xs generalizing cs with
  | nil => simp [listItems]
  | cons x xs ih =>
    simp only [listItems, List.mem_cons, forall_eq_or_imp, List.filterMap_cons]
    rcases hx : listItem m h x with p | o
    · have hbad : entryOk x = false := by
        cases hok : entryOk x
        · rfl
        · have := (listItem_eq_ok_iff m h x (listEntry m h x)).mpr ⟨hok, rfl⟩
          rw [hx] at this; cases this
      simp [bind, Except.bind, hbad]
    · obtain ⟨hok, rfl⟩ := (listItem_eq_ok_iff m h x o).mp hx
      rcases hxs : listItems m h xs with q | ds
      · have : ¬ (∀ item ∈ xs, entryOk item = true) := fun hall => by
          have := (ih _).mpr ⟨hall, rfl⟩
          rw [hxs] at this; cases this
        simp [bind, Except.bind, hok, this]
      · obtain ⟨hall, rfl⟩ := (ih ds).mp hxs
        cases listEntry m h x <;> simp [bind, Except.bind, pure, Except.pure, hok] <;>
          exact fun _ => hall

theorem list_eq {env : Env} {s : Sys} (hc : s.rt.connected = true) {cl : HttpClient}
    (hcl : s.rt.client = some cl)
    (hurl : env.newRequestError (s.rt.apiURL ++ lxcPath s.rt.node) = none)
    {resp : GoMap GoString JsonValue} (hr : readReply (env.reply s.sent.length) = .ok resp)
    {xs : List JsonValue} (hd : dataItems resp = some xs) :
    (list env s).1 =
      match listItems s.rt.metadata s.heap xs with
      | .ok cs => .ok cs
      | .error p => .panic p := by
  have ha := apiRequest_of_client_some env (.lit "GET") (lxcPath s.rt.node) none s hurl hcl
  rw [hr] at ha
  rw [list, GoM.bind_ok (by rw [checkConnected_eq, if_pos hc]), listBody,
    GoM.bind_ok (GoM.gets_apply _ _),
    GoM.bind_ok (GoM.wrap_ok _ ha), GoM.bind_ok (GoM.gets_apply _ _)]
  simp only [hd]
  rcases listItems s.rt.metadata s.heap xs with _ | _ <;> rfl

/-- Connected to a node whose inventory holds an object with no `vmid`, `List` panics on the
assertion, where `updateVMIDCounter` skips the entry. -/
theorem list_panics_on_entry_without_vmid :
    Reachable (fun _ => True) staleSys ∧ staleSys.rt.connected = true ∧
      (list (replyEnv (.array [.object []])) staleSys).1 = .panic (interfaceConversion none) ∧
      vmidStep 100 (.object []) = 100 :=
  ⟨staleSys_reachable, by decide, by decide, by decide⟩

/-! ## The cursor of the scan -/

/-- The numeric vmids of a reply are integers from `minInt` up to below `2^62`. -/
def VmidsInRange (resp : GoMap GoString JsonValue) : Prop :=
  ∀ x ∈ replyVmids resp, x.den = 1 ∧ minInt ≤ x.num ∧ x.num < 2 ^ 62

instance (resp : GoMap GoString JsonValue) : Decidable (VmidsInRange resp) :=
  inferInstanceAs (Decidable (∀ x ∈ replyVmids resp, _))

/-- The cursor as the inventory's vmids give it: `VMIDStart`, or one past the largest vmid when
that is larger. -/
def maxCursor (start : ℚ) (vmids : List ℚ) : ℚ :=
  match vmids.max? with
  | some v => max start (v + 1)
  | none => start

theorem vmidStep_of_int {m : Int} {item : JsonValue} {x : ℚ} (hx : entryVmid item = some x)
    (hden : x.den = 1) (hlo : minInt ≤ x.num) (hhi : x.num < maxInt) :
    vmidStep m item = max m (x.num + 1) := by
  have ht : toGoInt x = x.num := by
    have := toGoInt_intCast ⟨hlo, hhi.le⟩
    rwa [Rat.coe_int_num_of_den_eq_one hden] at this
  rw [vmidStep, hx]
  dsimp only
  rw [ht, wrapInt_of_inIntRange ⟨by omega, by omega⟩]
  split_ifs <;> omega

theorem foldl_vmidStep_eq_max (xs : List JsonValue) (m : Int)
    (h : ∀ item ∈ xs, ∀ x, entryVmid item = some x →
      x.den = 1 ∧ minInt ≤ x.num ∧ x.num < maxInt) :
    ((xs.foldl vmidStep m : Int) : ℚ) =
      (xs.filterMap entryVmid).foldl (fun a v => max a (v + 1)) (m : ℚ) := by
  induction xs generalizing m with
  | nil => rfl
  | cons item xs ih =>
    rw [List.foldl_cons, ih _ fun i hi => h i (List.mem_cons_of_mem _ hi), List.filterMap_cons]
    cases hx : entryVmid item with
    | none => simp only [vmidStep, hx]
    | some x =>
      obtain ⟨hden, hlo, hhi⟩ := h item (List.mem_cons_self _ _) x hx
      rw [vmidStep_of_int hx hden hlo hhi, List.foldl_cons]
      rw [Int.cast_max, Int.cast_add, Int.cast_one, Rat.coe_int_num_of_den_eq_one hden]

theorem foldl_max_succ (vs : List ℚ) (a : ℚ) :
    vs.foldl (fun a v => max a (v + 1)) a = maxCursor a vs := by
  induction vs generalizing a with
  | nil => rfl
  | cons v vs ih =>
    rw [List.foldl_cons, ih, maxCursor, maxCursor, List.max?_cons]
    cases vs.max? with
    | none => rfl
    | some w => simp only [Option.elim, ← max_add_add_right, max_assoc]

theorem maxCursor_perm {vs ws : List ℚ} (p : vs.Perm ws) (a : ℚ) :
    maxCursor a vs = maxCursor a ws := by
  rw [← foldl_max_succ, ← foldl_max_succ]
  exact p.foldl_eq' (fun x _ y _ z => sup_right_comm z (x + 1) (y + 1)) a

theorem vmidScan_eq_maxCursor (start : Int) {resp : GoMap GoString JsonValue}
    (hr : VmidsInRange resp) :
    (vmidScan start resp : ℚ) = maxCursor start (replyVmids resp) := by
  have hmax : (2 : Int) ^ 62 < maxInt := by decide
  unfold vmidScan replyVmids
  cases hd : dataItems resp with
  | none => rfl
  | some xs =>
    refine (foldl_vmidStep_eq_max xs start fun item hi x hx => ?_).trans (foldl_max_succ _ _)
    obtain ⟨hden, hlo, hhi⟩ := hr x (mem_replyVmids.mpr ⟨item, by simpa [hd] using hi, hx⟩)
    exact ⟨hden, hlo, hhi.trans hmax⟩

/-- **The cursor `updateVMIDCounter` sets**, once the node's inventory came back with numeric
vmids that are integers from `minInt` up to below `2^62`: `VMIDStart`, or one past the largest
vmid when that is larger. A reply listing the same entries in another order gives the same
cursor. -/
theorem updateVMIDCounter_cursor {env : Env} {s s' : Sys} {resp : GoMap GoString JsonValue}
    (hget : apiRequest env (.lit "GET") (lxcPath s.rt.node) none s = (.ok resp, s'))
    (hr : VmidsInRange resp) :
    ((updateVMIDCounter env s).2.rt.vmidCounter : ℚ) =
      maxCursor s.rt.config.vmidStart (replyVmids resp) ∧
    ∀ (resp' : GoMap GoString JsonValue) (xs ys : List JsonValue), dataItems resp = some xs →
      dataItems resp' = some ys → xs.Perm ys →
      vmidScan s.rt.config.vmidStart resp' = (updateVMIDCounter env s).2.rt.vmidCounter := by
  have hc : (updateVMIDCounter env s).2.rt.vmidCounter = vmidScan s.rt.config.vmidStart resp := by
    rw [updateVMIDCounter_eq, hget]
    rfl
  refine ⟨hc ▸ vmidScan_eq_maxCursor _ hr, fun resp' xs ys hxs hys p => ?_⟩
  have hp : (replyVmids resp).Perm (replyVmids resp') := by
    simpa [replyVmids, hxs, hys] using p.filterMap entryVmid
  have hr' : VmidsInRange resp' := fun x hx => hr x (hp.mem_iff.mpr hx)
  rw [hc]
  exact_mod_cast (vmidScan_eq_maxCursor _ hr').trans
    ((maxCursor_perm hp _).symm.trans (vmidScan_eq_maxCursor _ hr).symm)

/-- An entry of an inventory reply with a numeric vmid. -/
def vmidEntry (x : ℚ) : JsonValue := .object [(.lit "vmid", .number x)]

/-- The reply to the inventory request of a node with containers 5, 9 and 12. -/
def recoveryReply : GoMap GoString JsonValue :=
  (∅ : GoMap GoString JsonValue).insert (.lit "data") (.array [vmidEntry 5, vmidEntry 9, vmidEntry 12])

/-- A runtime with `VMIDStart = 1` whose client is installed. -/
def recoverySys : Sys :=
  connectClient ⟨initRuntime { demoConfig with vmidStart := 1 }, fun _ => ∅, ⟨none, none⟩, []⟩

/-- The recovery of the specification: containers 5, 9 and 12 and `VMIDStart = 1`. -/
theorem updateVMIDCounter_cursor_recovery :
    apiRequest (replyEnv (.array [vmidEntry 5, vmidEntry 9, vmidEntry 12])) (.lit "GET")
        (lxcPath recoverySys.rt.node) none recoverySys =
      (.ok recoveryReply, (apiRequest (replyEnv (.array [vmidEntry 5, vmidEntry 9, vmidEntry 12]))
        (.lit "GET") (lxcPath recoverySys.rt.node) none recoverySys).2) ∧
    VmidsInRange recoveryReply ∧
    (((updateVMIDCounter (replyEnv (.array [vmidEntry 5, vmidEntry 9, vmidEntry 12]))
        recoverySys).2.rt.vmidCounter : ℚ) =
      maxCursor recoverySys.rt.config.vmidStart (replyVmids recoveryReply) ∧
    ∀ (resp' : GoMap GoString JsonValue) (xs ys : List JsonValue),
      dataItems recoveryReply = some xs → dataItems resp' = some ys → xs.Perm ys →
      vmidScan recoverySys.rt.config.vmidStart resp' =
        (updateVMIDCounter (replyEnv (.array [vmidEntry 5, vmidEntry 9, vmidEntry 12]))
          recoverySys).2.rt.vmidCounter) :=
  have hget : apiRequest (replyEnv (.array [vmidEntry 5, vmidEntry 9, vmidEntry 12])) (.lit "GET")
      (lxcPath recoverySys.rt.node) none recoverySys =
      (.ok recoveryReply, (apiRequest (replyEnv (.array [vmidEntry 5, vmidEntry 9, vmidEntry 12]))
        (.lit "GET") (lxcPath recoverySys.rt.node) none recoverySys).2) := rfl
  have hr : VmidsInRange recoveryReply := by decide
  ⟨hget, hr, updateVMIDCounter_cursor hget hr⟩

example : (updateVMIDCounter (replyEnv (.array [vmidEntry 5, vmidEntry 9, vmidEntry 12]))
    recoverySys).2.rt.vmidCounter = 13 := by decide

/-- A vmid below `minInt` converts to `minInt`. With `VMIDStart = minInt` and one container
`-2^64`, an integer below `2^62`, the scan sets the cursor to `minInt + 1`, while `VMIDStart`
is above that vmid plus one. -/
theorem vmidScan_clamps_low_vmid :
    replyVmids ((∅ : GoMap GoString JsonValue).insert (.lit "data") (.array [vmidEntry (-2 ^ 64)]))
      = [-2 ^ 64] ∧
    vmidScan minInt
      ((∅ : GoMap GoString JsonValue).insert (.lit "data") (.array [vmidEntry (-2 ^ 64)])) =
      minInt + 1 ∧
    maxCursor minInt [-2 ^ 64] = minInt := by
  refine ⟨by decide, by decide, ?_⟩
  show max (minInt : ℚ) (-2 ^ 64 + 1) = minInt
  have h : ((-2 ^ 64 + 1 : Int) : ℚ) ≤ (minInt : ℚ) := Int.cast_le.mpr (by decide)
  rw [Int.cast_add, Int.cast_neg, Int.cast_pow, Int.cast_ofNat, Int.cast_one] at h
  exact max_eq_left h

end Cosmos

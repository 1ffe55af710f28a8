import CosmosRuntime.Proxmox.Allocator
import CosmosRuntime.Proxmox.Panics

/-!
# Calls that race with `Close`

`Connect`, `Close` and `getNextVMID` hold `p.mutex`, but `Create`, `Version`, `List` and
`StatsAll` read the flag `p.connected` without it, and every request reads `p.client` without it.
So a `Close` can run between a call's check of the flag and its request, which then dereferences
the nil client. A `Session` runs calls at once from a reachable state: the `Create` calls in the
steps of `Proxmox.Allocator`, `Version`, `List` and `StatsAll` in two steps (the check, then the
rest of the body), and any call of the interface, `Connect` and `Close` among them, whole in one
step. The rest of a body runs as one step: a `Close` in its middle leaves the requests after it
the nil client, as a `Close` before it does.

* `Guarded`, `Query`: the calls that check the flag, and their steps; `Query.advance_twice`: the
  two steps, taken one after the other, are the call;
* `Session`, `SessionStep`, `SessionRuns`: the runs, with or without `Close` steps;
* `Session.Inv`, `SessionStep.inv`: what every step keeps;
* **`SessionRuns.panics`**: along every session a connected runtime has its client, a call
  panics only on the nil client or on the assertion of `List`, and a call that checks the flag
  reaches the nil client only in a session with a `Close`;
* `create_races_close`: `Create` and `Version` pass their check, `Close` runs, and both panic.
-/

namespace Cosmos

/-! ## Calls that check the flag -/

/-- Where a call that reads the flag without the lock stands: before its check, between the check
and the rest of its body, or ended. -/
inductive Guarded (α : Type) where
  | start
  | checked
  | done (r : Outcome α)

namespace Guarded

variable {α : Type} (refuse : Outcome α) (body : GoM Sys α)

/-- The next step of such a call: the check, which ends the call with `refuse` when the flag is
down, then the rest of its body. -/
def advance : Guarded α → Sys → Guarded α × Sys
  | .start, s => (if s.rt.connected then .checked else .done refuse, s)
  | .checked, s => (.done (body s).1, (body s).2)
  | .done r, s => (.done r, s)

def isChecked : Guarded α → Bool
  | .checked => true
  | _ => false

/-- The message the call ended with, if it panicked. -/
def panicked : Guarded α → Option GoString
  | .done (.panic m) => some m
  | _ => none

theorem panicked_done {r : Outcome α} {m : GoString} :
    (done r : Guarded α).panicked = some m ↔ r = .panic m := by
  cases r <;> simp [panicked]

theorem advance_twice (s : Sys) :
    advance refuse body (advance refuse body .start s).1 (advance refuse body .start s).2 =
      if s.rt.connected then (.done (body s).1, (body s).2) else (.done refuse, s) := by
  cases h : s.rt.connected <;> simp [advance, h]

theorem keeps_advance {β : Type} {f : Sys → β} (hb : GoM.Keeps f body) (g : Guarded α)
    (s : Sys) : f (advance refuse body g s).2 = f s := by
  cases g
  · rfl
  · exact hb s
  · rfl

theorem connected_of_advance {g : Guarded α} {s : Sys}
    (h : (advance refuse body g s).1.isChecked = true) : s.rt.connected = true := by
  cases g with
  | start =>
    cases hc : s.rt.connected
    · simp [advance, hc, isChecked] at h
    · rfl
  | checked => simp [advance, isChecked] at h
  | done r => simp [advance, isChecked] at h

theorem advance_panicked {g : Guarded α} {s : Sys} {m : GoString}
    (h : (advance refuse body g s).1.panicked = some m) :
    g.panicked = some m ∨ (g.isChecked = true ∧ (body s).1 = .panic m) ∨ refuse = .panic m := by
  cases g with
  | start =>
    cases hc : s.rt.connected <;> simp only [advance, hc, Bool.false_eq_true, ite_false,
      ite_true] at h
    · exact .inr (.inr (panicked_done.mp h))
    · cases h
  | checked => exact .inr (.inl ⟨rfl, panicked_done.mp h⟩)
  | done r => exact .inl h

end Guarded

/-- What `StatsAll` does after the check `List` makes: the rest of `List`, then `Stats` for each
container. -/
def statsAllBody (env : Env) : GoM Sys (List Stats) := listBody env >>= statsEach env

section Checked

variable (env : Env) {s : Sys}

theorem list_of_connected (hc : s.rt.connected = true) : list env s = listBody env s := by
  rw [list, GoM.bind_ok (by rw [checkConnected_eq, if_pos hc])]

theorem statsAll_of_connected (hc : s.rt.connected = true) :
    statsAll env s = statsAllBody env s := by
  simp only [statsAll, statsAllBody, GoM.bind_apply, GoM.bind, list_of_connected env hc]

theorem statsAll_of_disconnected (hc : s.rt.connected = false) :
    statsAll env s = (.error (.lit "not connected to Proxmox"), s) := by
  rw [statsAll, GoM.bind_error (list_of_disconnected env hc)]

end Checked

/-- A `Version`, `List` or `StatsAll` call in flight. -/
inductive Query where
  | version (p : Guarded GoString)
  | list (p : Guarded (List Container))
  | statsAll (p : Guarded (List Stats))

namespace Query

/-- The next step of a query call. -/
def advance (env : Env) : Query → Sys → Query × Sys
  | .version p, s =>
    let r := p.advance (.ok (.lit "unknown")) (versionBody env) s
    (.version r.1, r.2)
  | .list p, s =>
    let r := p.advance (.error (.lit "not connected to Proxmox")) (listBody env) s
    (.list r.1, r.2)
  | .statsAll p, s =>
    let r := p.advance (.error (.lit "not connected to Proxmox")) (statsAllBody env) s
    (.statsAll r.1, r.2)

/-- The call has passed its check and not yet run the rest of its body. -/
def checked : Query → Bool
  | .version p => p.isChecked
  | .list p => p.isChecked
  | .statsAll p => p.isChecked

/-- The message the call ended with, if it panicked. -/
def panicked : Query → Option GoString
  | .version p => p.panicked
  | .list p => p.panicked
  | .statsAll p => p.panicked

/-- `List` and `StatsAll` assert that each vmid is a number. -/
def assertsVmid : Query → Bool
  | .version _ => false
  | _ => true

/-- What a query call may panic with: the nil client's message when `nil` holds, and for `List`
and `StatsAll` the failed assertion of a vmid that is no number. -/
def PanicOk (nil : Prop) (q : Query) (m : GoString) : Prop :=
  (nil ∧ m = nilDereference) ∨
    (q.assertsVmid = true ∧ ∃ v, (∀ x, v ≠ some (JsonValue.number x)) ∧ m = interfaceConversion v)

/-- The query calls a session starts, before their check. -/
def fresh : List Query := [.version .start, .list .start, .statsAll .start]

variable (env : Env)

/-- **The two steps of a query call, taken one after the other, are the call.** -/
theorem advance_twice (s : Sys) :
    advance env (advance env (.version .start) s).1 (advance env (.version .start) s).2 =
        (.version (.done (Cosmos.version env s).1), (Cosmos.version env s).2) ∧
    advance env (advance env (.list .start) s).1 (advance env (.list .start) s).2 =
        (.list (.done (Cosmos.list env s).1), (Cosmos.list env s).2) ∧
    advance env (advance env (.statsAll .start) s).1 (advance env (.statsAll .start) s).2 =
        (.statsAll (.done (Cosmos.statsAll env s).1), (Cosmos.statsAll env s).2) := by
  simp only [advance, Guarded.advance_twice]
  cases hc : s.rt.connected
  · simp [hc, Cosmos.version, list_of_disconnected env hc, statsAll_of_disconnected env hc]
  · simp [hc, Cosmos.version, list_of_connected env hc, statsAll_of_connected env hc]

theorem keeps_settings_advance (q : Query) (s : Sys) :
    (q.advance env s).2.settings = s.settings := by
  cases q with
  | version p => exact Guarded.keeps_advance _ _ (keeps_settings_versionBody env) p s
  | list p => exact Guarded.keeps_advance _ _ (keeps_settings_of_held (keeps_held_listBody env)) p s
  | statsAll p =>
    exact Guarded.keeps_advance _ _
      (keeps_settings_of_held ((keeps_held_listBody env).bind (keeps_held_statsEach env))) p s

theorem connected_of_advance {q : Query} {s : Sys} (h : (q.advance env s).1.checked = true) :
    s.rt.connected = true := by
  cases q <;> exact Guarded.connected_of_advance _ _ h

theorem assertsVmid_advance (q : Query) (s : Sys) :
    (q.advance env s).1.assertsVmid = q.assertsVmid := by
  cases q <;> rfl

theorem panicsOnly_statsAllBody : GoM.PanicsOnly Sys.client ListPanic (statsAllBody env) :=
  (panicsOnly_listBody env).bind (keeps_client_of_held (keeps_held_listBody env)) fun cs =>
    (panicsOnly_statsEach env cs).mono fun _ _ h => .inl h

theorem advance_panicked {q : Query} {s : Sys} {m : GoString}
    (h : (q.advance env s).1.panicked = some m) :
    q.panicked = some m ∨ (q.checked = true ∧ q.PanicOk (s.rt.client = none) m) := by
  cases q with
  | version p =>
    rcases Guarded.advance_panicked _ _ h with h | ⟨hc, hb⟩ | hr
    · exact .inl h
    · exact .inr ⟨hc, .inl (panicsOnly_versionBody env s m hb)⟩
    · cases hr
  | list p =>
    rcases Guarded.advance_panicked _ _ h with h | ⟨hc, hb⟩ | hr
    · exact .inl h
    · exact .inr ⟨hc, (panicsOnly_listBody env s m hb).imp id fun ha => ⟨rfl, ha⟩⟩
    · cases hr
  | statsAll p =>
    rcases Guarded.advance_panicked _ _ h with h | ⟨hc, hb⟩ | hr
    · exact .inl h
    · exact .inr ⟨hc, (panicsOnly_statsAllBody env s m hb).imp id fun ha => ⟨rfl, ha⟩⟩
    · cases hr

end Query

/-! ## `Create` calls past their check -/

/-- A `Create` call that has passed its check and not yet ended. -/
def Phase.armed : Phase → Bool
  | .start | .done _ => false
  | _ => true

section Create

variable (env : Env) {c : ContainerConfig} {p : Phase} {s : Sys}

theorem segment_panic {α : Type} {x : GoM Sys α} {next : α → Phase}
    {R : Option HttpClient → GoString → Prop} (hx : GoM.PanicsOnly Sys.client R x)
    (hn : ∀ a m, next a ≠ .done (.panic m)) {m : GoString}
    (h : (segment x next s).1 = .done (.panic m)) : R s.rt.client m := by
  unfold segment at h
  rcases hxs : x s with ⟨a | e | m', s'⟩ <;> rw [hxs] at h
  · exact absurd h (hn a m)
  · cases h
  · cases h
    exact hx s m (by rw [hxs])

theorem advance_panic {m : GoString} (h : (advance env c p s).1 = .done (.panic m)) :
    p = .done (.panic m) ∨ (p.armed = true ∧ NilPanic s.rt.client m) := by
  cases p with
  | start => exact (segment_panic (R := fun _ _ => False) panicsOnly_checkConnected
    (fun _ _ h => by cases h) h).elim
  | checked => exact .inr ⟨rfl, segment_panic panicsOnly_getNextVMID (fun _ _ h => by cases h) h⟩
  | allocated v => exact .inr ⟨rfl, segment_panic (panicsOnly_createPost env c v) (fun _ _ h => by cases h) h⟩
  | posted v => exact .inr ⟨rfl, segment_panic (GoM.panicsOnly_modify _) (fun _ _ h => by cases h) h⟩
  | labelled v => exact .inr ⟨rfl, segment_panic (GoM.panicsOnly_modify _) (fun _ _ h => by cases h) h⟩
  | done r => exact .inl h

theorem advance_armed (h : (advance env c p s).1.armed = true) :
    p.armed = true ∨ s.rt.connected = true := by
  cases p with
  | start =>
    cases hc : s.rt.connected
    · rw [advance_start_of_disconnected env c hc] at h
      cases h
    · exact .inr rfl
  | done r => cases h
  | _ => exact .inl rfl

end Create

/-! ## Sessions -/

/-- The calls of a session: the runtime, the `Create` calls in flight with the VMIDs handed out,
and the query calls in flight. -/
structure Session where
  world : World
  queries : List Query

/-- A session from the state `s`, with no call in flight. -/
def Session.init (s : Sys) : Session := ⟨World.init s, []⟩

/-- Query call number `i`, which is `q`, takes its next step. -/
def Session.runQuery (env : Env) (S : Session) (i : Nat) (q : Query) : Session :=
  ⟨{ S.world with sys := (q.advance env S.world.sys).2 },
    S.queries.set i (q.advance env S.world.sys).1⟩

/-- A call of the interface runs whole. -/
def Session.call (env : Env) (S : Session) (k : Call) : Session :=
  ⟨{ S.world with sys := runCall env k S.world.sys }, S.queries⟩

/-- The call is `Close`. -/
def Call.isClose : Call → Bool
  | .close => true
  | _ => false

/-- One step of a session: a step of the run of `Create` calls (one starts or steps, a flush, an
edit), a query call starts or takes its next step, or a call of the interface runs whole. The
index says the step is a `Close`. -/
inductive SessionStep (env : Env) : Bool → Session → Session → Prop
  | create (S : Session) {w : World} : Step env S.world w → SessionStep env false S ⟨w, S.queries⟩
  | spawn (S : Session) (q : Query) : q ∈ Query.fresh →
      SessionStep env false S ⟨S.world, S.queries ++ [q]⟩
  | run (S : Session) (i : Nat) (q : Query) : S.queries[i]? = some q →
      SessionStep env false S (S.runQuery env i q)
  | call (S : Session) (k : Call) : SessionStep env k.isClose S (S.call env k)

/-- The runs of a session when the API answers the `n`-th request with `env.reply n`; with
`close` false, the runs with no `Close` step. -/
def SessionRuns (env : Env) (close : Bool) : Session → Session → Prop :=
  Relation.ReflTransGen fun S S' => ∃ b, (b = true → close = true) ∧ SessionStep env b S S'

/-! ## What every step keeps -/

/-- A connected runtime has its client. -/
def ClientInv (s : Sys) : Prop := s.rt.connected = true → s.rt.client.isSome

/-- What the calls of a session that panicked ended with: the nil client's message, only when
`nil` holds, and the failed assertion of `List` and `StatsAll`. -/
def Session.PanicsIn (nil : Prop) (S : Session) : Prop :=
  (∀ t ∈ S.world.threads, ∀ m, t.phase = .done (.panic m) → nil ∧ m = nilDereference) ∧
  ∀ q ∈ S.queries, ∀ m, q.panicked = some m → q.PanicOk nil m

/-- The invariant of a session's runs: a connected runtime has its client, every call past its
check finds the client unless `nil` holds, and the panics are those `PanicsIn nil` allows. -/
def Session.Inv (nil : Prop) (S : Session) : Prop :=
  ClientInv S.world.sys ∧
  (∀ t ∈ S.world.threads, t.phase.armed = true → nil ∨ S.world.sys.rt.client.isSome) ∧
  (∀ q ∈ S.queries, q.checked = true → nil ∨ S.world.sys.rt.client.isSome) ∧
  S.PanicsIn nil

variable (env : Env) {nil : Prop}

theorem Step.client {w w' : World} (h : Step env w w') :
    w'.sys.rt.client = w.sys.rt.client ∧ w'.sys.rt.connected = w.sys.rt.connected := by
  rcases h.settings with ⟨hs, -⟩ | ⟨-, hs, -⟩ <;>
    exact ⟨(congrArg ProxmoxRuntime.client hs : _), (congrArg ProxmoxRuntime.connected hs : _)⟩

theorem Step.threadsInv {w w' : World} (h : Step env w w') (hc : ClientInv w.sys)
    (ha : ∀ t ∈ w.threads, t.phase.armed = true → nil ∨ w.sys.rt.client.isSome)
    (hp : ∀ t ∈ w.threads, ∀ m, t.phase = .done (.panic m) → nil ∧ m = nilDereference) :
    (∀ t ∈ w'.threads, t.phase.armed = true → nil ∨ w'.sys.rt.client.isSome) ∧
    (∀ t ∈ w'.threads, ∀ m, t.phase = .done (.panic m) → nil ∧ m = nilDereference) := by
  rw [(h.client env).1]
  cases h with
  | spawn c =>
    refine ⟨fun t ht => ?_, fun t ht => ?_⟩ <;> rcases List.mem_append.mp ht with ht | ht
    · exact ha t ht
    · rw [List.mem_singleton.mp ht]
      exact nofun
    · exact hp t ht
    · rw [List.mem_singleton.mp ht]
      exact fun _ => nofun
  | run i t hi =>
    have ht := List.getElem?_mem hi
    refine ⟨fun t' ht' harm => ?_, fun t' ht' m hm => ?_⟩ <;>
      rcases List.mem_or_eq_of_mem_set ht' with ht' | rfl
    · exact ha t' ht' harm
    · rcases advance_armed env harm with h | h
      · exact ha t ht h
      · exact .inr (hc h)
    · exact hp t' ht' m hm
    · rcases advance_panic env hm with h | ⟨harm, hnil, rfl⟩
      · exact hp t ht m h
      · rcases ha t ht harm with hn | hs
        · exact ⟨hn, rfl⟩
        · rw [hnil] at hs
          cases hs
  | flush => exact ⟨ha, hp⟩
  | edit => exact ⟨ha, hp⟩

theorem Session.runQuery_inv {S : Session} {i : Nat} {q : Query} (hi : S.queries[i]? = some q)
    (h : S.Inv nil) : (S.runQuery env i q).Inv nil := by
  obtain ⟨hc, ha, hq, hp, hpq⟩ := h
  have hs := Query.keeps_settings_advance env q S.world.sys
  have hcl : (q.advance env S.world.sys).2.rt.client = S.world.sys.rt.client :=
    (congrArg ProxmoxRuntime.client hs : _)
  have hcn : (q.advance env S.world.sys).2.rt.connected = S.world.sys.rt.connected :=
    (congrArg ProxmoxRuntime.connected hs : _)
  have hmem := List.getElem?_mem hi
  refine ⟨fun h' => ?_, ?_, fun q' hq' hck => ?_, ?_, fun q' hq' m hm => ?_⟩
  · exact hcl ▸ hc (hcn ▸ h')
  · exact hcl ▸ ha
  · simp only [runQuery] at hq' hck ⊢
    rw [hcl]
    rcases List.mem_or_eq_of_mem_set hq' with hq' | rfl
    · exact hq q' hq' hck
    · exact .inr (hc (Query.connected_of_advance env hck))
  · exact hp
  · rcases List.mem_or_eq_of_mem_set hq' with hq' | rfl
    · exact hpq q' hq' m hm
    · rw [Query.PanicOk, Query.assertsVmid_advance]
      rcases Query.advance_panicked env hm with h | ⟨hck, hn | ha⟩
      · exact hpq q hmem m h
      · rcases hq q hmem hck with hnil | hsome
        · exact .inl ⟨hnil, hn.2⟩
        · rw [hn.1] at hsome
          cases hsome
      · exact .inr ha

/-- **Every step keeps the invariant**, a `Close` only when `nil` holds. -/
theorem SessionStep.inv {b : Bool} {S S' : Session} (h : SessionStep env b S S')
    (hb : b = true → nil) (hi : S.Inv nil) : S'.Inv nil := by
  obtain ⟨hc, ha, hq, hp, hpq⟩ := hi
  cases h with
  | create S hw =>
    obtain ⟨ha', hp'⟩ := hw.threadsInv env hc ha hp
    obtain ⟨hcl, hcn⟩ := hw.client env
    exact ⟨fun h' => hcl ▸ hc (hcn ▸ h'), ha', hcl ▸ hq, hp', hpq⟩
  | spawn S q hf =>
    have hnew : q.checked = false ∧ q.panicked = none := by
      simp only [Query.fresh, List.mem_cons, List.mem_singleton, List.not_mem_nil, or_false] at hf
      rcases hf with rfl | rfl | rfl <;> exact ⟨rfl, rfl⟩
    refine ⟨hc, ha, fun q' hq' => ?_, hp, fun q' hq' => ?_⟩ <;>
      rcases List.mem_append.mp hq' with hq' | hq'
    · exact hq q' hq'
    · rw [List.mem_singleton.mp hq', hnew.1]
      exact nofun
    · exact hpq q' hq'
    · rw [List.mem_singleton.mp hq', hnew.2]
      exact fun _ => nofun
  | run S i q hi => exact S.runQuery_inv env hi ⟨hc, ha, hq, hp, hpq⟩
  | call S k =>
    have hkeep : nil ∨ S.world.sys.rt.client.isSome →
        nil ∨ (runCall env k S.world.sys).rt.client.isSome := by
      rintro (hn | hs)
      · exact .inl hn
      · cases hk : k.isClose
        · refine .inr (runCall_client_isSome env (fun h => ?_) hs)
          rw [h] at hk
          cases hk
        · exact .inl (hb hk)
    exact ⟨runCall_client_of_connected env k hc, fun t ht harm => hkeep (ha t ht harm),
      fun q hq' hck => hkeep (hq q hq' hck), hp, hpq⟩

theorem SessionRuns.inv {close : Bool} {s : Sys} {S : Session} (hs : ClientInv s)
    (h : SessionRuns env close (Session.init s) S) : S.Inv (close = true) := by
  induction h with
  | refl => exact ⟨hs, List.forall_mem_nil _, List.forall_mem_nil _, List.forall_mem_nil _,
    List.forall_mem_nil _⟩
  | tail _ hstep ih =>
    obtain ⟨b, hb, hstep⟩ := hstep
    exact hstep.inv env hb ih

/-! ## The panics of a session -/

theorem callPanic_cases {s : Sys} (hs : ClientInv s) {k : Call} {m : GoString}
    (h : callPanic env k s = some m) :
    (m = nilDereference ∧ s.rt.client = none ∧ s.rt.connected = false ∧ k.unguarded = true) ∨
      ((k = .list ∨ k = .statsAll) ∧
        ∃ v, (∀ x, v ≠ some (JsonValue.number x)) ∧ m = interfaceConversion v) := by
  rcases callPanic_spec env k s h with ⟨⟨hcl, hm⟩, hk⟩ | hl
  · have hc : s.rt.connected = false := by
      cases hc : s.rt.connected
      · rfl
      · have := hs hc
        rw [hcl] at this
        cases this
    refine .inl ⟨hm, hcl, hc, ?_⟩
    rcases hk with hk | hk
    · exact hk
    · rw [hc] at hk
      cases hk
  · exact .inr hl

/-- **The panics of a session.** From a reachable state, along every interleaving of calls with
`Connect` and `Close`: a connected runtime has its client; a `Create` or `Version` call in flight
that panicked dereferenced the nil client, and a `List` or `StatsAll` call did that or failed its
assertion on a vmid that is no number; and where the run has no `Close` step, none of them
dereferenced the nil client. A call run whole from such a state panics on the nil client only when
it skips the check in a runtime that is not connected, or it is `List` or `StatsAll` failing the
assertion. -/
theorem SessionRuns.panics {E : Env → Prop} {s : Sys} (hs : Reachable E s) {close : Bool}
    {S : Session} (h : SessionRuns env close (Session.init s) S) :
    ClientInv S.world.sys ∧ S.PanicsIn (close = true) ∧
    ∀ k m, callPanic env k S.world.sys = some m →
      (m = nilDereference ∧ S.world.sys.rt.client = none ∧ S.world.sys.rt.connected = false ∧
        k.unguarded = true) ∨
      ((k = .list ∨ k = .statsAll) ∧
        ∃ v, (∀ x, v ≠ some (JsonValue.number x)) ∧ m = interfaceConversion v) := by
  obtain ⟨hc, -, -, hp⟩ := h.inv env hs.client_of_connected
  exact ⟨hc, hp, fun k m hk => callPanic_cases env hc hk⟩

/-- At the stale state, `Create` and `Version` pass their check, `Close` runs, and then the POST
of `Create` and the request of `Version` run. -/
def raceSession : Session :=
  let env := replyEnv (.array [])
  let S₁ : Session := ⟨⟨staleSys, [⟨webConfig, .start⟩], []⟩, [.version .start]⟩
  let S₂ : Session := ⟨S₁.world.run env 0 ⟨webConfig, .start⟩, S₁.queries⟩
  let S₃ := (S₂.runQuery env 0 (.version .start)).call env .close
  let S₄ : Session := ⟨S₃.world.run env 0 ⟨webConfig, .checked⟩, S₃.queries⟩
  let S₅ : Session := ⟨S₄.world.run env 0 ⟨webConfig, .allocated 100⟩, S₄.queries⟩
  S₅.runQuery env 0 (.version .checked)

theorem raceSession_runs :
    SessionRuns (replyEnv (.array [])) true (Session.init staleSys) raceSession :=
  .tail (.tail (.tail (.tail (.tail (.tail (.tail (.single
    ⟨false, nofun, .create _ (.spawn _ webConfig)⟩)
    ⟨false, nofun, .spawn _ (.version .start) (List.mem_cons_self _ _)⟩)
    ⟨false, nofun, .create _ (.run _ 0 _ rfl)⟩)
    ⟨false, nofun, .run _ 0 _ rfl⟩)
    ⟨true, fun _ => rfl, .call _ .close⟩)
    ⟨false, nofun, .create _ (.run _ 0 _ rfl)⟩)
    ⟨false, nofun, .create _ (.run _ 0 _ rfl)⟩)
    ⟨false, nofun, .run _ 0 _ rfl⟩

/-- **The race**: both calls dereference the nil client that `Close` left. -/
theorem create_races_close :
    SessionRuns (replyEnv (.array [])) true (Session.init staleSys) raceSession ∧
    raceSession.world.threads.map (·.phase) = [.done (.panic nilDereference)] ∧
    raceSession.queries.map Query.panicked = [some nilDereference] :=
  ⟨raceSession_runs, by decide, by decide⟩

/-- `SessionRuns.panics` along the race. -/
theorem session_panics_race :
    Reachable (fun _ => True) staleSys ∧
    SessionRuns (replyEnv (.array [])) true (Session.init staleSys) raceSession ∧
    (ClientInv raceSession.world.sys ∧ raceSession.PanicsIn (true = true) ∧
      ∀ k m, callPanic (replyEnv (.array [])) k raceSession.world.sys = some m →
        (m = nilDereference ∧ raceSession.world.sys.rt.client = none ∧
          raceSession.world.sys.rt.connected = false ∧ k.unguarded = true) ∨
        ((k = .list ∨ k = .statsAll) ∧
          ∃ v, (∀ x, v ≠ some (JsonValue.number x)) ∧ m = interfaceConversion v)) :=
  ⟨staleSys_reachable, raceSession_runs, SessionRuns.panics _ staleSys_reachable raceSession_runs⟩

end Cosmos

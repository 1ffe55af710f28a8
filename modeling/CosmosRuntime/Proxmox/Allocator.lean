import CosmosRuntime.Proxmox.Inventory
import Mathlib.Logic.Relation

/-!
# Concurrent `Create` calls and the VMID cursor

Between one `Connect` and the next `Connect` or `Close`, any number of `Create` calls run at
once, each in its own goroutine, together with the flushes their metadata writes start. A call
runs in atomic steps: the check of the flag, `getNextVMID` (under `p.mutex`), the POST, `Set` and
`SetLabel` (each under the store's lock). A `World` is the state of such a run: the runtime, the
calls in flight, and the VMIDs handed out so far, in order. `Step` lets any call take its next
step, a new call start, or a flush run.

* `Phase`, `advance`: one call's steps; `advanceN_create`: taken one after the other, they are
  `create`;
* `World`, `Step`, `Runs`;
* `Step.settings`: a step changes the runtime's fields only by handing out the cursor;
* **`Runs.allocInv`**: the VMIDs handed out are distinct and lie between the cursor the run
  started from and both the cursor and `VMIDEnd`;
* **`Runs.handed_consecutive`**: they are the cursor the run started from and the ones after it,
  in order, with none skipped;
* **`Runs.exhausted`**: once the cursor has reached `VMIDEnd`, every call started afterwards
  ends, if it ends, with the range-exhausted error, and never reaches its POST;
* **`connect_create_vmids`**: after a successful `Connect`, the VMIDs handed out lie in
  `[VMIDStart, VMIDEnd)` and differ from every numeric vmid of the inventory it read.
-/

namespace Cosmos

/-! ## One call -/

/-- Where a `Create` call stands: the step it takes next, or how it ended. -/
inductive Phase where
  | start
  | checked
  | allocated (vmid : Int)
  | posted (vmid : Int)
  | labelled (vmid : Int)
  | done (r : Outcome GoString)
  deriving DecidableEq

/-- Run one atomic step; its outcome decides the next phase, an error or a panic ends the call. -/
def segment {α : Type} (x : GoM Sys α) (next : α → Phase) (s : Sys) : Phase × Sys :=
  match x s with
  | (.ok a, s') => (next a, s')
  | (.error e, s') => (.done (.error e), s')
  | (.panic m, s') => (.done (.panic m), s')

theorem segment_snd {α : Type} (x : GoM Sys α) (next : α → Phase) (s : Sys) :
    (segment x next s).2 = (x s).2 := by
  unfold segment
  rcases x s with ⟨_ | _ | _, _⟩ <;> rfl

/-- The next step of a `Create` call with descriptor `c`. -/
def advance (env : Env) (c : ContainerConfig) : Phase → Sys → Phase × Sys
  | .start => segment checkConnected fun _ => .checked
  | .checked => segment getNextVMID .allocated
  | .allocated v => segment (createPost env c v) fun _ => .posted v
  | .posted v => segment (createSet c v) fun _ => .labelled v
  | .labelled v => segment (setLabel v cosmosName c.name) fun _ => .done (.ok (itoa v))
  | .done r => fun s => (.done r, s)

/-- `n` steps of one call, with nothing in between. -/
def advanceN (env : Env) (c : ContainerConfig) : Nat → Phase → Sys → Phase × Sys
  | 0, p, s => (p, s)
  | n + 1, p, s => advanceN env c n (advance env c p s).1 (advance env c p s).2

section OneCall

variable (env : Env) (c : ContainerConfig)

theorem advanceN_succ {n : Nat} {p p' : Phase} {s s' : Sys} (h : advance env c p s = (p', s')) :
    advanceN env c (n + 1) p s = advanceN env c n p' s' := by
  rw [advanceN, h]

theorem advanceN_done (n : Nat) (r : Outcome GoString) (s : Sys) :
    advanceN env c n (.done r) s = (.done r, s) := by
  induction n with
  | zero => rfl
  | succ n ih => exact ih

variable {s : Sys}

theorem advance_start_of_connected (hc : s.rt.connected = true) :
    advance env c .start s = (.checked, s) := by
  rw [advance, segment, checkConnected_eq, if_pos hc]

theorem advance_start_of_disconnected (hc : s.rt.connected = false) :
    advance env c .start s = (.done (.error (.lit "not connected to Proxmox")), s) := by
  rw [advance, segment, checkConnected_eq, hc]; rfl

theorem advance_checked_of_le (hv : s.rt.config.vmidEnd ≤ s.rt.vmidCounter) :
    advance env c .checked s = (.done (.error (.lit "VMID range exhausted")), s) := by
  rw [advance, segment, getNextVMID_of_le hv]

theorem advance_checked_of_lt (hv : s.rt.vmidCounter < s.rt.config.vmidEnd) :
    advance env c .checked s =
      (.allocated s.rt.vmidCounter, s.setRt { s.rt with vmidCounter := s.rt.vmidCounter + 1 }) := by
  rw [advance, segment, getNextVMID_of_lt hv]

/-- **The steps of a call, taken one after the other, are `create`.** -/
theorem advanceN_create (s : Sys) :
    advanceN env c 5 .start s = (.done (create env c s).1, (create env c s).2) := by
  rw [create_eq]
  cases hc : s.rt.connected
  · rw [if_pos rfl, advanceN_succ env c (advance_start_of_disconnected env c hc)]
    exact advanceN_done env c 4 _ s
  · rw [if_neg Bool.true_eq_false.le, advanceN_succ env c (advance_start_of_connected env c hc)]
    by_cases hv : s.rt.config.vmidEnd ≤ s.rt.vmidCounter
    · rw [if_pos hv, advanceN_succ env c (advance_checked_of_le env c hv)]
      exact advanceN_done env c 3 _ s
    · rw [if_neg hv, advanceN_succ env c (advance_checked_of_lt env c (not_le.mp hv))]
      rcases hp : createPost env c s.rt.vmidCounter
        (s.setRt { s.rt with vmidCounter := s.rt.vmidCounter + 1 }) with ⟨_ | _ | _, s2⟩ <;>
        rw [advanceN_succ env c (by rw [advance, segment, hp])]
      · rfl
      · exact advanceN_done env c 2 _ s2
      · exact advanceN_done env c 2 _ s2

theorem advance_settings {p : Phase} (hp : p ≠ .checked) (s : Sys) :
    (advance env c p s).2.settings = s.settings := by
  have hseg : ∀ {α : Type} (x : GoM Sys α) (next : α → Phase), GoM.Keeps Sys.settings x →
      (segment x next s).2.settings = s.settings := fun x next hx => by
    rw [segment_snd]; exact hx s
  cases p with
  | start => exact hseg _ _ (keeps_settings_of_held keeps_held_checkConnected)
  | checked => exact absurd rfl hp
  | allocated v => exact hseg _ _ (keeps_settings_of_held (keeps_held_createPost env c v))
  | posted v => exact hseg _ _ (keeps_settings_createSet c v)
  | labelled v => exact hseg _ _ (keeps_settings_setLabel v _ _)
  | done r => rfl

/-- The phases of a call that started after the range was used up. -/
def Phase.Refused (p : Phase) : Prop :=
  p = .start ∨ p = .checked ∨ p = .done (.error (.lit "VMID range exhausted"))

theorem advance_refused {p : Phase} (hp : p.Refused) (hc : s.rt.connected = true)
    (hv : s.rt.config.vmidEnd ≤ s.rt.vmidCounter) :
    (advance env c p s).1.Refused ∧ (advance env c p s).2 = s := by
  rcases hp with rfl | rfl | rfl
  · rw [advance_start_of_connected env c hc]; exact ⟨.inr (.inl rfl), rfl⟩
  · rw [advance_checked_of_le env c hv]; exact ⟨.inr (.inr rfl), rfl⟩
  · exact ⟨.inr (.inr rfl), rfl⟩

end OneCall

/-! ## Calls in flight -/

/-- A `Create` call in flight: its descriptor and where it stands. -/
structure Thread where
  config : ContainerConfig
  phase : Phase

/-- The VMID a call holds once `getNextVMID` has returned it. -/
def Phase.handout : Phase → List Int
  | .allocated v => [v]
  | _ => []

/-- The runtime, the calls in flight, and the VMIDs `getNextVMID` handed out, in order. -/
structure World where
  sys : Sys
  threads : List Thread
  handed : List Int

/-- The world right after `Connect`: no call in flight. -/
def World.init (s : Sys) : World := ⟨s, [], []⟩

/-- Call number `i`, which is `t`, takes its next step. -/
def World.run (env : Env) (w : World) (i : Nat) (t : Thread) : World where
  sys := (advance env t.config t.phase w.sys).2
  threads := w.threads.set i ⟨t.config, (advance env t.config t.phase w.sys).1⟩
  handed := if t.phase = .checked then w.handed ++ (advance env t.config t.phase w.sys).1.handout
    else w.handed

/-- One step of a run: a new call starts, a call takes its next step, a pending flush runs, or a
caller edits one of its label maps. -/
inductive Step (env : Env) : World → World → Prop
  | spawn (w : World) (c : ContainerConfig) :
      Step env w { w with threads := w.threads ++ [⟨c, .start⟩] }
  | run (w : World) (i : Nat) (t : Thread) : w.threads[i]? = some t → Step env w (w.run env i t)
  | flush (w : World) : 0 < w.sys.rt.metadata.pending → Step env w { w with sys := w.sys.flush }
  | edit (w : World) (a : Nat) (l : Labels) :
      Step env w { w with sys := { w.sys with heap := Function.update w.sys.heap a l } }

/-- The runs of concurrent calls, when the API answers the `n`-th request with `env.reply n`. -/
def Runs (env : Env) : World → World → Prop := Relation.ReflTransGen (Step env)

variable {env : Env} {w w' : World}

/-- **A step changes the runtime's fields only by handing out the cursor**, which it does from
below `VMIDEnd`, recording the VMID. -/
theorem Step.settings (h : Step env w w') :
    (w'.sys.settings = w.sys.settings ∧ w'.handed = w.handed) ∨
    (w.sys.rt.vmidCounter < w.sys.rt.config.vmidEnd ∧
      w'.sys.settings = { w.sys.settings with vmidCounter := w.sys.rt.vmidCounter + 1 } ∧
      w'.handed = w.handed ++ [w.sys.rt.vmidCounter]) := by
  cases h with
  | spawn => exact .inl ⟨rfl, rfl⟩
  | flush => exact .inl ⟨Sys.settings_flush _, rfl⟩
  | edit => exact .inl ⟨rfl, rfl⟩
  | run i t =>
    by_cases hp : t.phase = .checked
    · by_cases hv : w.sys.rt.config.vmidEnd ≤ w.sys.rt.vmidCounter
      · left; simp [World.run, hp, advance_checked_of_le env _ hv, Phase.handout]
      · refine .inr ⟨not_le.mp hv, ?_⟩
        simp [World.run, hp, advance_checked_of_lt env _ (not_le.mp hv), Phase.handout]
    · exact .inl ⟨advance_settings env t.config hp w.sys, if_neg hp⟩

/-! ## What a run keeps -/

/-- The allocation invariant of a run that started in state `s`: the runtime's fields are those
of `s` but for the cursor, which has not fallen, and the VMIDs handed out are distinct, at least
the cursor of `s`, below the current cursor and below `VMIDEnd`. -/
def AllocInv (s : Sys) (w : World) : Prop :=
  w.sys.settings = { s.settings with vmidCounter := w.sys.rt.vmidCounter } ∧
  s.rt.vmidCounter ≤ w.sys.rt.vmidCounter ∧ w.handed.Nodup ∧
  ∀ v ∈ w.handed,
    s.rt.vmidCounter ≤ v ∧ v < w.sys.rt.vmidCounter ∧ v < s.rt.config.vmidEnd

theorem AllocInv.init (s : Sys) : AllocInv s (World.init s) :=
  ⟨rfl, le_refl _, List.nodup_nil, fun _ h => absurd h (List.not_mem_nil _)⟩

theorem AllocInv.step {s : Sys} (hi : AllocInv s w) (h : Step env w w') : AllocInv s w' := by
  obtain ⟨hset, hle, hnd, hb⟩ := hi
  unfold AllocInv
  rcases h.settings with ⟨hs', hh⟩ | ⟨hlt, hs', hh⟩
  · have hc : w'.sys.rt.vmidCounter = w.sys.rt.vmidCounter :=
      (congrArg ProxmoxRuntime.vmidCounter hs' : _)
    rw [hh, hc]
    exact ⟨hs'.trans hset, hle, hnd, hb⟩
  · have hc : w'.sys.rt.vmidCounter = w.sys.rt.vmidCounter + 1 :=
      (congrArg ProxmoxRuntime.vmidCounter hs' : _)
    have hcfg : w.sys.rt.config = s.rt.config := (congrArg ProxmoxRuntime.config hset : _)
    rw [hh, hc]
    refine ⟨by rw [hs', hset], by omega, hnd.append (List.nodup_singleton _) ?_, fun v hv => ?_⟩
    · exact List.disjoint_singleton.mpr fun hm => lt_irrefl _ (hb _ hm).2.1
    · rcases List.mem_append.mp hv with hv | hv
      · have := hb v hv; omega
      · rw [List.mem_singleton.mp hv, ← hcfg]; omega

/-- **The allocation invariant holds along every run.** -/
theorem Runs.allocInv {s : Sys} (h : Runs env (World.init s) w) : AllocInv s w := by
  induction h with
  | refl => exact AllocInv.init s
  | tail _ hstep ih => exact ih.step hstep

/-- **The VMIDs a run hands out leave no gap**: from the cursor `c` the run started from, they
are `c, c + 1, …` in the order `getNextVMID` returned them, however the calls interleave and
whether or not their POSTs succeed, and the cursor stands just past the last. -/
theorem Runs.handed_consecutive {s : Sys} (h : Runs env (World.init s) w) :
    w.handed = (List.range w.handed.length).map (fun i : Nat => s.rt.vmidCounter + i) ∧
      w.sys.rt.vmidCounter = s.rt.vmidCounter + w.handed.length := by
  induction h with
  | refl => exact ⟨rfl, by simp [World.init]⟩
  | @tail u v _ hstep ih =>
    obtain ⟨hh, hc⟩ := ih
    rcases hstep.settings with ⟨hs', hh'⟩ | ⟨-, hs', hh'⟩
    · have hc' : v.sys.rt.vmidCounter = u.sys.rt.vmidCounter :=
        (congrArg ProxmoxRuntime.vmidCounter hs' : _)
      rw [hh', hc']
      exact ⟨hh, hc⟩
    · have hc' : v.sys.rt.vmidCounter = u.sys.rt.vmidCounter + 1 :=
        (congrArg ProxmoxRuntime.vmidCounter hs' : _)
      rw [hh', hc', List.length_append, List.length_singleton, List.range_succ, List.map_append,
        List.map_singleton, ← hh, hc]
      exact ⟨rfl, by push_cast; ring⟩

/-- Two `Create` calls at the stale state: both pass the flag, then the second takes its VMID
before the first. -/
def twoCallsRun : World :=
  let w : World := ⟨staleSys, [⟨webConfig, .start⟩, ⟨webConfig, .start⟩], []⟩
  let w := w.run (replyEnv (.array [])) 0 ⟨webConfig, .start⟩
  let w := w.run (replyEnv (.array [])) 1 ⟨webConfig, .start⟩
  let w := w.run (replyEnv (.array [])) 1 ⟨webConfig, .checked⟩
  w.run (replyEnv (.array [])) 0 ⟨webConfig, .checked⟩

/-- The second call gets VMID 100 and the first 101. -/
theorem handed_consecutive_two_calls :
    Runs (replyEnv (.array [])) (World.init staleSys) twoCallsRun ∧
    twoCallsRun.handed = [100, 101] ∧
    (twoCallsRun.handed = (List.range twoCallsRun.handed.length).map
        (fun i : Nat => staleSys.rt.vmidCounter + i) ∧
      twoCallsRun.sys.rt.vmidCounter = staleSys.rt.vmidCounter + twoCallsRun.handed.length) :=
  have hw : Runs (replyEnv (.array [])) (World.init staleSys) twoCallsRun :=
    .tail (.tail (.tail (.tail (.tail (.single (.spawn _ webConfig)) (.spawn _ webConfig))
      (.run _ 0 _ rfl)) (.run _ 1 _ rfl)) (.run _ 1 _ rfl)) (.run _ 0 _ rfl)
  ⟨hw, by decide, Runs.handed_consecutive hw⟩

/-- The exhaustion invariant: the runtime is connected, its cursor has reached `VMIDEnd`, and
every call from the `n`-th on is refused. -/
def ExhaustInv (n : Nat) (w : World) : Prop :=
  w.sys.rt.connected = true ∧ w.sys.rt.config.vmidEnd ≤ w.sys.rt.vmidCounter ∧
  ∀ i t, n ≤ i → w.threads[i]? = some t → t.phase.Refused

theorem ExhaustInv.step {n : Nat} (hi : ExhaustInv n w) (h : Step env w w') : ExhaustInv n w' := by
  obtain ⟨hc, hv, ht⟩ := hi
  have hset : w'.sys.settings = w.sys.settings := by
    rcases h.settings with ⟨h, -⟩ | ⟨hlt, -⟩
    · exact h
    · exact absurd hlt (not_lt.mpr hv)
  have hc' : w'.sys.rt.connected = w.sys.rt.connected :=
    (congrArg ProxmoxRuntime.connected hset : _)
  have hv' : w'.sys.rt.vmidCounter = w.sys.rt.vmidCounter :=
    (congrArg ProxmoxRuntime.vmidCounter hset : _)
  have hcfg : w'.sys.rt.config = w.sys.rt.config := (congrArg ProxmoxRuntime.config hset : _)
  refine ⟨hc'.trans hc, hcfg ▸ hv' ▸ hv, fun i t hi hit => ?_⟩
  cases h with
  | spawn c =>
    by_cases hl : i < w.threads.length
    · exact ht i t hi (by rwa [List.getElem?_append_left hl] at hit)
    · rw [List.getElem?_append_right (not_lt.mp hl)] at hit
      cases hk : i - w.threads.length <;> simp only [hk, List.getElem?_cons_zero,
        List.getElem?_cons_succ, List.getElem?_nil, Option.some.injEq, reduceCtorEq] at hit
      exact hit ▸ .inl rfl
  | run j t' hj =>
    simp only [World.run, List.getElem?_set] at hit
    split_ifs at hit with hji
    · cases hit
      exact (advance_refused env t'.config (ht j t' (hji ▸ hi) hj) hc hv).1
    · exact ht i t hi hit
  | flush => exact ht i t hi hit
  | edit => exact ht i t hi hit

/-- **Once the cursor has reached `VMIDEnd`, every call started afterwards is refused**, along
every run. -/
theorem Runs.exhausted {w₁ : World} (h : Runs env w₁ w) (hc : w₁.sys.rt.connected = true)
    (hv : w₁.sys.rt.config.vmidEnd ≤ w₁.sys.rt.vmidCounter) :
    ExhaustInv w₁.threads.length w := by
  induction h with
  | refl => exact ⟨hc, hv, fun i t hi hit => by rw [List.getElem?_eq_none hi] at hit; cases hit⟩
  | tail _ hstep ih => exact ih.step hstep

/-! ## After `Connect` -/

/-- **The VMIDs handed out after a successful `Connect`.** In every run of concurrent `Create`
calls from the state `Connect` left, with any replies, the VMIDs `getNextVMID` hands out are
distinct, lie in `[VMIDStart, VMIDEnd)`, and differ from every numeric vmid of the inventory
`Connect` read (none when its request failed). Once the cursor has reached `VMIDEnd`, every call
started afterwards is refused: it ends, if it ends, with the range-exhausted error, and its steps
change nothing. The replies of the history and of `Connect` carry `float64` vmids. -/
theorem connect_create_vmids {env env' : Env} {s : Sys} {w : World} (hs : Reachable Env.Sane s)
    (hE : env.Sane) (hok : (connect env s).1 = .ok ())
    (hw : Runs env' (World.init (connect env s).2) w) :
    w.handed.Nodup ∧
    (∀ v ∈ w.handed, s.rt.config.vmidStart ≤ v ∧ v < s.rt.config.vmidEnd ∧
      ∀ x ∈ inventoryVmids env s, (v : ℚ) ≠ x) ∧
    ∀ w₁, Runs env' (World.init (connect env s).2) w₁ → Runs env' w₁ w →
      s.rt.config.vmidEnd ≤ w₁.sys.rt.vmidCounter →
      ∀ i t, w₁.threads.length ≤ i → w.threads[i]? = some t →
        t.phase.Refused ∧ (advance env' t.config t.phase w.sys).2 = w.sys := by
  have hset := connect_settings env s
  rw [if_pos hok] at hset
  have hcfg : (connect env s).2.rt.config = s.rt.config := (congrArg ProxmoxRuntime.config hset : _)
  have hctr : (connect env s).2.rt.vmidCounter = connectCursor env s :=
    (congrArg ProxmoxRuntime.vmidCounter hset : _)
  have hconn : (connect env s).2.rt.connected = true :=
    (congrArg ProxmoxRuntime.connected hset : _)
  obtain ⟨⟨hlo, hhi⟩, hstart⟩ := hs.cursor
  have hcur := connectCursor_spec env s (hE.inventory s) hstart
  obtain ⟨-, -, hnd, hb⟩ := hw.allocInv
  refine ⟨hnd, fun v hv => ?_, fun w₁ h₁ h₂ hend i t hi hit => ?_⟩
  · obtain ⟨hv1, -, hv2⟩ := hb v hv
    rw [hctr] at hv1
    rw [hcfg] at hv2
    have hr : InIntRange v := ⟨hlo.1.trans (hcur.1.trans hv1), hv2.le.trans hhi.2⟩
    exact ⟨hcur.1.trans hv1, hv2, fun x hx => ne_of_toGoInt_lt hr ((hcur.2 x hx).trans_le hv1)⟩
  · obtain ⟨hset₁, -, -⟩ := h₁.allocInv
    have hc₁ : w₁.sys.rt.connected = true :=
      (congrArg ProxmoxRuntime.connected hset₁ : _).trans hconn
    have hcfg₁ : w₁.sys.rt.config = s.rt.config :=
      (congrArg ProxmoxRuntime.config hset₁ : _).trans hcfg
    obtain ⟨hc, hv, ht⟩ := h₂.exhausted hc₁ (hcfg₁ ▸ hend)
    have hr := ht i t hi hit
    exact ⟨hr, (advance_refused env' t.config hr hc hv).2⟩

/-- The API lists one container, whose vmid is the number 150. -/
def numericEnv : Env := replyEnv (.array [.object [(.lit "vmid", .number 150)]])

/-- After that `Connect`: one `Create` call starts, passes the flag and takes its VMID. -/
def demoRun : World :=
  let w : World := ⟨(connect numericEnv demoFresh).2, [⟨webConfig, .start⟩], []⟩
  (w.run numericEnv 0 ⟨webConfig, .start⟩).run numericEnv 0 ⟨webConfig, .checked⟩

theorem connect_create_vmids_demo :
    Reachable Env.Sane demoFresh ∧ numericEnv.Sane ∧
    (connect numericEnv demoFresh).1 = .ok () ∧
    Runs numericEnv (World.init (connect numericEnv demoFresh).2) demoRun ∧
    demoRun.handed = [151] ∧
    (demoRun.handed.Nodup ∧
      (∀ v ∈ demoRun.handed,
        demoFresh.rt.config.vmidStart ≤ v ∧ v < demoFresh.rt.config.vmidEnd ∧
        ∀ x ∈ inventoryVmids numericEnv demoFresh, (v : ℚ) ≠ x) ∧
      ∀ w₁, Runs numericEnv (World.init (connect numericEnv demoFresh).2) w₁ →
        Runs numericEnv w₁ demoRun → demoFresh.rt.config.vmidEnd ≤ w₁.sys.rt.vmidCounter →
        ∀ i t, w₁.threads.length ≤ i → demoRun.threads[i]? = some t →
          t.phase.Refused ∧ (advance numericEnv t.config t.phase demoRun.sys).2 = demoRun.sys) :=
  have hE : numericEnv.Sane := fun _ _ h => by cases h; decide
  have hok : (connect numericEnv demoFresh).1 = .ok () := by decide
  have hw : Runs numericEnv (World.init (connect numericEnv demoFresh).2) demoRun :=
    .tail (.tail (.single (.spawn _ webConfig)) (.run _ 0 _ rfl)) (.run _ 0 _ rfl)
  ⟨demoFresh_reachable _, hE, hok, hw, by decide,
    connect_create_vmids (demoFresh_reachable _) hE hok hw⟩

/-- The API lists one container whose vmid is the string `"100"`. -/
def stringVmidEnv : Env := replyEnv (.array [.object [(.lit "vmid", .string (.lit "100"))]])

/-- `Connect` succeeds and its scan skips the entry, so the first `Create` hands out the vmid of
the container the inventory listed. -/
theorem create_reuses_listed_vmid :
    (connect stringVmidEnv demoFresh).1 = .ok () ∧ inventoryVmids stringVmidEnv demoFresh = [] ∧
    (create stringVmidEnv webConfig (connect stringVmidEnv demoFresh).2).1 = .ok (.lit "100") := by
  decide

end Cosmos

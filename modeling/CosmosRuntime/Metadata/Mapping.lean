import CosmosRuntime.Go.Basic
import CosmosRuntime.Go.Map

/-!
# The name index

`VMIDMapping` keeps two maps, `nameToID` and `idToName`, behind one lock, so each method runs
atomically on both. `Set` writes both directions, `Delete` removes a VMID and the name
`idToName` records for it. Neither removes the old partner of a name or a VMID that is set
again, so the two maps stay inverse to each other only while every `Set` writes a name and a
VMID that are free or already paired with each other.

* `VMIDMapping`, `newVMIDMapping`, `set`, `getByName`, `getByID`, `delete`;
* `Consistent`: `GetByName(n) = (v, true)` exactly when `GetByID(v) = (n, true)`;
* **`Consistent.set_iff`**: from a consistent mapping, `Set(n, v)` keeps it consistent exactly
  when `n` and `v` are both free or already paired with each other;
* **`Consistent.delete`**: `Delete` keeps it consistent;
* **`Registered.consistent`**: every mapping built from `NewVMIDMapping` by `Delete` and such
  `Set`s is consistent.
-/

namespace Cosmos

/-- `VMIDMapping`. -/
structure VMIDMapping where
  nameToID : GoMap GoString Int
  idToName : GoMap Int GoString

namespace VMIDMapping

/-- `NewVMIDMapping`. -/
def newVMIDMapping : VMIDMapping := ⟨∅, ∅⟩

variable (v : VMIDMapping)

/-- `Set`: write both directions. -/
def set (name : GoString) (vmid : Int) : VMIDMapping :=
  ⟨v.nameToID.insert name vmid, v.idToName.insert vmid name⟩

/-- `GetByName`. -/
def getByName (name : GoString) : Int × Bool :=
  match v.nameToID.lookup name with
  | some x => (x, true)
  | none => (0, false)

/-- `GetByID`. -/
def getByID (vmid : Int) : GoString × Bool :=
  match v.idToName.lookup vmid with
  | some n => (n, true)
  | none => (.lit "", false)

/-- `Delete`: drop the name `idToName` records for `vmid`, then `vmid`. -/
def delete (vmid : Int) : VMIDMapping :=
  match v.idToName.lookup vmid with
  | some name => ⟨v.nameToID.erase name, v.idToName.erase vmid⟩
  | none => ⟨v.nameToID, v.idToName.erase vmid⟩

/-- The two directions are inverse to each other. -/
def Consistent : Prop := ∀ n x, v.getByName n = (x, true) ↔ v.getByID x = (n, true)

variable {v}

@[simp] theorem getByName_eq_found {n : GoString} {x : Int} :
    v.getByName n = (x, true) ↔ v.nameToID.lookup n = some x := by
  unfold getByName; split <;> simp_all

@[simp] theorem getByID_eq_found {x : Int} {n : GoString} :
    v.getByID x = (n, true) ↔ v.idToName.lookup x = some n := by
  unfold getByID; split <;> simp_all

@[simp] theorem getByName_found_eq_false {n : GoString} :
    (v.getByName n).2 = false ↔ v.nameToID.lookup n = none := by
  unfold getByName; split <;> simp_all

@[simp] theorem getByID_found_eq_false {x : Int} :
    (v.getByID x).2 = false ↔ v.idToName.lookup x = none := by
  unfold getByID; split <;> simp_all

theorem consistent_iff :
    v.Consistent ↔ ∀ n x, v.nameToID.lookup n = some x ↔ v.idToName.lookup x = some n := by
  simp only [Consistent, getByName_eq_found, getByID_eq_found]

theorem consistent_newVMIDMapping : newVMIDMapping.Consistent :=
  consistent_iff.mpr fun _ _ => by simp [newVMIDMapping]

theorem lookup_set_nameToID (n n' : GoString) (x : Int) :
    (v.set n x).nameToID.lookup n' = if n' = n then some x else v.nameToID.lookup n' := by
  unfold set
  split_ifs with h
  · rw [h, Finmap.lookup_insert]
  · exact Finmap.lookup_insert_of_ne _ h

theorem lookup_set_idToName (n : GoString) (x x' : Int) :
    (v.set n x).idToName.lookup x' = if x' = x then some n else v.idToName.lookup x' := by
  unfold set
  split_ifs with h
  · rw [h, Finmap.lookup_insert]
  · exact Finmap.lookup_insert_of_ne _ h

/-- **`Set` keeps the mapping consistent exactly when its name and VMID are both free or
already paired with each other.** -/
theorem Consistent.set_iff (h : v.Consistent) (n : GoString) (x : Int) :
    (v.set n x).Consistent ↔
      ((v.getByName n).2 = false ∧ (v.getByID x).2 = false) ∨ v.getByName n = (x, true) := by
  rw [consistent_iff] at h ⊢
  simp only [getByName_found_eq_false, getByID_found_eq_false, getByName_eq_found,
    lookup_set_nameToID, lookup_set_idToName]
  constructor
  · intro h'
    rcases hn : v.nameToID.lookup n with _ | y
    · refine .inl ⟨rfl, ?_⟩
      rcases hx : v.idToName.lookup x with _ | m
      · rfl
      · -- the old name `m` of `x` still points at `x`, whose name is now `n`
        have hmx := (h m x).mpr hx
        have hmn : m ≠ n := fun e => by rw [e, hn] at hmx; cases hmx
        have := (h' m x).mp (by rw [if_neg hmn, hmx])
        rw [if_pos rfl] at this
        exact absurd (Option.some.inj this).symm hmn
    · by_cases hyx : y = x
      · exact .inr (by rw [hyx])
      · -- the old VMID `y` of `n` still points at `n`, whose VMID is now `x`
        have := (h' n y).mpr (by rw [if_neg hyx]; exact (h n y).mp hn)
        rw [if_pos rfl] at this
        exact absurd (Option.some.inj this).symm hyx
  · intro hfree n' x'
    have hn : ∀ y, v.nameToID.lookup n = some y → y = x := fun y hy => by
      rcases hfree with ⟨hn, -⟩ | hp
      · rw [hn] at hy; cases hy
      · rw [hp] at hy; exact (Option.some.inj hy).symm
    have hx : ∀ m, v.idToName.lookup x = some m → m = n := fun m hm => by
      rcases hfree with ⟨-, hx⟩ | hp
      · rw [hx] at hm; cases hm
      · rw [(h n x).mp hp] at hm; exact (Option.some.inj hm).symm
    by_cases hn' : n' = n <;> by_cases hx' : x' = x
    · rw [if_pos hn', if_pos hx', hn', hx']; simp
    · rw [if_pos hn', if_neg hx', hn']
      exact ⟨fun e => absurd (Option.some.inj e).symm hx',
        fun e => absurd (hn x' ((h n x').mpr e)) hx'⟩
    · rw [if_neg hn', if_pos hx', hx']
      exact ⟨fun e => absurd (hx n' ((h n' x).mp e)) hn',
        fun e => absurd (Option.some.inj e).symm hn'⟩
    · rw [if_neg hn', if_neg hx']; exact h n' x'

/-- **`Delete` keeps the mapping consistent.** -/
theorem Consistent.delete (h : v.Consistent) (x : Int) : (v.delete x).Consistent := by
  rw [consistent_iff] at h ⊢
  intro n' x'
  unfold VMIDMapping.delete
  rcases hx : v.idToName.lookup x with _ | m
  · by_cases hx' : x' = x
    · subst hx'
      simp only [Finmap.lookup_erase, reduceCtorEq, iff_false, h, hx, not_false_eq_true]
    · simp only [Finmap.lookup_erase_ne hx', h]
  · have hm := (h m x).mpr hx
    by_cases hn' : n' = m
    · subst hn'
      simp only [Finmap.lookup_erase, reduceCtorEq, false_iff]
      by_cases hx' : x' = x
      · subst hx'; simp
      · rw [Finmap.lookup_erase_ne hx', ← h, hm]
        exact fun e => hx' (Option.some.inj e).symm
    · rw [Finmap.lookup_erase_ne hn']
      by_cases hx' : x' = x
      · subst hx'
        rw [Finmap.lookup_erase, h, hx]
        exact ⟨fun e => absurd (Option.some.inj e).symm hn', fun e => by cases e⟩
      · rw [Finmap.lookup_erase_ne hx', h]

/-- The mappings built from `NewVMIDMapping` by `Delete`s and by `Set`s whose name and VMID are
free or paired with each other. -/
inductive Registered : VMIDMapping → Prop
  | new : Registered newVMIDMapping
  | set {v : VMIDMapping} (n : GoString) (x : Int) : Registered v →
      ((v.getByName n).2 = false ∧ (v.getByID x).2 = false) ∨ v.getByName n = (x, true) →
      Registered (v.set n x)
  | delete {v : VMIDMapping} (x : Int) : Registered v → Registered (v.delete x)

/-- **Such a mapping is consistent.** -/
theorem Registered.consistent (h : Registered v) : v.Consistent := by
  induction h with
  | new => exact consistent_newVMIDMapping
  | set n x _ hfree ih => exact (ih.set_iff n x).mpr hfree
  | delete x _ ih => exact ih.delete x

/-- `Set("a", 1)` and `Set("b", 2)` write free names and VMIDs, so the mapping is consistent. -/
theorem registered_consistent_ab :
    Registered ((newVMIDMapping.set (.lit "a") 1).set (.lit "b") 2) ∧
      ((newVMIDMapping.set (.lit "a") 1).set (.lit "b") 2).Consistent :=
  have h : Registered ((newVMIDMapping.set (.lit "a") 1).set (.lit "b") 2) :=
    .set _ _ (.set _ _ .new (.inl ⟨rfl, rfl⟩)) (.inl ⟨by decide, by decide⟩)
  ⟨h, Registered.consistent h⟩

/-- Setting a name again leaves its old VMID pointing at it: after `Set("a", 1)` and
`Set("a", 2)`, `GetByID(1)` still answers `"a"` while `GetByName("a")` answers 2. A `Delete(2)`
then leaves `GetByID(1)` answering `"a"`, a name `GetByName` no longer knows. -/
theorem set_keeps_stale_vmid :
    ((newVMIDMapping.set (.lit "a") 1).set (.lit "a") 2).getByName (.lit "a") = (2, true) ∧
    ((newVMIDMapping.set (.lit "a") 1).set (.lit "a") 2).getByID 1 = (.lit "a", true) ∧
    (((newVMIDMapping.set (.lit "a") 1).set (.lit "a") 2).delete 2).getByID 1 = (.lit "a", true) ∧
    (((newVMIDMapping.set (.lit "a") 1).set (.lit "a") 2).delete 2).getByName (.lit "a") =
      (0, false) := by
  decide

end VMIDMapping

end Cosmos

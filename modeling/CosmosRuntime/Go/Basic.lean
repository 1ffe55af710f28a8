import Mathlib.Data.Rat.Defs
import Mathlib.Tactic.Ring

/-!
# Go values the runtime works with

The Proxmox runtime is written in Go. This module fixes how its basic values are modelled.

* `GoString`: a Go `string` is a sequence of bytes that need not be valid UTF-8; `GoString.lit`
  is the byte sequence of a string literal of the source.
* Go's `int` is 64 bits wide: `minInt`, `maxInt`, `InIntRange`, and `wrapInt` for an addition
  that can overflow.
* `strconv`: `decimal`, `itoa` (which `%d` agrees with) and `parseInt` (`Atoi`, and
  `ParseInt(s, 10, 64)`); **`parseInt_itoa`**: every `int` survives printing and parsing.
* `toGoInt`: the conversion `int(f)` of a `float64`.
* `Outcome`, `GoM`: a call returns, returns an error or panics, and every write it made before
  it ended stays.
* `GoM.Keeps`: a call leaves part of the state alone; `GoM.PanicsOnly`: a call panics only with
  the messages a predicate on part of the start state allows. Both compose along `bind`.
-/

namespace Cosmos

/-- A Go `string`: its bytes, which need not be valid UTF-8. -/
abbrev GoString := List (Fin 256)

/-- The bytes of a string literal of the source (Go source text is UTF-8). -/
def GoString.lit (s : String) : GoString :=
  s.toUTF8.data.toList.map fun b => ⟨b.toNat, b.toBitVec.isLt⟩

/-! ## Go's 64-bit `int` -/

/-- The least value of Go's `int`. -/
def minInt : Int := -2 ^ 63

/-- The greatest value of Go's `int`. -/
def maxInt : Int := 2 ^ 63 - 1

/-- `n` is a value of Go's `int`. -/
def InIntRange (n : Int) : Prop := minInt ≤ n ∧ n ≤ maxInt

instance (n : Int) : Decidable (InIntRange n) := inferInstanceAs (Decidable (_ ∧ _))

/-- The result of an `int` addition: the exact sum, wrapped to 64 bits. -/
def wrapInt (n : Int) : Int := Int.bmod n (2 ^ 64)

theorem wrapInt_of_inIntRange {n : Int} (h : InIntRange n) : wrapInt n = n := by
  obtain ⟨h₁, h₂⟩ := h
  simp only [minInt, maxInt] at h₁ h₂
  simp only [wrapInt, Int.bmod]
  split <;> omega

/-! ## `strconv` -/

/-- The ASCII byte of the decimal digit `d % 10`. -/
def digitByte (d : Nat) : Fin 256 := ⟨48 + d % 10, by omega⟩

/-- `formatBits` of `strconv` for a natural number: its decimal digits, most significant first,
in front of `acc`, written from the last; `fuel` bounds the digits written. -/
def decimalAux : Nat → Nat → GoString → GoString
  | 0, _, acc => acc
  | fuel + 1, n, acc =>
    if n < 10 then digitByte n :: acc else decimalAux fuel (n / 10) (digitByte (n % 10) :: acc)

/-- The decimal digits of `n`, most significant first. -/
def decimal (n : Nat) : GoString := decimalAux (n + 1) n []

/-- `strconv.Itoa`, which `fmt`'s `%d` agrees with. -/
def itoa (n : Int) : GoString :=
  if n < 0 then GoString.lit "-" ++ decimal n.natAbs else decimal n.natAbs

/-- The value of a byte read as a decimal digit. -/
def digitVal? (c : Fin 256) : Option Nat :=
  if 48 ≤ c.val ∧ c.val ≤ 57 then some (c.val - 48) else none

/-- The digits of `s` appended to the decimal number `n`, or `none` at a byte that is not a
digit. -/
def digitsValue : GoString → Nat → Option Nat
  | [], n => some n
  | c :: s, n => (digitVal? c).bind fun d => digitsValue s (n * 10 + d)

/-- `ParseUint(s, 10, 64)` before its range check: a non-empty string of decimal digits. -/
def parseDigits (s : GoString) : Option Nat :=
  if s = [] then none else digitsValue s 0

/-- `strconv.Atoi`, and `strconv.ParseInt(s, 10, 64)`: an optional sign, then decimal digits,
with a value that fits in an `int`. -/
def parseInt : GoString → Option Int
  | [] => none
  | c :: s =>
    if c = 45 then (parseDigits s).bind fun n => if n ≤ 2 ^ 63 then some (-n) else none
    else if c = 43 then (parseDigits s).bind fun n => if n < 2 ^ 63 then some n else none
    else (parseDigits (c :: s)).bind fun n => if n < 2 ^ 63 then some n else none

theorem decimalAux_append (fuel n : Nat) (acc : GoString) :
    decimalAux fuel n acc = decimalAux fuel n [] ++ acc := by
  induction fuel generalizing n acc with
  | zero => rfl
  | succ fuel ih =>
    simp only [decimalAux]
    split
    · rfl
    · rw [ih, ih (n / 10) [_]]
      simp

theorem decimalAux_fuel {f g n : Nat} (hf : n < f) (hg : n < g) :
    decimalAux f n [] = decimalAux g n [] := by
  induction f generalizing g n with
  | zero => omega
  | succ f ih =>
    obtain ⟨g, rfl⟩ : ∃ g', g = g' + 1 := ⟨g - 1, by omega⟩
    simp only [decimalAux]
    split
    · rfl
    · rw [decimalAux_append, decimalAux_append g, ih (g := g) (n := n / 10) (by omega) (by omega)]

theorem decimal_eq (n : Nat) :
    decimal n = if n < 10 then [digitByte n] else decimal (n / 10) ++ [digitByte (n % 10)] := by
  unfold decimal
  split
  · simp [decimalAux, *]
  · rw [decimalAux, if_neg ‹_›, decimalAux_append,
      decimalAux_fuel (g := n / 10 + 1) (by omega) (by omega)]

theorem digitVal_digitByte (d : Nat) : digitVal? (digitByte d) = some (d % 10) := by
  simp only [digitVal?, digitByte]
  rw [if_pos (by omega)]
  congr 1
  omega

theorem digitsValue_append (s t : GoString) (n : Nat) :
    digitsValue (s ++ t) n = (digitsValue s n).bind (digitsValue t) := by
  induction s generalizing n with
  | nil => rfl
  | cons c s ih =>
    simp only [List.cons_append, digitsValue]
    cases digitVal? c <;> simp [ih]

theorem digitsValue_decimal (n m : Nat) :
    digitsValue (decimal n) m = some (m * 10 ^ (decimal n).length + n) := by
  induction n using Nat.strong_induction_on generalizing m with
  | _ n ih =>
    rw [decimal_eq]
    split
    · simp [digitsValue, digitVal_digitByte, Nat.mod_eq_of_lt ‹n < 10›]
    · rw [digitsValue_append, ih _ (by omega)]
      simp only [Option.some_bind, digitsValue, digitVal_digitByte, Nat.mod_mod, List.length_append,
        List.length_singleton, pow_succ]
      congr 1
      calc (m * 10 ^ (decimal (n / 10)).length + n / 10) * 10 + n % 10
          = m * (10 ^ (decimal (n / 10)).length * 10) + (10 * (n / 10) + n % 10) := by ring
        _ = m * (10 ^ (decimal (n / 10)).length * 10) + n := by rw [Nat.div_add_mod]

theorem decimal_ne_nil (n : Nat) : decimal n ≠ [] := by
  rw [decimal_eq]
  split <;> simp

theorem parseDigits_decimal (n : Nat) : parseDigits (decimal n) = some n := by
  simp [parseDigits, decimal_ne_nil, digitsValue_decimal]

theorem decimal_injective : Function.Injective decimal := fun a b h => by
  simpa [parseDigits_decimal] using congrArg parseDigits h

theorem decimal_head (n : Nat) : ∃ d t, decimal n = digitByte d :: t := by
  induction n using Nat.strong_induction_on with
  | _ n ih =>
    rw [decimal_eq]
    split
    · exact ⟨n, [], rfl⟩
    · obtain ⟨d, t, h⟩ := ih (n / 10) (by omega)
      exact ⟨d, t ++ _, by rw [h]; rfl⟩

theorem digitByte_ne_minus (d : Nat) : digitByte d ≠ 45 := by
  simp only [digitByte, ne_eq, Fin.ext_iff]
  omega

theorem digitByte_ne_plus (d : Nat) : digitByte d ≠ 43 := by
  simp only [digitByte, ne_eq, Fin.ext_iff]
  omega

/-- **Every `int` survives `Itoa` then `Atoi`.** -/
theorem parseInt_itoa {n : Int} (h : InIntRange n) : parseInt (itoa n) = some n := by
  obtain ⟨h₁, h₂⟩ := h
  simp only [minInt, maxInt] at h₁ h₂
  unfold itoa
  split
  · simp only [GoString.lit, List.singleton_append]
    have hlit : ("-".toUTF8.data.toList.map fun b => (⟨b.toNat, b.toBitVec.isLt⟩ : Fin 256)) =
        [45] := by decide
    rw [hlit, List.singleton_append, parseInt, if_pos rfl, parseDigits_decimal, Option.some_bind,
      if_pos (by omega)]
    congr 1
    omega
  · obtain ⟨d, t, hd⟩ := decimal_head n.natAbs
    rw [hd, parseInt, if_neg (digitByte_ne_minus d), if_neg (digitByte_ne_plus d), ← hd,
      parseDigits_decimal, Option.some_bind, if_pos (by omega)]
    congr 1
    omega

theorem itoa_injective : Function.Injective itoa := fun a b h => by
  have key : ∀ m : Int, itoa m = if m < 0 then 45 :: decimal m.natAbs else decimal m.natAbs := by
    intro m; rfl
  rw [key, key] at h
  split at h <;> split at h
  · have := decimal_injective (List.cons.inj h).2
    omega
  · obtain ⟨d, t, hd⟩ := decimal_head b.natAbs
    rw [hd] at h
    exact absurd (List.cons.inj h).1 (digitByte_ne_minus d).symm
  · obtain ⟨d, t, hd⟩ := decimal_head a.natAbs
    rw [hd] at h
    exact absurd (List.cons.inj h).1 (digitByte_ne_minus d)
  · have := decimal_injective h
    omega

/-! ## Conversions from `float64` -/

/-- `int(f)` of a `float64` `f`: truncation toward zero. Go leaves the result
implementation-defined when it does not fit in an `int`; the model gives `minInt`, as amd64
does. -/
def toGoInt (q : ℚ) : Int :=
  let t := q.num.tdiv q.den
  if InIntRange t then t else minInt

theorem toGoInt_intCast {n : Int} (h : InIntRange n) : toGoInt n = n := by
  simp [toGoInt, h]

theorem toGoInt_inIntRange (q : ℚ) : InIntRange (toGoInt q) := by
  simp only [toGoInt]
  split
  · assumption
  · exact ⟨le_refl _, by decide⟩

theorem ne_of_toGoInt_lt {q : ℚ} {n : Int} (hn : InIntRange n) (h : toGoInt q < n) :
    (n : ℚ) ≠ q := by
  rintro rfl
  rw [toGoInt_intCast hn] at h
  exact lt_irrefl n h

/-! ## Calls -/

/-- How a Go call ends: it returns, it returns a non-nil `error` (kept as its `Error()` text),
or it panics. -/
inductive Outcome (α : Type) where
  | ok (a : α)
  | error (e : GoString)
  | panic (why : GoString)
  deriving DecidableEq, Repr

/-- A Go computation on a state `σ`. Go has no rollback: every write made before the call
returned, failed or panicked stays in the state it ends in. -/
def GoM (σ α : Type) : Type := σ → Outcome α × σ

namespace GoM

variable {σ α β : Type}

/-- Sequencing: an error or a panic ends the rest of the computation, as `return ..., err`
and unwinding do. -/
protected def bind (x : GoM σ α) (f : α → GoM σ β) : GoM σ β := fun s =>
  match x s with
  | (.ok a, s') => f a s'
  | (.error e, s') => (.error e, s')
  | (.panic m, s') => (.panic m, s')

instance : Monad (GoM σ) where
  pure a s := (.ok a, s)
  bind := GoM.bind

/-- Return the error `e`. -/
def fail (e : GoString) : GoM σ α := fun s => (.error e, s)

/-- Panic. -/
def crash (why : GoString) : GoM σ α := fun s => (.panic why, s)

/-- Read the state. -/
def gets (f : σ → α) : GoM σ α := fun s => (.ok (f s), s)

/-- Write the state. -/
def modify (f : σ → σ) : GoM σ Unit := fun s => (.ok (), f s)

/-- Run `x` and keep its error as a value, as code that inspects `err` does; a panic still
unwinds. -/
def attempt (x : GoM σ α) : GoM σ (Except GoString α) := fun s =>
  match x s with
  | (.ok a, s') => (.ok (.ok a), s')
  | (.error e, s') => (.ok (.error e), s')
  | (.panic m, s') => (.panic m, s')

/-- `fmt.Errorf(pre + "%w", err)`: put `pre` in front of the error of `x`. -/
def wrap (pre : GoString) (x : GoM σ α) : GoM σ α := fun s =>
  match x s with
  | (.error e, s') => (.error (pre ++ e), s')
  | r => r

@[simp] theorem pure_apply (a : α) (s : σ) : (pure a : GoM σ α) s = (.ok a, s) := rfl

@[simp] theorem fail_apply (e : GoString) (s : σ) : (fail e : GoM σ α) s = (.error e, s) := rfl

@[simp] theorem crash_apply (m : GoString) (s : σ) : (crash m : GoM σ α) s = (.panic m, s) := rfl

@[simp] theorem gets_apply (f : σ → α) (s : σ) : gets f s = (.ok (f s), s) := rfl

@[simp] theorem modify_apply (f : σ → σ) (s : σ) : modify f s = (.ok (), f s) := rfl

theorem bind_apply (x : GoM σ α) (f : α → GoM σ β) (s : σ) :
    (x >>= f) s = GoM.bind x f s := rfl

theorem bind_ok {x : GoM σ α} {s s' : σ} {a : α} (h : x s = (.ok a, s'))
    (f : α → GoM σ β) : (x >>= f) s = f a s' := by
  simp [bind_apply, GoM.bind, h]

theorem bind_error {x : GoM σ α} {s s' : σ} {e : GoString} (h : x s = (.error e, s'))
    (f : α → GoM σ β) : (x >>= f) s = (.error e, s') := by
  simp [bind_apply, GoM.bind, h]

theorem bind_panic {x : GoM σ α} {s s' : σ} {m : GoString} (h : x s = (.panic m, s'))
    (f : α → GoM σ β) : (x >>= f) s = (.panic m, s') := by
  simp [bind_apply, GoM.bind, h]

section Outcomes

variable {x : GoM σ α} {s s' : σ}

theorem attempt_ok {a : α} (h : x s = (.ok a, s')) : attempt x s = (.ok (.ok a), s') := by
  simp [attempt, h]

theorem attempt_error {e : GoString} (h : x s = (.error e, s')) :
    attempt x s = (.ok (.error e), s') := by
  simp [attempt, h]

theorem attempt_panic {m : GoString} (h : x s = (.panic m, s')) :
    attempt x s = (.panic m, s') := by
  simp [attempt, h]

theorem wrap_ok (pre : GoString) {a : α} (h : x s = (.ok a, s')) : wrap pre x s = (.ok a, s') := by
  simp [wrap, h]

theorem wrap_error (pre : GoString) {e : GoString} (h : x s = (.error e, s')) :
    wrap pre x s = (.error (pre ++ e), s') := by
  simp [wrap, h]

theorem wrap_panic (pre : GoString) {m : GoString} (h : x s = (.panic m, s')) :
    wrap pre x s = (.panic m, s') := by
  simp [wrap, h]

theorem bind_cases {f : α → GoM σ β} {r : Outcome β} {s'' : σ} (h : (x >>= f) s = (r, s'')) :
    (∃ a s', x s = (.ok a, s') ∧ f a s' = (r, s'')) ∨
      (∃ e, x s = (.error e, s'') ∧ r = .error e) ∨
      (∃ m, x s = (.panic m, s'') ∧ r = .panic m) := by
  rw [bind_apply, GoM.bind] at h
  rcases hx : x s with ⟨_ | _ | _, s'⟩ <;> rw [hx] at h
  · exact .inl ⟨_, _, rfl, h⟩
  · cases h; exact .inr (.inl ⟨_, rfl, rfl⟩)
  · cases h; exact .inr (.inr ⟨_, rfl, rfl⟩)

end Outcomes

/-! ## Frames -/

variable {β : Type}

/-- `x` leaves the part `f` of the state as it found it, however it ends. -/
def Keeps (f : σ → β) (x : GoM σ α) : Prop := ∀ s, f (x s).2 = f s

variable {f : σ → β}

theorem keeps_pure (a : α) : Keeps f (pure a : GoM σ α) := fun _ => rfl

theorem keeps_fail (e : GoString) : Keeps f (fail e : GoM σ α) := fun _ => rfl

theorem keeps_gets (g : σ → α) : Keeps f (gets g) := fun _ => rfl

theorem keeps_modify {g : σ → σ} (hg : ∀ s, f (g s) = f s) : Keeps f (modify g) := hg

theorem Keeps.map {γ : Type} {x : GoM σ α} (g : β → γ) (hx : Keeps f x) :
    Keeps (g ∘ f) x :=
  fun s => congrArg g (hx s)

theorem Keeps.bind {γ : Type} {x : GoM σ α} {g : α → GoM σ γ} (hx : Keeps f x)
    (hg : ∀ a, Keeps f (g a)) : Keeps f (x >>= g) := fun s => by
  rw [bind_apply, GoM.bind, ← hx s]
  rcases x s with ⟨_ | _ | _, s'⟩
  exacts [hg _ s', rfl, rfl]

theorem Keeps.attempt {x : GoM σ α} (hx : Keeps f x) : Keeps f (attempt x) := fun s => by
  rw [GoM.attempt, ← hx s]
  rcases x s with ⟨_ | _ | _, s'⟩ <;> rfl

theorem Keeps.wrap {x : GoM σ α} (hx : Keeps f x) (pre : GoString) : Keeps f (wrap pre x) :=
  fun s => by
    rw [GoM.wrap, ← hx s]
    rcases x s with ⟨_ | _ | _, s'⟩ <;> rfl

/-! ## Where a computation panics -/

/-- `x` panics only with a message that `R` allows for the part `f` of the state it started
from. -/
def PanicsOnly (f : σ → β) (R : β → GoString → Prop) (x : GoM σ α) : Prop :=
  ∀ s m, (x s).1 = .panic m → R (f s) m

variable {R R' : β → GoString → Prop}

theorem panicsOnly_pure (a : α) : PanicsOnly f R (pure a : GoM σ α) := fun _ _ h => by cases h

theorem panicsOnly_fail (e : GoString) : PanicsOnly f R (fail e : GoM σ α) := fun _ _ h => by
  cases h

theorem panicsOnly_gets (g : σ → α) : PanicsOnly f R (gets g) := fun _ _ h => by cases h

theorem panicsOnly_modify (g : σ → σ) : PanicsOnly f R (modify g) := fun _ _ h => by cases h

theorem PanicsOnly.mono {x : GoM σ α} (hx : PanicsOnly f R x) (h : ∀ b m, R b m → R' b m) :
    PanicsOnly f R' x :=
  fun s m hm => h _ _ (hx s m hm)

theorem PanicsOnly.bind {γ : Type} {x : GoM σ α} {g : α → GoM σ γ} (hx : PanicsOnly f R x)
    (hk : Keeps f x) (hg : ∀ a, PanicsOnly f R (g a)) : PanicsOnly f R (x >>= g) := fun s m h => by
  rcases bind_cases (Prod.ext h rfl : (x >>= g) s = (.panic m, _)) with
    ⟨a, s', hxs, hgs⟩ | ⟨e, -, he⟩ | ⟨m', hxs, hm⟩
  · have hf : f s' = f s := by rw [← hk s, hxs]
    exact hf ▸ hg a s' m (by rw [hgs])
  · cases he
  · cases hm
    exact hx s m (by rw [hxs])

theorem PanicsOnly.attempt {x : GoM σ α} (hx : PanicsOnly f R x) :
    PanicsOnly f R (attempt x) := fun s m h => by
  unfold GoM.attempt at h
  rcases hxs : x s with ⟨_ | _ | _, s'⟩ <;> rw [hxs] at h <;> cases h
  exact hx s m (by rw [hxs])

theorem PanicsOnly.wrap {x : GoM σ α} (hx : PanicsOnly f R x) (pre : GoString) :
    PanicsOnly f R (wrap pre x) := fun s m h => by
  unfold GoM.wrap at h
  rcases hxs : x s with ⟨_ | _ | _, s'⟩ <;> rw [hxs] at h <;> cases h
  exact hx s m (by rw [hxs])

end GoM

end Cosmos

import CosmosRuntime.Go.Basic

/-!
# UTF-8 as `encoding/json` sees it

`json.Marshal` writes a Go string as a JSON string *coerced to valid UTF-8*: at every byte where
`utf8.DecodeRune` reports `RuneError` of size one, it writes U+FFFD instead. This is the one
place where encoding a label can change it.

* `leadRange`, `runeLen`: the sizes `utf8.DecodeRune` decodes, from the `first` and
  `acceptRanges` tables of package `unicode/utf8`;
* `validString`: `utf8.ValidString`;
* `jsonString`: the string the encoder writes for a Go string, byte by byte as
  `encodeState.string` walks it;
* **`jsonString_of_validString`**: a valid string is written unchanged; an invalid byte such as
  `0xFF` becomes U+FFFD.
-/

namespace Cosmos

/-- For the lead byte of a multi-byte rune: the rune's length, and the range its second byte
must lie in (`first` and `acceptRanges` of `unicode/utf8`). -/
def leadRange (b : Fin 256) : Option (Nat × Nat × Nat) :=
  if b.val < 0xC2 then none
  else if b.val ≤ 0xDF then some (2, 0x80, 0xBF)
  else if b.val = 0xE0 then some (3, 0xA0, 0xBF)
  else if b.val ≤ 0xEC then some (3, 0x80, 0xBF)
  else if b.val = 0xED then some (3, 0x80, 0x9F)
  else if b.val ≤ 0xEF then some (3, 0x80, 0xBF)
  else if b.val = 0xF0 then some (4, 0x90, 0xBF)
  else if b.val ≤ 0xF3 then some (4, 0x80, 0xBF)
  else if b.val = 0xF4 then some (4, 0x80, 0x8F)
  else none

/-- A continuation byte, `0x80` to `0xBF`. -/
def isCont (b : Fin 256) : Bool := 0x80 ≤ b.val && b.val ≤ 0xBF

/-- The size of the rune `utf8.DecodeRune` decodes at the head of `s`, or `none` where it
returns `RuneError` of size one (or `s` is empty). -/
def runeLen : GoString → Option Nat
  | [] => none
  | b :: t =>
    if b.val < 0x80 then some 1
    else match leadRange b, t with
      | some (2, lo, hi), b₁ :: _ => if lo ≤ b₁.val ∧ b₁.val ≤ hi then some 2 else none
      | some (3, lo, hi), b₁ :: b₂ :: _ =>
        if lo ≤ b₁.val ∧ b₁.val ≤ hi ∧ isCont b₂ then some 3 else none
      | some (4, lo, hi), b₁ :: b₂ :: b₃ :: _ =>
        if lo ≤ b₁.val ∧ b₁.val ≤ hi ∧ isCont b₂ ∧ isCont b₃ then some 4 else none
      | _, _ => none

/-- `utf8.ValidString`, read byte by byte: `k` bytes of the current rune remain to be read. -/
def validFrom : Nat → GoString → Bool
  | k, [] => k == 0
  | k + 1, _ :: t => validFrom k t
  | 0, b :: t =>
    match runeLen (b :: t) with
    | none => false
    | some n => validFrom (n - 1) t

/-- `utf8.ValidString`: `s` is a sequence of runes `utf8.DecodeRune` decodes. -/
def validString (s : GoString) : Bool := validFrom 0 s

/-- The bytes of U+FFFD, the replacement character. -/
def replacementChar : GoString := [0xEF, 0xBF, 0xBD]

/-- `encodeState.string` of `encoding/json`, byte by byte: `k` bytes of a decoded rune remain to
be copied; at a byte where decoding fails it writes U+FFFD and moves on by one byte. -/
def jsonStringFrom : Nat → GoString → GoString
  | _, [] => []
  | k + 1, b :: t => b :: jsonStringFrom k t
  | 0, b :: t =>
    match runeLen (b :: t) with
    | none => replacementChar ++ jsonStringFrom 0 t
    | some n => b :: jsonStringFrom (n - 1) t

/-- The string `json.Marshal` writes for the Go string `s`. -/
def jsonString (s : GoString) : GoString := jsonStringFrom 0 s

theorem jsonStringFrom_of_validFrom {k : Nat} {s : GoString} (h : validFrom k s = true) :
    jsonStringFrom k s = s := by
  induction s generalizing k with
  | nil => cases k <;> rfl
  | cons b t ih =>
    cases k with
    | succ k => simp only [jsonStringFrom, ih (by simpa [validFrom] using h)]
    | zero =>
      simp only [validFrom] at h
      simp only [jsonStringFrom]
      split at h
      · cases h
      · rw [ih h]

/-- **`json.Marshal` writes a valid UTF-8 string unchanged.** -/
theorem jsonString_of_validString {s : GoString} (h : validString s = true) :
    jsonString s = s :=
  jsonStringFrom_of_validFrom h

example : jsonString [0xFF] = replacementChar := by decide

end Cosmos

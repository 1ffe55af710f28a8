import CosmosRuntime.Metadata.Store

/-!
# The metadata file

`Save` and `saveAsync` write the whole table to `containers.json` with `json.MarshalIndent`;
`Load` reads it back with `json.Unmarshal` into the table the store already holds. Two rules of
`encoding/json` decide what `Load` leaves: unmarshalling into a non-nil map keeps the entries
the document lacks, and a member of the wrong type is skipped with an error while the members
around it are still written.

* `marshalLabels`, `marshalRecord`, `marshalTable`: the document `MarshalIndent` writes;
* `decodeLabel`, `decodeLabels`, `decodeRecord`, `decodeTable`, `TableWrite`: what `Unmarshal`
  writes into the table, and the first error it met;
* `Content`, `Disk`, and `MetadataStore.load`, `save`, `saveAsync`;
* **`decodeTable_marshalTable`**: a table whose vmids are ints and whose labels are valid UTF-8
  is decoded back into its own entries, with no error.
-/

namespace Cosmos

/-! ## Encoding -/

/-- The value `json.Marshal` writes for a label map: the keys in increasing byte order, every
string coerced to valid UTF-8. -/
def marshalLabels (l : Labels) : JsonValue :=
  .object (l.sortedEntries.map fun e => (jsonString e.1, .string (jsonString e.2)))

/-- The value written for a record; a nil map is `null`. -/
def marshalRecord : Option Labels → JsonValue
  | none => .null
  | some l => marshalLabels l

/-- The order `MarshalIndent` writes the entries of a table in: by the vmid as a string. -/
def jsonOrder (t : Table) : List (Int × Option Labels) :=
  t.sortedEntries.insertionSort fun a b => itoa a.1 ≤ itoa b.1

/-- `json.MarshalIndent(m.data, "", "  ")`: the vmids written by `strconv.FormatInt` and sorted
as strings. -/
def marshalTable : Option Table → JsonValue
  | none => .null
  | some t => .object ((jsonOrder t).map fun e => (itoa e.1, marshalRecord e.2))

/-! ## Decoding -/

/-- The first of the errors met, in order (`decodeState.saveError` keeps only that one). -/
def firstError (es : List (Option GoString)) : Option GoString := (es.filterMap id).head?

/-- `json.Unmarshal` of a member into a `string` element: a string is kept, `null` leaves `""`,
and any other value leaves `""` with an error. -/
def decodeLabel : JsonValue → GoString × Option GoString
  | .string s => (s, none)
  | .null => ([], none)
  | v => ([], some (unmarshalTypeError v.kind (.lit "string")))

/-- The members of an object unmarshalled into a new `map[string]string`, in order. -/
def decodeLabels (ms : List (GoString × JsonValue)) : Labels × Option GoString :=
  (GoMap.insertAll (ms.map fun e => (e.1, (decodeLabel e.2).1)) ∅,
    firstError (ms.map fun e => (decodeLabel e.2).2))

/-- `json.Unmarshal` of a member into a `map[string]string` element, which starts nil. -/
def decodeRecord : JsonValue → Option Labels × Option GoString
  | .null => (none, none)
  | .object ms => ((decodeLabels ms).1, (decodeLabels ms).2)
  | v => (none, some (unmarshalTypeError v.kind (.lit "map[string]string")))

/-- What `json.Unmarshal` does to a `map[int]map[string]string` variable. -/
inductive TableWrite where
  /-- Leave it as it is. -/
  | keep
  /-- Set it to nil. -/
  | setNil
  /-- Make it if it is nil, then write these entries into it, in order. -/
  | write (es : List (Int × Option Labels))

/-- `json.Unmarshal(data, &m.data)` for a document `v`: what it writes, and its first error. A
member's value is decoded before its key is parsed with `strconv.ParseInt(key, 10, 64)`; a
member whose key does not parse is skipped. -/
def decodeTable : JsonValue → TableWrite × Option GoString
  | .null => (.setNil, none)
  | .object ms =>
    (.write (ms.filterMap fun e => (parseInt e.1).map fun k => (k, (decodeRecord e.2).1)),
      firstError (ms.flatMap fun e =>
        [(decodeRecord e.2).2,
          if (parseInt e.1).isSome then none
          else some (unmarshalTypeError (.lit "number " ++ e.1) (.lit "int"))]))
  | v => (.keep, some (unmarshalTypeError v.kind (.lit "map[int]map[string]string")))

/-- The record a decoded element becomes: a map the decoder made, or nil. -/
def Record.ofValue : Option Labels → Record
  | none => .nil
  | some l => .own l

/-- The table after a `TableWrite`. -/
def TableWrite.apply : TableWrite → Option (GoMap Int Record) → Option (GoMap Int Record)
  | .keep, d => d
  | .setNil, _ => none
  | .write es, d => some (GoMap.insertAll (es.map fun e => (e.1, Record.ofValue e.2)) (d.getD ∅))

/-! ## The file and the operations on it -/

/-- The content of `containers.json`: a text that is not JSON, with the decoder's syntax error,
or a JSON text, by the value it denotes. -/
inductive Content where
  | malformed (err : GoString)
  | json (v : JsonValue)

/-- The store's directory: `containers.json` if it exists, and the error every file operation
returns when the directory cannot be used. -/
structure Disk where
  file : Option Content
  fault : Option GoString

namespace MetadataStore

variable (m : MetadataStore) (h : Heap)

/-- The store `New` makes: an empty table and no flush running. -/
def empty : MetadataStore := ⟨some ∅, 0⟩

/-- `Load`: a missing file gives a new empty table; otherwise the document is unmarshalled into
the table the store holds. -/
def load (d : Disk) : Outcome Unit × MetadataStore :=
  match d.fault, d.file with
  | some e, _ => (.error e, m)
  | none, none => (.ok (), { m with data := some ∅ })
  | none, some (.malformed e) => (.error e, m)
  | none, some (.json v) =>
    ((match (decodeTable v).2 with
      | none => .ok ()
      | some e => .error e), { m with data := (decodeTable v).1.apply m.data })

@[simp] theorem pending_load (d : Disk) : (m.load d).2.pending = m.pending := by
  unfold load
  split <;> rfl

/-- `Save`: the document for the table, written over the file. -/
def save (d : Disk) : Outcome Unit × Disk :=
  match d.fault with
  | some e => (.error e, d)
  | none => (.ok (), { d with file := some (.json (marshalTable (m.view h))) })

/-- `saveAsync`, when a started flush runs: it writes the table as it is now, and a failed
write is dropped. -/
def saveAsync (d : Disk) : MetadataStore × Disk :=
  ({ m with pending := m.pending - 1 },
    match d.fault with
    | some _ => d
    | none => { d with file := some (.json (marshalTable (m.view h))) })

end MetadataStore

/-! ## Writing then reading -/

/-- Every key and value of a label map is valid UTF-8. -/
def LabelsValid (l : Labels) : Prop :=
  ∀ k v, l.lookup k = some v → validString k = true ∧ validString v = true

/-- The tables the encoder writes back unchanged: every vmid is an `int`, every label valid
UTF-8. -/
def TableValid (t : Table) : Prop :=
  ∀ k r, t.lookup k = some r → InIntRange k ∧ ∀ l, r = some l → LabelsValid l

theorem labelsValid_iff {l : Labels} :
    LabelsValid l ↔
      ∀ e ∈ l.sortedEntries, validString e.1 = true ∧ validString e.2 = true :=
  ⟨fun h e he => h e.1 e.2 (GoMap.mem_sortedEntries.mp he),
    fun h k v hkv => h (k, v) (GoMap.mem_sortedEntries.mpr hkv)⟩

instance : DecidablePred LabelsValid := fun _ => decidable_of_iff _ labelsValid_iff.symm

theorem tableValid_iff {t : Table} :
    TableValid t ↔ ∀ e ∈ t.sortedEntries, InIntRange e.1 ∧ ∀ l ∈ e.2, LabelsValid l :=
  ⟨fun h e he => h e.1 e.2 (GoMap.mem_sortedEntries.mp he),
    fun h k r hkr => h (k, r) (GoMap.mem_sortedEntries.mpr hkr)⟩

instance : DecidablePred TableValid := fun _ => decidable_of_iff _ tableValid_iff.symm

theorem firstError_none {α : Type} (l : List α) : firstError (l.map fun _ => none) = none := by
  simp [firstError]

theorem decodeLabels_marshal {l : Labels} (hl : LabelsValid l) :
    decodeLabels (l.sortedEntries.map fun e => (jsonString e.1, .string (jsonString e.2))) =
      (l, none) := by
  have hmem : ∀ e ∈ l.sortedEntries, jsonString e.1 = e.1 ∧ jsonString e.2 = e.2 :=
    fun e he =>
    (hl e.1 e.2 (GoMap.mem_sortedEntries.mp he)).imp jsonString_of_validString
      jsonString_of_validString
  simp only [decodeLabels, List.map_map, Function.comp_def, decodeLabel, firstError_none]
  congr
  rw [List.map_congr_left fun e he => by rw [(hmem e he).1, (hmem e he).2],
    List.map_id'' fun _ => rfl]
  exact GoMap.insertAll_of_perm (List.Perm.refl _)

theorem decodeRecord_marshalRecord {r : Option Labels} (hr : ∀ l, r = some l → LabelsValid l) :
    decodeRecord (marshalRecord r) = (r, none) := by
  cases r with
  | none => rfl
  | some l => simp [marshalRecord, marshalLabels, decodeRecord, decodeLabels_marshal (hr l rfl)]

theorem view_ofValue (h : Heap) (r : Option Labels) : (Record.ofValue r).view h = r := by
  cases r <;> rfl

theorem jsonOrder_perm (t : Table) : (jsonOrder t).Perm t.sortedEntries :=
  List.perm_insertionSort _ _

/-- **What `Unmarshal` makes of the document `MarshalIndent` wrote** for a table whose vmids are
ints and whose labels are valid UTF-8: no error, and the table's own entries, in the order they
were written. -/
theorem decodeTable_marshalTable {t : Table} (ht : TableValid t) :
    decodeTable (marshalTable (some t)) = (.write (jsonOrder t), none) := by
  have hvalid : ∀ e ∈ jsonOrder t, InIntRange e.1 ∧ ∀ l, e.2 = some l → LabelsValid l :=
    fun e he => ht e.1 e.2 (GoMap.mem_sortedEntries.mp ((jsonOrder_perm t).mem_iff.mp he))
  have hkey : ∀ e ∈ jsonOrder t, parseInt (itoa e.1) = some e.1 := fun e he =>
    parseInt_itoa (hvalid e he).1
  have hrec : ∀ e ∈ jsonOrder t, decodeRecord (marshalRecord e.2) = (e.2, none) := fun e he =>
    decodeRecord_marshalRecord (hvalid e he).2
  simp only [marshalTable, decodeTable, List.filterMap_map, List.flatMap_map]
  congr 1
  · rw [List.filterMap_congr (g := fun e => some e) fun e he => by
      simp [Function.comp_def, hkey e he, hrec e he], List.filterMap_some]
  · rw [List.flatMap_congr fun e he => by rw [hkey e he, hrec e he]]
    simp [firstError]

end Cosmos

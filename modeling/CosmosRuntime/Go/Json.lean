import CosmosRuntime.Go.UTF8
import CosmosRuntime.Go.Map

/-!
# JSON values

`encoding/json` turns JSON text into Go values and back. The runtime meets JSON twice: in the
replies of the Proxmox API, decoded into `interface{}`, and in the metadata file, decoded into
`map[int]map[string]string`. The model works with the JSON *value* a text denotes and leaves the
characters of the text to the library; an object keeps the order and the repeated keys of its
text, which decide what a decoder keeps.

* `JsonValue`, `JsonValue.kind`;
* `JsonValue.asMap`: an object decoded into `map[string]interface{}`, a later member replacing an
  earlier one with the same key;
* `unmarshalTypeError`: the text of a `*json.UnmarshalTypeError`.
-/

namespace Cosmos

/-- A JSON value. A number is kept as the exact value of the `float64` the decoder makes of it. -/
inductive JsonValue where
  | null
  | bool (b : Bool)
  | number (x : ℚ)
  | string (s : GoString)
  | array (xs : List JsonValue)
  | object (members : List (GoString × JsonValue))
  deriving Inhabited

namespace JsonValue

/-- The name `encoding/json` gives to the kind of a value in its errors. -/
def kind : JsonValue → GoString
  | null => .lit "null"
  | bool _ => .lit "bool"
  | number _ => .lit "number"
  | string _ => .lit "string"
  | array _ => .lit "array"
  | object _ => .lit "object"

/-- `v.(map[string]interface{})`: an object as the map the decoder builds from it. -/
def asMap : JsonValue → Option (GoMap GoString JsonValue)
  | object ms => some (GoMap.insertAll ms ∅)
  | _ => none

end JsonValue

/-- The text of the `*json.UnmarshalTypeError` for a value described by `what` met where the Go
type named `type` is expected. -/
def unmarshalTypeError (what type : GoString) : GoString :=
  .lit "json: cannot unmarshal " ++ what ++ .lit " into Go value of type " ++ type

end Cosmos

import ExprSql.Json.Token

namespace ExprSql

inductive Json where
  | null
  | bool (b : Bool)
  | number (digits : List Char)
  | string (units : List Json.Unit16)
  | array (items : List Json)
  | object (entries : List (List Json.Unit16 × Json))

namespace Json

inductive Frame where
  | array (items : List Json)
  | object (entries : List (List Unit16 × Json)) (key : List Unit16)

inductive Want where
  | value
  | itemOrClose
  | key (entries : List (List Unit16 × Json))
  | keyOrClose
  | colon (entries : List (List Unit16 × Json)) (key : List Unit16)
  | separator
  | done (v : Json)

def deliver (v : Json) : List Frame → Want × List Frame
  | [] => (.done v, [])
  | .array items :: frames => (.separator, .array (v :: items) :: frames)
  | .object entries key :: frames => (.separator, .object ((key, v) :: entries) key :: frames)

def scalar? : Token → Option Json
  | .null => some .null
  | .bool b => some (.bool b)
  | .number digits => some (.number digits)
  | .string units => some (.string units)
  | _ => none

def value? (frames : List Frame) : Token → Option (Want × List Frame)
  | .opening .square => some (.itemOrClose, .array [] :: frames)
  | .opening .curly => some (.keyOrClose, frames)
  | t => (scalar? t).map fun v => deliver v frames

def take? (want : Want) (frames : List Frame) (t : Token) : Option (Want × List Frame) :=
  match want, frames, t with
  | .value, frames, t => value? frames t
  | .itemOrClose, .array _ :: frames, .closing .square => some (deliver (.array []) frames)
  | .itemOrClose, frames, t => value? frames t
  | .keyOrClose, frames, .closing .curly => some (deliver (.object []) frames)
  | .keyOrClose, frames, .string key => some (.colon [] key, frames)
  | .key entries, frames, .string key => some (.colon entries key, frames)
  | .colon entries key, frames, .colon => some (.value, .object entries key :: frames)
  | .separator, .array items :: frames, .comma => some (.value, .array items :: frames)
  | .separator, .array items :: frames, .closing .square =>
      some (deliver (.array items.reverse) frames)
  | .separator, .object entries _ :: frames, .comma => some (.key entries, frames)
  | .separator, .object entries _ :: frames, .closing .curly =>
      some (deliver (.object entries.reverse) frames)
  | _, _, _ => none

def ofText? (s : String) : Option Json := do
  let ts ← tokens? s
  match ← ts.foldlM (fun (want, frames) t => take? want frames t) (Want.value, []) with
  | (.done v, _) => some v
  | _ => none

end Json
end ExprSql

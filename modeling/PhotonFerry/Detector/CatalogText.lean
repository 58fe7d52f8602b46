import PhotonFerry.Detector.Catalog
import PhotonFerry.Json.Number
import PhotonFerry.Json.Reader
import PhotonFerry.Number.Word
/-!
# Catalog files

A catalog file is a JSON object with the names of the models and the list of
photomultipliers. A record may be written as an object, in which unknown members
are ignored and known ones may not be repeated, or as an array of its fields in
order, in which those at the end that have a default may be missing.
-/

namespace PhotonFerry.Catalog

open Json

/-- The unsigned number of a value, of the given number of bits. -/
def unsigned? (bits : Nat) (value : Value) : Option Nat := do
  let .number number := value | none
  match ← number.quantity? with
  | .unsigned value => if Word.isUnsigned bits value then some value else none
  | _ => none

/-- The signed number of a value, of the given number of bits. -/
def signed? (bits : Nat) (value : Value) : Option Int := do
  let .number number := value | none
  let integer : Int ←
    match ← number.quantity? with
    | .unsigned value => some value
    | .negative size => some (-size)
    | .real _ => none
  if Word.isSigned bits integer then some integer else none

/-- The double of a value. -/
def real? (value : Value) : Option Float := do
  let .number number := value | none
  match ← number.quantity? with
  | .unsigned value => some (Float.ofNat value)
  | .negative size => some (-(Float.ofNat size))
  | .real value => some value

/-- The text of a value. -/
def text? (value : Value) : Option String :=
  match value with
  | .string text => text
  | _ => none

/-- The items of a value. -/
def items? (value : Value) : Option (List Value) :=
  match value with
  | .array items => some items
  | _ => none

/-- What a record gives for each of its fields, in their order: the value where
there is one. -/
def fields? (names : List String) (value : Value) : Option (List (Option Value)) :=
  match value with
  | .array items =>
    if names.length < items.length then none
    else some ((List.range names.length).map fun place => items[place]?)
  | .object members =>
    if members.any fun (name, _) => name.isNone then none
    else
      names.mapM fun name =>
        match members.filter fun (other, _) => other = some name with
        | [] => some none
        | [(_, value)] => some (some value)
        | _ => none
  | _ => none

/-- The value of a field that must be there. -/
def required? {α : Type} (read : Value → Option α) (field : Option Value) : Option α :=
  field.bind read

/-- The value of a field that has a default. -/
def optional? {α : Type} (read : Value → Option α) (default : α) : Option Value → Option α
  | none => some default
  | some value => read value

/-- The point of a record. -/
def point? (value : Value) : Option (Point Float) := do
  match ← fields? ["x", "y", "z"] value with
  | [x, y, z] => some ⟨← required? real? x, ← required? real? y, ← required? real? z⟩
  | _ => none

/-- The photomultiplier of a record. -/
def entry? (value : Value) : Option Photomultiplier := do
  match ← fields? ["id", "position", "pmt_type", "model", "charge_scale"] value with
  | [id, position, kind, model, chargeScale] =>
    let id ← required? (unsigned? 32) id
    let position ← required? point? position
    let kind ← optional? (signed? 32) 0 kind
    let model ← optional? (unsigned? 64) 0 model
    let chargeScale ← optional? real? 1.0 chargeScale
    some {
      id := UInt32.ofNat id
      position := position
      kind := kind
      model := model
      chargeScale := chargeScale }
  | _ => none

/-- The models and the photomultipliers of a catalog file. -/
def contents? (text : String) : Option (List String × List Photomultiplier) := do
  let value ← Value.ofText? text
  match ← fields? ["models", "pmts"] value with
  | [models, entries] =>
    let models ← optional? (fun value => (items? value).bind (·.mapM text?)) [] models
    let entries ← required? (fun value => (items? value).bind (·.mapM entry?)) entries
    some (models, entries)
  | _ => none

/-- The catalog in the text of a file. -/
def ofText (text : String) : Except CatalogError Catalog :=
  match contents? text with
  | none => .error .unreadable
  | some (models, entries) => build models entries

end PhotonFerry.Catalog

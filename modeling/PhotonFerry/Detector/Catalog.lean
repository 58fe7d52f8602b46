import PhotonFerry.Disk.Basic
import PhotonFerry.Space.Point
/-!
# The detector catalog

A catalog lists the photomultipliers of the detector. Their ids run from 0
without gaps, in whatever order they are given, and each refers to a model that
the catalog names, if it names models at all.
-/

namespace PhotonFerry

/-- One photomultiplier. -/
structure Photomultiplier where
  id : UInt32
  position : Point Float
  kind : Int := 0
  /-- The place of its model among the catalog's models. -/
  model : Nat := 0
  /-- The factor on its charges. -/
  chargeScale : Float := 1.0
  deriving DecidableEq

/-- The photomultipliers of the detector, in the order of their ids. -/
structure Catalog where
  models : List String := []
  entries : Array Photomultiplier := #[]
  deriving DecidableEq

/-- Why there is no catalog. -/
inductive CatalogError where
  /-- The catalog's file cannot be read. -/
  | notRead (path : String) (reason : DiskError)
  /-- The catalog's text is not of its form. -/
  | unreadable
  /-- An id is repeated or missing. -/
  | gap (found : UInt32) (place : Nat)
  | unknownModel (id : UInt32) (model : Nat)
  deriving DecidableEq, Repr

/-- The report of an error. -/
def CatalogError.message : CatalogError → String
  | notRead path reason => s!"Failed to read PMT catalog {path}: {reason.message}"
  | unreadable => "Invalid PMT catalog: "
  | gap found place =>
    s!"PMT catalog ids must run from 0 without gaps (found {found.toNat} at position {place})"
  | unknownModel id model => s!"PMT {id.toNat} refers to unknown model {model}"

namespace Catalog

/-- Check that ids run from `place` on and that models exist. -/
def check (models : List String) (place : Nat) : List Photomultiplier → Except CatalogError Unit
  | [] => .ok ()
  | entry :: rest =>
    if entry.id.toNat ≠ place then .error (.gap entry.id place)
    else if !models.isEmpty && models.length ≤ entry.model then
      .error (.unknownModel entry.id entry.model)
    else check models (place + 1) rest

/-- The catalog of some photomultipliers in any order. -/
def build (models : List String) (entries : List Photomultiplier) : Except CatalogError Catalog :=
  let sorted := entries.mergeSort fun left right => left.id ≤ right.id
  match check models 0 sorted with
  | .ok () => .ok ⟨models, sorted.toArray⟩
  | .error reason => .error reason

/-- Entries that are in the order of their ids are built as they are. -/
theorem build_of_ascending {models : List String} {entries : List Photomultiplier}
    (ascending : entries.Pairwise fun left right => left.id ≤ right.id) :
    build models entries = (check models 0 entries).map fun _ => ⟨models, entries.toArray⟩ := by
  have sorted : entries.mergeSort (fun left right => left.id ≤ right.id) = entries :=
    List.mergeSort_of_pairwise (by simpa using ascending)
  rw [build, sorted]
  cases check models 0 entries <;> rfl

/-- The catalog with one model and photomultipliers at the given positions. -/
def ofPositions (positions : List (Point Float)) : Catalog where
  models := ["default"]
  entries := (positions.zipIdx.map fun (position, id) =>
    { id := UInt32.ofNat id, position, kind := 1 }).toArray

/-- The number of photomultipliers. -/
def size (catalog : Catalog) : Nat :=
  catalog.entries.size

/-- Whether there is no photomultiplier. -/
def isEmpty (catalog : Catalog) : Bool :=
  catalog.entries.isEmpty

/-- The photomultiplier with an id. -/
def find? (catalog : Catalog) (id : UInt32) : Option Photomultiplier :=
  catalog.entries[id.toNat]?

/-- The name of a model. -/
def modelName (catalog : Catalog) (model : Nat) : String :=
  catalog.models[model]?.getD "unknown"

/-- The positions in the order of the ids. -/
def positions (catalog : Catalog) : List (Point Float) :=
  catalog.entries.toList.map Photomultiplier.position

end Catalog

end PhotonFerry

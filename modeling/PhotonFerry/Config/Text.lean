import PhotonFerry.Config.Settings
import PhotonFerry.Number.Word
import PhotonFerry.Toml.Reader
/-!
# Configuration files

A configuration file is a TOML document with the sections `backend`, `replay` and
`logging`. What it does not set keeps its default, and what is unknown is ignored.
A section may also be written as an array of its settings in order.
-/

namespace PhotonFerry.Config

open Toml

/-- What a section gives for each of its settings, in their order. A date in
place of a section sets nothing. -/
def section? (names : List String) (item : Item) : Option (List (Option Item)) :=
  let inOrder (items : List Item) := (List.range names.length).map fun place => items[place]?
  match item with
  | .table _ members => some (names.map fun name => members.lookup name)
  | .array items => some (inOrder items)
  | .tables elements => some (inOrder (elements.map (.table .header)))
  | .moment _ => some (names.map fun _ => none)
  | _ => none

/-- The text of an item. -/
def text? (item : Item) : Option String :=
  match item with
  | .string value => some value
  | _ => none

/-- The truth of an item. -/
def truth? (item : Item) : Option Bool :=
  match item with
  | .boolean value => some value
  | _ => none

/-- The unsigned number of an item, of the given number of bits. -/
def unsigned? (bits : Nat) (item : Item) : Option Nat :=
  match item with
  | .integer (.ofNat value) => if Word.isUnsigned bits value then some value else none
  | _ => none

/-- A setting, or its default where there is none. -/
def setting? {α : Type} (read : Item → Option α) (default : α) : Option Item → Option α
  | none => some default
  | some item => read item

/-- The settings of the backend. -/
def backend? (item : Item) : Option ClientSettings := do
  let base : ClientSettings := {}
  match ← section? ["endpoint", "use_broker", "timeout_ms", "connect_timeout_ms",
      "max_retries", "output_filename"] item with
  | [endpoint, useBroker, timeout, connectTimeout, maxRetries, outputFile] =>
    some {
      endpoint := ← setting? text? base.endpoint endpoint
      useBroker := ← setting? truth? base.useBroker useBroker
      timeout := ← setting? (unsigned? 64) base.timeout timeout
      connectTimeout := ← setting? (unsigned? 64) base.connectTimeout connectTimeout
      maxRetries := UInt32.ofNat (← setting? (unsigned? 32) base.maxRetries.toNat maxRetries)
      outputFile := ← setting? text? base.outputFile outputFile }
  | _ => none

/-- The recording that stands in for the backend. -/
def recording? (item : Item) : Option String := do
  match ← section? ["table"] item with
  | [table] => setting? text? ({} : Config).recording table
  | _ => none

/-- The settings of logging. -/
def logging? (item : Item) : Option LoggingSettings := do
  let base : LoggingSettings := {}
  match ← section? ["log_dir", "retention_days", "level"] item with
  | [directory, retentionDays, level] =>
    some {
      directory := ← setting? (fun item => (text? item).map some) base.directory directory
      retentionDays := ← setting? (unsigned? 64) base.retentionDays retentionDays
      level := ← setting? (fun item => (text? item).map some) base.level level }
  | _ => none

/-- The configuration in the text of a file. -/
def ofText? (text : String) : Option Config := do
  let members ← readDocument text
  let base : Config := {}
  some {
    backend := ← setting? backend? base.backend (members.lookup "backend")
    recording := ← setting? recording? base.recording (members.lookup "replay")
    logging := ← setting? logging? base.logging (members.lookup "logging") }

end PhotonFerry.Config

import PhotonFerry.Number.Digits
import PhotonFerry.Number.Word
import PhotonFerry.Recording.Relation
import PhotonFerry.Text.Utf8
/-!
# The names of recordings

A recording is named by a path, or by an address: `file:`, perhaps an authority,
which can only be this machine, a path, and behind a question mark parameters,
which say how the file is to be opened. In an address two hexadecimal digits behind
a percent sign stand for a byte, and a number sign ends it. What is named without a
path, or by a certain name, is a new recording in memory.
-/

namespace PhotonFerry.Recording

/-- A text as it stands in a file name. -/
abbrev Bytes := List UInt8

/-- The bytes of a text. -/
def bytesOf (text : String) : Bytes := text.toUTF8.toList

/-- A report's rendering of bytes. -/
def shown (bytes : Bytes) : String := Utf8.decodeLossy ⟨bytes.toArray⟩

/-- The byte of an ASCII character. -/
def byteOf (char : Char) : UInt8 := UInt8.ofNat char.toNat

/-- How a file is opened. -/
inductive AccessMode where
  /-- It is not; a new recording is made in memory. -/
  | memory
  | readOnly
  | readWrite
  /-- For reading and writing, and it is made if it is not there. -/
  | create
  deriving DecidableEq, Repr

namespace AccessMode

/-- The mode with a name. -/
def ofName? (name : Bytes) : Option AccessMode :=
  [("ro", readOnly), ("rw", readWrite), ("rwc", create), ("memory", memory)].findSome?
    fun (known, mode) => if bytesOf known = name then some mode else none

/-- How much a mode asks for. -/
def demand : AccessMode → Nat
  | memory => 0
  | readOnly => 1
  | readWrite => 2
  | create => 3

/-- How much can be asked for in place of a mode: no more than it asks for itself,
but anything in place of a recording in memory. -/
def allowance : AccessMode → Nat
  | memory => 3
  | mode => mode.demand

end AccessMode

/-- What keeps the files of a machine. -/
inductive FileSystem where
  | disk
  /-- A disk on which a reader's own lock looks like that of someone at work. -/
  | coarseDisk
  /-- One that is empty at first and keeps nothing. -/
  | memory
  deriving DecidableEq, Repr

/-- The file system with a name. -/
def FileSystem.ofName? (name : Bytes) : Option FileSystem :=
  [("unix", disk), ("unix-none", disk), ("unix-dotfile", coarseDisk), ("unix-excl", disk),
      ("memdb", memory)].findSome?
    fun (known, system) => if bytesOf known = name then some system else none

/-- A named file, and how it is to be opened. -/
structure Location where
  path : Bytes
  mode : AccessMode := .readOnly
  system : FileSystem := .disk
  /-- A file whose permissions a new one would get; it must be there. -/
  model : Option Bytes := none
  /-- Whether the file is promised not to change, so that no unfinished work on it
  is looked for. -/
  settled : Bool := false
  deriving DecidableEq, Repr

namespace Location

/-! ## The parts of an address -/

/-- A byte by its two hexadecimal digits. -/
def byteOfDigits? (high low : UInt8) : Option UInt8 := do
  let high ← Digits.value? (Char.ofNat high.toNat)
  let low ← Digits.value? (Char.ofNat low.toNat)
  some (UInt8.ofNat (16 * high + low))

/-- A part of an address with its escapes resolved; an escaped zero byte ends it. -/
def unescape : Bytes → Bytes
  | sign :: high :: low :: rest =>
    match if sign = byteOf '%' then byteOfDigits? high low else none with
    | none => sign :: unescape (high :: low :: rest)
    | some byte => if byte = 0 then [] else byte :: unescape rest
  | short => short

/-- What stands before the first of a byte, and what behind it. -/
def cut (mark : UInt8) (bytes : Bytes) : Bytes × Bytes :=
  (bytes.takeWhile (· ≠ mark), (bytes.dropWhile (· ≠ mark)).drop 1)

/-- The parameters behind the question mark of an address; one without a name does
not count. -/
def parameters (bytes : Bytes) : List (Bytes × Bytes) :=
  let all := (bytes.splitOn (byteOf '&')).map fun parameter =>
    let (name, value) := cut (byteOf '=') parameter
    (unescape name, unescape value)
  all.filter fun (name, _) => !name.isEmpty

/-- The beginning of every address. -/
def scheme : Bytes := bytesOf "file:"

/-- The names of this machine in an address. -/
def localAuthorities : List Bytes := [[], bytesOf "localhost"]

/-- An address without its scheme and its authority. -/
def stripAuthority (address : Bytes) : Except StoreError Bytes :=
  if (bytesOf "//").isPrefixOf address then
    let authority := (address.drop 2).takeWhile (· ≠ byteOf '/')
    if localAuthorities.contains authority then .ok (address.drop (2 + authority.length))
    else .error (.unknownAuthority (shown authority))
  else .ok address

/-! ## What parameters mean -/

/-- Ask for a mode of access. -/
def askFor (location : Location) (mode : Bytes) : Except StoreError Location :=
  match AccessMode.ofName? mode with
  | none => .error (.unknownMode "access" (shown mode))
  | some next =>
    if location.mode.allowance < next.demand then
      .error (.forbiddenMode "access" (shown mode))
    else .ok { location with mode := next }

/-- Ask for a way of sharing pages, which changes nothing here. -/
def share (location : Location) (mode : Bytes) : Except StoreError Location :=
  if [bytesOf "shared", bytesOf "private"].contains mode then .ok location
  else .error (.unknownMode "cache" (shown mode))

/-- Heed a parameter; one with another name changes nothing. -/
def heed (location : Location) (parameter : Bytes × Bytes) : Except StoreError Location :=
  let (name, value) := parameter
  if name = bytesOf "mode" then location.askFor value
  else if name = bytesOf "cache" then location.share value
  else .ok location

/-- The file system that parameters name, the last one of them. -/
def systemOf (parameters : List (Bytes × Bytes)) : Except StoreError FileSystem :=
  match (parameters.filter fun (name, _) => name = bytesOf "vfs").getLast? with
  | none => .ok .disk
  | some (_, name) =>
    match FileSystem.ofName? name with
    | some system => .ok system
    | none => .error (.unknownSystem (shown name))

/-- The words that say yes. -/
def yesWords : List String := ["on", "yes", "true"]

/-- Whether a parameter is set: its value says yes, or begins with a number that is
not zero. -/
def isSet (parameters : List (Bytes × Bytes)) (name : String) : Bool :=
  match parameters.lookup (bytesOf name) with
  | none => false
  | some value =>
    let (digits, _) := Digits.span 10 ((shown value).toList)
    if digits.isEmpty then yesWords.contains (shown value).toLower
    else Word.isUnsigned 31 (Digits.number 10 digits) && Digits.number 10 digits % 256 ≠ 0

/-- The location that an address without its scheme names. -/
def ofAddress (address : Bytes) : Except StoreError Location := do
  let address ← stripAuthority address
  let (path, rest) := cut (byteOf '?') (address.takeWhile (· ≠ byteOf '#'))
  let parameters := parameters rest
  let location ← parameters.foldlM heed { path := unescape path }
  let system ← systemOf parameters
  return { location with
    system
    model := parameters.lookup (bytesOf "modeof")
    settled := isSet parameters "immutable" }

/-- The location that a text names. -/
def ofText (text : String) : Except StoreError Location :=
  let bytes := bytesOf text
  if bytes.contains 0 then .error (.nulByte (bytes.findIdx (· = 0)))
  else if scheme.isPrefixOf bytes then ofAddress (bytes.drop scheme.length)
  else .ok { path := bytes }

/-- The name that stands for a new recording in memory. -/
def memoryName : Bytes := bytesOf ":memory:"

/-- Whether a new recording is meant. -/
def isNew (location : Location) : Bool :=
  location.mode = .memory || location.path = [] || location.path = memoryName

end Location

end PhotonFerry.Recording

import PhotonFerry.Logging.Directive
/-!
# Which records are shown

A filter is a list of directives with commas between them. The most specific of the
directives about a record decides whether it is shown, and the last one of several
that are alike. A record that no directive is about is not shown.
-/

namespace PhotonFerry

/-- The path by which directives select a topic. -/
def Topic.path : Topic → String
  | program => "photon_offload"
  | configuration => "photon_offload::config"
  | context => "photon_offload::context"
  | discovery => "photon_offload::client::discovery"
  | connection => "photon_offload::client::connection"
  | client => "photon_offload::client::protocol"
  | recording => "photon_offload::replay"
  | reader => "photon_offload::replay::reader"
  | geometry => "photon_offload::geometry"
  | run => "photon_offload::run"
  | metrics => "photon_offload::metrics"

/-- A record as a line of a log. -/
def LogRecord.line (entry : LogRecord) : String :=
  s!"{entry.severity.label} {entry.topic.path}: {entry.text}"

/-- The directives of a filter, of several that are alike the one that counts last. -/
structure LogFilter where
  directives : List Directive
  deriving DecidableEq, Repr

namespace LogFilter

/-- The filter of some directives. Those that ask for fields count after the others. -/
def ofDirectives (directives : List Directive) : LogFilter :=
  let (selective, plain) := directives.partition Directive.isSelective
  ⟨(plain ++ selective).filter fun directive => !directive.needsSpan⟩

/-- The texts of the directives of a filter. -/
def pieces (text : String) : List String :=
  ((text.toList.splitOn ',').filter fun piece => !piece.isEmpty).map String.ofList

/-- The filter in a text that holds directives only. -/
def ofText (text : String) : Except DirectiveError LogFilter :=
  ((pieces text).mapM Directive.ofText).map ofDirectives

/-- The filter of directives that are given in place of others. Without any it shows
errors. -/
def ofDirectivesOrErrors (directives : List Directive) : LogFilter :=
  if directives.isEmpty then ofDirectives [{ limit := Severity.error.rank }]
  else ofDirectives directives

/-- Read the directives in pieces of a text as far as they can be read, with a
complaint about each piece that cannot. -/
def readLossy : List String → Except DirectiveError (List Directive × List String)
  | [] => .ok ([], [])
  | piece :: rest =>
    match Directive.ofText piece with
    | .error .cutCharacter => .error .cutCharacter
    | .error reason =>
      (readLossy rest).map fun (directives, complaints) =>
        (directives, s!"ignoring `{piece}`: {reason.message}" :: complaints)
    | .ok directive =>
      (readLossy rest).map fun (directives, complaints) => (directive :: directives, complaints)

/-- The filter of the directives in a text, and what there is to say of the pieces
that are no directives. -/
def ofTextLossy (text : String) : Except DirectiveError (LogFilter × List String) :=
  (readLossy (pieces text)).map fun (directives, complaints) =>
    (ofDirectivesOrErrors directives, complaints)

/-- The directive that decides on the records of a path. -/
def deciding? (filter : LogFilter) (path : String) : Option Directive :=
  (filter.directives.filter fun directive => directive.concerns path).foldl
    (fun best next =>
      match best with
      | none => some next
      | some other => if other.yieldsTo next then some next else best)
    none

/-- Whether a record is shown. -/
def shows (filter : LogFilter) (entry : LogRecord) : Bool :=
  (filter.deciding? entry.topic.path).any fun directive => entry.severity.rank ≤ directive.limit

/-- The text of the filter that holds unless the environment has one. -/
def fallback (verbose : Bool) (level : Option String) : String :=
  if verbose then "debug" else level.getD "info"

/-- The filter of a run, and what is to be said of its text. A filter in the
environment wins if all of it can be read. The only error is that a text was cut
within a character. -/
def choose (environment : Option String) (verbose : Bool) (level : Option String) :
    Except DirectiveError (LogFilter × List String) :=
  match environment.map ofText with
  | some (.ok filter) => .ok (filter, [])
  | some (.error .cutCharacter) => .error .cutCharacter
  | _ => ofTextLossy (fallback verbose level)

end LogFilter

end PhotonFerry

import PhotonFerry.Backend.Basic
import PhotonFerry.Client.Settings
/-!
# Opening backends

Before a run begins its backend is opened: a live one is connected and its
session started, a recording is read as far as the number of its events. A
backend that does not open leaves nothing behind but its records.
-/

namespace PhotonFerry

/-- Connect to the backend of some settings and start a session with it. -/
def LiveBackend.openFor (settings : ClientSettings) :
    Action Unit (Except RunError (LiveBackend Unit)) := do
  match ← settings.connect with
  | .error reason => return .error (.discovery reason)
  | .ok client =>
    let started := LiveBackend.run Client.start (.ofClient client ())
    Action.report started.journal
    match started.value with
    | .error reason => return .error (.start reason)
    | .ok _ => return .ok started.state

/-- Open a recording file as a backend. -/
def RecordingReader.openBackend (path : String) (file : Recording.StoredFile) :
    Action Unit (Except RunError RecordingReader) := do
  match ← RecordingReader.openFile path file with
  | .error reason => return .error (.recording reason)
  | .ok reader => return .ok reader

end PhotonFerry

import Widgetry.Project.Artifacts

/-!
Sessions: work on a disk that also prints lines.
-/

namespace Widgetry.Cli

inductive Line where
  | text (text : String)
  /-- A line with the milliseconds since the start between two texts. -/
  | elapsed (lead tail : String)

structure Session where
  disk : Disk
  printed : List Line := []

/-- Work in a session; what was done and printed before an error stays. -/
abbrev SessionM := ExceptT Error (StateM Session)

namespace SessionM

def printLine (line : Line) : SessionM Unit := fun session =>
  (.ok (), { session with printed := session.printed ++ [line] })

def print (text : String) : SessionM Unit := printLine (.text text)

def disk : SessionM Disk := fun session => (.ok session.disk, session)

/-- Work that prints nothing. -/
def perform {α : Type} (work : Work α) : SessionM α := fun session =>
  match work session.disk with
  | (result, disk) => (result, { session with disk })

end SessionM

end Widgetry.Cli

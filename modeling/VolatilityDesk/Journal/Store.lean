import VolatilityDesk.Files
import VolatilityDesk.Journal
import VolatilityDesk.Trading.Tick
/-!
# Where the journal is kept

A journal is kept at a place that may turn out unusable. Recording a tick passes over an unusable
place and over a row that the journal refuses; other faults are reported. Asking an unusable place
fails.
-/

namespace VolatilityDesk

/-- Why a place cannot hold a journal. -/
inductive StoreFault where
  /-- A directory is wanted below a file. -/
  | notDirectory (path : String)
  /-- A directory is wanted where a file is. -/
  | fileExists (path : String)
  /-- The file there is something else. -/
  | notJournal
  /-- The place is a directory. -/
  | cannotOpen
  /-- The place is in memory and forgets its tables at once. -/
  | forgetful
  deriving DecidableEq, Repr

/-- What is said about the fault. -/
def StoreFault.message : StoreFault → String
  | notDirectory path => "[Errno 20] Not a directory: " ++ Text.quoted path
  | fileExists path => "[Errno 17] File exists: " ++ Text.quoted path
  | notJournal => "file is not a database"
  | cannotOpen => "unable to open database file"
  | forgetful => "no such table: signals"

/-- A journal at its place, or the reason why there is none. -/
inductive JournalStore where
  | ready (journal : Journal)
  | blocked (fault : StoreFault)

/-- A fault that concerns the row alone. -/
def JournalFault.isRefusal : JournalFault → Bool
  | noEntry => true
  | _ => false

namespace Journal

/-- The answer of a recording, in which refusals are passed over. -/
def settled {β : Type} : Except JournalFault β → Except JournalFault Unit
  | .ok _ => .ok ()
  | .error fault => if fault.isRefusal then .ok () else .error fault

/-- Records what a tick did: its signals, then the positions it opened and closed. -/
def recordTick (j : Journal) (r : TickReport Float) : Except JournalFault Unit × Journal :=
  match j.recordSignals r.signals with
  | (.error fault, j) => (settled (.error fault : Except JournalFault Unit), j)
  | (.ok _, j) =>
    let (out, j) := j.recordPositions (r.opened ++ r.closed)
    (settled out, j)

end Journal

namespace JournalStore

/-- Why a file cannot hold a journal, if it cannot. -/
def fileFault? (files : Files) (folder : List String) (name : String) : Option StoreFault :=
  match folder with
  | [] =>
    if name = ".." then some .cannotOpen
    else if name = ":memory:" then some .forgetful
    else match files.lookup name with
      | some (_ :: _) => some .notJournal
      | _ => none
  | [top] =>
    if files.has top then some (.fileExists top)
    else if name = ".." then some .cannotOpen else none
  | top :: _ =>
    if files.has top then some (.notDirectory (Path.join folder))
    else if name = ".." then some .cannotOpen else none

/-- Why a path cannot lead to a journal, if it cannot. Folders on the way are made. -/
def pathFault? (files : Files) (path : String) : Option StoreFault :=
  match (Path.parts path).reverse with
  | [] => some .cannotOpen
  | name :: folder =>
    if Path.isAbsolute path then none else fileFault? files folder.reverse name

/-- The store of a journal at a path, or at its usual place. -/
def atPath (files : Files) (path : Option String) (journal : Journal) : JournalStore :=
  match path.bind (pathFault? files) with
  | some fault => blocked fault
  | none => ready journal

/-- The journal in a store, if it is ready. -/
def journal? : JournalStore → Option Journal
  | ready journal => some journal
  | blocked _ => none

/-- Records what a tick did. -/
def recordTick (s : JournalStore) (r : TickReport Float) :
    Except JournalFault Unit × JournalStore :=
  match s with
  | ready journal =>
    let (out, journal) := journal.recordTick r
    (out, ready journal)
  | blocked fault => (.ok (), blocked fault)

/-- How all closed positions did. -/
def performance (s : JournalStore) : Except StoreFault Performance :=
  match s with
  | ready journal => .ok journal.performance
  | blocked fault => .error fault

end JournalStore

end VolatilityDesk

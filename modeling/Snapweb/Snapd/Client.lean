import Mathlib.Data.Finmap
import Mathlib.Tactic.Lemma
import Snapweb.Core.Outcome

/-!
# What snapd's client answers

The records of snapd's `client` package that snapweb reads, and the `SnapdClient` interface it
reads them through.  snapd itself is not modelled: a `SnapdClient` is *any* assignment of answers
to calls, so a statement about every `SnapdClient` is a statement about every behaviour of snapd,
successes and failures alike.

A Go pointer that may be `nil` is an `Option`.  A call whose value is ignored when it fails
returns an `Except`; the four calls that start a change return both their values, because
`installPackage` and `removePackage` go on with the change id even when there is an error.
-/

namespace Snapweb

/-- A civil date and time, as much of a `time.Time` as is printed. -/
structure CivilTime where
  year : ℕ
  month : Fin 12
  day : ℕ
  hour : ℕ
  minute : ℕ
  second : ℕ
  deriving DecidableEq, Repr

/-- A snap as snapd describes it (`client.Snap`).  An amount of money is the text that
`strconv.FormatFloat` gives it, and `installDate` is `none` for the zero `time.Time`. -/
structure Snap where
  name : String
  status : String
  developer : String := ""
  version : String := ""
  description : String := ""
  type : String := ""
  icon : String := ""
  prices : Finmap (fun _ : String => String) := ∅
  isPrivate : Bool := false
  channel : String := ""
  installDate : Option CivilTime := none
  installedSize : Int64 := 0
  downloadSize : Int64 := 0

/-- `client.StatusAvailable`. -/
def clientStatusAvailable : String := "available"

/-- `client.StatusInstalled`. -/
def clientStatusInstalled : String := "installed"

/-- `client.StatusActive`. -/
def clientStatusActive : String := "active"

/-- How far a task is (`client.TaskProgress`); Go's `int` has 64 bits here. -/
structure TaskProgress where
  done : Int64
  total : Int64
  deriving DecidableEq

/-- One task of a change (`client.Task`). -/
structure Task where
  status : String
  summary : String
  progress : TaskProgress
  deriving DecidableEq

/-- `state.DoingStatus.String()`. -/
def doingStatus : String := "Doing"

/-- A change in progress (`client.Change`). -/
structure Change where
  tasks : List Task
  deriving DecidableEq

/-- The icon of an installed snap (`client.Icon`). -/
structure Icon where
  filename : String
  content : List UInt8
  deriving DecidableEq

/-- What a store search asks for (`client.FindOptions`). -/
structure FindOptions where
  query : String
  isPrivate : Bool
  sectionName : String
  deriving DecidableEq

/-- The calls of the `SnapdClient` interface that the package handlers make, each with the answer
that snapd gives it. -/
structure SnapdClient where
  icon : String → Except Error Icon
  snap : String → Except Error (Option Snap)
  list : Except Error (List Snap)
  find : FindOptions → Except Error (List Snap)
  findOne : String → Except Error (Option Snap)
  install : String → String × Option Error
  remove : String → String × Option Error
  enable : String → String × Option Error
  disable : String → String × Option Error
  abort : String → Option Error
  change : String → Except Error (Option Change)

/-- A snapd that knows one snap, accepts every operation under one change id, and reports nothing
about its changes. -/
def SnapdClient.knowing (snap : Snap) (changeID : String) : SnapdClient where
  icon _ := .error "no icon"
  snap _ := .ok (some snap)
  list := .ok [snap]
  find _ := .ok [snap]
  findOne _ := .ok (some snap)
  install _ := (changeID, none)
  remove _ := (changeID, none)
  enable _ := (changeID, none)
  disable _ := (changeID, none)
  abort _ := none
  change _ := .error "no change"

/-- The calls that change something in snapd. -/
inductive SnapdCall
  | install (name : String)
  | remove (name : String)
  | enable (name : String)
  | disable (name : String)
  | abort (changeID : String)
  deriving DecidableEq, Repr

end Snapweb

import RootFinding.Interval
import RootFinding.Json
import RootFinding.Scalar.Bisection
import RootFinding.Scalar.Chord
import RootFinding.Scalar.Newton
import RootFinding.Scalar.Secant
import RootFinding.Scalar.SimpleIteration
import RootFinding.Systems.Row

/-!
# What is exchanged as JSON

Intervals, statuses and rows can be written as JSON documents and read back. A row of a scalar
method is a record of numbers, `NumberRecord`, and needs no code of its own. An interval that is
read goes through `Interval.ofBounds` like any other.
-/

namespace RootFinding

open Number

/-- Why a document cannot be read. -/
inductive DecodeError (α : Type) where
  /-- It does not have the form of what is read. -/
  | malformed
  /-- It has the form of an interval, but the bounds are refused. -/
  | interval (cause : IntervalError α)
deriving DecidableEq

/-- A type whose values are written as JSON documents and read back. -/
class JsonCodec (τ : Type) (α : Type) [Number α] where
  encode : τ → Json α
  decode : Json α → Except (DecodeError α) τ

namespace JsonCodec

variable {α : Type} [Number α]

/-- What is read, or the report that the document does not have the right form. -/
def orMalformed {τ : Type} : Option τ → Except (DecodeError α) τ
  | some value => .ok value
  | none => .error .malformed

end JsonCodec

/-- A type whose values consist of numbers with fixed names. -/
class NumberRecord (τ : Type) (α : outParam Type) where
  names : List String
  values : τ → List α
  ofValues? : List α → Option τ

namespace NumberRecord

variable {τ α : Type} [Number α] [NumberRecord τ α]

/-- The record as an object. -/
def encode (value : τ) : Json α :=
  .object ((names τ).zip ((values value).map Json.ofNumber))

/-- The record that a document holds. -/
def decode? (document : Json α) : Option τ := do
  let entries ← document.record? ((names τ).map fun name => { name })
  ofValues? (← entries.mapM Json.number?)

instance : JsonCodec τ α where
  encode := encode
  decode document := JsonCodec.orMalformed (decode? document)

end NumberRecord

variable {α : Type} [Number α]

instance : NumberRecord (Scalar.Bisection.Row α) α where
  names := ["left", "right", "x", "f_left", "f_right", "f_x", "width"]
  values r := [r.left, r.right, r.x, r.fLeft, r.fRight, r.fX, r.width]
  ofValues?
    | [left, right, x, fLeft, fRight, fX, width] => some ⟨left, right, x, fLeft, fRight, fX, width⟩
    | _ => none

instance : NumberRecord (Scalar.Chord.Row α) α where
  names := ["left", "right", "x", "f_left", "f_right", "f_x", "change"]
  values r := [r.left, r.right, r.x, r.fLeft, r.fRight, r.fX, r.change]
  ofValues?
    | [left, right, x, fLeft, fRight, fX, change] =>
      some ⟨left, right, x, fLeft, fRight, fX, change⟩
    | _ => none

instance : NumberRecord (Scalar.Newton.Row α) α where
  names := ["x", "f_x", "derivative", "next", "change"]
  values r := [r.x, r.fX, r.derivative, r.next, r.change]
  ofValues?
    | [x, fX, derivative, next, change] => some ⟨x, fX, derivative, next, change⟩
    | _ => none

instance : NumberRecord (Scalar.Secant.Row α) α where
  names := ["prev", "x", "next", "f_next", "change"]
  values r := [r.prev, r.x, r.next, r.fNext, r.change]
  ofValues?
    | [prev, x, next, fNext, change] => some ⟨prev, x, next, fNext, change⟩
    | _ => none

instance : NumberRecord (Scalar.SimpleIteration.Row α) α where
  names := ["x", "next", "f_next", "change"]
  values r := [r.x, r.next, r.fNext, r.change]
  ofValues?
    | [x, next, fNext, change] => some ⟨x, next, fNext, change⟩
    | _ => none

/-- The bounds of an interval, before it is known that they are sensible. -/
structure Bounds (α : Type) where
  left : α
  right : α

instance : NumberRecord (Bounds α) α where
  names := ["left", "right"]
  values b := [b.left, b.right]
  ofValues?
    | [left, right] => some ⟨left, right⟩
    | _ => none

instance : JsonCodec (Interval α) α where
  encode s := NumberRecord.encode (⟨s.left, s.right⟩ : Bounds α)
  decode document := do
    let bounds : Bounds α ← JsonCodec.orMalformed (NumberRecord.decode? document)
    (Interval.ofBounds bounds.left bounds.right).mapError .interval

namespace Status

/-- The name of a status. -/
def name : Status → String
  | converged => "Converged"
  | stoppedByObserver => "StoppedByObserver"

/-- The status of a name. -/
def ofName? (name : String) : Option Status :=
  [converged, stoppedByObserver].find? fun status => status.name == name

/-- The status that a document holds: its name, or an object whose only entry has this name and is
`null`. -/
def decode? : Json α → Option Status
  | .string name => ofName? name
  | .object [(name, .null)] => ofName? name
  | _ => none

end Status

instance : JsonCodec Status α where
  encode status := .string status.name
  decode document := JsonCodec.orMalformed (Status.decode? document)

namespace Systems.Row

/-- A list of numbers as a document. -/
def encodeList (xs : List α) : Json α := .array (xs.map Json.ofNumber)

/-- The changes that a document holds: a list, or `null` for none. -/
def decodeChanges? : Json α → Option (Option (List α))
  | .null => some none
  | document => document.numbers?.map some

/-- The row that a document holds. -/
def decode? (document : Json α) : Option (Systems.Row α) := do
  let entries ← document.record? [{ name := "values" }, { name := "changes", mayBeMissing := true }]
  match entries with
  | [values, changes] => return ⟨← values.numbers?, ← decodeChanges? changes⟩
  | _ => none

end Systems.Row

instance : JsonCodec (Systems.Row α) α where
  encode r :=
    .object [
      ("values", Systems.Row.encodeList r.values),
      ("changes", (r.changes.map Systems.Row.encodeList).getD .null)]
  decode document := JsonCodec.orMalformed (Systems.Row.decode? document)

end RootFinding

import RootFinding.Number

/-!
# JSON documents

A `Json` is a document whose numbers are of type `α`. Like every JSON number they are finite, and
the type says so; a number that is not finite is written as `null`.

An object has one entry of each name. This is not in the type: an object with a list of entries in
which a name comes twice is no document, and nothing that is said of documents is meant of it. A
text that repeats a name stands for the object with the last of the entries.
-/

namespace RootFinding

open Number

/-- A JSON document. The names of the entries of an object differ from each other, so that an entry
is looked up by its name. -/
inductive Json (α : Type) [Number α] where
  | null
  | bool (value : Bool)
  | number (value : α) (finite : isFinite value = true)
  | string (value : String)
  | array (items : List (Json α))
  | object (entries : List (String × Json α))

namespace Json

variable {α : Type} [Number α]

instance : Inhabited (Json α) := ⟨.null⟩

/-- A number as a document: `null` if it is not finite. -/
def ofNumber (x : α) : Json α := if h : isFinite x = true then .number x h else .null

/-- The number that a document is. -/
def number? : Json α → Option α
  | .number x _ => some x
  | _ => none

/-- The numbers that a document lists. -/
def numbers? : Json α → Option (List α)
  | .array items => items.mapM number?
  | _ => none

/-- A number reads back as itself. -/
theorem number?_ofNumber {x : α} (h : isFinite x = true) : (ofNumber x).number? = some x := by
  simp [ofNumber, h, number?]

/-- An entry of a record: its name, and whether it may be left out, which counts as `null`. -/
structure Field where
  name : String
  mayBeMissing : Bool := false

/-- The entry of a record in an object. -/
def Field.find? (field : Field) (entries : List (String × Json α)) : Option (Json α) :=
  match entries.lookup field.name with
  | some value => some value
  | none => if field.mayBeMissing then some .null else none

/-- The entries of a record, in order. A record is written as an object, whose other entries do not
count, or as the list of exactly its entries. -/
def record? (fields : List Field) : Json α → Option (List (Json α))
  | .object entries => fields.mapM fun field => field.find? entries
  | .array items => if items.length = fields.length then some items else none
  | _ => none

end Json

end RootFinding

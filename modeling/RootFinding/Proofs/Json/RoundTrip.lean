import Mathlib.Data.List.Forall2
import RootFinding.Json.Codec

/-!
# Reading what was written

Intervals, statuses and rows are read back from the documents they are written as, exactly if all
their numbers are finite. What is read from any document has finite numbers only, so it is read back
too (`IsFaithful`). An interval that is read has the bounds that the document holds, and they have
passed the check of intervals.

## Shape of the arguments

* The numbers of a document are finite, so a document is a number exactly if it is the one that this
  number is written as (`number?_eq_some_iff`). The same holds of lists of numbers, and from there
  of everything that is read: which documents hold a value is an equivalence, in which the document
  on the right is the written one (`NumberRecord.decode?_eq_some_iff`,
  `Systems.Row.decode?_eq_some_iff`).
* The names of a record are different from each other, so each entry of a written record is found
  under its name (`record?_zip`).
-/

namespace RootFinding

open Number

theorem JsonCodec.orMalformed_eq_ok {α τ : Type} {found : Option τ} {value : τ} :
    (orMalformed found : Except (DecodeError α) τ) = .ok value ↔ found = some value := by
  cases found <;> simp [orMalformed]

variable {α : Type} [Number α]

/-! ## Numbers and records -/

namespace Json

/-- A document is a number exactly if it is this number as it is written. -/
theorem number?_eq_some_iff {document : Json α} {x : α} :
    document.number? = some x ↔ isFinite x = true ∧ document = ofNumber x := by
  constructor
  · intro h
    cases document with
    | number y finite =>
      obtain rfl := Option.some.inj h
      exact ⟨finite, by rw [ofNumber, dif_pos finite]⟩
    | _ => cases h
  · rintro ⟨finite, rfl⟩
    exact number?_ofNumber finite

/-- Documents are numbers exactly if they are these numbers as they are written. -/
theorem mapM_number?_eq_some_iff {documents : List (Json α)} {xs : List α} :
    documents.mapM number? = some xs ↔
      (∀ x ∈ xs, isFinite x = true) ∧ documents = xs.map ofNumber := by
  induction documents generalizing xs with
  | nil => cases xs <;> simp
  | cons document documents ih =>
    rw [List.mapM_cons]
    simp only [Option.bind_eq_bind, Option.bind_eq_some_iff, Option.pure_def, Option.some.injEq,
      number?_eq_some_iff, ih]
    constructor
    · rintro ⟨x, ⟨finite, rfl⟩, xs, ⟨all_finite, rfl⟩, rfl⟩
      exact ⟨List.forall_mem_cons.2 ⟨finite, all_finite⟩, rfl⟩
    · rintro ⟨all_finite, h⟩
      cases xs with
      | nil => cases h
      | cons x xs =>
        obtain ⟨finite, all_finite⟩ := List.forall_mem_cons.1 all_finite
        obtain ⟨rfl, rfl⟩ := List.cons.inj h
        exact ⟨x, ⟨finite, rfl⟩, xs, ⟨all_finite, rfl⟩, rfl⟩

theorem numbers?_eq_some_iff {document : Json α} {xs : List α} :
    document.numbers? = some xs ↔
      (∀ x ∈ xs, isFinite x = true) ∧ document = .array (xs.map ofNumber) := by
  cases document with
  | array items => rw [numbers?, mapM_number?_eq_some_iff, Json.array.injEq]
  | _ => simp [numbers?]

/-- An entry is found under its name if the names differ. -/
theorem lookup_of_mem {β γ : Type} [BEq β] [LawfulBEq β] {entries : List (β × γ)} {name : β}
    {value : γ} (nodup : (entries.map Prod.fst).Nodup) (h : (name, value) ∈ entries) :
    entries.lookup name = some value := by
  induction entries with
  | nil => cases h
  | cons entry entries ih =>
    obtain ⟨fresh, nodup⟩ := List.nodup_cons.1 nodup
    rcases List.mem_cons.1 h with rfl | later
    · exact List.lookup_cons_self
    · have differs : name ≠ entry.1 := by
        intro same
        exact fresh (List.mem_map.2 ⟨_, later, same⟩)
      rw [List.lookup_cons, beq_false_of_ne differs]
      exact ih nodup later

/-- What is found for each entry of a list is found for the list. -/
theorem mapM_eq_some {β γ : Type} {f : β → Option γ} {xs : List β} {ys : List γ}
    (h : List.Forall₂ (fun x y => f x = some y) xs ys) : xs.mapM f = some ys := by
  induction h with
  | nil => rfl
  | cons first _ ih =>
    rw [List.mapM_cons, first, ih]
    rfl

/-- The entries of a record are found in the object that it is written as. -/
theorem record?_zip {names : List String} {documents : List (Json α)} (nodup : names.Nodup)
    (length : names.length = documents.length) :
    (Json.object (names.zip documents)).record? (names.map fun name => { name }) =
      some documents := by
  refine mapM_eq_some (List.forall₂_map_left_iff.2 (List.forall₂_iff_zip.2 ⟨length, ?_⟩))
  intro name document mem
  have found : (names.zip documents).lookup name = some document :=
    lookup_of_mem (by rwa [List.map_fst_zip (Nat.le_of_eq length)]) mem
  rw [Field.find?, found]

end Json

/-! ## What is read -/

/-- Writing and reading agree on a type, where `IsFinite` says that all numbers of a value are
finite. -/
structure IsFaithful (α : Type) [Number α] {τ : Type} [JsonCodec τ α] (IsFinite : τ → Prop) :
    Prop where
  /-- A value reads back as itself exactly if its numbers are finite. -/
  decode_encode : ∀ t : τ,
    JsonCodec.decode (JsonCodec.encode t : Json α) = .ok t ↔ IsFinite t
  /-- The numbers of what is read are finite. -/
  finite : ∀ (document : Json α) (t : τ), JsonCodec.decode document = .ok t → IsFinite t
  /-- What is read from any document reads back from the one that it is written as. -/
  normal : ∀ (document : Json α) (t : τ), JsonCodec.decode document = .ok t →
    JsonCodec.decode (JsonCodec.encode t : Json α) = .ok t

/-- It is enough that finite values are read back, and that no others are read. -/
theorem IsFaithful.of_decode {τ : Type} [JsonCodec τ α] {IsFinite : τ → Prop}
    (decode_encode : ∀ t : τ, IsFinite t →
      JsonCodec.decode (JsonCodec.encode t : Json α) = .ok t)
    (finite : ∀ (document : Json α) (t : τ), JsonCodec.decode document = .ok t → IsFinite t) :
    IsFaithful α IsFinite :=
  ⟨fun t => ⟨finite _ t, decode_encode t⟩, finite,
    fun document t h => decode_encode t (finite document t h)⟩

/-! ## Records of numbers -/

/-- The names of a record differ, there is one for each value, and the values determine the record.
The proofs given here do for a type that has a field for each name. -/
class LawfulNumberRecord (τ : Type) {α : Type} [NumberRecord τ α] : Prop where
  nodup : (NumberRecord.names τ).Nodup := by
    simp [NumberRecord.names]
  length : ∀ t : τ, (NumberRecord.names τ).length = (NumberRecord.values t).length := by
    exact fun _ => rfl
  ofValues?_values : ∀ t : τ, NumberRecord.ofValues? (NumberRecord.values t) = some t := by
    exact fun _ => rfl
  eq_values_of_ofValues? : ∀ {xs : List α} {t : τ},
      NumberRecord.ofValues? xs = some t → xs = NumberRecord.values t := by
    intro xs t h
    simp only [NumberRecord.ofValues?] at h
    split at h <;> cases h
    rfl

instance : LawfulNumberRecord (Scalar.Bisection.Row α) where

instance : LawfulNumberRecord (Scalar.Chord.Row α) where

instance : LawfulNumberRecord (Scalar.Newton.Row α) where

instance : LawfulNumberRecord (Scalar.Secant.Row α) where

instance : LawfulNumberRecord (Scalar.SimpleIteration.Row α) where

instance : LawfulNumberRecord (Bounds α) where

namespace NumberRecord

/-- The numbers of a record are finite. -/
def IsFinite {τ : Type} [NumberRecord τ α] (t : τ) : Prop := ∀ x ∈ values t, isFinite x = true

variable {τ : Type} [NumberRecord τ α] [LawfulNumberRecord τ]

/-- A document holds a record of finite numbers exactly if the entries of the document are these
numbers as they are written. -/
theorem decode?_eq_some_iff {document : Json α} {t : τ} :
    decode? document = some t ↔ IsFinite t ∧
      document.record? ((names τ).map fun name => { name }) =
        some ((values t).map Json.ofNumber) := by
  simp only [decode?, Option.bind_eq_bind, Option.bind_eq_some_iff,
    Json.mapM_number?_eq_some_iff]
  constructor
  · rintro ⟨documents, found, xs, ⟨finite, rfl⟩, h⟩
    obtain rfl := LawfulNumberRecord.eq_values_of_ofValues? h
    exact ⟨finite, found⟩
  · rintro ⟨finite, found⟩
    exact ⟨_, found, _, ⟨finite, rfl⟩, LawfulNumberRecord.ofValues?_values t⟩

theorem record?_encode (t : τ) :
    (encode t : Json α).record? ((names τ).map fun name => { name }) =
      some ((values t).map Json.ofNumber) := by
  refine Json.record?_zip LawfulNumberRecord.nodup ?_
  rw [List.length_map]
  exact LawfulNumberRecord.length t

theorem decode?_encode {t : τ} (finite : IsFinite t) : decode? (encode t : Json α) = some t :=
  decode?_eq_some_iff.2 ⟨finite, record?_encode t⟩

/-- Writing and reading agree on records of numbers. -/
theorem isFaithful : IsFaithful α (IsFinite : τ → Prop) := by
  refine .of_decode ?_ ?_
  · intro t finite
    exact JsonCodec.orMalformed_eq_ok.2 (decode?_encode finite)
  · intro document t h
    exact (decode?_eq_some_iff.1 (JsonCodec.orMalformed_eq_ok.1 h)).1

end NumberRecord

/-! ## Intervals -/

theorem Bounds.isFinite {left right : α} (finite_left : isFinite left = true)
    (finite_right : isFinite right = true) :
    NumberRecord.IsFinite (⟨left, right⟩ : Bounds α) :=
  List.forall_mem_cons.2 ⟨finite_left, List.forall_mem_singleton.2 finite_right⟩

namespace Interval

/-- The bounds that a document holds are checked. -/
theorem decode_of_bounds {document : Json α} {bounds : Bounds α}
    (h : NumberRecord.decode? document = some bounds) :
    JsonCodec.decode document = (ofBounds bounds.left bounds.right).mapError .interval := by
  show (JsonCodec.orMalformed (NumberRecord.decode? document) >>= fun bounds : Bounds α =>
    (ofBounds bounds.left bounds.right).mapError .interval) = _
  rw [h]
  rfl

/-- An interval that is read has the bounds that the document holds. -/
theorem bounds_of_decode {document : Json α} {s : Interval α}
    (h : JsonCodec.decode document = .ok s) :
    NumberRecord.decode? document = some (⟨s.left, s.right⟩ : Bounds α) := by
  cases hbounds : (NumberRecord.decode? document : Option (Bounds α)) with
  | none =>
    change (JsonCodec.orMalformed (NumberRecord.decode? document) >>= fun bounds : Bounds α =>
      (ofBounds bounds.left bounds.right).mapError .interval) = .ok s at h
    rw [hbounds] at h
    cases h
  | some bounds =>
    rw [decode_of_bounds hbounds] at h
    cases accepted : ofBounds bounds.left bounds.right with
    | error cause =>
      rw [accepted] at h
      cases h
    | ok s' =>
      rw [accepted] at h
      obtain rfl := Except.ok.inj h
      obtain ⟨left, right⟩ := bounds_of_ofBounds accepted
      rw [left, right]

/-- The bounds of an object are its entries of these names, if they are numbers. -/
theorem decode?_object {entries : List (String × Json α)} {left right : α}
    {finite_left : isFinite left = true} {finite_right : isFinite right = true}
    (hleft : entries.lookup "left" = some (.number left finite_left))
    (hright : entries.lookup "right" = some (.number right finite_right)) :
    NumberRecord.decode? (.object entries) = some (⟨left, right⟩ : Bounds α) := by
  refine NumberRecord.decode?_eq_some_iff.2
    ⟨Bounds.isFinite finite_left finite_right, ?_⟩
  have left_eq : Json.ofNumber left = .number left finite_left := dif_pos finite_left
  have right_eq : Json.ofNumber right = .number right finite_right := dif_pos finite_right
  refine Json.mapM_eq_some (.cons ?_ (.cons ?_ .nil))
  · rw [left_eq, Json.Field.find?, hleft]
  · rw [right_eq, Json.Field.find?, hright]

theorem isFaithful : IsFaithful α (fun _ : Interval α => True) := by
  refine .of_decode ?_ fun _ _ _ => trivial
  intro s _
  have finite : NumberRecord.IsFinite (⟨s.left, s.right⟩ : Bounds α) :=
    Bounds.isFinite s.finite_left s.finite_right
  refine (decode_of_bounds (NumberRecord.decode?_encode finite)).trans ?_
  rw [ofBounds_bounds]
  rfl

end Interval

/-! ## Statuses -/

theorem Status.isFaithful : IsFaithful α (fun _ : Status => True) := by
  refine .of_decode ?_ fun _ _ _ => trivial
  intro status _
  refine JsonCodec.orMalformed_eq_ok.2 ?_
  cases status
  · rfl
  · rfl

/-! ## Rows of the system solver -/

namespace Systems.Row

/-- The numbers of a row are finite. -/
structure IsFinite (r : Row α) : Prop where
  values : ∀ x ∈ r.values, isFinite x = true
  changes : ∀ changes ∈ r.changes, ∀ x ∈ changes, isFinite x = true

/-- The changes as a document: `null` for none, which no list is. -/
def encodeChanges (changes : Option (List α)) : Json α := (changes.map encodeList).getD .null

theorem decodeChanges?_eq_some_iff {document : Json α} {changes : Option (List α)} :
    decodeChanges? document = some changes ↔
      (∀ xs ∈ changes, ∀ x ∈ xs, Number.isFinite x = true) ∧
        document = encodeChanges changes := by
  by_cases absent : document = .null
  · subst absent
    cases changes <;> simp [decodeChanges?, encodeChanges, encodeList]
  · have list : decodeChanges? document = document.numbers?.map some := by
      cases document with
      | null => exact absurd rfl absent
      | _ => rfl
    rw [list, Option.map_eq_some_iff]
    simp only [Json.numbers?_eq_some_iff]
    constructor
    · rintro ⟨xs, ⟨finite, rfl⟩, rfl⟩
      refine ⟨?_, rfl⟩
      rintro _ ⟨⟩
      exact finite
    · rintro ⟨finite, rfl⟩
      cases changes with
      | none => exact absurd rfl absent
      | some xs => exact ⟨xs, ⟨finite xs rfl, rfl⟩, rfl⟩

/-- A document holds a row of finite numbers exactly if its two entries are the coordinates and the
changes as they are written. -/
theorem decode?_eq_some_iff {document : Json α} {r : Row α} :
    decode? document = some r ↔ IsFinite r ∧
      document.record? [{ name := "values" }, { name := "changes", mayBeMissing := true }] =
        some [encodeList r.values, encodeChanges r.changes] := by
  simp only [decode?, Option.bind_eq_bind, Option.bind_eq_some_iff]
  constructor
  · rintro ⟨entries, found, h⟩
    split at h
    · next values changes =>
      simp only [Option.bind_eq_some_iff, Json.numbers?_eq_some_iff,
        decodeChanges?_eq_some_iff] at h
      obtain ⟨xs, ⟨finite, rfl⟩, changes, ⟨finite_changes, rfl⟩, h⟩ := h
      obtain rfl := Option.some.inj h
      exact ⟨⟨finite, finite_changes⟩, found⟩
    · cases h
  · rintro ⟨finite, found⟩
    refine ⟨_, found, ?_⟩
    simp only [Option.bind_eq_some_iff, Json.numbers?_eq_some_iff, decodeChanges?_eq_some_iff]
    exact ⟨r.values, ⟨finite.values, rfl⟩, r.changes, ⟨finite.changes, rfl⟩, rfl⟩

theorem isFaithful : IsFaithful α (IsFinite : Row α → Prop) := by
  refine .of_decode ?_ ?_
  · intro r finite
    exact JsonCodec.orMalformed_eq_ok.2 (decode?_eq_some_iff.2 ⟨finite, rfl⟩)
  · intro document r h
    exact (decode?_eq_some_iff.1 (JsonCodec.orMalformed_eq_ok.1 h)).1

end Systems.Row

/-- Each type that is exchanged as JSON is read back from what it is written as, exactly if its
numbers are finite, and what is read from any document is read back. An interval that is read has
the bounds that the document holds, finite and in order; an object that holds two numbers as bounds
is read as what `Interval.ofBounds` makes of them. -/
theorem json_agrees (α : Type) [Number α] :
    IsFaithful α (fun _ : Interval α => True) ∧
      IsFaithful α (fun _ : Status => True) ∧
      IsFaithful α (NumberRecord.IsFinite : Scalar.Bisection.Row α → Prop) ∧
      IsFaithful α (NumberRecord.IsFinite : Scalar.Chord.Row α → Prop) ∧
      IsFaithful α (NumberRecord.IsFinite : Scalar.Newton.Row α → Prop) ∧
      IsFaithful α (NumberRecord.IsFinite : Scalar.Secant.Row α → Prop) ∧
      IsFaithful α (NumberRecord.IsFinite : Scalar.SimpleIteration.Row α → Prop) ∧
      IsFaithful α (Systems.Row.IsFinite : Systems.Row α → Prop) ∧
      (∀ (document : Json α) (s : Interval α), JsonCodec.decode document = .ok s →
        isFinite s.left = true ∧ isFinite s.right = true ∧ s.left < s.right ∧
          NumberRecord.decode? document = some (⟨s.left, s.right⟩ : Bounds α)) ∧
      ∀ (entries : List (String × Json α)) (left right : α) (finite_left : isFinite left = true)
        (finite_right : isFinite right = true),
        entries.lookup "left" = some (.number left finite_left) →
        entries.lookup "right" = some (.number right finite_right) →
          JsonCodec.decode (.object entries) =
            (Interval.ofBounds left right).mapError .interval := by
  refine ⟨Interval.isFaithful, Status.isFaithful, NumberRecord.isFaithful, NumberRecord.isFaithful,
    NumberRecord.isFaithful, NumberRecord.isFaithful, NumberRecord.isFaithful,
    Systems.Row.isFaithful, ?_, ?_⟩
  · intro document s h
    exact ⟨s.finite_left, s.finite_right, s.left_lt_right, Interval.bounds_of_decode h⟩
  · intro entries left right finite_left finite_right hleft hright
    exact Interval.decode_of_bounds (Interval.decode?_object hleft hright)

end RootFinding

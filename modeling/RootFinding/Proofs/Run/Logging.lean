import RootFinding.Proofs.Run.Refinement

/-!
# What a call logs

A call logs what its observer logs at the events it receives, in their order, and nothing else
(`Scheme.log_call`). This holds of every observer, also of one that stops the call.

The observer that logs each event writes one record an event. `IsLine` says what the text of such a
record is, without the way in which it is put together: there is one field for each column, with the
cell of that column. So it says that no cell is lost, which is true only of rows that have as many
cells as columns (`IsTabular`). A threshold keeps all of these records or none (`Emits`).
-/

namespace RootFinding

variable {σ τ ρ ε η : Type}

/-! ## Entries of a call -/

namespace Scheme

/-- A pass logs what its observer logs at the events of the pass. -/
theorem log_run (scheme : Scheme σ ρ ε η) (o : Observer τ ρ) (ceiling first : Nat) (s : σ) :
    (scheme.run o ceiling first s).log.toList =
      o.entries (scheme.run o ceiling first s).events := by
  rcases scheme.run_cases o ceiling first s with ⟨-, hrun⟩ | ⟨before, row, rest, -, -, hrun⟩
  · simp [hrun, Course.shownTo, Pass.events, Course.events]
  · simp [hrun, Pass.stoppedAt, Pass.events]

/-- A call with one pass logs what its observer logs at the events of the call. -/
theorem log_call (scheme : Scheme σ ρ ε Unit) (o : Observer τ ρ) (ceiling first : Nat)
    (exhausted : ε) (start : Except ε σ) :
    (scheme.call o ceiling first exhausted start).log =
      o.entries (scheme.call o ceiling first exhausted start).events := by
  cases start with
  | error cause => rfl
  | ok s =>
    rw [call, ofPass_eq]
    exact scheme.log_run o ceiling first s

end Scheme

/-! ## Records of events -/

section Records

variable {α ω : Type} [TraceRow ρ α ω]

/-- A row that has all the cells it promises, one for each of its columns. -/
structure IsTabular (r : ρ) : Prop where
  complete : TraceRow.cells? r = some (TraceRow.cells r)
  length : (TraceRow.cells r).length = (TraceRow.columns r).length

/-- The field that shows a cell under the name of its column. -/
inductive IsField [NumberText α] (column : String) : Option α → String → Prop
  | value (x : α) : IsField column (some x) (column ++ "=" ++ NumberText.plain x)
  | missing : IsField column none (column ++ "=-")

/-- The line that tells of an event: its number, and a field for each column of its row, in their
order. -/
def IsLine [NumberText α] (name : String) (e : Event ρ) (text : String) : Prop :=
  ∃ (cells : List (Option α)) (fields : List String),
    TraceRow.cells? e.row = some cells ∧
    text = name ++ ": iter " ++ toString e.iter ++ ": " ++ ", ".intercalate fields ∧
    cells.length = (TraceRow.columns e.row).length ∧
    fields.length = (TraceRow.columns e.row).length ∧
    ∀ (i : Nat) (column : String) (cell : Option α) (field : String),
      (TraceRow.columns e.row)[i]? = some column → cells[i]? = some cell →
        fields[i]? = some field → IsField column cell field

/-- One record for each event, in their order. -/
def Records [NumberText α] (name : String) (level : Log.Level) (events : List (Event ρ))
    (entries : List Log.Entry) : Prop :=
  List.Forall₂ (fun e entry => entry.level = level ∧ IsLine name e entry.text) events entries

/-- What is kept under a threshold of the records of some events: all of them or none. -/
def Emits [NumberText α] (most : Log.Threshold) (name : String) (level : Log.Level)
    (events : List (Event ρ)) (entries : List Log.Entry) : Prop :=
  if most.admits level then Records name level events entries else entries = []

variable [NumberText α] {name : String} {level : Log.Level}

theorem isField_cellText (column : String) (cell : Option α) :
    IsField column cell (Observer.cellText column cell) := by
  cases cell with
  | some x => exact .value x
  | none =>
    have text : Observer.cellText column (none : Option α) = column ++ "=-" := by
      rw [Observer.cellText, Option.map_none, Option.getD_none, String.append_assoc]
      rfl
    rw [text]
    exact .missing

/-- The text that is logged of an event is its line: pairing columns with cells drops none. -/
theorem IsTabular.isLine {e : Event ρ} (h : IsTabular e.row) :
    IsLine name e (Observer.eventText name e) := by
  refine ⟨_, _, h.complete, rfl, h.length, ?_, ?_⟩
  · rw [List.length_zipWith, h.length, Nat.min_self]
  · intro i column cell field hcolumn hcell hfield
    rw [List.getElem?_zipWith, hcolumn, hcell] at hfield
    obtain rfl := Option.some.inj hfield
    exact isField_cellText column cell

namespace Observer

theorem isPassive_logging : (logging name level : Observer Unit ρ).IsPassive := fun _ _ => rfl

theorem after_logging (events : List (Event ρ)) :
    (logging name level : Observer Unit ρ).after events = logging name level := by
  induction events with
  | nil => rfl
  | cons e events ih => exact ih

theorem entries_logging (events : List (Event ρ)) :
    (logging name level : Observer Unit ρ).entries events =
      events.map fun e => ⟨level, eventText name e⟩ := by
  induction events with
  | nil => rfl
  | cons e events ih => exact congrArg (⟨level, eventText name e⟩ :: ·) ih

end Observer

/-- What a threshold keeps around an entry does not depend on whether it keeps this entry. -/
theorem Log.kept_append_cons (most : Threshold) (xs ys : List Entry) (entry : Entry) :
    kept most (xs ++ entry :: ys) =
      kept most xs ++ (if most.admits entry.level then [entry] else []) ++ kept most ys := by
  rw [kept, List.filter_append, List.filter_cons, List.append_assoc]
  split
  · rfl
  · rfl

/-- Of the records of events whose rows are tabular, a threshold keeps all or none. -/
theorem emits_kept (most : Log.Threshold) {events : List (Event ρ)}
    (tabular : ∀ e ∈ events, IsTabular e.row) :
    Emits most name level events
      (Log.kept most ((Observer.logging name level).entries events)) := by
  rw [Emits, Log.kept, Observer.entries_logging, List.filter_map]
  split
  · next admitted =>
    rw [Function.comp_def, List.filter_eq_self.2 (fun _ _ => admitted), Records,
      List.forall₂_map_right_iff, List.forall₂_same]
    exact fun e he => ⟨rfl, (tabular e he).isLine⟩
  · next refused =>
    rw [Function.comp_def, List.filter_eq_nil_iff.2 (fun _ _ => refused), List.map_nil]

/-- A call, with its observer left open, under the logging observer beside the same call under the
silent one: nothing is different but the log. `emitted` tells what is kept of the log under a
threshold, given the events. -/
structure LogsTransparently (most : Log.Threshold) (name : String) (level : Log.Level)
    (emitted : List (Event ρ) → List Log.Entry → Prop)
    (call : Observer Unit ρ → Run Unit ρ ε) : Prop where
  result : (call (.logging name level)).result = (call .silent).result
  events : (call (.logging name level)).events = (call .silent).events
  log : emitted (call (.logging name level)).events
    (Log.kept most (call (.logging name level)).log)

/-- The logging observer never acts, so it sees and changes what the silent one does. -/
theorem logsTransparently_of_refines {rowsOf : List (Event ρ) → List ρ}
    {call : ∀ {τ : Type}, Observer τ ρ → Run τ ρ ε} (refines : ObservationRefines rowsOf call)
    {most : Log.Threshold} {emitted : List (Event ρ) → List Log.Entry → Prop}
    (log : emitted (call (.logging name level)).events
      (Log.kept most (call (.logging name level)).log)) :
    LogsTransparently most name level emitted call := by
  have same := (refines .silent (.logging name level) Observer.isPassive_silent).unstopped
    (Observer.isPassive_logging.passes _)
  exact ⟨same.2, same.1, log⟩

/-- In a method with one pass, there is one record an event, if the rows are tabular. -/
theorem Scheme.call_logsTransparently (scheme : Scheme σ ρ ε Unit) (ceiling first : Nat)
    (exhausted : ε) (start : Except ε σ) (most : Log.Threshold)
    (tabular : ∀ r ∈
      (scheme.call (.logging name level) ceiling first exhausted start).rows, IsTabular r) :
    LogsTransparently most name level (Emits most name level)
      (fun o => scheme.call o ceiling first exhausted start) := by
  refine logsTransparently_of_refines (scheme.call_refines ceiling first exhausted start) ?_
  rw [scheme.log_call]
  exact emits_kept most fun e he => tabular e.row (List.mem_map_of_mem he)

end Records

end RootFinding

import SwapFeed.Proofs.Book.Basis
import SwapFeed.Proofs.Queue
import SwapFeed.Proofs.Stream.Delivery
import SwapFeed.Proofs.UpdateId
import SwapFeed.Source
import SwapFeed.Tracker

/-!
# Runs of a source with its books

A desk is a source together with the books that follow it.  Its steps are those of a program that
keeps books: a text of the stream is handled, the book of a pair is queried and a snapshot that
comes back is applied at once, or the waiting diffs are drained into the books.  A desk remembers
every diff that was taken from the queue, together with the books as the diff met them.

The history of a run is read off its steps alone: which changes the texts carry, which queries bring
a snapshot, and on which basis the book of a pair ought to stand.  None of it mentions ids, queues
or books.
-/

namespace SwapFeed

/-! ## Steps and desks -/

inductive DeskStep where
  /-- A text of the stream is handled. -/
  | receive (now : Int) (raw : String)
  /-- The book of a pair is queried, and a snapshot that comes back is applied. -/
  | query (now : Int) (answer : Answerer) (pair : String)
  /-- Diffs are taken from the queue until none is left. -/
  | drain

/-- A diff that was taken from the queue, and the books as it met them. -/
structure Arrival where
  message : BookMessage
  tracker : Tracker

structure Desk where
  source : Source
  tracker : Tracker
  /-- All diffs taken from the queue so far, oldest first. -/
  arrivals : List Arrival := []

namespace Desk

/-- A desk at which nothing has happened: no id is drawn, nothing waits, and every book is empty. -/
def opening (source : Source) (pairs : List String) : Desk where
  source := { source with feed := {} }
  tracker := Tracker.ofPairs pairs

def receive (desk : Desk) (now : Int) (raw : String) : Desk :=
  { desk with source := desk.source.process now raw }

def query (desk : Desk) (now : Int) (answer : Answerer) (pair : String) : Desk :=
  let (fetched, source) := desk.source.fetchSnapshot answer now pair
  match fetched.result with
  | .ok snapshot =>
      { desk with source := source, tracker := desk.tracker.applyMessage snapshot }
  | .error _ => { desk with source := source }

/-- Apply a diff to the books, and remember how it met them. -/
def take (desk : Desk) (message : BookMessage) : Desk :=
  { desk with
    tracker := desk.tracker.applyMessage message
    arrivals := desk.arrivals ++ [⟨message, desk.tracker⟩] }

def drain (desk : Desk) : Desk :=
  let (after, diffs) := desk.source.feed.diffs.consume take desk
  { after with source := { desk.source with feed := { desk.source.feed with diffs := diffs } } }

def step (desk : Desk) : DeskStep → Desk
  | .receive now raw => desk.receive now raw
  | .query now answer pair => desk.query now answer pair
  | .drain => desk.drain

def run (desk : Desk) (steps : List DeskStep) : Desk := steps.foldl step desk

/-- The diffs that wait in the queue, oldest first. -/
def waiting (desk : Desk) : List BookMessage := desk.source.feed.diffs.toList

/-- The last update id drawn. -/
def lastId (desk : Desk) : UInt64 := desk.source.feed.ids.last

@[simp] theorem run_nil (desk : Desk) : desk.run [] = desk := rfl

@[simp] theorem run_cons (desk : Desk) (step : DeskStep) (rest : List DeskStep) :
    desk.run (step :: rest) = (desk.step step).run rest := rfl

theorem run_append (desk : Desk) (first second : List DeskStep) :
    desk.run (first ++ second) = (desk.run first).run second :=
  List.foldl_append

end Desk

/-! ## The history of a run -/

namespace Source

/-- The change that a text carries, if it is a well-formed update of a book. -/
def changeOf? (source : Source) (raw : String) : Option BookChange :=
  match Delivery.ofText source.names source.table raw with
  | .diff change => some change
  | _ => none

theorem changeOf?_eq_some_iff {source : Source} {raw : String} {change : BookChange} :
    source.changeOf? raw = some change ↔
      ∃ message, Arrives source.names raw .diff message ∧
        message.getText? "action" = some "update" ∧ change.WrittenBy source.table message := by
  rw [← Delivery.ofText_eq_diff_iff, changeOf?]
  cases Delivery.ofText source.names source.table raw <;> simp

/-- The rows that a query of a pair's book brings, if it succeeds. -/
def rowsOf? (source : Source) (answer : Answerer) (pair : String) : Option SnapshotRow :=
  (SnapshotRow.fetch source.context answer pair).result.toOption

/-- The change that a step handles, if it handles one. -/
def changeIn? (source : Source) : DeskStep → Option BookChange
  | .receive _ raw => source.changeOf? raw
  | _ => none

@[simp] theorem changeIn?_receive (source : Source) (now : Int) (raw : String) :
    source.changeIn? (.receive now raw) = source.changeOf? raw := rfl

/-- The changes that steps handle, in order. -/
def changes (source : Source) (steps : List DeskStep) : List BookChange :=
  steps.filterMap source.changeIn?

/-- The changes of one pair that steps handle, in order. -/
def changesOf (source : Source) (pair : String) (steps : List DeskStep) : List BookChange :=
  (source.changes steps).filter fun change => change.pair = pair

/-- A step queries the book of a pair and brings a snapshot. -/
def Brings (source : Source) (pair : String) (row : SnapshotRow) : DeskStep → Prop
  | .query _ answer asked => asked = pair ∧ source.rowsOf? answer asked = some row
  | _ => False

/-- A step applies a snapshot of a pair. -/
def Quotes (source : Source) (pair : String) (step : DeskStep) : Prop :=
  ∃ row, source.Brings pair row step

theorem not_quotes_receive (source : Source) (pair : String) (now : Int) (raw : String) :
    ¬source.Quotes pair (.receive now raw) := by
  intro quotes
  rcases quotes with ⟨row, brings⟩
  exact brings

/-- The basis of a pair's book after one more step: a snapshot of the pair is a new basis, and a
change of the pair is put on top of the one there is. -/
def note (source : Source) (pair : String) (basis : Option Basis) : DeskStep → Option Basis
  | .receive _ raw =>
      match source.changeOf? raw with
      | some change => if change.pair = pair then basis.map (·.extend [change]) else basis
      | none => basis
  | .query _ answer asked =>
      if asked = pair then
        match source.rowsOf? answer asked with
        | some row => some ⟨row, []⟩
        | none => basis
      else basis
  | .drain => basis

/-- The basis on which the book of a pair ought to stand after all of some steps. -/
def basis (source : Source) (pair : String) (steps : List DeskStep) : Option Basis :=
  steps.foldl (source.note pair) none

@[simp] theorem changes_append (source : Source) (first second : List DeskStep) :
    source.changes (first ++ second) = source.changes first ++ source.changes second :=
  List.filterMap_append

theorem changes_append_singleton (source : Source) (steps : List DeskStep) (step : DeskStep) :
    source.changes (steps ++ [step]) = source.changes steps ++ (source.changeIn? step).toList := by
  cases carries : source.changeIn? step <;> simp [changes, carries]

theorem basis_append_singleton (source : Source) (pair : String) (steps : List DeskStep)
    (step : DeskStep) :
    source.basis pair (steps ++ [step]) = source.note pair (source.basis pair steps) step := by
  simp [basis]

theorem note_of_brings {source : Source} {pair : String} {row : SnapshotRow} {step : DeskStep}
    (brings : source.Brings pair row step) (basis : Option Basis) :
    source.note pair basis step = some ⟨row, []⟩ := by
  cases step with
  | query now answer asked =>
      rcases brings with ⟨rfl, found⟩
      simp [note, found]
  | receive now raw => exact brings.elim
  | drain => exact brings.elim

@[simp] theorem changesOf_nil (source : Source) (pair : String) : source.changesOf pair [] = [] :=
  rfl

theorem changesOf_cons (source : Source) (pair : String) (step : DeskStep)
    (rest : List DeskStep) :
    source.changesOf pair (step :: rest) =
      source.changesOf pair [step] ++ source.changesOf pair rest := by
  rw [← List.singleton_append, changesOf, changes_append, List.filter_append]
  rfl

theorem changesOf_singleton (source : Source) (pair : String) (step : DeskStep) :
    source.changesOf pair [step] =
      (source.changeIn? step).toList.filter fun change => change.pair = pair := by
  cases carries : source.changeIn? step <;> simp [changesOf, changes, carries]

/-- A step without a snapshot of the pair at most puts changes on top. -/
theorem note_of_not_quotes {source : Source} {pair : String} {step : DeskStep}
    (quiet : ¬source.Quotes pair step) (basis : Option Basis) :
    source.note pair basis step = basis.map (·.extend (source.changesOf pair [step])) := by
  rw [changesOf_singleton]
  cases step with
  | drain => simp [note, changeIn?]
  | query now answer asked =>
      simp only [note, changeIn?, Option.toList_none, List.filter_nil, Basis.extend_nil,
        Option.map_id']
      split
      · next same =>
          split
          · next row found => exact (quiet ⟨row, same, found⟩).elim
          · rfl
      · rfl
  | receive now raw =>
      simp only [note, changeIn?_receive]
      cases source.changeOf? raw with
      | none => simp
      | some change => by_cases same : change.pair = pair <;> simp [same]

theorem foldl_note_of_not_quotes {source : Source} {pair : String} {steps : List DeskStep}
    (quiet : ∀ step ∈ steps, ¬source.Quotes pair step) (basis : Option Basis) :
    steps.foldl (source.note pair) basis =
      basis.map (·.extend (source.changesOf pair steps)) := by
  induction steps generalizing basis with
  | nil => simp
  | cons step rest inductionStep =>
      obtain ⟨stepQuiet, restQuiet⟩ := List.forall_mem_cons.mp quiet
      rw [List.foldl_cons, note_of_not_quotes stepQuiet, inductionStep restQuiet,
        changesOf_cons source pair step rest]
      cases basis <;> simp

/-- Without a snapshot there is no basis. -/
theorem basis_of_not_quotes {source : Source} {pair : String} {steps : List DeskStep}
    (quiet : ∀ step ∈ steps, ¬source.Quotes pair step) : source.basis pair steps = none := by
  rw [basis, foldl_note_of_not_quotes quiet]
  rfl

/-- The last snapshot counts, with the changes of its pair after it. -/
theorem basis_of_brings {source : Source} {pair : String} {row : SnapshotRow}
    {before after : List DeskStep} {step : DeskStep} (brings : source.Brings pair row step)
    (quiet : ∀ later ∈ after, ¬source.Quotes pair later) :
    source.basis pair (before ++ step :: after) = some ⟨row, source.changesOf pair after⟩ := by
  rw [basis, List.foldl_append, List.foldl_cons, note_of_brings brings,
    foldl_note_of_not_quotes quiet]
  rfl

end Source

/-- The clock readings of a step are in range. -/
def DeskStep.ClockInRange : DeskStep → Prop
  | receive now _ => Source.PlausibleClock now
  | query now _ _ => Source.PlausibleClock now
  | drain => True

instance : DecidablePred DeskStep.ClockInRange
  | .receive now _ => inferInstanceAs (Decidable (Source.PlausibleClock now))
  | .query now _ _ => inferInstanceAs (Decidable (Source.PlausibleClock now))
  | .drain => inferInstanceAs (Decidable True)

/-- A source for one pair. -/
def bitcoinSource : Source where
  settings := {}
  table := .ofPairs ["BTC-USDT"]

/-! ## Texts on the wire -/

namespace Wire

/-- An update of a book, with its time and rows as they are written. -/
def update (instrument millis bids asks : String) : String :=
  "\x7b\"arg\":\x7b\"channel\":\"books\",\"instId\":\"" ++ instrument ++
    "\"\x7d,\"action\":\"update\",\"data\":[\x7b\"ts\":\"" ++ millis ++
    "\",\"bids\":" ++ bids ++ ",\"asks\":" ++ asks ++ "\x7d]\x7d"

/-- The body of a reply with one book. -/
def snapshot (millis bids asks : String) : String :=
  "\x7b\"code\":\"0\",\"data\":[\x7b\"ts\":\"" ++ millis ++ "\",\"bids\":" ++ bids ++
    ",\"asks\":" ++ asks ++ "\x7d]\x7d"

end Wire

/-! ## The books of a tracker -/

namespace Tracker

/-- A message reaches each book that there is. -/
@[simp] theorem book?_applyMessage (tracker : Tracker) (message : BookMessage) (pair : String) :
    (tracker.applyMessage message).book? pair = (tracker.book? pair).map (·.apply message) := by
  simp only [book?, applyMessage, List.find?_map, Function.comp_def, Book.pair_apply]

theorem pair_of_book? {tracker : Tracker} {pair : String} {book : Book}
    (found : tracker.book? pair = some book) : book.pair = pair := by
  have accepted := List.find?_some found
  exact of_decide_eq_true accepted

/-- The book of a pair is empty at first. -/
theorem book?_ofPairs {pairs : List String} {pair : String} (tracked : pair ∈ pairs) :
    (ofPairs pairs).book? pair = some { pair := pair } := by
  have member : pair ∈ pairs.eraseDups := List.mem_eraseDups.mpr tracked
  simp only [book?, ofPairs, List.find?_map, Function.comp_def]
  generalize pairs.eraseDups = names at member
  induction names with
  | nil => simp at member
  | cons name rest step =>
      by_cases here : name = pair
      · simp [here]
      · have later : pair ∈ rest := (List.mem_cons.mp member).resolve_left (Ne.symm here)
        simpa [here] using step later

end Tracker

end SwapFeed

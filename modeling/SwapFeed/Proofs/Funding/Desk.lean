import Mathlib.Data.List.Induction
import SwapFeed.Funding
import SwapFeed.Proofs.Queue
import SwapFeed.Proofs.Stream.Queues
import SwapFeed.Source

/-!
# Runs of a source with a funding state

A funding desk is a source together with the funding state of one pair.  Its steps are those of a
program that keeps the state: full information is applied, a text of the stream is handled, and
waiting updates are applied one at a time or until none is left.

What has reached the state is told without updates and queues, by the entries of the texts alone:
entries wait in the order in which they were sent, those of all pairs together, and reach the state
in that order.
-/

namespace SwapFeed

/-! ## Steps and desks -/

inductive FundingStep where
  /-- Full information is applied to the state. -/
  | seed (full : FundingInfo)
  /-- A text of the stream is handled. -/
  | receive (now : Int) (raw : String)
  /-- The oldest waiting update is applied, if there is one. -/
  | take
  /-- Waiting updates are applied until none is left. -/
  | drain

structure FundingDesk where
  source : Source
  state : FundingState

namespace FundingDesk

/-- A desk at which nothing has happened: nothing waits, and nothing is known about the pair. -/
def opening (source : Source) (pair : String) : FundingDesk where
  source := { source with feed := {} }
  state := .ofPair pair

/-- A desk with other funding updates waiting. -/
def withWaiting (desk : FundingDesk) (funding : EventQueue FundingUpdate) : FundingDesk :=
  { desk with source := { desk.source with feed := { desk.source.feed with funding := funding } } }

def take (desk : FundingDesk) : FundingDesk :=
  match desk.source.feed.funding.pop? with
  | some (update, rest) => { desk.withWaiting rest with state := desk.state.patch update }
  | none => desk

def drain (desk : FundingDesk) : FundingDesk :=
  let (state, rest) := desk.source.feed.funding.consume FundingState.patch desk.state
  { desk.withWaiting rest with state := state }

def step (desk : FundingDesk) : FundingStep → FundingDesk
  | .seed full => { desk with state := desk.state.seed full }
  | .receive now raw => { desk with source := desk.source.process now raw }
  | .take => desk.take
  | .drain => desk.drain

def run (desk : FundingDesk) (steps : List FundingStep) : FundingDesk := steps.foldl step desk

/-- Query funding information of a pair, and apply what comes back. -/
def ask (desk : FundingDesk) (answer : Answerer) (pair : String) : FundingDesk :=
  match (desk.source.fetchFunding answer pair).result with
  | .ok full => desk.step (.seed full)
  | .error _ => desk

/-- The updates that wait in the queue, oldest first. -/
def waiting (desk : FundingDesk) : List FundingUpdate := desk.source.feed.funding.toList

@[simp] theorem run_append_singleton (desk : FundingDesk) (steps : List FundingStep)
    (step : FundingStep) : desk.run (steps ++ [step]) = (desk.run steps).step step := by
  simp [run]

theorem take_of_waiting_nil {desk : FundingDesk} (empty : desk.waiting = []) :
    desk.take = desk := by
  rw [take, (EventQueue.pop?_eq_none_iff _).mpr empty]

/-- The oldest update is taken off and applied. -/
theorem take_of_waiting_cons {desk : FundingDesk} {update : FundingUpdate}
    {others : List FundingUpdate} (oldest : desk.waiting = update :: others) :
    desk.take.waiting = others ∧ desk.take.state = desk.state.patch update ∧
      desk.take.source = { desk.source with feed := desk.take.source.feed } := by
  cases popped : desk.source.feed.funding.pop? with
  | none =>
      have empty : desk.waiting = [] := (EventQueue.pop?_eq_none_iff _).mp popped
      rw [empty] at oldest
      cases oldest
  | some found =>
      obtain ⟨first, rest⟩ := found
      have same : first :: rest.toList = update :: others :=
        (EventQueue.toList_of_pop? popped).symm.trans oldest
      rw [List.cons.injEq] at same
      rcases same with ⟨rfl, rfl⟩
      simp [take, popped, withWaiting, waiting]

theorem waiting_drain (desk : FundingDesk) : desk.drain.waiting = [] := by
  simp [drain, withWaiting, waiting]

theorem state_drain (desk : FundingDesk) :
    desk.drain.state = desk.waiting.foldl FundingState.patch desk.state := by
  simp [drain, waiting, EventQueue.consume_fst]

/-- Asking leaves the source alone, whatever comes back. -/
theorem source_ask (desk : FundingDesk) (answer : Answerer) (pair : String) :
    (desk.ask answer pair).source = desk.source := by
  rw [ask]
  split
  · rfl
  · rfl

end FundingDesk

/-! ## What reaches the state -/

/-- A text is a well-formed delta about a pair, with some entries. -/
structure Source.Reports (source : Source) (raw pair : String) (entries : List Json) : Prop where
  delta : ∃ message, Arrives source.names raw .funding message ∧
    message.getText? "type" = some "delta" ∧
    FundingUpdate.Announces source.table message pair entries
  wellFormed : ∀ entry ∈ entries, ∃ update : FundingUpdate, update.WrittenBy pair entry

/-- What reaches a funding state: full information, or an entry of a delta about a pair. -/
inductive FundingNews where
  | full (info : FundingInfo)
  | entry (pair : String) (entry : Json)

namespace FundingNews

/-- The entries of a delta about a pair, in order. -/
def ofDelta (pair : String) (entries : List Json) : List FundingNews :=
  entries.map (entry pair)

end FundingNews

/-- What waits and what has reached the state after some steps. -/
inductive FundingHistory (source : Source) :
    List FundingStep → (waiting reached : List FundingNews) → Prop where
  | opening : FundingHistory source [] [] []
  | seed {steps : List FundingStep} {waiting reached : List FundingNews} (full : FundingInfo)
      (before : FundingHistory source steps waiting reached) :
      FundingHistory source (steps ++ [.seed full]) waiting (reached ++ [.full full])
  | delta {steps : List FundingStep} {waiting reached : List FundingNews} {now : Int}
      {raw pair : String} {entries : List Json}
      (before : FundingHistory source steps waiting reached)
      (reports : source.Reports raw pair entries) :
      FundingHistory source (steps ++ [.receive now raw])
        (waiting ++ FundingNews.ofDelta pair entries) reached
  | silent {steps : List FundingStep} {waiting reached : List FundingNews} {now : Int}
      {raw : String} (before : FundingHistory source steps waiting reached)
      (silent : ∀ pair entries, ¬source.Reports raw pair entries) :
      FundingHistory source (steps ++ [.receive now raw]) waiting reached
  | idle {steps : List FundingStep} {reached : List FundingNews}
      (before : FundingHistory source steps [] reached) :
      FundingHistory source (steps ++ [.take]) [] reached
  | take {steps : List FundingStep} {waiting reached : List FundingNews} {oldest : FundingNews}
      (before : FundingHistory source steps (oldest :: waiting) reached) :
      FundingHistory source (steps ++ [.take]) waiting (reached ++ [oldest])
  | drain {steps : List FundingStep} {waiting reached : List FundingNews}
      (before : FundingHistory source steps waiting reached) :
      FundingHistory source (steps ++ [.drain]) [] (reached ++ waiting)

/-- An update says what an entry says. -/
inductive FundingNews.Tells : FundingNews → FundingUpdate → Prop where
  | entry {pair : String} {entry : Json} {update : FundingUpdate}
      (written : update.WrittenBy pair entry) : Tells (.entry pair entry) update

namespace Source

/-- A delta adds one update per entry, in order. -/
theorem funding_process_of_reports {source : Source} {raw pair : String} {entries : List Json}
    (reports : source.Reports raw pair entries) (now : Int) :
    ∃ updates, (source.process now raw).feed.funding.toList =
        source.feed.funding.toList ++ updates ∧
      List.Forall₂ FundingNews.Tells (FundingNews.ofDelta pair entries) updates := by
  rcases reports with ⟨⟨message, arrives, delta, announces⟩, wellFormed⟩
  rcases exists_forall₂_or_exists_bad (fun entry (update : FundingUpdate) =>
    update.WrittenBy pair entry) entries with ⟨updates, written⟩ | ⟨entry, member, bad⟩
  · refine ⟨updates, funding_process_of_written arrives delta announces written now, ?_⟩
    rw [FundingNews.ofDelta, List.forall₂_map_left_iff]
    exact written.imp fun entry update written => .entry written
  · obtain ⟨update, written⟩ := wellFormed entry member
    exact (bad update written).elim

/-- A text that is no well-formed delta adds nothing. -/
theorem funding_process_of_silent {source : Source} {raw : String}
    (silent : ∀ pair entries, ¬source.Reports raw pair entries) (now : Int) :
    (source.process now raw).feed.funding.toList = source.feed.funding.toList := by
  obtain ⟨part, is⟩ := Part.exists_from source.names source.table raw
  have gains : source.feed.Gains (source.process now raw).feed _ :=
    source.feed.gains_process is (clockWord now)
  have gained := gains.funding
  cases is with
  | @updates message pair entries updates arrives delta announces written =>
      refine (silent pair entries ⟨⟨message, arrives, delta, announces⟩, ?_⟩).elim
      intro entry member
      obtain ⟨update, -, found⟩ := exists_of_forall₂ written member
      exact ⟨update, found⟩
  | _ => simpa using gained

/-- Texts change nothing of a source that a delta depends on. -/
theorem reports_iff_of_eq {source other : Source}
    (serves : other = { source with feed := other.feed }) {raw pair : String}
    {entries : List Json} : other.Reports raw pair entries ↔ source.Reports raw pair entries := by
  rw [serves]
  exact ⟨fun reports => ⟨reports.delta, reports.wellFormed⟩,
    fun reports => ⟨reports.delta, reports.wellFormed⟩⟩

end Source

end SwapFeed

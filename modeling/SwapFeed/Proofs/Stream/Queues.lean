import SwapFeed.Proofs.Stream.Delivery
import SwapFeed.Source

/-!
# What a run of texts leaves in the queues

Each queue gains the events of the texts in order: the trades of all well-formed trade messages, one
diff per well-formed update, the funding updates of all well-formed deltas.  A text touches the
queue of its channel only, and a dropped text touches nothing, update ids included.
-/

namespace SwapFeed

/-- A diff carries a change, under whatever id. -/
def BookMessage.Carries (message : BookMessage) (change : BookChange) : Prop :=
  ∃ updateId, message = change.toDiff updateId

namespace Feed

/-! ## Gains -/

/-- The queues of a feed gain the events of some parts, in order, and nothing else. -/
structure Gains (feed after : Feed) (parts : List Part) : Prop where
  trades : after.trades.toList = feed.trades.toList ++ parts.flatMap (·.trades)
  funding : after.funding.toList = feed.funding.toList ++ parts.flatMap (·.updates)
  diffs : ∃ diffs, after.diffs.toList = feed.diffs.toList ++ diffs ∧
    List.Forall₂ (fun change diff => diff.Carries change) (parts.flatMap (·.changes)) diffs

theorem Gains.refl (feed : Feed) : feed.Gains feed [] where
  trades := by simp
  funding := by simp
  diffs := ⟨[], by simp, .nil⟩

theorem Gains.trans {feed between after : Feed} {first second : List Part}
    (early : feed.Gains between first) (late : between.Gains after second) :
    feed.Gains after (first ++ second) where
  trades := by rw [late.trades, early.trades, List.flatMap_append, List.append_assoc]
  funding := by rw [late.funding, early.funding, List.flatMap_append, List.append_assoc]
  diffs := by
    obtain ⟨earlyDiffs, earlyQueue, earlyCarried⟩ := early.diffs
    obtain ⟨lateDiffs, lateQueue, lateCarried⟩ := late.diffs
    refine ⟨earlyDiffs ++ lateDiffs, ?_, ?_⟩
    · rw [lateQueue, earlyQueue, List.append_assoc]
    · rw [List.flatMap_append]
      exact List.rel_append earlyCarried lateCarried

/-- A delivery adds its events. -/
theorem gains_deliver (feed : Feed) (now : UInt64) (delivery : Delivery) :
    feed.Gains (feed.deliver now delivery) [Part.ofDelivery delivery] := by
  cases delivery with
  | trades trades =>
      constructor
      · simp [deliver, Part.ofDelivery]
      · simp [deliver, Part.ofDelivery]
      · exact ⟨[], by simp [deliver], .nil⟩
  | diff change =>
      constructor
      · simp [deliver, Part.ofDelivery]
      · simp [deliver, Part.ofDelivery]
      · exact ⟨[change.toDiff (change.nextIds now feed.ids).last], by simp [deliver],
          .cons ⟨_, rfl⟩ .nil⟩
  | funding updates =>
      constructor
      · simp [deliver, Part.ofDelivery]
      · simp [deliver, Part.ofDelivery]
      · exact ⟨[], by simp [deliver], .nil⟩
  | dropped log =>
      constructor
      · simp [Part.ofDelivery]
      · simp [Part.ofDelivery]
      · exact ⟨[], by simp, .nil⟩

/-- A text adds the events of the part that it is. -/
theorem gains_process (feed : Feed) {names : ChannelNames} {table : SymbolTable} {raw : String}
    {part : Part} (is : Part.From names table raw part) (now : UInt64) :
    feed.Gains (feed.process names table now raw) [part] := by
  rw [is.eq_ofDelivery]
  exact feed.gains_deliver now (Delivery.ofText names table raw)

/-! ## Frames -/

end Feed

namespace Source

/-- A delta whose entries are well formed adds one update for each of them, in order. -/
theorem funding_process_of_written {source : Source} {raw pair : String} {message : Json}
    {entries : List Json} {updates : List FundingUpdate}
    (arrives : Arrives source.names raw .funding message)
    (delta : message.getText? "type" = some "delta")
    (announces : FundingUpdate.Announces source.table message pair entries)
    (written : List.Forall₂ (fun entry update => update.WrittenBy pair entry) entries updates)
    (now : Int) :
    (source.process now raw).feed.funding.toList = source.feed.funding.toList ++ updates := by
  have is : Part.From source.names source.table raw { updates := updates } :=
    .updates arrives delta announces written
  have gains : source.feed.Gains (source.process now raw).feed _ :=
    source.feed.gains_process is (clockWord now)
  simpa using gains.funding

/-! ## Runs -/

/-- Handle texts one after the other, each at its clock reading. -/
def processAll (source : Source) (texts : List (Int × String)) : Source :=
  texts.foldl (fun source text => source.process text.1 text.2) source

/-- What each of some texts is as a part of the stream. -/
def PartsOf (source : Source) (texts : List (Int × String)) (parts : List Part) : Prop :=
  List.Forall₂ (fun text part => Part.From source.names source.table text.2 part) texts parts

theorem exists_partsOf (source : Source) (texts : List (Int × String)) :
    ∃ parts, source.PartsOf texts parts := by
  induction texts with
  | nil => exact ⟨[], .nil⟩
  | cons text rest step =>
      rcases step with ⟨parts, there⟩
      obtain ⟨part, here⟩ := Part.exists_from source.names source.table text.2
      exact ⟨part :: parts, .cons here there⟩

theorem gains_processAll {source : Source} {texts : List (Int × String)} {parts : List Part}
    (are : source.PartsOf texts parts) :
    source.feed.Gains (source.processAll texts).feed parts := by
  induction texts generalizing source parts with
  | nil =>
      cases are
      exact .refl source.feed
  | cons text rest step =>
      cases are with
      | cons here there =>
          have first := source.feed.gains_process here (clockWord text.1)
          have remaining : (source.process text.1 text.2).PartsOf rest _ := there
          exact first.trans (step remaining)

end Source

end SwapFeed

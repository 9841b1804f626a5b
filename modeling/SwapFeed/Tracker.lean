import SwapFeed.Book.Basic
import SwapFeed.Funding
import SwapFeed.Stream.Feed

/-!
# Books and funding states of the configured pairs

A tracker keeps one book and one funding state per pair.  Fetched snapshots and funding information
are applied at once; diffs and funding updates are taken from the queues in order.
-/

namespace SwapFeed

structure Tracker where
  books : List Book
  funding : List FundingState
  deriving DecidableEq, Inhabited, Repr

namespace Tracker

/-- A tracker of pairs about which nothing is known. -/
def ofPairs (pairs : List String) : Tracker where
  books := pairs.eraseDups.map fun pair => { pair := pair }
  funding := pairs.eraseDups.map FundingState.ofPair

def book? (tracker : Tracker) (pair : String) : Option Book :=
  tracker.books.find? fun book => book.pair = pair

def funding? (tracker : Tracker) (pair : String) : Option FundingState :=
  tracker.funding.find? fun state => state.info.pair = pair

/-- Apply a message to the book of its pair; the books of other pairs do not accept it. -/
def applyMessage (tracker : Tracker) (message : BookMessage) : Tracker :=
  { tracker with books := tracker.books.map (·.apply message) }

/-- Whether the book of a message's pair accepts it; `none` if there is no such book. -/
def accepts? (tracker : Tracker) (message : BookMessage) : Option Bool :=
  (tracker.book? message.pair).map (·.accepts message)

def seed (tracker : Tracker) (info : FundingInfo) : Tracker :=
  { tracker with funding := tracker.funding.map (·.seed info) }

def patch (tracker : Tracker) (update : FundingUpdate) : Tracker :=
  { tracker with funding := tracker.funding.map (·.patch update) }

/-- Apply diffs one after the other, and tell of each whether it was accepted. -/
def applyDiffs (tracker : Tracker) : List BookMessage → List (Option Bool) × Tracker
  | [] => ([], tracker)
  | message :: rest =>
      let (accepted, after) := applyDiffs (tracker.applyMessage message) rest
      (tracker.accepts? message :: accepted, after)

/-- Take all waiting diffs and funding updates from the queues of a feed. -/
def drain (tracker : Tracker) (feed : Feed) : List (Option Bool) × Tracker × Feed :=
  let (accepted, after) := tracker.applyDiffs feed.diffs.toList
  (accepted, feed.funding.toList.foldl patch after, { feed with diffs := {}, funding := {} })

end Tracker

end SwapFeed

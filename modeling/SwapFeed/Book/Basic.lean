import SwapFeed.Book.Side

/-!
# Order books

The book of one pair starts from a snapshot and follows the diffs after it.  Diffs carry absolute
sizes, and a diff whose id is not above that of the last accepted message is stale.
-/

namespace SwapFeed

structure Book where
  pair : String
  bids : Side := []
  asks : Side := []
  /-- The id of the last accepted message. -/
  lastUpdateId : UInt64 := 0
  /-- Whether a snapshot has been accepted. -/
  ready : Bool := false
  deriving DecidableEq, Inhabited, Repr

namespace Book

/-- Whether a message concerns this book and is not stale. -/
def accepts (book : Book) (message : BookMessage) : Bool :=
  message.pair = book.pair &&
    match message.kind with
    | .snapshot => true
    | .diff => book.ready && book.lastUpdateId < message.updateId

/-- Write a message's levels over given sides. -/
def written (book : Book) (message : BookMessage) (bids asks : Side) : Book :=
  { book with
    bids := Side.writeAll .bids bids message.bids
    asks := Side.writeAll .asks asks message.asks
    lastUpdateId := message.updateId
    ready := true }

/-- The book after a message; a message that is not accepted changes nothing. -/
def apply (book : Book) (message : BookMessage) : Book :=
  if book.accepts message then
    match message.kind with
    | .snapshot => book.written message [] []
    | .diff => book.written message book.bids book.asks
  else book

def bestBid (book : Book) : Option Level := book.bids.head?

def bestAsk (book : Book) : Option Level := book.asks.head?

/-- The best bids, at most so many. -/
def topBids (book : Book) (count : Nat) : List Level := book.bids.take count

/-- The best asks, at most so many. -/
def topAsks (book : Book) (count : Nat) : List Level := book.asks.take count

theorem apply_of_not_accepts {book : Book} {message : BookMessage}
    (refused : book.accepts message = false) : book.apply message = book := by
  simp [apply, refused]

@[simp] theorem pair_apply (book : Book) (message : BookMessage) :
    (book.apply message).pair = book.pair := by
  unfold apply
  split
  · split <;> rfl
  · rfl

end Book

end SwapFeed

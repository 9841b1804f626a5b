import SwapFeed.Event

/-!
# Funding state

The latest funding picture of one pair: set as a whole by full information, changed field by field
by sparse updates.
-/

namespace SwapFeed

structure FundingState where
  info : FundingInfo
  /-- Whether full information has been applied. -/
  seeded : Bool := false
  deriving DecidableEq, Inhabited, Repr

namespace FundingState

/-- The state of a pair about which nothing is known. -/
def ofPair (pair : String) : FundingState where
  info := { pair := pair }

/-- Replace the picture by full information on the same pair. -/
def seed (state : FundingState) (full : FundingInfo) : FundingState :=
  if full.pair = state.info.pair then ⟨full, true⟩ else state

/-- Change the fields that an update on the same pair sets. -/
def patch (state : FundingState) (update : FundingUpdate) : FundingState :=
  if update.pair = state.info.pair then
    { state with
      info :=
        { state.info with
          indexPrice := update.indexPrice.getD state.info.indexPrice
          markPrice := update.markPrice.getD state.info.markPrice
          nextFunding := update.nextFunding.getD state.info.nextFunding
          rate := update.rate.getD state.info.rate } }
  else state

@[simp] theorem pair_seed (state : FundingState) (full : FundingInfo) :
    (state.seed full).info.pair = state.info.pair := by
  unfold seed
  split
  next same => exact same
  next => rfl

@[simp] theorem pair_patch (state : FundingState) (update : FundingUpdate) :
    (state.patch update).info.pair = state.info.pair := by
  unfold patch
  split <;> rfl

@[simp] theorem seeded_patch (state : FundingState) (update : FundingUpdate) :
    (state.patch update).seeded = state.seeded := by
  unfold patch
  split <;> rfl

end FundingState

end SwapFeed

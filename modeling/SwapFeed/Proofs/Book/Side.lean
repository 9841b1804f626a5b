import SwapFeed.Book.Side

/-!
# What a side of a book means

A side lists levels, and its meaning is the size offered at each price.  Two prices are the same if
they have one position in the order of numbers, so both zeros are one price.  Writing rows over a
side makes the last row at a price decide the size there, and keeps the side canonical: best price
first, no price twice, and no level without size.

Both price orders are treated at once.  All that is used of an order is that it compares ranks.
-/

namespace SwapFeed

/-- Whether a level stands at a price. -/
abbrev Level.IsAt (level : Level) (price : Double) : Prop :=
  level.price.position = price.position

/-- The size that a row leaves at its price. -/
def Level.remaining (row : Level) : Option Double :=
  if row.size.isZero then none else some row.size

namespace PriceOrder

/-- An order of prices that compares ranks; prices of one rank are the same price. -/
structure RankedBy (better : PriceOrder) (rank : Double → Int) : Prop where
  better_iff : ∀ {left right : Double}, left.isNaN = false → right.isNaN = false →
    (better left right = true ↔ rank left < rank right)
  rank_eq_iff : ∀ {left right : Double},
    rank left = rank right ↔ left.position = right.position

theorem asks_rankedBy : asks.RankedBy Double.position where
  better_iff := by
    intro left right leftNumber rightNumber
    simp [asks, Double.less, leftNumber, rightNumber]
  rank_eq_iff := Iff.rfl

theorem bids_rankedBy : bids.RankedBy fun price => -price.position where
  better_iff := by
    intro left right leftNumber rightNumber
    simp [bids, Double.less, leftNumber, rightNumber]
  rank_eq_iff := by
    intro left right
    exact Int.neg_inj

variable {better : PriceOrder} {rank : Double → Int} {left right : Double}

/-- On numbers, prices that neither beats the other are the same price. -/
theorem RankedBy.alike_iff (ranked : better.RankedBy rank) (leftNumber : left.isNaN = false)
    (rightNumber : right.isNaN = false) :
    better.alike left right = true ↔ left.position = right.position := by
  simp only [alike, Bool.and_eq_true, Bool.not_eq_true', Bool.eq_false_iff, ne_eq,
    ranked.better_iff leftNumber rightNumber, ranked.better_iff rightNumber leftNumber,
    ← ranked.rank_eq_iff]
  omega

theorem RankedBy.trans (ranked : better.RankedBy rank) {first second third : Double}
    (firstNumber : first.isNaN = false) (secondNumber : second.isNaN = false)
    (thirdNumber : third.isNaN = false) (ahead : better first second = true)
    (behind : better second third = true) : better first third = true := by
  rw [ranked.better_iff firstNumber secondNumber] at ahead
  rw [ranked.better_iff secondNumber thirdNumber] at behind
  rw [ranked.better_iff firstNumber thirdNumber]
  omega

end PriceOrder

namespace Side

/-- The size at a price, if there is a level. -/
def sizeAt (price : Double) : Side → Option Double
  | [] => none
  | level :: rest => if level.IsAt price then some level.size else sizeAt price rest

/-- The last of the rows at a price. -/
def lastRow? (price : Double) (rows : List Level) : Option Level :=
  rows.reverse.find? fun row => decide (row.IsAt price)

/-- The size that rows written over an empty side leave at a price: that of the last row there,
unless it is zero. -/
def lastSize (price : Double) (rows : List Level) : Option Double :=
  (lastRow? price rows).bind Level.remaining

/-- Prices are numbers. -/
def Numeric (levels : List Level) : Prop :=
  ∀ level ∈ levels, level.price.isNaN = false

instance (levels : List Level) : Decidable (Numeric levels) :=
  inferInstanceAs (Decidable (∀ level ∈ levels, _))

/-- Best price first, no price twice, and no level without size. -/
structure Canonical (better : PriceOrder) (side : Side) : Prop where
  numeric : Numeric side
  ordered : side.Pairwise fun ahead behind => better ahead.price behind.price = true
  sized : ∀ level ∈ side, level.size.isZero = false

theorem numeric_append {first second : List Level} (firstNumeric : Numeric first)
    (secondNumeric : Numeric second) : Numeric (first ++ second) := by
  intro level member
  rcases List.mem_append.mp member with early | late
  · exact firstNumeric level early
  · exact secondNumeric level late

theorem numeric_flatMap {α : Type} {sources : List α} {rows : α → List Level}
    (numeric : ∀ source ∈ sources, Numeric (rows source)) :
    Numeric (sources.flatMap rows) := by
  intro level member
  obtain ⟨source, sourceMember, here⟩ := List.mem_flatMap.mp member
  exact numeric source sourceMember level here

theorem canonical_nil (better : PriceOrder) : Canonical better [] where
  numeric := by simp [Numeric]
  ordered := .nil
  sized := by simp

theorem lastRow?_cons (price : Double) (row : Level) (rest : List Level) :
    lastRow? price (row :: rest) =
      (lastRow? price rest).or (if row.IsAt price then some row else none) := by
  unfold lastRow?
  rw [List.reverse_cons, List.find?_append]
  by_cases here : row.IsAt price <;> simp [here]

/-! ## Setting a size -/

/-- A level after setting a size is an old one, or it has the new size at the new or an old
price. -/
theorem mem_put {better : PriceOrder} {price size : Double} {side : Side} {level : Level}
    (member : level ∈ put better price size side) :
    level ∈ side ∨
      level.size = size ∧ (level.price = price ∨ ∃ old ∈ side, old.price = level.price) := by
  induction side with
  | nil =>
      have new : level = ⟨price, size⟩ := by simpa [put] using member
      subst new
      exact .inr ⟨rfl, .inl rfl⟩
  | cons head rest step =>
      simp only [put] at member
      split at member
      · rcases List.mem_cons.mp member with here | later
        · exact .inl (here ▸ List.mem_cons_self)
        · rcases step later with old | ⟨sameSize, sameOrOld⟩
          · exact .inl (List.mem_cons_of_mem _ old)
          · refine .inr ⟨sameSize, sameOrOld.imp_right ?_⟩
            intro known
            rcases known with ⟨old, oldMember, samePrice⟩
            exact ⟨old, List.mem_cons_of_mem _ oldMember, samePrice⟩
      · split at member
        · rcases List.mem_cons.mp member with here | later
          · exact .inr (here ▸ ⟨rfl, .inl rfl⟩)
          · exact .inl later
        · rcases List.mem_cons.mp member with here | later
          · exact .inr (here ▸ ⟨rfl, .inr ⟨head, List.mem_cons_self, rfl⟩⟩)
          · exact .inl (List.mem_cons_of_mem _ later)

section Ranked

variable {better : PriceOrder} {rank : Double → Int} {side : Side} {price size : Double}

/-- Whatever holds of the new price and of all old prices holds of all prices afterwards. -/
theorem price_of_mem_put (property : Double → Prop) (new : property price)
    (old : ∀ level ∈ side, property level.price) :
    ∀ level ∈ put better price size side, property level.price := by
  intro level member
  rcases mem_put member with known | ⟨-, same | ⟨known, knownMember, same⟩⟩
  · exact old level known
  · exact same ▸ new
  · exact same ▸ old known knownMember

theorem Canonical.put (ranked : better.RankedBy rank) (canonical : Canonical better side)
    (number : price.isNaN = false) (sized : size.isZero = false) :
    Canonical better (Side.put better price size side) where
  numeric := price_of_mem_put (fun price => price.isNaN = false) number canonical.numeric
  sized := by
    intro level member
    rcases mem_put member with known | ⟨same, -⟩
    · exact canonical.sized level known
    · exact same ▸ sized
  ordered := by
    rcases canonical with ⟨numeric, ordered, -⟩
    induction side with
    | nil => simp [Side.put]
    | cons head rest step =>
        obtain ⟨headNumber, restNumeric⟩ := List.forall_mem_cons.mp numeric
        obtain ⟨headBest, restOrdered⟩ := List.pairwise_cons.mp ordered
        simp only [Side.put]
        split
        · next ahead =>
            refine .cons ?_ (step restNumeric restOrdered)
            exact price_of_mem_put (fun price => better head.price price = true) ahead headBest
        · split
          · next before =>
              refine .cons ?_ ordered
              intro level member
              rcases List.mem_cons.mp member with here | later
              · exact here ▸ before
              · exact ranked.trans number headNumber (restNumeric level later) before
                  (headBest level later)
          · exact .cons headBest restOrdered

theorem sizeAt_put (ranked : better.RankedBy rank) (numeric : Numeric side)
    (number : price.isNaN = false) (query : Double) :
    sizeAt query (put better price size side) =
      if price.position = query.position then some size else sizeAt query side := by
  induction side with
  | nil => rfl
  | cons head rest step =>
      obtain ⟨headNumber, restNumeric⟩ := List.forall_mem_cons.mp numeric
      simp only [put]
      split
      · next ahead =>
          have apart : head.price.position ≠ price.position := by
            rw [ranked.better_iff headNumber number] at ahead
            rw [ne_eq, ← ranked.rank_eq_iff]
            omega
          simp only [sizeAt, step restNumeric]
          by_cases here : head.IsAt query
          · have elsewhere : price.position ≠ query.position := fun there =>
              apart (here.trans there.symm)
            rw [if_pos here, if_neg elsewhere, if_pos here]
          · rw [if_neg here, if_neg here]
      · next notAhead =>
          split
          · rfl
          · next notBehind =>
              have same : head.price.position = price.position := by
                rw [ranked.better_iff headNumber number] at notAhead
                rw [ranked.better_iff number headNumber] at notBehind
                rw [← ranked.rank_eq_iff]
                omega
              simp only [sizeAt, Level.IsAt, same]
              split <;> rfl

/-! ## Deleting -/

theorem Canonical.erase (canonical : Canonical better side) (price : Double) :
    Canonical better (Side.erase better price side) where
  numeric := fun level member => canonical.numeric level (List.mem_filter.mp member).1
  ordered := canonical.ordered.filter _
  sized := fun level member => canonical.sized level (List.mem_filter.mp member).1

theorem sizeAt_erase (ranked : better.RankedBy rank) (numeric : Numeric side)
    (number : price.isNaN = false) (query : Double) :
    sizeAt query (erase better price side) =
      if price.position = query.position then none else sizeAt query side := by
  induction side with
  | nil => simp [erase, sizeAt]
  | cons head rest step =>
      obtain ⟨headNumber, restNumeric⟩ := List.forall_mem_cons.mp numeric
      have rest' := step restNumeric
      rw [erase] at rest' ⊢
      rw [List.filter_cons]
      by_cases same : head.price.position = price.position
      · have alike := (ranked.alike_iff headNumber number).mpr same
        simp only [alike, Bool.not_true, Bool.false_eq_true, if_false, rest', sizeAt, Level.IsAt,
          same]
        split <;> rfl
      · have apart : better.alike head.price price = false :=
          Bool.eq_false_iff.mpr fun alike => same ((ranked.alike_iff headNumber number).mp alike)
        simp only [apart, Bool.not_false, if_true, sizeAt, rest']
        by_cases here : head.IsAt query
        · have elsewhere : price.position ≠ query.position := fun there =>
            same (here.trans there.symm)
          rw [if_pos here, if_neg elsewhere, if_pos here]
        · rw [if_neg here, if_neg here]

/-! ## Writing rows -/

theorem Canonical.write (ranked : better.RankedBy rank) (canonical : Canonical better side)
    {row : Level} (number : row.price.isNaN = false) :
    Canonical better (Side.write better side row) := by
  rw [Side.write]
  split
  · exact canonical.erase row.price
  · next sized => exact canonical.put ranked number (Bool.eq_false_iff.mpr sized)

theorem sizeAt_write (ranked : better.RankedBy rank) (numeric : Numeric side) {row : Level}
    (number : row.price.isNaN = false) (query : Double) :
    sizeAt query (write better side row) =
      if row.IsAt query then row.remaining else sizeAt query side := by
  unfold write Level.remaining Level.IsAt
  split
  · rw [sizeAt_erase ranked numeric number]
  · rw [sizeAt_put ranked numeric number]

theorem Canonical.writeAll (ranked : better.RankedBy rank) {rows : List Level}
    (canonical : Canonical better side) (numbers : Numeric rows) :
    Canonical better (Side.writeAll better side rows) := by
  induction rows generalizing side with
  | nil => exact canonical
  | cons row rest step =>
      rw [writeAll_cons]
      obtain ⟨number, restNumbers⟩ := List.forall_mem_cons.mp numbers
      exact step (canonical.write ranked number) restNumbers

/-- The last row at a price decides; where no row is, the side stays as it was. -/
theorem sizeAt_writeAll (ranked : better.RankedBy rank) {rows : List Level}
    (canonical : Canonical better side) (numbers : Numeric rows) (query : Double) :
    sizeAt query (writeAll better side rows) =
      match lastRow? query rows with
      | some row => row.remaining
      | none => sizeAt query side := by
  induction rows generalizing side with
  | nil => rfl
  | cons row rest step =>
      obtain ⟨number, restNumbers⟩ := List.forall_mem_cons.mp numbers
      rw [writeAll_cons, step (canonical.write ranked number) restNumbers, lastRow?_cons]
      cases lastRow? query rest with
      | some last => rfl
      | none =>
          simp only [Option.none_or, sizeAt_write ranked canonical.numeric number]
          split <;> rfl

theorem sizeAt_writeAll_nil (ranked : better.RankedBy rank) {rows : List Level}
    (numbers : Numeric rows) (query : Double) :
    sizeAt query (writeAll better [] rows) = lastSize query rows := by
  rw [sizeAt_writeAll ranked (canonical_nil better) numbers, lastSize]
  cases lastRow? query rows <;> rfl

end Ranked

/-! ## What a side shows -/

/-- A side shows rows: it is what writing them in order leaves, best price first and without an
empty level, and the size at each price is that of the last row there, unless it is zero. -/
structure Shows (better : PriceOrder) (side : Side) (rows : List Level) : Prop where
  written : side = Side.writeAll better [] rows
  canonical : Canonical better side
  sizeAt_eq : ∀ price, sizeAt price side = lastSize price rows

theorem shows_writeAll {better : PriceOrder} {rank : Double → Int}
    (ranked : better.RankedBy rank) {rows : List Level} (numbers : Numeric rows) :
    Shows better (Side.writeAll better [] rows) rows where
  written := rfl
  canonical := (canonical_nil better).writeAll ranked numbers
  sizeAt_eq := sizeAt_writeAll_nil ranked numbers

end Side

end SwapFeed

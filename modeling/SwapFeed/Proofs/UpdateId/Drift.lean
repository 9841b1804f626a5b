import Mathlib.Data.List.Induction
import SwapFeed.Proofs.Double.Order
import SwapFeed.Proofs.UpdateId

/-!
# The drift of update ids

A sequence serves requests for a time in seconds, for a time in microseconds, and for the present.
What a request asks for comes down to one timestamp in whole microseconds, its *stamp*.  The id it
gets is that stamp or, if the ids are past it already, the successor of the last id.  This is
arithmetic of natural numbers as long as the counter has room, and the counter has room because no
id gets further away from the stamps than there were requests.
-/

namespace SwapFeed

/-- A request for an update id, with the clock reading at which it is served. -/
inductive IdRequest where
  | seconds (clock : UInt64) (time : Double)
  | micros (clock time : UInt64)
  | present (clock : UInt64)
  deriving DecidableEq, Repr

namespace IdRequest

def clock : IdRequest → UInt64
  | seconds clock _ => clock
  | micros clock _ => clock
  | present clock => clock

/-- The time that is asked for, rounded to whole microseconds, if it is plausible: not beyond the
latest plausible timestamp and, as a time in seconds, a positive number. -/
def credible? : IdRequest → Option Nat
  | seconds _ time =>
      let micros := UpdateIds.microsOfSeconds time
      if Double.less .zero time && Double.atMost micros (.ofInt UpdateIds.latestMicros.toNat) then
        some micros.nearestNat
      else none
  | micros _ time => if time ≤ UpdateIds.latestMicros then some time.toNat else none
  | present _ => none

/-- The effective timestamp: the one that is asked for if it is plausible, else the clock. -/
def stamp (request : IdRequest) : Nat :=
  request.credible?.getD request.clock.toNat

/-- A plausible time in seconds stays within the plausible timestamps when it is rounded. -/
theorem nearestNat_le_latestMicros {time : Double} (positive : Double.less .zero time = true)
    (notLate : Double.atMost (UpdateIds.microsOfSeconds time)
      (.ofInt UpdateIds.latestMicros.toNat) = true) :
    (UpdateIds.microsOfSeconds time).nearestNat ≤ UpdateIds.latestMicros.toNat := by
  have unsigned : (UpdateIds.microsOfSeconds time).isNegative = false :=
    Double.isNegative_mul (Double.isNegative_of_less_zero positive) (by decide +kernel)
  have latest : (Double.ofInt UpdateIds.latestMicros.toNat).units =
      UpdateIds.latestMicros.toNat * Double.unitsPerOne := by decide +kernel
  apply Double.nearestNat_le
  rw [← latest]
  exact Double.units_le_of_atMost unsigned notLate

theorem credible?_le {request : IdRequest} {time : Nat}
    (credible : request.credible? = some time) : time ≤ UpdateIds.latestMicros.toNat := by
  cases request with
  | seconds clock seconds =>
      simp only [credible?, Bool.and_eq_true, Option.ite_none_right_eq_some,
        Option.some.injEq] at credible
      rcases credible with ⟨⟨positive, notLate⟩, rfl⟩
      exact nearestNat_le_latestMicros positive notLate
  | micros clock micros =>
      simp only [credible?, Option.ite_none_right_eq_some, Option.some.injEq] at credible
      rcases credible with ⟨notLate, rfl⟩
      exact UInt64.le_iff_toNat_le.mp notLate
  | present clock => simp [credible?] at credible

theorem stamp_le {request : IdRequest} (clock : request.clock ≤ UpdateIds.latestMicros) :
    request.stamp ≤ UpdateIds.latestMicros.toNat := by
  rw [stamp]
  cases credible : request.credible? with
  | none => exact UInt64.le_iff_toNat_le.mp clock
  | some time => exact credible?_le credible

end IdRequest

namespace UpdateIds

/-- Hand out an id for a request; it is the new `last`. -/
def serve (ids : UpdateIds) : IdRequest → UpdateIds
  | .seconds clock time => ids.advanceSeconds clock time
  | .micros clock time => ids.advance clock time
  | .present clock => ids.advanceNow clock

/-- Serve requests one after the other. -/
def serveAll (ids : UpdateIds) (requests : List IdRequest) : UpdateIds :=
  requests.foldl serve ids

/-- The ids that requests get, in order. -/
def issued (ids : UpdateIds) : List IdRequest → List UInt64
  | [] => []
  | request :: rest => (ids.serve request).last :: (ids.serve request).issued rest

@[simp] theorem serveAll_append_singleton (ids : UpdateIds) (requests : List IdRequest)
    (request : IdRequest) :
    ids.serveAll (requests ++ [request]) = (ids.serveAll requests).serve request :=
  List.foldl_append

theorem issued_append (ids : UpdateIds) (first second : List IdRequest) :
    ids.issued (first ++ second) = ids.issued first ++ (ids.serveAll first).issued second := by
  induction first generalizing ids with
  | nil => rfl
  | cons request rest step => simp [issued, step, serveAll]

/-! ## One request -/

theorem stampOfSeconds?_eq (clock : UInt64) (time : Double) :
    stampOfSeconds? time = (IdRequest.seconds clock time).credible?.map UInt64.ofNat := by
  simp only [stampOfSeconds?, IdRequest.credible?]
  split <;> rfl

/-- Every request is served at its stamp. -/
theorem serve_eq_advance (ids : UpdateIds) {request : IdRequest}
    (clock : request.clock ≤ latestMicros) :
    ids.serve request = ids.advance request.clock (UInt64.ofNat request.stamp) := by
  cases request with
  | present now => simp [serve, advanceNow, IdRequest.stamp, IdRequest.credible?, IdRequest.clock]
  | seconds now time =>
      have stamp : (stampOfSeconds? time).getD now =
          UInt64.ofNat (IdRequest.seconds now time).stamp := by
        rw [stampOfSeconds?_eq now, IdRequest.stamp, IdRequest.clock]
        cases (IdRequest.seconds now time).credible? with
        | none => exact UInt64.ofNat_toNat.symm
        | some micros => rfl
      rw [serve, advanceSeconds, stamp, IdRequest.clock]
  | micros now time =>
      by_cases notLate : time ≤ latestMicros
      · simp [serve, IdRequest.stamp, IdRequest.credible?, IdRequest.clock, notLate]
      · have late : latestMicros < time := UInt64.not_le.mp notLate
        have settled : ¬latestMicros < now := UInt64.not_lt.mpr clock
        simp [serve, advance, IdRequest.stamp, IdRequest.credible?, IdRequest.clock, notLate,
          late, settled]

/-- While the counter has room, the id is the stamp or the successor of the last id, whichever is
later. -/
theorem toNat_last_serve (ids : UpdateIds) {request : IdRequest}
    (clock : request.clock ≤ latestMicros) (room : ids.last.toNat + 1 < UInt64.size) :
    (ids.serve request).last.toNat = max request.stamp (ids.last.toNat + 1) := by
  have bound := IdRequest.stamp_le clock
  have word : (UInt64.ofNat request.stamp).toNat = request.stamp :=
    UInt64.toNat_ofNat_of_lt' (Nat.lt_of_le_of_lt bound latestMicros.toNat_lt)
  have notLate : ¬latestMicros < UInt64.ofNat request.stamp := by
    rw [UInt64.lt_iff_toNat_lt, word]
    exact Nat.not_lt.mpr bound
  rw [serve_eq_advance ids clock, last_advance_eq, settledStamp, if_neg notLate]
  split
  · next later =>
      rw [UInt64.lt_iff_toNat_lt, word] at later
      rw [word]
      exact (Nat.max_eq_left later).symm
  · next notLater =>
      rw [UInt64.lt_iff_toNat_lt, word, Nat.not_lt] at notLater
      rw [UInt64.toNat_add, UInt64.toNat_one, Nat.mod_eq_of_lt room]
      exact (Nat.max_eq_right (Nat.le_succ_of_le notLater)).symm

/-! ## Runs of requests -/

/-- What holds of a fresh sequence after requests: its last id is within their number of one of
their stamps, and the ids that were handed out increase and are none above the last. -/
structure KeepsPace (requests : List IdRequest) : Prop where
  near : requests ≠ [] → ∃ known ∈ requests,
    (serveAll {} requests).last.toNat ≤ known.stamp + requests.length
  increasing : (issued {} requests).Pairwise (· < ·)
  latest : ∀ id ∈ issued {} requests, id ≤ (serveAll {} requests).last

theorem keepsPace_nil : KeepsPace [] where
  near := fun nonempty => (nonempty rfl).elim
  increasing := .nil
  latest := fun _ member => (List.not_mem_nil member).elim

namespace KeepsPace

variable {requests : List IdRequest}

theorem toNat_last_le (pace : KeepsPace requests)
    (clocks : ∀ request ∈ requests, request.clock ≤ latestMicros) :
    (serveAll {} requests).last.toNat ≤ latestMicros.toNat + requests.length := by
  by_cases empty : requests = []
  · rw [empty]
    exact Nat.zero_le _
  · obtain ⟨known, member, near⟩ := pace.near empty
    have bound := IdRequest.stamp_le (clocks known member)
    omega

theorem step (pace : KeepsPace requests)
    (clocks : ∀ request ∈ requests, request.clock ≤ latestMicros) {request : IdRequest}
    (clock : request.clock ≤ latestMicros)
    (room : latestMicros.toNat + requests.length + 1 < UInt64.size) :
    KeepsPace (requests ++ [request]) := by
  have bound := pace.toNat_last_le clocks
  have served := toNat_last_serve (serveAll {} requests) clock (by omega)
  have above : (serveAll {} requests).last < ((serveAll {} requests).serve request).last := by
    rw [UInt64.lt_iff_toNat_lt, served]
    exact Nat.lt_of_lt_of_le (Nat.lt_succ_self _) (Nat.le_max_right _ _)
  constructor
  · intro _
    rw [serveAll_append_singleton, served, List.length_append, List.length_singleton]
    by_cases empty : requests = []
    · refine ⟨request, List.mem_append_right _ List.mem_cons_self, ?_⟩
      rw [empty]
      exact Nat.max_le.mpr ⟨Nat.le_add_right _ _, Nat.le_add_left _ _⟩
    · obtain ⟨known, member, near⟩ := pace.near empty
      rcases Nat.le_total request.stamp ((serveAll {} requests).last.toNat + 1) with
        bumped | later
      · refine ⟨known, List.mem_append_left _ member, ?_⟩
        rw [Nat.max_eq_right bumped]
        omega
      · refine ⟨request, List.mem_append_right _ List.mem_cons_self, ?_⟩
        rw [Nat.max_eq_left later]
        exact Nat.le_add_right _ _
  · rw [issued_append, List.pairwise_append]
    refine ⟨pace.increasing, List.pairwise_singleton _ _, ?_⟩
    intro id member other new
    rw [List.mem_singleton.mp new]
    exact UInt64.lt_of_le_of_lt (pace.latest id member) above
  · intro id member
    rw [serveAll_append_singleton]
    rw [issued_append] at member
    rcases List.mem_append.mp member with old | new
    · exact UInt64.le_of_lt (UInt64.lt_of_le_of_lt (pace.latest id old) above)
    · exact UInt64.le_of_eq (List.mem_singleton.mp new)

end KeepsPace

/-- As long as the counter has room. -/
theorem keepsPace_of_few (requests : List IdRequest)
    (few : latestMicros.toNat + requests.length < UInt64.size)
    (clocks : ∀ request ∈ requests, request.clock ≤ latestMicros) : KeepsPace requests := by
  induction requests using List.reverseRecOn with
  | nil => exact keepsPace_nil
  | append_singleton requests request step =>
      rw [List.length_append, List.length_singleton] at few
      obtain ⟨known, last⟩ := List.forall_mem_append.mp clocks
      exact (step (by omega) known).step known (last request List.mem_cons_self) few

/-- Ids strictly increase, and with each request comes the id that is then the last one.  It is the
stamp of the request if the ids are not past it yet, and never more above some stamp so far than
there were requests; the arithmetic is that of natural numbers, so nothing wraps. -/
theorem issued_increasing_with_bounded_drift (requests : List IdRequest)
    (few : requests.length < Nat.pow 2 64 - latestMicros.toNat)
    (clocks : ∀ request ∈ requests, request.clock ≤ latestMicros) :
    (issued {} requests).Pairwise (· < ·) ∧
      ∀ earlier request later, requests = earlier ++ request :: later →
        let before := serveAll {} earlier
        let after := before.serve request
        issued {} requests = issued {} earlier ++ after.last :: after.issued later ∧
          after.last.toNat = max request.stamp (before.last.toNat + 1) ∧
          request.stamp ≤ after.last.toNat ∧
          (before.last.toNat < request.stamp → after.last.toNat = request.stamp) ∧
          ∃ known ∈ earlier ++ [request],
            after.last.toNat ≤ known.stamp + (earlier ++ [request]).length := by
  have size : UInt64.size = Nat.pow 2 64 := rfl
  refine ⟨(keepsPace_of_few requests (by omega) clocks).increasing, ?_⟩
  intro earlier request later split before after
  have count : requests.length = earlier.length + (later.length + 1) := by simp [split]
  obtain ⟨earlierClocks, restClocks⟩ := List.forall_mem_append.mp (split ▸ clocks)
  obtain ⟨clock, -⟩ := List.forall_mem_cons.mp restClocks
  have pace := keepsPace_of_few earlier (by omega) earlierClocks
  have bound : before.last.toNat ≤ latestMicros.toNat + earlier.length :=
    pace.toNat_last_le earlierClocks
  have served : after.last.toNat = max request.stamp (before.last.toNat + 1) :=
    toNat_last_serve before clock (by omega)
  refine ⟨?_, served, ?_, ?_, ?_⟩
  · rw [split, issued_append]
    rfl
  · rw [served]
    exact Nat.le_max_left _ _
  · intro ahead
    rw [served]
    exact Nat.max_eq_left ahead
  · have near := (pace.step earlierClocks clock (by omega)).near (by simp)
    rwa [serveAll_append_singleton] at near

/-- Requests of every kind, most of them with a time that is missing or implausible. -/
def mixedRequests : List IdRequest :=
  [.seconds 5 .nan, .micros 6 18446744073709551615, .micros 7 0, .seconds 8 (.infinity false),
    .seconds 9 ⟨0x3ff8000000000000⟩, .present 10, .micros 11 1500003, .seconds 12 .zero]

theorem issued_increasing_mixed :
    mixedRequests.length < Nat.pow 2 64 - latestMicros.toNat ∧
      (∀ request ∈ mixedRequests, request.clock ≤ latestMicros) ∧
      issued {} mixedRequests =
        [5, 6, 7, 8, 1500000, 1500001, 1500003, 1500004] ∧
      (issued {} mixedRequests).Pairwise (· < ·) := by
  have few : mixedRequests.length < Nat.pow 2 64 - latestMicros.toNat := by decide
  have clocks : ∀ request ∈ mixedRequests, request.clock ≤ latestMicros := by decide
  refine ⟨few, clocks, by decide +kernel, ?_⟩
  exact (issued_increasing_with_bounded_drift mixedRequests few clocks).1

end UpdateIds

end SwapFeed

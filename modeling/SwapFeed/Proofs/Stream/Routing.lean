import SwapFeed.Proofs.Desk.Basic
import SwapFeed.Proofs.Stream.Queues
import SwapFeed.Proofs.Text.Split

/-!
# The instrument that a topic names

A message that is routed by its topic names an instrument there, behind the last delimiter.
Funding updates are of the pair of that instrument, whatever else the message says.  A diff is of
the pair of the instrument in the argument, and strays from the topic where the two are of different
pairs.
-/

namespace SwapFeed

open SwapFeed.Text

namespace Topic

/-- A topic is put together of a channel, a delimiter and an id; the id has no delimiter. -/
structure Joins (topic channel id : String) : Prop where
  joined : ∃ mark, isDelimiter mark = true ∧ topic = channel ++ String.singleton mark ++ id
  plain : ∀ char ∈ id.toList, isDelimiter char = false

namespace Joins

variable {topic channel id : String}

theorem splitLast?_eq (joins : Joins topic channel id) :
    splitLast? isDelimiter topic.toList = some (channel.toList, id.toList) := by
  obtain ⟨mark, delimits, rfl⟩ := joins.joined
  have chars : (channel ++ String.singleton mark ++ id).toList =
      channel.toList ++ mark :: id.toList := by
    simp
  rw [chars, splitLast?_append _ delimits joins.plain]

theorem instrument_eq (joins : Joins topic channel id) : Topic.instrument topic = id := by
  simp [Topic.instrument, joins.splitLast?_eq]

end Joins

end Topic

/-- A message is routed to the diffs or to the funding updates, by a topic that joins the name of
the channel and a native id. -/
structure Json.RoutedUnder (message : Json) (names : ChannelNames) (native : String) : Prop where
  titled : ∃ topic channel, message.getText? "topic" = some topic ∧
    Topic.Joins topic channel native
  routed : names.classify message = .diff ∨ names.classify message = .funding

/-- The id behind the topic is the one that a delta is about; its argument is not asked. -/
theorem Json.RoutedUnder.eq_of_concerns {message : Json} {names : ChannelNames}
    {native other : String} (routed : message.RoutedUnder names native)
    (concerns : FundingUpdate.Concerns message other) : other = native := by
  obtain ⟨topic, channel, titled, joins⟩ := routed.titled
  cases concerns with
  | topic named =>
      cases titled.symm.trans named
      exact joins.instrument_eq
  | argument untitled => cases titled.symm.trans untitled

namespace Source

/-- A text adds nothing to the queues of a source but events of the pair of a native id. -/
structure KeepsTo (source : Source) (native : String) (now : Int) (raw : String) : Prop where
  trades : (source.process now raw).feed.trades.toList = source.feed.trades.toList
  diffs : ∃ diffs, (source.process now raw).feed.diffs.toList = source.feed.diffs.toList ++ diffs ∧
    ∀ diff ∈ diffs, source.table.toCanonical native = .ok diff.pair
  funding : ∃ updates,
    (source.process now raw).feed.funding.toList = source.feed.funding.toList ++ updates ∧
      ∀ update ∈ updates, source.table.toCanonical native = .ok update.pair

/-- A text is a well-formed update of the book of another pair than that of a native id: the pair of
the instrument that its argument names. -/
def Strays (source : Source) (native raw : String) : Prop :=
  ∃ (message : Json) (change : BookChange), Arrives source.names raw .diff message ∧
    message.getText? "action" = some "update" ∧ change.WrittenBy source.table message ∧
    source.table.toCanonical native ≠ .ok change.pair

variable {source : Source} {message : Json} {native raw : String} {now : Int}

/-- What a text adds is of a pair if the part that it is has no other events. -/
theorem keepsTo_of_part {part : Part} (is : Part.From source.names source.table raw part)
    (trades : part.trades = [])
    (changes : ∀ change ∈ part.changes, source.table.toCanonical native = .ok change.pair)
    (updates : ∀ update ∈ part.updates, source.table.toCanonical native = .ok update.pair) :
    source.KeepsTo native now raw := by
  have gains : source.feed.Gains (source.process now raw).feed [part] :=
    source.feed.gains_process is (clockWord now)
  constructor
  · simpa [trades] using gains.trades
  · obtain ⟨diffs, queue, carried⟩ := gains.diffs
    refine ⟨diffs, queue, ?_⟩
    intro diff member
    obtain ⟨change, carries, updateId, rfl⟩ := exists_of_forall₂ carried.flip member
    exact changes change (by simpa using carries)
  · exact ⟨part.updates, by simpa using gains.funding, updates⟩

theorem not_keepsTo_of_strays (strays : source.Strays native raw) :
    ¬source.KeepsTo native now raw := by
  obtain ⟨message, change, arrives, update, written, other⟩ := strays
  intro keeps
  have gains : source.feed.Gains (source.process now raw).feed [{ changes := [change] }] :=
    source.feed.gains_process (.change arrives update written) (clockWord now)
  obtain ⟨diffs, queue, pairs⟩ := keeps.diffs
  obtain ⟨gained, gainedQueue, carried⟩ := gains.diffs
  have same := List.append_cancel_left (queue.symm.trans gainedQueue)
  have listed : change ∈ [({ changes := [change] } : Part)].flatMap (·.changes) := by simp
  obtain ⟨diff, member, updateId, rfl⟩ := exists_of_forall₂ carried listed
  exact other (pairs _ (same ▸ member))

theorem keepsTo_of_not_strays (parsed : Json.parse .stream raw = some message)
    (routed : message.RoutedUnder source.names native) (sound : ¬source.Strays native raw) :
    source.KeepsTo native now raw := by
  obtain ⟨part, is⟩ := Part.exists_from source.names source.table raw
  refine keepsTo_of_part is ?_ ?_ ?_
  · cases is with
    | trades arrives =>
        cases parsed.symm.trans arrives.parsed
        rcases routed.routed with diff | funding
        · cases arrives.classify_eq.symm.trans diff
        · cases arrives.classify_eq.symm.trans funding
    | _ => rfl
  · intro change member
    cases is with
    | change arrives update written =>
        cases List.mem_singleton.mp member
        apply Classical.byContradiction
        exact fun other => sound ⟨_, change, arrives, update, written, other⟩
    | _ => cases member
  · intro update member
    cases is with
    | updates arrives delta announces written =>
        cases parsed.symm.trans arrives.parsed
        obtain ⟨other, concerns, -, known⟩ := announces.pair
        rw [routed.eq_of_concerns concerns] at known
        obtain ⟨entry, -, writtenHere⟩ := exists_of_forall₂ written.flip member
        rw [writtenHere.pair]
        exact known
    | _ => cases member

/-- Of a message that is routed under a native id, all events are of the pair of that id unless it
is a diff that strays from it; funding updates never do. -/
theorem keepsTo_iff_not_strays (source : Source) (now : Int)
    (parsed : Json.parse .stream raw = some message)
    (routed : message.RoutedUnder source.names native) :
    (source.KeepsTo native now raw ↔ ¬source.Strays native raw) ∧
      (source.names.classify message = .funding → source.KeepsTo native now raw) := by
  refine ⟨⟨fun keeps strays => not_keepsTo_of_strays strays keeps,
    keepsTo_of_not_strays parsed routed⟩, ?_⟩
  intro funding
  apply keepsTo_of_not_strays parsed routed
  rintro ⟨_, change, arrives, -⟩
  cases parsed.symm.trans arrives.parsed
  cases arrives.classify_eq.symm.trans funding

/-- A message with a topic and an argument of different pairs, and some more members. -/
def contradictory (topic members : String) : String :=
  "\x7b\"topic\":\"" ++ topic ++ "\",\"arg\":\x7b\"channel\":\"books\"," ++
    "\"instId\":\"ETH-USDT-SWAP\"\x7d," ++ members ++ "\x7d"

def contradictoryDelta : String :=
  contradictory "instruments/BTC-USDT-SWAP"
    "\"type\":\"delta\",\"data\":\x7b\"update\":[\x7b\"mark_price\":\"42010\"\x7d]\x7d"

def contradictoryUpdate : String :=
  contradictory "books.BTC-USDT-SWAP" ("\"action\":\"update\",\"data\":[\x7b\"ts\":\"1000\"," ++
    "\"bids\":[[\"100\",\"1\"]],\"asks\":[]\x7d]")

theorem exists_routedUnder (names : ChannelNames) (raw : String) {topic channel : String}
    {kind : ChannelKind} (joins : Topic.Joins topic channel native)
    (known : kind = .diff ∨ kind = .funding)
    (read : (Json.parse .stream raw).map (fun message =>
      (message.getText? "topic", names.classify message)) = some (some topic, kind)) :
    ∃ message, Json.parse .stream raw = some message ∧ message.RoutedUnder names native ∧
      names.classify message = kind := by
  obtain ⟨message, parsed, found⟩ := Option.map_eq_some_iff.mp read
  obtain ⟨titled, classified⟩ := Prod.mk.inj found
  exact ⟨message, parsed, ⟨⟨topic, channel, titled, joins⟩, classified ▸ known⟩, classified⟩

/-- The funding updates of a delta are of the pair in its topic. -/
theorem keepsTo_topic_contradictoryDelta :
    (∃ message, Json.parse .stream contradictoryDelta = some message ∧
        message.RoutedUnder bitcoinSource.names "BTC-USDT-SWAP") ∧
      (bitcoinSource.process 0 contradictoryDelta).feed.funding.toList.map (·.pair) =
        ["BTC-USDT"] ∧
      bitcoinSource.KeepsTo "BTC-USDT-SWAP" 0 contradictoryDelta := by
  have joins : Topic.Joins "instruments/BTC-USDT-SWAP" "instruments" "BTC-USDT-SWAP" :=
    ⟨⟨'/', rfl, rfl⟩, by simp [Topic.isDelimiter]⟩
  obtain ⟨message, parsed, under, funding⟩ :=
    exists_routedUnder bitcoinSource.names contradictoryDelta joins (.inr rfl) (by decide +kernel)
  exact ⟨⟨message, parsed, under⟩, by decide +kernel,
    (keepsTo_iff_not_strays bitcoinSource 0 parsed under).2 funding⟩

/-- The diff of an update is of the pair in its argument, though its topic has routed it. -/
theorem not_keepsTo_topic_contradictoryUpdate :
    (∃ message, Json.parse .stream contradictoryUpdate = some message ∧
        message.RoutedUnder bitcoinSource.names "BTC-USDT-SWAP") ∧
      (bitcoinSource.process 0 contradictoryUpdate).feed.diffs.toList.map (·.pair) =
        ["ETH-USDT"] ∧
      ¬bitcoinSource.KeepsTo "BTC-USDT-SWAP" 0 contradictoryUpdate := by
  have joins : Topic.Joins "books.BTC-USDT-SWAP" "books" "BTC-USDT-SWAP" :=
    ⟨⟨'.', rfl, rfl⟩, by simp [Topic.isDelimiter]⟩
  obtain ⟨message, parsed, under, -⟩ :=
    exists_routedUnder bitcoinSource.names contradictoryUpdate joins (.inl rfl) (by decide +kernel)
  have pairs : (bitcoinSource.process 0 contradictoryUpdate).feed.diffs.toList.map (·.pair) =
      ["ETH-USDT"] := by
    decide +kernel
  refine ⟨⟨message, parsed, under⟩, pairs, ?_⟩
  intro keeps
  obtain ⟨diffs, queue, named⟩ := keeps.diffs
  have empty : bitcoinSource.feed.diffs.toList = [] := rfl
  rw [queue, empty, List.nil_append] at pairs
  obtain ⟨diff, member, pair⟩ := List.mem_map.mp (pairs ▸ List.mem_singleton_self "ETH-USDT")
  have bitcoin : bitcoinSource.table.toCanonical "BTC-USDT-SWAP" = .ok "BTC-USDT" := by
    decide +kernel
  have same := Except.ok.inj (bitcoin.symm.trans (named diff member))
  rw [pair] at same
  exact absurd same (by decide)

end Source

end SwapFeed

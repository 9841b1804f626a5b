import SwapFeed.Proofs.Stream.WellFormed
import SwapFeed.Stream.Feed

/-!
# What a text delivers

A text that arrives on a channel and is well formed is one part of the stream: some trades, one
change of a book, or some funding updates.  All other texts are dropped, for one of a list of
reasons.  Every text is a part or is dropped, no text is both, and the part is what the text
delivers to the queues.
-/

namespace SwapFeed

/-! ## Channels -/

/-- The channel that a message names: that of its topic, or else of its argument.  An
acknowledgement names none, and an event does not repeat its argument's channel. -/
inductive Json.NamesChannel (message : Json) : String → Prop where
  | topic {topic : String} (noAnswer : message.get? "success" = none)
      (titled : message.getText? "topic" = some topic) :
      NamesChannel message (Topic.channel topic)
  | argument {argument : Json} {channel : String} (noAnswer : message.get? "success" = none)
      (untitled : message.getText? "topic" = none)
      (member : message.get? "arg" = some argument)
      (named : argument.getText? "channel" = some channel)
      (noEvent : message.get? "event" = none) : NamesChannel message channel

namespace ChannelNames

variable {names : ChannelNames} {message : Json}

theorem classify_of_namesChannel {channel : String} (named : message.NamesChannel channel) :
    names.classify message = names.kindOf channel := by
  cases named with
  | topic noAnswer titled => simp [classify, noAnswer, titled]
  | argument noAnswer untitled member named noEvent =>
      simp [classify, noAnswer, untitled, member, named, noEvent]

/-- A message is routed only by the channel that it names. -/
theorem exists_namesChannel (routed : names.classify message ≠ .unrouted) :
    ∃ channel, message.NamesChannel channel := by
  apply Classical.byContradiction
  intro nameless
  apply routed
  rw [classify]
  cases answer : message.get? "success" with
  | some value => simp
  | none =>
      cases titled : message.getText? "topic" with
      | some topic => exact (nameless ⟨_, .topic answer titled⟩).elim
      | none =>
          cases member : message.get? "arg" with
          | none => simp
          | some argument =>
              cases named : argument.getText? "channel" with
              | none => simp [named]
              | some channel =>
                  cases event : message.get? "event" with
                  | some value => simp [named]
                  | none => exact (nameless ⟨_, .argument answer titled member named event⟩).elim

/-- A message that names no channel of a known kind is routed nowhere. -/
theorem classify_of_elsewhere
    (elsewhere : ∀ channel, message.NamesChannel channel → names.kindOf channel = .unrouted) :
    names.classify message = .unrouted := by
  apply Classical.byContradiction
  intro routed
  obtain ⟨channel, named⟩ := exists_namesChannel routed
  apply routed
  rw [classify_of_namesChannel named]
  exact elsewhere channel named

end ChannelNames

/-! ## The ways of a text -/

namespace Delivery

variable {names : ChannelNames} {table : SymbolTable} {raw : String} {message : Json}

theorem ofText_of_unparsed (notPong : raw ≠ pong) (unparsed : Json.parse .stream raw = none) :
    ofText names table raw = .dropped (some (notJson raw)) := by
  simp only [ofText, if_neg notPong, unparsed]

theorem ofText_of_errorEvent (notPong : raw ≠ pong)
    (parsed : Json.parse .stream raw = some message)
    (event : message.getText? "event" = some "error") :
    ofText names table raw = .dropped (some (errorEvent raw)) := by
  simp only [ofText, if_neg notPong, parsed, if_pos event]

/-- Every other text is read as a message on the channel that it names. -/
theorem ofText_of_parsed (notPong : raw ≠ pong) (parsed : Json.parse .stream raw = some message)
    (noError : message.getText? "event" ≠ some "error") :
    ofText names table raw =
      match ofMessage table (names.classify message) message with
      | .ok delivery => delivery
      | .error reason => .dropped (some (malformed (names.classify message) reason)) := by
  rw [ofText, if_neg notPong, parsed]
  exact if_neg noError

end Delivery

/-- A text is a message on a channel of some kind, and neither a liveness answer nor an error. -/
structure Arrives (names : ChannelNames) (raw : String) (kind : ChannelKind) (message : Json) :
    Prop where
  notPong : raw ≠ Delivery.pong
  parsed : Json.parse .stream raw = some message
  noError : message.getText? "event" ≠ some "error"
  channel : ∃ channel, message.NamesChannel channel ∧ names.kindOf channel = kind

namespace Arrives

variable {names : ChannelNames} {table : SymbolTable} {raw : String} {kind : ChannelKind}
  {message : Json}

theorem classify_eq (arrives : Arrives names raw kind message) :
    names.classify message = kind := by
  obtain ⟨channel, named, ofKind⟩ := arrives.channel
  rw [ChannelNames.classify_of_namesChannel named]
  exact ofKind

theorem ofText_of_ok (arrives : Arrives names raw kind message) {delivery : Delivery}
    (read : Delivery.ofMessage table kind message = .ok delivery) :
    Delivery.ofText names table raw = delivery := by
  rw [Delivery.ofText_of_parsed arrives.notPong arrives.parsed arrives.noError,
    arrives.classify_eq, read]

theorem ofText_of_error (arrives : Arrives names raw kind message) {reason : MessageError}
    (read : Delivery.ofMessage table kind message = .error reason) :
    Delivery.ofText names table raw = .dropped (some (Delivery.malformed kind reason)) := by
  rw [Delivery.ofText_of_parsed arrives.notPong arrives.parsed arrives.noError,
    arrives.classify_eq, read]

/-- A message that cannot be read is dropped. -/
theorem dropped_of_unread (arrives : Arrives names raw kind message)
    (unread : ∀ delivery, Delivery.ofMessage table kind message ≠ .ok delivery) :
    ∃ log, Delivery.ofText names table raw = .dropped log := by
  cases read : Delivery.ofMessage table kind message with
  | ok delivery => exact (unread delivery read).elim
  | error reason => exact ⟨_, arrives.ofText_of_error read⟩

end Arrives

/-! ## Dropped texts -/

/-- The reasons for which a text adds nothing. -/
inductive Dropped (names : ChannelNames) (table : SymbolTable) (raw : String) : Prop where
  | pong (same : raw = Delivery.pong)
  | notJson (unparsed : Json.parse .stream raw = none)
  | errorEvent {message : Json} (parsed : Json.parse .stream raw = some message)
      (event : message.getText? "event" = some "error")
  /-- An acknowledgement, an event, or a message of a channel that nobody subscribed to. -/
  | unrouted {message : Json} (parsed : Json.parse .stream raw = some message)
      (elsewhere : ∀ channel, message.NamesChannel channel → names.kindOf channel = .unrouted)
  | noTrades {message : Json} (arrives : Arrives names raw .trade message)
      (unlisted : ∀ entries, message.get? "data" ≠ some (.array entries))
  /-- One bad entry is enough, wherever it stands. -/
  | badTrade {message entry : Json} {entries : List Json}
      (arrives : Arrives names raw .trade message)
      (listed : message.get? "data" = some (.array entries)) (member : entry ∈ entries)
      (bad : ∀ trade : Trade, ¬trade.WrittenBy table entry)
  | otherAction {message : Json} (arrives : Arrives names raw .diff message)
      (other : message.getText? "action" ≠ some "update")
  | badChange {message : Json} (arrives : Arrives names raw .diff message)
      (bad : ∀ change : BookChange, ¬change.WrittenBy table message)
  | otherType {message : Json} (arrives : Arrives names raw .funding message)
      (other : message.getText? "type" ≠ some "delta")
  | badDelta {message : Json} (arrives : Arrives names raw .funding message)
      (bad : ∀ pair entries, ¬FundingUpdate.Announces table message pair entries)
  /-- One bad entry is enough, wherever it stands. -/
  | badUpdate {message entry : Json} {pair : String} {entries : List Json}
      (arrives : Arrives names raw .funding message)
      (announces : FundingUpdate.Announces table message pair entries)
      (member : entry ∈ entries) (bad : ∀ update : FundingUpdate, ¬update.WrittenBy pair entry)

namespace Dropped

variable {names : ChannelNames} {table : SymbolTable} {raw : String}

/-- A message of the instruments channel delivers nothing unless it is a delta that can be read. -/
theorem delivers_nothing_of_badDelta {message : Json}
    (arrives : Arrives names raw .funding message)
    (unread : ∀ updates, FundingUpdate.ofDelta table message ≠ .ok updates) :
    (∃ log, Delivery.ofText names table raw = .dropped log) ∨
      Delivery.ofText names table raw = .funding [] := by
  by_cases delta : message.getText? "type" = some "delta"
  · left
    apply arrives.dropped_of_unread
    intro delivery read
    obtain ⟨updates, read, -⟩ := map_eq_ok_iff.mp read
    rw [FundingUpdate.ofMessage, if_pos delta] at read
    exact unread updates read
  · right
    apply arrives.ofText_of_ok
    exact map_eq_ok_iff.mpr ⟨[], if_neg delta, rfl⟩

/-- A dropped text delivers no event; a message of another type counts as an empty delta. -/
theorem delivers_nothing (dropped : Dropped names table raw) :
    (∃ log, Delivery.ofText names table raw = .dropped log) ∨
      Delivery.ofText names table raw = .funding [] := by
  by_cases notPong : raw = Delivery.pong
  · exact .inl ⟨none, if_pos notPong⟩
  cases dropped with
  | pong same => exact (notPong same).elim
  | notJson unparsed => exact .inl ⟨_, Delivery.ofText_of_unparsed notPong unparsed⟩
  | errorEvent parsed event => exact .inl ⟨_, Delivery.ofText_of_errorEvent notPong parsed event⟩
  | @unrouted message parsed elsewhere =>
      left
      by_cases event : message.getText? "event" = some "error"
      · exact ⟨_, Delivery.ofText_of_errorEvent notPong parsed event⟩
      · refine ⟨none, ?_⟩
        rw [Delivery.ofText_of_parsed notPong parsed event,
          ChannelNames.classify_of_elsewhere elsewhere]
        rfl
  | noTrades arrives unlisted =>
      left
      apply arrives.dropped_of_unread
      intro delivery read
      obtain ⟨trades, read, -⟩ := map_eq_ok_iff.mp read
      obtain ⟨entries, listed, -⟩ := Trade.ofMessage_eq_ok_iff.mp read
      exact unlisted entries listed
  | badTrade arrives listed member bad =>
      left
      apply arrives.dropped_of_unread
      intro delivery read
      obtain ⟨trades, read, -⟩ := map_eq_ok_iff.mp read
      obtain ⟨entries, listedToo, written⟩ := Trade.ofMessage_eq_ok_iff.mp read
      cases listed.symm.trans listedToo
      obtain ⟨trade, -, writtenHere⟩ := exists_of_forall₂ written member
      exact bad trade writtenHere
  | otherAction arrives other =>
      left
      refine ⟨none, arrives.ofText_of_ok ?_⟩
      exact map_eq_ok_iff.mpr ⟨none, if_neg other, rfl⟩
  | @badChange message arrives bad =>
      left
      by_cases update : message.getText? "action" = some "update"
      · apply arrives.dropped_of_unread
        intro delivery read
        obtain ⟨carried, read, -⟩ := map_eq_ok_iff.mp read
        rw [BookChange.ofMessage, if_pos update, map_eq_ok_iff] at read
        rcases read with ⟨change, read, -⟩
        exact bad change (BookChange.ofUpdate_eq_ok_iff.mp read)
      · refine ⟨none, arrives.ofText_of_ok ?_⟩
        exact map_eq_ok_iff.mpr ⟨none, if_neg update, rfl⟩
  | otherType arrives other =>
      right
      apply arrives.ofText_of_ok
      exact map_eq_ok_iff.mpr ⟨[], if_neg other, rfl⟩
  | badDelta arrives bad =>
      apply delivers_nothing_of_badDelta arrives
      intro updates read
      obtain ⟨pair, entries, announces, -⟩ := FundingUpdate.ofDelta_eq_ok_iff.mp read
      exact bad pair entries announces
  | badUpdate arrives announces member bad =>
      apply delivers_nothing_of_badDelta arrives
      intro updates read
      obtain ⟨pair, entries, again, written⟩ := FundingUpdate.ofDelta_eq_ok_iff.mp read
      obtain ⟨rfl, rfl⟩ := announces.unique again
      obtain ⟨update, -, writtenHere⟩ := exists_of_forall₂ written member
      exact bad update writtenHere

end Dropped

/-! ## Parts of the stream -/

/-- What one text adds to the queues. -/
structure Part where
  trades : List Trade := []
  changes : List BookChange := []
  updates : List FundingUpdate := []

namespace Part

variable {names : ChannelNames} {table : SymbolTable} {raw : String}

/-- The events of a delivery. -/
def ofDelivery : Delivery → Part
  | .trades trades => { trades := trades }
  | .diff change => { changes := [change] }
  | .funding updates => { updates := updates }
  | .dropped _ => {}

/-- A text is a part of the stream: a well-formed message of one channel, or nothing. -/
inductive From (names : ChannelNames) (table : SymbolTable) (raw : String) : Part → Prop where
  | trades {message : Json} {entries : List Json} {trades : List Trade}
      (arrives : Arrives names raw .trade message)
      (listed : message.get? "data" = some (.array entries))
      (written : List.Forall₂ (fun entry trade => trade.WrittenBy table entry) entries trades) :
      From names table raw { trades := trades }
  | change {message : Json} {change : BookChange} (arrives : Arrives names raw .diff message)
      (update : message.getText? "action" = some "update")
      (written : change.WrittenBy table message) : From names table raw { changes := [change] }
  | updates {message : Json} {pair : String} {entries : List Json}
      {updates : List FundingUpdate} (arrives : Arrives names raw .funding message)
      (delta : message.getText? "type" = some "delta")
      (announces : FundingUpdate.Announces table message pair entries)
      (written : List.Forall₂ (fun entry update => update.WrittenBy pair entry) entries updates) :
      From names table raw { updates := updates }
  | nothing (dropped : Dropped names table raw) : From names table raw {}

/-- A part is what its text delivers; in particular a text is one part only. -/
theorem From.eq_ofDelivery {part : Part} (is : From names table raw part) :
    part = ofDelivery (Delivery.ofText names table raw) := by
  cases is with
  | trades arrives listed written =>
      have read := Trade.ofMessage_eq_ok_iff.mpr ⟨_, listed, written⟩
      rw [arrives.ofText_of_ok (map_eq_ok_iff.mpr ⟨_, read, rfl⟩)]
      rfl
  | change arrives update written =>
      have read := BookChange.ofMessage_eq_some_iff.mpr ⟨update, written⟩
      rw [arrives.ofText_of_ok (map_eq_ok_iff.mpr ⟨_, read, rfl⟩)]
      rfl
  | @updates message pair entries updates arrives delta announces written =>
      have read : FundingUpdate.ofMessage table message = .ok updates := by
        rw [FundingUpdate.ofMessage, if_pos delta]
        exact FundingUpdate.ofDelta_eq_ok_iff.mpr ⟨pair, entries, announces, written⟩
      rw [arrives.ofText_of_ok (map_eq_ok_iff.mpr ⟨_, read, rfl⟩)]
      rfl
  | nothing dropped =>
      rcases dropped.delivers_nothing with ⟨log, nothing⟩ | nothing
      · rw [nothing]
        rfl
      · rw [nothing]
        rfl

theorem exists_from_of_arrives {message : Json} {kind : ChannelKind} (routed : kind ≠ .unrouted)
    (arrives : Arrives names raw kind message) : ∃ part, From names table raw part := by
  cases kind with
  | unrouted => exact (routed rfl).elim
  | trade =>
      by_cases listed : ∃ entries, message.get? "data" = some (.array entries)
      · rcases listed with ⟨entries, listed⟩
        rcases exists_forall₂_or_exists_bad (fun entry (trade : Trade) =>
          trade.WrittenBy table entry) entries with ⟨trades, written⟩ | ⟨entry, member, bad⟩
        · exact ⟨_, .trades arrives listed written⟩
        · exact ⟨_, .nothing (.badTrade arrives listed member bad)⟩
      · have unlisted : ∀ entries, message.get? "data" ≠ some (.array entries) :=
          fun entries found => listed ⟨entries, found⟩
        exact ⟨_, .nothing (.noTrades arrives unlisted)⟩
  | diff =>
      by_cases update : message.getText? "action" = some "update"
      · by_cases written : ∃ change : BookChange, change.WrittenBy table message
        · rcases written with ⟨change, written⟩
          exact ⟨_, .change arrives update written⟩
        · have bad : ∀ change : BookChange, ¬change.WrittenBy table message :=
            fun change found => written ⟨change, found⟩
          exact ⟨_, .nothing (.badChange arrives bad)⟩
      · exact ⟨_, .nothing (.otherAction arrives update)⟩
  | funding =>
      by_cases delta : message.getText? "type" = some "delta"
      · by_cases announced : ∃ pair entries, FundingUpdate.Announces table message pair entries
        · rcases announced with ⟨pair, entries, announces⟩
          rcases exists_forall₂_or_exists_bad (fun entry (update : FundingUpdate) =>
            update.WrittenBy pair entry) entries with ⟨updates, written⟩ | ⟨entry, member, bad⟩
          · exact ⟨_, .updates arrives delta announces written⟩
          · exact ⟨_, .nothing (.badUpdate arrives announces member bad)⟩
        · have bad : ∀ pair entries, ¬FundingUpdate.Announces table message pair entries :=
            fun pair entries found => announced ⟨pair, entries, found⟩
          exact ⟨_, .nothing (.badDelta arrives bad)⟩
      · exact ⟨_, .nothing (.otherType arrives delta)⟩

/-- Every text is some part, if only an empty one. -/
theorem exists_from (names : ChannelNames) (table : SymbolTable) (raw : String) :
    ∃ part, From names table raw part := by
  by_cases notPong : raw = Delivery.pong
  · exact ⟨_, .nothing (.pong notPong)⟩
  cases parsed : Json.parse .stream raw with
  | none => exact ⟨_, .nothing (.notJson parsed)⟩
  | some message =>
      by_cases noError : message.getText? "event" = some "error"
      · exact ⟨_, .nothing (.errorEvent parsed noError)⟩
      by_cases routed : ∃ channel, message.NamesChannel channel ∧
          names.kindOf channel ≠ .unrouted
      · rcases routed with ⟨channel, named, known⟩
        have arrives : Arrives names raw (names.kindOf channel) message :=
          ⟨notPong, parsed, noError, channel, named, rfl⟩
        exact exists_from_of_arrives known arrives
      · have elsewhere : ∀ channel, message.NamesChannel channel →
            names.kindOf channel = .unrouted := by
          intro channel named
          apply Classical.byContradiction
          intro known
          exact routed ⟨channel, named, known⟩
        exact ⟨_, .nothing (.unrouted parsed elsewhere)⟩

end Part

/-- A text delivers a change exactly if it is a well-formed update of a book. -/
theorem Delivery.ofText_eq_diff_iff {names : ChannelNames} {table : SymbolTable} {raw : String}
    {change : BookChange} :
    Delivery.ofText names table raw = .diff change ↔
      ∃ message, Arrives names raw .diff message ∧
        message.getText? "action" = some "update" ∧ change.WrittenBy table message := by
  constructor
  · intro delivered
    obtain ⟨part, is⟩ := Part.exists_from names table raw
    have carried := is.eq_ofDelivery
    rw [delivered] at carried
    cases is with
    | change arrives update written =>
        cases carried
        exact ⟨_, arrives, update, written⟩
    | _ => cases carried
  · intro wellFormed
    rcases wellFormed with ⟨message, arrives, update, written⟩
    apply arrives.ofText_of_ok
    have read := BookChange.ofMessage_eq_some_iff.mpr ⟨update, written⟩
    exact map_eq_ok_iff.mpr ⟨_, read, rfl⟩

end SwapFeed

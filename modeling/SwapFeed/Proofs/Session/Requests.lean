import SwapFeed.Proofs.Json.RoundTrip
import SwapFeed.Proofs.Session.Subscription

/-!
# Requests read back

What a source sends to subscribe is read as what was asked for: each instrument under its own id,
in the given order and as often as it is given, whatever characters stand in ids and channel names.
-/

namespace SwapFeed.Subscription

/-- What the request for a channel says: nothing but the operation and its arguments, and in each
argument nothing but the channel and an id. -/
def asking (channel : String) (natives : List String) : Json :=
  .object
    [("args", .array (natives.map fun native =>
        .object [("channel", .text channel), ("instId", .text native)])),
      ("op", .text "subscribe")]

/-- What the requests for some instruments say. -/
def asked (names : ChannelNames) (natives : List String) : List Json :=
  [names.trades, names.orderBook, names.instruments].map (asking · natives)

theorem portable_request (channel : String) (natives : List String) :
    (request channel natives).Portable 3 := by
  have argument (native : String) :
      (Json.object [("channel", .text channel), ("instId", .text native)]).Portable 1 := by
    refine .object ?_ (by simp)
    simpa using ⟨.text channel, .text native⟩
  have arguments : (Json.array (natives.map fun native =>
      .object [("channel", .text channel), ("instId", .text native)])).Portable 2 := by
    refine .array ?_
    rw [List.forall_mem_map]
    exact fun native _ => argument native
  refine .object ?_ (by simp)
  simpa using ⟨.text "subscribe", arguments⟩

theorem sorted_request (channel : String) (natives : List String) :
    (request channel natives).sorted = asking channel natives := by
  have ordered (channel id : Json) :
      [("channel", channel), ("instId", id)].mergeSort Json.memberOrder =
        [("channel", channel), ("instId", id)] := by
    simp [List.mergeSort, Json.memberOrder]
  have swapped (op args : Json) :
      [("op", op), ("args", args)].mergeSort Json.memberOrder = [("args", args), ("op", op)] := by
    simp [List.mergeSort, Json.memberOrder]
  simp only [request, Json.sorted, Json.sortedMembers, Json.sortedItems_eq_map, List.map_map,
    Function.comp_def, ordered, swapped, asking]

variable {dialect : Json.Dialect}

theorem map_parse_batch (understands : dialect.Understands 3) (names : ChannelNames)
    (natives : List String) :
    ((batch names natives).map Json.render).map (Json.parse dialect) =
      (asked names natives).map some := by
  simp only [batch, asked, List.map_cons, List.map_nil,
    Json.parse_render understands (portable_request _ natives), sorted_request]

/-- Whatever a transport does, the texts that are handed to it are read as requests for trades, for
the order book and for instruments, in this order and as far as it comes.  Each has nothing but the
operation and an argument for each id that was given, in the order given, and each of these has
nothing but the channel and the id.  All three are sent exactly if the handler returns. -/
theorem requests_say_what_is_asked {σ : Type} (understands : dialect.Understands 3)
    (names : ChannelNames) (natives : List String) (pacing : Int) (transport : Transport σ)
    (run : Run σ) :
    ∃ acts, ((send pacing (batch names natives)).toTask transport run).2.record =
        run.record ++ acts ∧
      (acts.filterMap (·.sending?)).map (Json.parse dialect) <+: (asked names natives).map some ∧
      (((send pacing (batch names natives)).toTask transport run).1 = .ok () ↔
        (acts.filterMap (·.sent?)).map (Json.parse dialect) = (asked names natives).map some) := by
  obtain ⟨acts, outcome, runs⟩ :=
    Handler.exists_runsAs (send pacing (batch names natives)) transport run
  refine ⟨acts, runs.record, ?_⟩
  rw [runs.result, ← map_parse_batch understands]
  have comes : Comes pacing ((batch names natives).map Json.render) run.cancelled acts outcome :=
    comes_of_send runs.does
  rcases comes with ⟨rfl, -, cancels, rfl⟩ | ⟨⟨halt, rfl⟩, short⟩
  · have tried : (allSent pacing cancels ((batch names natives).map Json.render)).filterMap
        (·.sending?) = (batch names natives).map Json.render :=
      filterMap_allSent (fun _ _ => rfl) (fun _ _ => rfl) pacing cancels _
    have sent : (allSent pacing cancels ((batch names natives).map Json.render)).filterMap
        (·.sent?) = (batch names natives).map Json.render :=
      filterMap_allSent (fun _ _ => rfl) (fun _ _ => rfl) pacing cancels _
    rw [tried, sent]
    exact ⟨List.prefix_rfl, fun _ => rfl, fun _ => rfl⟩
  · refine ⟨short.tried.map _, nofun, fun all => ?_⟩
    have same : (acts.filterMap (·.sent?)).length =
        ((batch names natives).map Json.render).length := by
      simpa using congrArg List.length all
    exact (short.notAll (short.sent.eq_of_length same)).elim

/-- A transport on which every call returns at once. -/
def promptTransport : Transport Unit where
  create world := (⟨.ok (), false⟩, world)
  connect _ _ world := (⟨.ok (), false⟩, world)
  send _ world := (⟨.ok (), false⟩, world)
  receive _ world := (⟨.ok "", false⟩, world)
  disconnect := id
  interrupt := id
  pause _ world := (⟨.ok (), false⟩, world)

/-- Channel names with characters that have to be escaped. -/
def quotedNames : ChannelNames := { trades := "\"", orderBook := "\\", instruments := "\x00" }

/-- Ids with such characters, one of them twice. -/
def quotedNatives : List String := ["\\u0041\n\"", "é\x01", "\\u0041\n\"", ""]

/-- What comes of subscribing to them over that transport. -/
def promptRun : Except Stop Unit × Run Unit :=
  (send 5 (batch quotedNames quotedNatives)).toTask promptTransport { world := (), live := true }

/-- All three requests are sent, and say what is asked to the readers of both dialects. -/
theorem requests_say_what_is_asked_quoted :
    Json.Dialect.stream.Understands 3 ∧ Json.Dialect.reply.Understands 3 ∧ promptRun.1 = .ok () ∧
      (promptRun.2.record.filterMap (·.sent?)).map (Json.parse .stream) =
        (asked quotedNames quotedNatives).map some ∧
      (promptRun.2.record.filterMap (·.sent?)).map (Json.parse .reply) =
        (asked quotedNames quotedNatives).map some := by
  have streams : Json.Dialect.stream.Understands 3 := Json.Dialect.stream_understands (by decide)
  have replies : Json.Dialect.reply.Understands 3 := Json.Dialect.reply_understands 3
  have read : ∀ dialect : Json.Dialect, dialect.Understands 3 →
      (promptRun.2.record.filterMap (·.sent?)).map (Json.parse dialect) =
        (asked quotedNames quotedNatives).map some := by
    intro dialect understands
    obtain ⟨acts, record, -, all⟩ := requests_say_what_is_asked understands quotedNames
      quotedNatives 5 promptTransport { world := (), live := true }
    rw [promptRun, record]
    exact all.mp rfl
  exact ⟨streams, replies, rfl, read _ streams, read _ replies⟩

end SwapFeed.Subscription

import TxStream.Client.Diagnosis
import TxStream.Client.ReconnectMachine
import TxStream.Client.ReconnectTrace
import TxStream.Run.Feed

/-!
# Server and reconnecting client

The system that the wrapper is part of. A server has a log of payloads and sends
each to the attachments whose filters select it, in order; it may break an
attachment off at any time, and then a tail of what was on its way is lost. A
subscription attaches to what is logged from then on. The caller calls `next`, and
drops it, whenever it likes. Nothing is said about how all this is interleaved.

The server is not part of the repository, and what is here of it is what the
documentation says of every attachment: it starts live, in order, and cannot recover
an interval that it missed. Nothing is assumed about the *content* of the log. Its
payloads may be malformed, a sequence number may be missing or come twice, and a
producer may restart with another epoch under an attachment that is up: all of these
are for the wrapper to notice.

Main results:

* `Window.answers` — one message of the server: accepted, or refused by its first
  broken rule.
* `Window.accepts_producerRun` — the frames of one producer's run are accepted.
* `Window.refuses_restart` — the first frame of another epoch ends the attachment.
* `live_feed` — what the client sees of the log, over every run.
-/

namespace TxStream

open Wire Rust
open ReconnectingStream (Step machine begin tryAttempt refuse onMessage onAnswer respond next)

-- ---------------------------------------------------------------------------
-- The server
-- ---------------------------------------------------------------------------

/-- What a server has logged: a payload, with what filters look at. -/
structure Entry where
  payload : Bytes
  vote : Bool
  keys : List Bytes

/-- The message around the payload. -/
def Entry.message (entry : Entry) : Proto.ResolvedTransactionFrame := ⟨entry.payload⟩

/-- The payloads of a stretch of the log. -/
def entryPayloads (entries : List Entry) : List Bytes := entries.map Entry.payload

/-- The messages of a stretch of the log. -/
def entryMessages (entries : List Entry) : List Proto.ResolvedTransactionFrame :=
  entries.map Entry.message

/-- A frame of a producer, as the server logs it. -/
def Produced.entry (produced : Produced) : Entry where
  payload := produced.payload
  vote := produced.vote
  keys := produced.keys

/-- Whether a filter selects an entry. -/
def ResolvedFilter.picks (self : ResolvedFilter) (entry : Entry) : Bool :=
  self.Selects entry.vote entry.keys

/-- One attachment, as the server and the network hold it. -/
structure Channel where
  filter : ResolvedFilter
  /-- Sent, and not received yet. -/
  queue : List Entry
  /-- How the attachment was broken off, if it was. -/
  ending : Option Ending

/-- An entry is sent if it is selected, for as long as the attachment is up. -/
def Channel.offer (entry : Entry) (channel : Channel) : Channel :=
  match channel.ending with
  | none => { channel with queue := channel.queue ++ [entry].filter channel.filter.picks }
  | some _ => channel

theorem Channel.offer_open {channel : Channel} (h : channel.ending = none) (entry : Entry) :
    channel.offer entry =
      { channel with queue := channel.queue ++ [entry].filter channel.filter.picks } := by
  simp only [Channel.offer, h]

theorem Channel.offer_ended {channel : Channel} {ending : Ending}
    (h : channel.ending = some ending) (entry : Entry) : channel.offer entry = channel := by
  simp only [Channel.offer, h]

/-- The server's side of the network: its log, and the attachments by their handle. A
handle that is not taken is one that a subscription may still be given. -/
structure FeedServer (κ : Type) where
  /-- Everything logged so far. -/
  log : List Entry
  channels : κ → Option Channel

namespace FeedServer

variable {κ : Type}

/-- Whatever is logged is offered to every attachment. -/
def logs (server : FeedServer κ) (entry : Entry) : FeedServer κ where
  log := server.log ++ [entry]
  channels stream := (server.channels stream).map (Channel.offer entry)

variable [DecidableEq κ]

def put (server : FeedServer κ) (stream : κ) (channel : Channel) : FeedServer κ :=
  { server with channels := Function.update server.channels stream (some channel) }

/-- What happens on the server's side of the network. -/
inductive Moves : FeedServer κ → FeedServer κ → Prop where
  /-- Any payload may be next, whoever produced it. -/
  | logs {server : FeedServer κ} (entry : Entry) : Moves server (server.logs entry)
  /-- An attachment is broken off, and a tail of what was on its way is lost. -/
  | breaks {server : FeedServer κ} {stream : κ} {channel : Channel} {kept : List Entry}
      {ending : Ending} (hChannel : server.channels stream = some channel)
      (hOpen : channel.ending = none) (hKept : kept <+: channel.queue) :
      Moves server (server.put stream { channel with queue := kept, ending := some ending })

/-- What the client is answered. -/
def Answers : (op : Wait κ) → op.Answer → FeedServer κ → FeedServer κ → Prop
  | .message stream, outcome, server, server' =>
    -- what is on its way comes before the ending
    ∃ channel, server.channels stream = some channel ∧
      match channel.queue with
      | entry :: queue => outcome = .message entry.message ∧
          server' = server.put stream { channel with queue }
      | [] => ∃ ending, channel.ending = some ending ∧ outcome = ending.outcome ∧
          server' = server
  | .sleep _, (), server, server' => server' = server
  | .subscribe request, some (.ok stream), server, server' =>
    -- a new attachment, to what will be logged
    server.channels stream = none ∧
      server' = server.put stream { filter := ⟨request.filters⟩, queue := [], ending := none }
  -- a refusal or a timeout leaves no attachment
  | .subscribe _, some (.error _), server, server' => server' = server
  | .subscribe _, none, server, server' => server' = server

def environment : Environment (Wait κ) Wait.Answer (FeedServer κ) where
  step := Moves
  answer := Answers

/-- A subscription may attach under any name that is not taken. -/
theorem answers_subscribe {server : FeedServer κ} {stream : κ}
    (h : server.channels stream = none) (request : Proto.SubscribeResolvedTransactionsRequest) :
    environment.answer (.subscribe request) (some (.ok stream)) server
      (server.put stream { filter := ⟨request.filters⟩, queue := [], ending := none }) :=
  ⟨h, rfl⟩

/-- The next entry on its way may arrive. -/
theorem answers_message {server : FeedServer κ} {stream : κ} {channel : Channel}
    {entry : Entry} {queue : List Entry} (hChannel : server.channels stream = some channel)
    (hQueue : channel.queue = entry :: queue) :
    environment.answer (.message stream) (.message entry.message) server
      (server.put stream { channel with queue }) := by
  refine ⟨channel, hChannel, ?_⟩
  rw [hQueue]
  exact ⟨rfl, rfl⟩

end FeedServer

-- ---------------------------------------------------------------------------
-- What the client has seen
-- ---------------------------------------------------------------------------

variable {κ : Type}

/-- What a returned value adds to the transactions of each attachment. -/
def Seen.deliver (attachments : List (List Bytes)) : Seen κ → List (List Bytes)
  | .returned (some (.ok (.streamReset _))) => attachments ++ [[]]
  | .returned (some (.ok (.transaction tx))) =>
    attachments.dropLast ++ [attachments.getLastD [] ++ [tx.canonicalBytes]]
  | _ => attachments

/-- The transactions that were returned behind each reset. -/
def deliveries (history : List (Seen κ)) : List (List Bytes) :=
  history.foldl Seen.deliver []

/-- The messages whose transactions were returned since the last reset. -/
def current (attachments : List (List Bytes)) : List Proto.ResolvedTransactionFrame :=
  (attachments.getLastD []).map Proto.ResolvedTransactionFrame.mk

theorem deliveries_concat (history : List (Seen κ)) (x : Seen κ) :
    deliveries (history ++ [x]) = Seen.deliver (deliveries history) x := by
  rw [deliveries, List.foldl_append]
  rfl

/-- A transaction belongs to the last reset. -/
theorem deliver_last {attachments earlier : List (List Bytes)} {last : List Bytes}
    (h : attachments = earlier ++ [last]) (payload : Bytes) :
    attachments.dropLast ++ [attachments.getLastD [] ++ [payload]] =
      earlier ++ [last ++ [payload]] := by
  rw [h, List.dropLast_concat, List.getLastD_concat]

/-- An attempt delivers nothing. -/
theorem deliver_tryAttempt (attachments : List (List Bytes)) (self : ReconnectingStream κ)
    (attempt : Nat) :
    Seen.deliver attachments (machine.occurrence (tryAttempt self attempt)) = attachments := by
  unfold tryAttempt
  split
  · split
    · rfl
    · rfl
  · rfl

/-- A failed subscription delivers nothing. -/
theorem deliver_refuse (attachments : List (List Bytes)) (self : ReconnectingStream κ)
    (attempt : Nat) (error : Error) :
    Seen.deliver attachments (machine.occurrence (refuse self attempt error)) = attachments := by
  unfold refuse
  split
  · rfl
  · exact deliver_tryAttempt attachments self (attempt + 1)

/-- An attempt returns no error. -/
theorem tryAttempt_ne_error (self : ReconnectingStream κ) (attempt : Nat) (error : Error) :
    machine.occurrence (tryAttempt self attempt) ≠
      .returned (some (.error error)) := by
  unfold tryAttempt
  split
  · split
    · exact nofun
    · exact nofun
  · exact nofun

/-- A failed one returns the error it failed with. -/
theorem refuse_error {self : ReconnectingStream κ} {attempt : Nat} {error error' : Error}
    (h : machine.occurrence (refuse self attempt error) =
      .returned (some (.error error'))) : error' = error := by
  unfold refuse at h
  split at h
  · exact (Except.error.inj (Option.some.inj (Occurrence.returned.inj h))).symm
  · exact absurd h (tryAttempt_ne_error self (attempt + 1) error')

/-- How the current attachment relates to the log: which part of the log it is
attached to, and what of it was returned, is on its way, or may be lost. The wrapper's
validator is the fresh one of the filter's mode behind what was returned; this is all
that has to be known of it. -/
structure Window (filter : ResolvedFilter) (attachments : List (List Bytes))
    (stream : FastpathStream κ) (server : FeedServer κ) where
  /-- What the earlier attachments saw. -/
  earlier : List (List Entry)
  /-- The log before the attachment. -/
  before : List Entry
  /-- The log since, for as long as the attachment was up. -/
  run : List Entry
  /-- And behind its end. -/
  later : List Entry
  delivered : List Entry
  channel : Channel
  attachments_eq : attachments = earlier.map entryPayloads ++ [entryPayloads delivered]
  log_eq : server.log = before ++ (run ++ later)
  feed : Run.LiveFeed filter.picks before earlier
  channel_eq : server.channels stream.stream = some channel
  filter_eq : channel.filter = filter
  /-- What was sent and not lost is the beginning of what is selected. -/
  seen : delivered ++ channel.queue <+: run.filter filter.picks
  /-- And all of it, while the attachment is up. -/
  whole : channel.ending = none →
    later = [] ∧ delivered ++ channel.queue = run.filter filter.picks
  live : stream.failed = false
  accepted : Run.Accepts FastpathStream.validate (.new filter.mode) (entryMessages delivered)
  validator_eq : stream.validator =
    Run.final FastpathStream.validate (.new filter.mode) (entryMessages delivered)

/-- What was returned is a live feed of the server's log. -/
def Fed (filter : ResolvedFilter) (attachments : List (List Bytes)) (server : FeedServer κ) :
    Prop :=
  ∃ seen : List (List Entry), attachments = seen.map entryPayloads ∧
    Run.LiveFeed filter.picks server.log seen

/-- The same between two calls, with the current attachment. A wrapper that has
returned an error has none: its stream is not looked at again. -/
structure Feeding (filter : ResolvedFilter) (attachments : List (List Bytes))
    (wrapper : ReconnectingStream κ) (server : FeedServer κ) : Prop where
  filter_eq : wrapper.filter = filter
  fed : Fed filter attachments server
  attached : wrapper.terminal = false → ∀ stream, wrapper.stream = some stream →
    Nonempty (Window filter attachments stream server)

/-- `Feeding` wherever the caller is: between its calls, in one, or after a panic. -/
def FeedHolds (filter : ResolvedFilter) (attachments : List (List Bytes))
    (server : FeedServer κ) : Station (ReconnectingStream κ) (Phase κ) → Prop
  | .idle self => Feeding filter attachments self server
  | .waiting self (.receiving stream) => Feeding filter attachments self server ∧
      self.terminal = false ∧ self.stream = some stream
  | .waiting self _ => Feeding filter attachments self server ∧ self.terminal = false
  | .unwound => Fed filter attachments server

/-- The messages that were returned are those of the window. -/
theorem Window.current_eq {filter : ResolvedFilter} {attachments : List (List Bytes)}
    {stream : FastpathStream κ} {server : FeedServer κ}
    (w : Window filter attachments stream server) :
    current attachments = entryMessages w.delivered := by
  have hLast : attachments.getLastD [] = entryPayloads w.delivered :=
    (congrArg (List.getLastD · []) w.attachments_eq).trans List.getLastD_concat
  rw [current, hLast, entryPayloads, List.map_map]
  rfl

-- ---------------------------------------------------------------------------
-- The server moves
-- ---------------------------------------------------------------------------

section Server

variable {filter : ResolvedFilter} {attachments : List (List Bytes)} {server : FeedServer κ}
  {stream : FastpathStream κ}

/-- A log that grows takes nothing away from what was returned. -/
theorem Fed.grow (h : Fed filter attachments server) {server' : FeedServer κ}
    {more : List Entry} (hLog : server'.log = server.log ++ more) :
    Fed filter attachments server' := by
  obtain ⟨seen, hSeen, hFeed⟩ := h
  refine ⟨seen, hSeen, ?_⟩
  rw [hLog]
  exact hFeed.grow more

/-- **A new entry** is sent to an attachment that is up, and lost on another. -/
theorem Window.logs (w : Window filter attachments stream server) (entry : Entry) :
    Nonempty (Window filter attachments stream (server.logs entry)) := by
  have hChannel : (server.logs entry).channels stream.stream =
      some (w.channel.offer entry) := by
    show (server.channels stream.stream).map _ = _
    rw [w.channel_eq]
    rfl
  have hLog : (server.logs entry).log = w.before ++ (w.run ++ w.later) ++ [entry] := by
    rw [← w.log_eq]
    rfl
  cases hEnding : w.channel.ending with
  | none =>
    -- while it is up, the attachment has nothing behind its end
    obtain ⟨hLater, hWhole⟩ := w.whole hEnding
    have hOffer := Channel.offer_open hEnding entry
    have hAll : w.delivered ++ (w.channel.offer entry).queue =
        (w.run ++ [entry]).filter filter.picks := by
      rw [hOffer, List.filter_append, ← hWhole, List.append_assoc, w.filter_eq]
    exact ⟨{ w with
      run := w.run ++ [entry]
      later := []
      channel := w.channel.offer entry
      log_eq := by rw [hLog, hLater]; simp
      channel_eq := hChannel
      filter_eq := by rw [hOffer]; exact w.filter_eq
      seen := by rw [hAll]
      whole := fun _ => ⟨rfl, hAll⟩ }⟩
  | some ending =>
    have hOffer := Channel.offer_ended hEnding entry
    exact ⟨{ w with
      later := w.later ++ [entry]
      log_eq := by rw [hLog]; simp
      channel_eq := by rw [hChannel, hOffer]
      whole := fun hOpen => nomatch hEnding.symm.trans hOpen }⟩

variable [DecidableEq κ]

/-- **An attachment breaks off**: what is left on its way is still in order. -/
theorem Window.break (w : Window filter attachments stream server) {handle : κ}
    {channel : Channel} {kept : List Entry} {ending : Ending}
    (hChannel : server.channels handle = some channel) (hKept : kept <+: channel.queue) :
    Nonempty (Window filter attachments stream
      (server.put handle { channel with queue := kept, ending := some ending })) := by
  by_cases hSame : stream.stream = handle
  · obtain rfl := Option.some.inj ((hSame ▸ hChannel).symm.trans w.channel_eq)
    refine ⟨{ w with
      channel := { w.channel with queue := kept, ending := some ending }
      channel_eq := by rw [FeedServer.put, hSame]; exact Function.update_self ..
      seen := ((List.prefix_append_right_inj _).mpr hKept).trans w.seen
      whole := fun hOpen => nomatch hOpen }⟩
  · -- another attachment than this one
    exact ⟨{ w with
      channel_eq := by
        rw [FeedServer.put]
        exact (Function.update_of_ne hSame ..).trans w.channel_eq }⟩

/-- Whatever the server does, the attachment keeps its window. -/
theorem Window.move (w : Window filter attachments stream server) {server' : FeedServer κ}
    (h : FeedServer.Moves server server') :
    Nonempty (Window filter attachments stream server') := by
  cases h with
  | logs entry => exact w.logs entry
  | breaks hChannel _ hKept => exact w.break hChannel hKept

theorem Fed.move (h : Fed filter attachments server) {server' : FeedServer κ}
    (hMoves : FeedServer.Moves server server') : Fed filter attachments server' := by
  cases hMoves with
  | logs _ => exact h.grow rfl
  | breaks _ _ _ => exact h.grow (List.append_nil _).symm

theorem Feeding.move {self : ReconnectingStream κ} (h : Feeding filter attachments self server)
    {server' : FeedServer κ} (hMoves : FeedServer.Moves server server') :
    Feeding filter attachments self server' where
  filter_eq := h.filter_eq
  fed := h.fed.move hMoves
  attached := by
    intro hTerminal stream hStream
    obtain ⟨w⟩ := h.attached hTerminal stream hStream
    exact w.move hMoves

/-- **The server's half of the invariant**: it moves whenever it likes, and what the
client was told stays true. -/
theorem FeedHolds.move {station : Station (ReconnectingStream κ) (Phase κ)}
    (h : FeedHolds filter attachments server station) {server' : FeedServer κ}
    (hMoves : FeedServer.Moves server server') :
    FeedHolds filter attachments server' station := by
  match station, h with
  | .idle self, h => exact Feeding.move h hMoves
  | .waiting self (.receiving stream), ⟨h, hRest⟩ => exact ⟨h.move hMoves, hRest⟩
  | .waiting self (.backingOff attempt), ⟨h, hRest⟩ => exact ⟨h.move hMoves, hRest⟩
  | .waiting self (.subscribing attempt), ⟨h, hRest⟩ => exact ⟨h.move hMoves, hRest⟩
  | .unwound, h => exact Fed.move h hMoves

end Server

-- ---------------------------------------------------------------------------
-- The client moves
-- ---------------------------------------------------------------------------

/-- An error for a message is one of the canonical stream, which is not retried. -/
theorem retryable_of_firstBroken {mode : CanonicalStreamMode}
    {messages : List Proto.ResolvedTransactionFrame} {message : Proto.ResolvedTransactionFrame}
    {error : Error} (h : Run.FirstBroken (message.rules mode messages) error) :
    retryable error = false := by
  obtain ⟨e, -, rfl⟩ := Run.firstBroken_map.mp h
  rfl

section Client

variable {filter : ResolvedFilter} {attachments : List (List Bytes)} {server : FeedServer κ}
  {self : ReconnectingStream κ} {stream : FastpathStream κ}

theorem Feeding.terminate (h : Feeding filter attachments self server)
    (stream : Option (FastpathStream κ)) :
    Feeding filter attachments { self with stream, terminal := true } server where
  filter_eq := h.filter_eq
  fed := h.fed
  attached := nofun

theorem Feeding.detach (h : Feeding filter attachments self server) :
    Feeding filter attachments { self with stream := none } server where
  filter_eq := h.filter_eq
  fed := h.fed
  attached := nofun

theorem Feeding.tried (h : Feeding filter attachments self server)
    (hTerminal : self.terminal = false) (attempt : Nat) :
    FeedHolds filter attachments server (tryAttempt self attempt).station := by
  unfold tryAttempt
  split
  · split
    · exact ⟨h, hTerminal⟩
    · exact ⟨h, hTerminal⟩
  · exact h.fed

theorem Feeding.refused (h : Feeding filter attachments self server)
    (hTerminal : self.terminal = false) (attempt : Nat) (error : Error) :
    FeedHolds filter attachments server (refuse self attempt error).station := by
  unfold refuse
  split
  · exact h.terminate self.stream
  · exact h.tried hTerminal (attempt + 1)

/-- **A call begins** without a word to the server: it waits for a message, or goes on
to an attempt, or has nothing to say any more. -/
theorem Feeding.begun (h : Feeding filter attachments self server) :
    FeedHolds filter (Seen.deliver attachments (machine.occurrence (begin self))) server
      (begin self).station := by
  unfold begin
  split
  · exact h
  · rename_i hTerminal
    rw [Bool.not_eq_true] at hTerminal
    split
    · rw [deliver_tryAttempt]
      exact h.tried hTerminal 0
    · rename_i stream hStream
      split
      · rw [deliver_tryAttempt]
        exact h.detach.tried hTerminal 0
      · exact ⟨h, hTerminal, hStream⟩

/-- The current attachment is part of the feed. -/
theorem Window.fed (w : Window filter attachments stream server) :
    Fed filter attachments server := by
  refine ⟨w.earlier ++ [w.delivered], ?_, ?_⟩
  · rw [List.map_append]
    exact w.attachments_eq
  · rw [w.log_eq]
    refine w.feed.attach ?_
    rw [List.filter_append]
    exact ((List.prefix_append _ _).trans w.seen).trans (List.prefix_append _ _)

theorem FeedHolds.fed {station : Station (ReconnectingStream κ) (Phase κ)}
    (h : FeedHolds filter attachments server station) : Fed filter attachments server := by
  match station, h with
  | .idle self, h => exact Feeding.fed h
  | .waiting self (.receiving stream), ⟨h, _⟩ => exact h.fed
  | .waiting self (.backingOff attempt), ⟨h, _⟩ => exact h.fed
  | .waiting self (.subscribing attempt), ⟨h, _⟩ => exact h.fed
  | .unwound, h => exact h

/-- The attachment has its window wherever the caller is. -/
theorem FeedHolds.attached {station : Station (ReconnectingStream κ) (Phase κ)}
    (h : FeedHolds filter attachments server station) (hState : station.state? = some self)
    (hTerminal : self.terminal = false) (hStream : self.stream = some stream) :
    Nonempty (Window filter attachments stream server) := by
  match station, h, hState with
  | .idle _, h, rfl => exact Feeding.attached h hTerminal stream hStream
  | .waiting _ (.receiving _), ⟨h, _⟩, rfl => exact h.attached hTerminal stream hStream
  | .waiting _ (.backingOff _), ⟨h, _⟩, rfl => exact h.attached hTerminal stream hStream
  | .waiting _ (.subscribing _), ⟨h, _⟩, rfl => exact h.attached hTerminal stream hStream

/-- **A run of one producer is accepted.** As long as what was logged since the
attachment is such a run, the next entry on its way keeps the rules: the filter leaves a
sublist of the run, and in mode `matchAll` all of it. -/
theorem Window.accepts_producerRun (w : Window filter attachments stream server)
    {entry : Entry} {queue : List Entry} (hQueue : w.channel.queue = entry :: queue)
    {run : List Produced} (hRun : ProducerRun run) (hLogged : w.run = run.map Produced.entry) :
    Run.Kept (entry.message.rules filter.mode (entryMessages w.delivered)) := by
  have hSeen := w.seen
  rw [hQueue, List.append_cons, hLogged] at hSeen
  have hSelected : (run.map Produced.entry).filter filter.picks =
      (filter.selected run).map Produced.entry := List.filter_map
  rw [hSelected] at hSeen
  obtain ⟨frames, hFrames, hEntries⟩ :=
    List.prefix_map_iff.mp ((List.prefix_append _ _).trans hSeen)
  -- a beginning of what is selected is in the order that the mode asks for
  have hChain : (frames.map Produced.frame).IsChain (MayFollow filter.mode) :=
    List.IsChain.prefix (hRun.isChain_selected filter) (hFrames.map Produced.frame)
  have hPayloads : (entryMessages (w.delivered ++ [entry])).map (fun frame => frame.canonicalV1) =
      payloads frames := by
    rw [hEntries, entryMessages, List.map_map, List.map_map]
    rfl
  have hAccepts : Run.Accepts FastpathStream.validate (.new filter.mode)
      (entryMessages (w.delivered ++ [entry])) := by
    rw [FastpathStream.accepts_iff, hPayloads]
    exact CanonicalStreamValidator.accepts_payloads_iff.mpr hChain
  rw [entryMessages, List.map_append] at hAccepts
  exact Attachment.kept_of_accepts (fun _ h => FastpathStream.validate_diagnoses h) hAccepts

/-- **A restart is refused.** A complete, resolved frame of another epoch than the last
frame in front of it breaks the rule of the epoch first. -/
theorem refuses_restart {mode : CanonicalStreamMode}
    {messages : List Proto.ResolvedTransactionFrame} {message : Proto.ResolvedTransactionFrame}
    {frame last : ValidatedFrame} (hFrame : Resolved message.canonicalV1 frame)
    (hLast : last ∈ lastFrame (messages.map fun frame => frame.canonicalV1))
    (hEpoch : frame.header.producerEpoch ≠ last.header.producerEpoch) :
    Run.FirstBroken (message.rules mode messages) (.stream .producerEpochChanged) := by
  refine Run.firstBroken_map.mpr ⟨.producerEpochChanged, ?_, rfl⟩
  rw [canonicalRules, hFrame.parse]
  refine .later hFrame.complete (.later ⟨hFrame.sanitized, hFrame.lutResolved⟩ ?_)
  exact Run.FirstBroken.here fun hSame => hEpoch (hSame last hLast)

variable [DecidableEq κ]

/-- **A message of the server**, behind what was returned since the reset. It is
accepted if it keeps the rules, and is the next one of the window then; otherwise the
validator answers with the first rule that it breaks. -/
theorem Window.answers (w : Window filter attachments stream server) {entry : Entry}
    {queue : List Entry} (hQueue : w.channel.queue = entry :: queue) :
    (Run.Kept (entry.message.rules filter.mode (entryMessages w.delivered)) ∧
      ∃ validator, FastpathStream.validate entry.message stream.validator =
          .ok ⟨entry.payload⟩ validator ∧
        Nonempty (Window filter
          (attachments.dropLast ++ [attachments.getLastD [] ++ [entry.payload]])
          { stream with validator, failed := false }
          (server.put stream.stream { w.channel with queue }))) ∨
    ∃ error validator,
      Run.FirstBroken (entry.message.rules filter.mode (entryMessages w.delivered)) error ∧
      FastpathStream.validate entry.message stream.validator = .error (.err error) validator := by
  have hCall := FastpathStream.validate_diagnoses w.accepted entry.message
  rw [← w.validator_eq] at hCall
  cases hStep : FastpathStream.validate entry.message stream.validator with
  | error fault validator =>
    rw [hStep] at hCall
    obtain ⟨error, hBroken, hFault⟩ := Run.firstBroken_map.mp (hCall.error_iff.mp rfl)
    exact Or.inr ⟨error, validator, hBroken, by rw [hFault]⟩
  | ok item validator =>
    rw [hStep] at hCall
    obtain ⟨-, -, rfl⟩ := FastpathStream.validate_eq_ok.mp hStep
    have hSeen := w.seen
    rw [hQueue, List.append_cons] at hSeen
    have hStep' := hStep
    rw [w.validator_eq] at hStep'
    have hMessages : entryMessages (w.delivered ++ [entry]) =
        entryMessages w.delivered ++ [entry.message] := List.map_append
    refine Or.inl ⟨Run.kept_map.mp (hCall.ok_iff.mp ⟨_, rfl⟩), validator, rfl, ⟨{
      earlier := w.earlier
      before := w.before
      run := w.run
      later := w.later
      delivered := w.delivered ++ [entry]
      channel := { w.channel with queue }
      attachments_eq := ?_
      log_eq := w.log_eq
      feed := w.feed
      channel_eq := Function.update_self ..
      filter_eq := w.filter_eq
      seen := hSeen
      whole := ?_
      live := rfl
      accepted := ?_
      validator_eq := ?_ }⟩⟩
    · refine (deliver_last w.attachments_eq entry.payload).trans ?_
      rw [entryPayloads, entryPayloads, List.map_append]
      rfl
    · intro hOpen
      obtain ⟨hLater, hWhole⟩ := w.whole hOpen
      rw [hQueue, List.append_cons] at hWhole
      exact ⟨hLater, hWhole⟩
    · rw [hMessages]
      exact Run.accepts_append.mpr
        ⟨w.accepted, Run.accepts_cons.mpr ⟨_, _, hStep', Run.accepts_nil⟩⟩
    · rw [hMessages, Run.final_append, Run.final_cons, hStep']
      rfl

/-- **A new attachment** begins at the end of the log. -/
theorem Fed.attach (h : Fed filter attachments server) (handle : κ) :
    Nonempty (Window filter (attachments ++ [[]]) (.new filter.mode handle)
      (server.put handle { filter, queue := [], ending := none })) := by
  obtain ⟨seen, hSeen, hFeed⟩ := h
  exact ⟨{
    earlier := seen
    before := server.log
    run := []
    later := []
    delivered := []
    channel := { filter, queue := [], ending := none }
    attachments_eq := by rw [hSeen]; rfl
    log_eq := (List.append_nil _).symm
    feed := hFeed
    channel_eq := Function.update_self ..
    filter_eq := rfl
    seen := List.prefix_refl _
    whole := fun _ => ⟨rfl, rfl⟩
    live := rfl
    accepted := Run.accepts_nil
    validator_eq := rfl }⟩

/-- The error that an answer of the transport stands for, behind these messages of the
attachment. A message is reported by the first rule that it breaks; the end of a stream
is never reported, since it is retried. -/
def Reported (mode : CanonicalStreamMode) (messages : List Proto.ResolvedTransactionFrame) :
    (op : Wait κ) → op.Answer → Error → Prop
  | .message _, .message message, error => Run.FirstBroken (message.rules mode messages) error
  | .message _, .status code, error => error = .status code
  | .subscribe _, none, error => error = .subscribeTimeout
  | .subscribe _, some (.error code), error => error = .status code
  | _, _, _ => False

/-- **What follows a message of the server**: a transaction of the window, the error of
the rule that it breaks, or the end of the attachment. -/
theorem Feeding.received (h : Feeding filter attachments self server)
    (hTerminal : self.terminal = false) (w : Window filter attachments stream server)
    {outcome : Message Proto.ResolvedTransactionFrame} {server' : FeedServer κ}
    (hAnswer : FeedServer.Answers (.message stream.stream) outcome server server') :
    FeedHolds filter (Seen.deliver attachments (machine.occurrence (onMessage self stream outcome)))
        server' (onMessage self stream outcome).station ∧
      ∀ error, machine.occurrence (onMessage self stream outcome) =
        .returned (some (.error error)) →
        Reported filter.mode (current attachments) (.message stream.stream) outcome error := by
  obtain ⟨channel, hChannel, hQueue⟩ := hAnswer
  obtain rfl := Option.some.inj (w.channel_eq.symm.trans hChannel)
  cases hNext : w.channel.queue with
  | cons entry queue =>
    rw [hNext] at hQueue
    obtain ⟨rfl, rfl⟩ := hQueue
    rcases w.answers hNext with ⟨-, validator, hOk, ⟨w'⟩⟩ | ⟨error, validator, hBroken, hError⟩
    · have hTurn : onMessage self stream (.message entry.message) =
          .returns (some (.ok (.transaction ⟨entry.payload⟩)))
            { self with stream := some { stream with validator, failed := false } } := by
        unfold onMessage
        rw [show Attachment.receive FastpathStream.validate (.message entry.message)
          stream.validator = _ from hOk]
      rw [hTurn]
      refine ⟨⟨h.filter_eq, w'.fed, ?_⟩, nofun⟩
      intro _ stream' hStream
      obtain rfl := Option.some.inj hStream
      exact ⟨w'⟩
    · -- no error of the validator is retried, so the wrapper has ended
      have hTurn : onMessage self stream (.message entry.message) =
          .returns (some (.error error))
            { self with
              stream := some { stream with validator, failed := true }, terminal := true } := by
        unfold onMessage
        rw [show Attachment.receive FastpathStream.validate (.message entry.message)
          stream.validator = _ from hError]
        dsimp only
        rw [if_pos (by rw [retryable_of_firstBroken hBroken]; rfl)]
      rw [hTurn, w.current_eq]
      refine ⟨⟨h.filter_eq, h.fed, nofun⟩, fun error' hEq => ?_⟩
      obtain rfl := Except.error.inj (Option.some.inj (Occurrence.returned.inj hEq))
      exact hBroken
  | nil =>
    rw [hNext] at hQueue
    obtain ⟨ending, -, rfl, rfl⟩ := hQueue
    cases ending with
    | endOfStream =>
      -- the end of a stream is retried
      refine ⟨?_, fun error hError => absurd hError (tryAttempt_ne_error _ 0 error)⟩
      show FeedHolds filter (Seen.deliver attachments
        (machine.occurrence (tryAttempt { self with stream := none } 0))) _ _
      rw [deliver_tryAttempt]
      exact h.detach.tried hTerminal 0
    | status code =>
      show FeedHolds filter (Seen.deliver attachments (machine.occurrence
        (if !retryable (.status code) then _ else _ : Step κ))) _
        (if !retryable (.status code) then _ else _ : Step κ).station ∧ ∀ error,
          machine.occurrence (if !retryable (.status code) then _ else _ : Step κ) = _ → _
      split
      · refine ⟨h.terminate _, fun error hError => ?_⟩
        exact (Except.error.inj (Option.some.inj (Occurrence.returned.inj hError))).symm
      · refine ⟨?_, fun error hError => absurd hError (tryAttempt_ne_error _ 0 error)⟩
        rw [deliver_tryAttempt]
        exact h.detach.tried hTerminal 0

/-- **What follows an answer to a subscription**: an attachment, an error, or the
next attempt. -/
theorem Feeding.answered (h : Feeding filter attachments self server)
    (hTerminal : self.terminal = false) (attempt : Nat) {answer : Option (Except Code κ)}
    {server' : FeedServer κ}
    (hAnswer : FeedServer.Answers (.subscribe self.filter.intoRequest) answer server server') :
    FeedHolds filter (Seen.deliver attachments (machine.occurrence (onAnswer self attempt answer)))
        server' (onAnswer self attempt answer).station ∧
      ∀ error, machine.occurrence (onAnswer self attempt answer) =
        .returned (some (.error error)) →
        Reported filter.mode (current attachments) (.subscribe self.filter.intoRequest) answer
          error := by
  match answer, hAnswer with
  | none, hAnswer =>
    obtain rfl : server' = server := hAnswer
    show FeedHolds filter (Seen.deliver attachments (machine.occurrence
      (refuse self attempt .subscribeTimeout))) _ _ ∧ _
    rw [deliver_refuse]
    exact ⟨h.refused hTerminal attempt .subscribeTimeout, fun error hError => refuse_error hError⟩
  | some (.error code), hAnswer =>
    obtain rfl : server' = server := hAnswer
    show FeedHolds filter (Seen.deliver attachments (machine.occurrence
      (refuse self attempt (.status code)))) _ _ ∧ _
    rw [deliver_refuse]
    exact ⟨h.refused hTerminal attempt (.status code), fun error hError => refuse_error hError⟩
  | some (.ok handle), hAnswer =>
    obtain rfl := h.filter_eq
    obtain ⟨-, rfl⟩ := hAnswer
    obtain ⟨w⟩ := h.fed.attach handle
    unfold onAnswer
    dsimp only
    cases u64CheckedAdd self.attachment 1 with
    | none => exact ⟨h.fed, nofun⟩
    | some attachment =>
      refine ⟨⟨rfl, w.fed, ?_⟩, nofun⟩
      intro _ stream hStream
      obtain rfl := Option.some.inj hStream
      exact ⟨w⟩

/-- **What an answer leads to**, in every phase. -/
theorem FeedHolds.answered {phase : Phase κ} {answer : (self.ask phase).Answer}
    {server' : FeedServer κ} (h : FeedHolds filter attachments server (.waiting self phase))
    (hAnswer : FeedServer.Answers (self.ask phase) answer server server') :
    FeedHolds filter
        (Seen.deliver attachments (machine.occurrence (respond self phase answer))) server'
        (respond self phase answer).station ∧
      ∀ error, machine.occurrence (respond self phase answer) = .returned (some (.error error)) →
        Reported filter.mode (current attachments) (self.ask phase) answer error := by
  match phase, h with
  | .receiving stream, ⟨h, hTerminal, hStream⟩ =>
    obtain ⟨w⟩ := h.attached hTerminal stream hStream
    exact h.received hTerminal w hAnswer
  | .backingOff attempt, ⟨h, hTerminal⟩ =>
    obtain rfl : server' = server := hAnswer
    exact ⟨⟨h, hTerminal⟩, nofun⟩
  | .subscribing attempt, ⟨h, hTerminal⟩ => exact h.answered hTerminal attempt hAnswer

end Client

-- ---------------------------------------------------------------------------
-- Every run of the system
-- ---------------------------------------------------------------------------

/-- An error is what the transport answered last, or what is wrong with the message
that it answered last, behind what was returned on that attachment. -/
def Genuine (mode : CanonicalStreamMode) (before : List (Seen κ)) : Seen κ → Prop
  | .returned (some (.error error)) => ∃ front op answer,
      before = front ++ [.resolved op answer] ∧
        Reported mode (current (deliveries front)) op answer error
  | _ => True

theorem genuine_of_not_error {mode : CanonicalStreamMode} {before : List (Seen κ)} {x : Seen κ}
    (h : ∀ error, x ≠ .returned (some (.error error))) : Genuine mode before x := by
  match x, h with
  | .returned (some (.error error)), h => exact absurd rfl (h error)
  | .returned (some (.ok _)), _ => trivial
  | .returned none, _ => trivial
  | .called, _ => trivial
  | .awaits _, _ => trivial
  | .resolved _ _, _ => trivial
  | .dropped, _ => trivial
  | .panicked _, _ => trivial

/-- A call reports no error before it has waited for something. -/
theorem begin_ne_error (self : ReconnectingStream κ) (error : Error) :
    machine.occurrence (begin self) ≠ .returned (some (.error error)) := by
  unfold begin
  split
  · exact nofun
  · split
    · exact tryAttempt_ne_error self 0 error
    · split
      · exact tryAttempt_ne_error _ 0 error
      · exact nofun

variable [DecidableEq κ]

/-- **The invariant of the system**, over every run. The server moves between any two
steps of the client; a call and an answer are one turn of the wrapper each; and a call
that is dropped leaves the wrapper as it was before the await. -/
theorem feedHolds_of_runs {filter : ResolvedFilter} {self : ReconnectingStream κ}
    {server₀ server : FeedServer κ} {history : List (Seen κ)}
    {station : Station (ReconnectingStream κ) (Phase κ)}
    (hFilter : self.filter = filter) (hStream : self.stream = none)
    (h : machine.Runs FeedServer.environment self server₀ history station server) :
    FeedHolds filter (deliveries history) server station ∧
      Lawful (Genuine filter.mode) history := by
  induction h with
  | start =>
    refine ⟨⟨hFilter, ⟨[], rfl, .start _⟩, ?_⟩, lawful_nil⟩
    intro _ stream hSome
    exact nomatch hStream.symm.trans hSome
  | move _ hMoves ih => exact ⟨ih.1.move hMoves, ih.2⟩
  | @call history state server _ ih =>
    obtain ⟨hFeeding, hLawful⟩ := ih
    rw [deliveries_concat, deliveries_concat, lawful_concat, lawful_concat]
    exact ⟨hFeeding.begun, ⟨hLawful, trivial⟩, genuine_of_not_error (begin_ne_error state)⟩
  | @answer history state phase server server' answer _ hAnswer ih =>
    obtain ⟨hHolds, hLawful⟩ := ih
    obtain ⟨hNext, hReported⟩ := hHolds.answered hAnswer
    rw [deliveries_concat, deliveries_concat, lawful_concat, lawful_concat]
    refine ⟨hNext, ⟨hLawful, trivial⟩, ?_⟩
    by_cases hError : ∃ error, machine.occurrence (respond state phase answer) =
        .returned (some (.error error))
    · obtain ⟨error, hError⟩ := hError
      show Genuine _ _ (machine.occurrence (respond state phase answer))
      rw [hError]
      exact ⟨history, _, answer, rfl, hReported error hError⟩
    · exact genuine_of_not_error fun error hEq => hError ⟨error, hEq⟩
  | @drop history state phase server _ ih =>
    obtain ⟨hHolds, hLawful⟩ := ih
    rw [deliveries_concat, lawful_concat]
    refine ⟨?_, hLawful, trivial⟩
    match phase, hHolds with
    | .receiving stream, ⟨h, _⟩ => exact h
    | .backingOff attempt, ⟨h, _⟩ => exact h
    | .subscribing attempt, ⟨h, _⟩ => exact h

/-- The caller waits for a message of its own attachment. -/
theorem receiving_of_waiting {self state : ReconnectingStream κ} {server₀ server : FeedServer κ}
    {history : List (Seen κ)} {handle : κ}
    {next : Message Proto.ResolvedTransactionFrame →
      Future (Wait κ) Wait.Answer (ReconnectingStream κ) (Option (Except Error FastpathEvent))}
    {station : Station (ReconnectingStream κ) (Phase κ)}
    (h : machine.Runs FeedServer.environment self server₀ history station server)
    (hWaiting : Caller.waiting state (.message handle) next =
      machine.caller ReconnectingStream.resume station) :
    ∃ stream, station = .waiting state (.receiving stream) ∧ stream.stream = handle ∧
      next = ReconnectingStream.received state stream := by
  obtain ⟨phase, rfl, hEq⟩ := machine.exists_waiting _ hWaiting
  obtain ⟨-, hOp, hNext⟩ := Caller.waiting.inj hEq
  match phase with
  | .receiving stream =>
    obtain rfl := Wait.message.inj hOp
    exact ⟨stream, rfl, rfl, eq_of_heq hNext⟩
  | .backingOff attempt => cases hOp
  | .subscribing attempt => cases hOp

/-- **What the wrapper makes of the next entry on its way**, with the window of its
attachment. -/
structure Judged (filter : ResolvedFilter) (attachments : List (List Bytes))
    (stream : FastpathStream κ) (server : FeedServer κ) (entry : Entry) (seen : Seen κ) :
    Prop where
  /-- An entry that keeps the rules is returned. -/
  accepts : Run.Kept (entry.message.rules filter.mode (current attachments)) →
    seen = .returned (some (.ok (.transaction ⟨entry.payload⟩)))
  /-- And any other is reported, by the first rule that it breaks. -/
  refuses : ∀ error, Run.FirstBroken (entry.message.rules filter.mode (current attachments)) error →
    seen = .returned (some (.error error))
  /-- No false alarm: a run of one producer is returned. -/
  producerRun : ∀ (w : Window filter attachments stream server) (run : List Produced),
    ProducerRun run → w.run = run.map Produced.entry →
      seen = .returned (some (.ok (.transaction ⟨entry.payload⟩)))
  /-- A producer that restarts is noticed at its first frame. -/
  restart : ∀ frame last, Resolved entry.payload frame →
    last ∈ lastFrame (attachments.getLastD []) →
    frame.header.producerEpoch ≠ last.header.producerEpoch →
      seen = .returned (some (.error (.stream .producerEpochChanged)))

/-- The next entry of a window, received by the wrapper that waits for it. -/
theorem Window.judged {filter : ResolvedFilter} {attachments : List (List Bytes)}
    {stream : FastpathStream κ} {server : FeedServer κ} {state : ReconnectingStream κ}
    (w : Window filter attachments stream server) {entry : Entry} {queue : List Entry}
    (hQueue : w.channel.queue = entry :: queue) :
    Judged filter attachments stream server entry
      (ReconnectingStream.received state stream (.message entry.message)).occurrence := by
  have hAccepts : Run.Kept (entry.message.rules filter.mode (current attachments)) →
      (ReconnectingStream.received state stream (.message entry.message)).occurrence =
        .returned (some (.ok (.transaction ⟨entry.payload⟩))) := by
    intro hKept
    rw [w.current_eq] at hKept
    rcases w.answers hQueue with ⟨-, validator, hOk, -⟩ | ⟨error, validator, hBroken, -⟩
    · have hReceive : Attachment.receive FastpathStream.validate (.message entry.message)
          stream.validator = .ok ⟨entry.payload⟩ validator := hOk
      rw [ReconnectingStream.received_ok hReceive]
      rfl
    · exact absurd hKept hBroken.not_kept
  have hRefuses : ∀ error,
      Run.FirstBroken (entry.message.rules filter.mode (current attachments)) error →
      (ReconnectingStream.received state stream (.message entry.message)).occurrence =
        .returned (some (.error error)) := by
    intro error hBroken
    rw [w.current_eq] at hBroken
    rcases w.answers hQueue with ⟨hKept, -⟩ | ⟨error', validator, hBroken', hError⟩
    · exact absurd hKept hBroken.not_kept
    · obtain rfl := hBroken.unique hBroken'
      have hReceive : Attachment.receive FastpathStream.validate (.message entry.message)
          stream.validator = .error (.err error) validator := hError
      rw [ReconnectingStream.received, hReceive]
      dsimp only
      rw [if_pos (by rw [retryable_of_firstBroken hBroken]; rfl)]
      rfl
  refine ⟨hAccepts, hRefuses, fun w' run hRun hLogged => hAccepts ?_, ?_⟩
  · -- the channel of an attachment is the server's, whatever the window
    have hChannel := Option.some.inj (w'.channel_eq.symm.trans w.channel_eq)
    rw [← hChannel] at hQueue
    rw [w'.current_eq]
    exact w'.accepts_producerRun hQueue hRun hLogged
  · intro frame last hFrame hLast hEpoch
    refine hRefuses _ (refuses_restart hFrame ?_ hEpoch)
    rw [current, List.map_map]
    exact (List.map_id (attachments.getLastD [])).symm ▸ hLast

/-- **The wrapper gives its caller a live feed**, whatever the server logs, and however
the server, the network and the caller are interleaved:

* attachment by attachment, the transactions returned are the beginning of what was
  selected of the log since, so that nothing is repeated, reordered or made up;
* what is selected and was not returned was logged before the first attachment, or is
  lost behind the end of another, in front of a reset: nothing is missing inside what
  one attachment returned;
* an error is what the transport answered last, or the first rule that its last message
  breaks behind the transactions since the reset, and cannot be retried or has been for
  the last time;
* what the current attachment was sent is what was returned since the reset and
  what is on its way, and nothing else while the attachment is up;
* the next message is returned or refused by the rules alone. The frames of one
  producer's run are not refused, and the first one behind a restart is. -/
theorem live_feed {filter : ResolvedFilter} {config : ReconnectConfig}
    {self : ReconnectingStream κ} (hNew : ReconnectingStream.new filter config = .ok self)
    {server₀ server : FeedServer κ} {history : List (Seen κ)}
    {caller : Caller (Wait κ) Wait.Answer (ReconnectingStream κ)
      (Option (Except Error FastpathEvent))}
    (h : Joint FeedServer.environment next self server₀ history caller server) :
    (∃ seen : List (List Entry), deliveries history = seen.map entryPayloads ∧
      Run.LiveFeed filter.picks server.log seen ∧
      (∃ (skipped : List Entry) (lost : List (List Entry)), lost.length = seen.length ∧
        server.log.filter filter.picks =
          skipped ++ (List.zipWith (· ++ ·) seen lost).flatten) ∧
      ∀ attachment ∈ seen, attachment <:+: server.log.filter filter.picks) ∧
    (∀ before error after, history = before ++ .returned (some (.error error)) :: after →
      (∃ front op answer, before = front ++ [.resolved op answer] ∧
        Reported filter.mode (current (deliveries front)) op answer error) ∧
      (retryable error = false ∨
        (ledger before).failures = config.maximumAttempts.toNat)) ∧
    (∀ state stream, caller.state? = some state → state.terminal = false →
      state.stream = some stream → Nonempty (Window filter (deliveries history) stream server)) ∧
    ∀ state handle resume channel entry queue, caller = .waiting state (.message handle) resume →
      server.channels handle = some channel → channel.queue = entry :: queue →
      ∃ stream, state.terminal = false ∧ state.stream = some stream ∧ stream.stream = handle ∧
        Judged filter (deliveries history) stream server entry
          (resume (.message entry.message)).occurrence := by
  obtain ⟨hAttempts, hInit⟩ := disciplined_new hNew
  obtain ⟨-, hSelf⟩ := guard_eq_ok hNew
  obtain rfl := Except.ok.inj hSelf
  have hCall : ∀ (history : List (Seen κ)) wrapper, Disciplined config filter history wrapper →
      Upholds (Disciplined config filter) (Lawful (Permitted config filter))
        (history ++ [.called]) (next wrapper) := fun _ _ h => upholds_next hAttempts h
  have hLawful := h.traced.of_upholds hInit (fun _ _ h => h.lawful) hCall
  obtain ⟨station, hRuns, rfl⟩ := ReconnectingStream.machine_implements.joint_iff.mp h
  obtain ⟨hHolds, hGenuine⟩ : FeedHolds filter (deliveries history) server station ∧
      Lawful (Genuine filter.mode) history := feedHolds_of_runs rfl rfl hRuns
  refine ⟨?_, ?_, ?_, ?_⟩
  · obtain ⟨seen, hSeen, hFeed⟩ := hHolds.fed
    exact ⟨seen, hSeen, hFeed, hFeed.account, fun attachment hMem => hFeed.isInfix hMem⟩
  · intro before error after hEq
    obtain ⟨-, hLast⟩ := hLawful before _ after hEq
    exact ⟨hGenuine before _ after hEq, hLast⟩
  · intro state stream hState hTerminal hStream
    rw [Automaton.state?_caller] at hState
    exact hHolds.attached hState hTerminal hStream
  · intro state handle resume channel entry queue hWaiting hChannel hQueue
    obtain ⟨stream, rfl, rfl, rfl⟩ := receiving_of_waiting hRuns hWaiting.symm
    obtain ⟨hFeeding, hTerminal, hStream⟩ := hHolds
    obtain ⟨w⟩ := hFeeding.attached hTerminal stream hStream
    obtain rfl := Option.some.inj (w.channel_eq.symm.trans hChannel)
    exact ⟨stream, hTerminal, hStream, rfl, w.judged hQueue⟩

/-- A reset, a first frame that is received, and a second one that is lost when
the attachment breaks off. -/
theorem exists_sampleFeed (first second : Produced) :
    ∃ (history : List (Seen Unit)) (state : ReconnectingStream Unit) (server : FeedServer Unit),
      Joint FeedServer.environment next sampleWrapper ⟨[], fun _ => none⟩ history
        (.idle state) server ∧
      deliveries history = [[first.payload]] ∧ server.log = [first.entry, second.entry] := by
  obtain ⟨validator, hOk⟩ := (CanonicalStreamValidator.validateResolved_sequencer .matchAll).ok
    (CanonicalStreamValidator.remembers_new .matchAll) first.resolved
    fun _ hLast => absurd hLast (Option.not_mem_none _)
  have hSubscribes : next sampleWrapper = .pending sampleWrapper
      (.subscribe (ResolvedFilter.intoRequest .matchAll))
      (ReconnectingStream.answered 0 (ReconnectingStream.connect 1 4 sampleWrapper)
        sampleWrapper) :=
    ReconnectingStream.next_first rfl rfl rfl rfl
  have hWaits : next sampleAttached = .pending sampleAttached (.message ())
      (ReconnectingStream.received sampleAttached (.new .matchAll ())) :=
    ReconnectingStream.next_message rfl rfl rfl
  have hReceives : ReconnectingStream.received sampleAttached (.new .matchAll ())
      (.message first.entry.message) = .ready (some (.ok (.transaction ⟨first.payload⟩)))
        { sampleAttached with stream := some ⟨(), validator, false⟩ } :=
    ReconnectingStream.received_ok (FastpathStream.validate_eq_ok.mpr ⟨_, hOk, rfl⟩)
  have hStart : Joint FeedServer.environment next sampleWrapper ⟨[], fun _ => none⟩ []
      (.idle sampleWrapper) ⟨[], fun _ => none⟩ := .start
  have hCalled := hStart.call
  rw [hSubscribes] at hCalled
  have hEmpty : (⟨[], fun _ => none⟩ : FeedServer Unit).channels () = none := rfl
  have hAttaches := FeedServer.answers_subscribe hEmpty (ResolvedFilter.intoRequest .matchAll)
  have hReset := hCalled.resolve _ hAttaches
  have hAttached : ReconnectingStream.answered 0
      (ReconnectingStream.connect 1 4 sampleWrapper) sampleWrapper (some (.ok ())) =
      .ready (some (.ok (.streamReset 1))) sampleAttached := rfl
  rw [hAttached] at hReset
  have hFirst := hReset.move (@FeedServer.Moves.logs Unit _ _ first.entry)
  have hWaiting := hFirst.call
  rw [hWaits] at hWaiting
  have hReceived := hWaiting.resolve _
    (@FeedServer.answers_message Unit _ _ () ⟨.matchAll, [first.entry], none⟩ first.entry [] rfl rfl)
  rw [hReceives] at hReceived
  have hSecond := hReceived.move (@FeedServer.Moves.logs Unit _ _ second.entry)
  have hBroken := hSecond.move
    (@FeedServer.Moves.breaks Unit _ _ () _ [] .endOfStream rfl rfl (List.nil_prefix ..))
  exact ⟨_, _, _, hBroken, rfl, rfl⟩

/-- One frame is delivered and the next one lost behind the attachment. -/
theorem live_feed_sample : ∃ (history : List (Seen Unit)) (state : ReconnectingStream Unit)
    (server : FeedServer Unit),
    Joint FeedServer.environment next sampleWrapper ⟨[], fun _ => none⟩ history
      (.idle state) server ∧
    server.log = (sampleRun.take 2).map Produced.entry ∧
    deliveries history = [payloads (sampleRun.take 1)] ∧
    ∃ seen : List (List Entry), deliveries history = seen.map entryPayloads ∧
      Run.LiveFeed ResolvedFilter.matchAll.picks server.log seen := by
  have hNew : ReconnectingStream.new .matchAll .default = .ok sampleWrapper := rfl
  obtain ⟨history, state, server, hJoint, hDeliveries, hLog⟩ :=
    exists_sampleFeed (sampleProduced 41 sampleParts_encodable)
      (sampleProduced 42 ⟨tryNew_sampleV0, rfl, by decide, by decide, by decide +kernel⟩)
  obtain ⟨⟨seen, hSeen, hFeed, -⟩, -⟩ := live_feed hNew hJoint
  exact ⟨history, state, server, hJoint, hLog, hDeliveries, seen, hSeen, hFeed⟩

end TxStream

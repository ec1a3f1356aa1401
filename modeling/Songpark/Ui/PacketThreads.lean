import Songpark.Core.Relay

/-!
# The threads that pass packets on

`net_to_axi_mq_writer` takes datagrams from the network and puts them into a
message queue; `axi_to_net_mq_reader` takes messages from another queue and
sends them.  Each waits for a packet, passes it on, and counts what goes wrong.
The rounds of the two threads come in any order.

Both are relays.  The main result, `packets_accounted`, compares the statistics
with what really happened; the counters are exact as long as they do not wrap
around.
-/

namespace Songpark.PacketThreads

open Songpark.Relay

abbrev Packet := List (BitVec 8)

def fifoSize : ℕ := 512

def axiPktSize : ℕ := fifoSize / 8

def udpPktSize : ℕ := axiPktSize * 4

/-! ## What the calls do -/

/-- A call that fills a buffer fails, whatever is then in the buffer, or stores
a packet that fits. -/
inductive Fill (size : ℕ)
  | failed (left : Packet)
  | filled (packet : Packet) (fits : packet.length ≤ size)

namespace Fill

variable {size : ℕ}

def packet? : Fill size → Option Packet
  | .failed _ => none
  | .filled packet _ => some packet

def length : Fill size → ℕ
  | .failed _ => 0
  | .filled packet _ => packet.length

/-- The result: the number of bytes, or -1. -/
def result : Fill size → ℤ
  | .failed _ => -1
  | .filled packet _ => packet.length

/-- The buffer afterwards. -/
def store (buffer : Packet) : Fill size → Packet
  | .failed left => left
  | .filled packet _ => packet ++ buffer.drop packet.length

end Fill

/-- `mq_send` puts the whole message into the queue or fails. -/
inductive MqSend
  | failed
  | queued

def MqSend.result : MqSend → ℤ
  | .failed => -1
  | .queued => 0

/-- The messages put into the queue so far. -/
def MqSend.enqueue (message : Packet) (queue : List Packet) :
    MqSend → List Packet
  | .failed => queue
  | .queued => queue ++ [message]

/-- `sendto` fails or sends so many of the bytes. -/
inductive UdpSend (length : ℕ)
  | failed
  | sent (count : ℕ) (within : count ≤ length)

namespace UdpSend

variable {length : ℕ}

def count? : UdpSend length → Option ℕ
  | .failed => none
  | .sent count _ => some count

def result : UdpSend length → ℤ
  | .failed => -1
  | .sent count _ => count

/-- The datagrams sent so far. -/
def transmit (message : Packet) (network : List Packet) :
    UdpSend length → List Packet
  | .failed => network
  | .sent count _ => network ++ [message.take count]

end UdpSend

/-- What the calls of one round of `net_to_axi_mq_writer` do. -/
structure WriterRound where
  recv : Fill udpPktSize
  send : MqSend

/-- What the calls of one round of `axi_to_net_mq_reader` do. -/
structure ReaderRound where
  receive : Fill (axiPktSize * 4)
  send : UdpSend receive.length

inductive Round
  | writer (round : WriterRound)
  | reader (round : ReaderRound)

/-! ## The loops -/

/-- The statistics, as wide as an `unsigned long`, the buffers of the threads,
and what was put into the queue and onto the network. -/
structure State (width : ℕ) where
  totalBytesSendToNet : BitVec width
  totalBytesReadFromNet : BitVec width
  axiToNetMqRErrorCount : BitVec width
  netToAxiMqWErrorCount : BitVec width
  netReadErrorCount : BitVec width
  netSendErrorCount : BitVec width
  writerBuffer : Packet
  readerBuffer : Packet
  netToAxi : List Packet
  network : List Packet

variable {width : ℕ}

/-- One round of `net_to_axi_mq_writer`. -/
def netToAxiMqWriter (round : WriterRound) (state : State width) :
    State width :=
  let n := round.recv.result
  let state :=
    { state with writerBuffer := round.recv.store state.writerBuffer }
  if n = -1 then
    { state with netReadErrorCount := state.netReadErrorCount + 1 }
  else
    let state :=
      { state with
        totalBytesReadFromNet :=
          state.totalBytesReadFromNet + BitVec.ofInt width n
        netToAxi :=
          round.send.enqueue (state.writerBuffer.take n.toNat) state.netToAxi }
    if round.send.result ≠ 0 then
      { state with netToAxiMqWErrorCount := state.netToAxiMqWErrorCount + 1 }
    else state

/-- One round of `axi_to_net_mq_reader`. -/
def axiToNetMqReader (round : ReaderRound) (state : State width) :
    State width :=
  let n := round.receive.result
  let state :=
    { state with readerBuffer := round.receive.store state.readerBuffer }
  if n = -1 then
    { state with axiToNetMqRErrorCount := state.axiToNetMqRErrorCount + 1 }
  else
    let z := round.send.result
    let state :=
      { state with
        network :=
          round.send.transmit (state.readerBuffer.take n.toNat) state.network }
    if z ≠ -1 then
      { state with
        totalBytesSendToNet :=
          state.totalBytesSendToNet + BitVec.ofInt width z }
    else { state with netSendErrorCount := state.netSendErrorCount + 1 }

def takeRound (state : State width) : Round → State width
  | .writer round => netToAxiMqWriter round state
  | .reader round => axiToNetMqReader round state

/-- The statistics are zero at first; the buffers may hold anything. -/
def start (width : ℕ) (writerBuffer readerBuffer : Packet) : State width where
  totalBytesSendToNet := 0
  totalBytesReadFromNet := 0
  axiToNetMqRErrorCount := 0
  netToAxiMqWErrorCount := 0
  netReadErrorCount := 0
  netSendErrorCount := 0
  writerBuffer := writerBuffer
  readerBuffer := readerBuffer
  netToAxi := []
  network := []

def run (rounds : List Round) (state : State width) : State width :=
  rounds.foldl takeRound state

/-! ## The threads as relays -/

def WriterRound.outcome (round : WriterRound) : Outcome Packet Packet :=
  match round.recv.packet?, round.send with
  | none, _ => .missed
  | some packet, .failed => .dropped packet
  | some packet, .queued => .passed packet packet

def ReaderRound.outcome (round : ReaderRound) : Outcome Packet Packet :=
  match round.receive.packet?, round.send.count? with
  | none, _ => .missed
  | some packet, none => .dropped packet
  | some packet, some count => .passed packet (packet.take count)

/-- The rounds of `net_to_axi_mq_writer`. -/
def writerHistory (rounds : List Round) : List (Outcome Packet Packet) :=
  rounds.filterMap fun
    | .writer round => some round.outcome
    | .reader _ => none

/-- The rounds of `axi_to_net_mq_reader`. -/
def readerHistory (rounds : List Round) : List (Outcome Packet Packet) :=
  rounds.filterMap fun
    | .writer _ => none
    | .reader round => some round.outcome

/-- The accounts of `net_to_axi_mq_writer`. -/
structure WriterAccounts (history : List (Outcome Packet Packet))
    (state : State width) : Prop where
  enqueued : state.netToAxi.Sublist (received history)
  every : (received history).length =
    state.netToAxi.length + droppedCount history
  writeErrors : state.netToAxiMqWErrorCount =
    BitVec.ofNat width (droppedCount history)
  balanced_iff : (received history).length =
      state.netToAxi.length + state.netToAxiMqWErrorCount.toNat ↔
    droppedCount history < 2 ^ width
  readErrors : state.netReadErrorCount =
    BitVec.ofNat width (missedCount history)
  bytes : state.totalBytesReadFromNet =
    BitVec.ofNat width ((received history).map List.length).sum

/-- The accounts of `axi_to_net_mq_reader`; a datagram may be cut short. -/
structure ReaderAccounts (history : List (Outcome Packet Packet))
    (state : State width) : Prop where
  transmitted :
    List.SublistForall₂ (· <+: ·) state.network (received history)
  every : (received history).length =
    state.network.length + droppedCount history
  sendErrors : state.netSendErrorCount =
    BitVec.ofNat width (droppedCount history)
  balanced_iff : (received history).length =
      state.network.length + state.netSendErrorCount.toNat ↔
    droppedCount history < 2 ^ width
  receiveErrors : state.axiToNetMqRErrorCount =
    BitVec.ofNat width (missedCount history)
  bytes : state.totalBytesSendToNet =
    BitVec.ofNat width (state.network.map List.length).sum

/-! ## Rounds and tallies -/

/-- What `net_to_axi_mq_writer` adds up: the received bytes. -/
def readSize (outcome : Outcome Packet Packet) : ℕ :=
  (outcome.received.map List.length).getD 0

/-- What `axi_to_net_mq_reader` adds up: the sent bytes. -/
def sendSize (outcome : Outcome Packet Packet) : ℕ :=
  (outcome.sent.map List.length).getD 0

def State.writerTally (state : State width) : Tally Packet width where
  sent := state.netToAxi
  missed := state.netReadErrorCount
  dropped := state.netToAxiMqWErrorCount
  bytes := state.totalBytesReadFromNet

def State.readerTally (state : State width) : Tally Packet width where
  sent := state.network
  missed := state.axiToNetMqRErrorCount
  dropped := state.netSendErrorCount
  bytes := state.totalBytesSendToNet

section Rounds

variable (state : State width)

/-- A count of bytes is not the error. -/
theorem natCast_ne_error (count : ℕ) : (count : ℤ) ≠ -1 := by omega

theorem writerTally_writer (round : WriterRound) :
    (netToAxiMqWriter round state).writerTally =
      state.writerTally.record readSize round.outcome := by
  obtain ⟨recv, send⟩ := round
  cases recv with
  | failed left => exact (record_missed rfl state.writerTally).symm
  | filled packet fits =>
      have hn : ¬ (packet.length : ℤ) = -1 := natCast_ne_error packet.length
      cases send with
      | failed =>
          simp [netToAxiMqWriter, State.writerTally, Fill.result, hn,
            MqSend.result, MqSend.enqueue, WriterRound.outcome, Fill.packet?,
            Tally.record, readSize, Outcome.received]
      | queued =>
          simp [netToAxiMqWriter, State.writerTally, Fill.result, hn,
            MqSend.result, MqSend.enqueue, WriterRound.outcome, Fill.packet?,
            Tally.record, readSize, Outcome.received, Fill.store]

theorem readerTally_writer (round : WriterRound) :
    (netToAxiMqWriter round state).readerTally = state.readerTally := by
  simp only [netToAxiMqWriter]
  split_ifs <;> rfl

theorem writerTally_reader (round : ReaderRound) :
    (axiToNetMqReader round state).writerTally = state.writerTally := by
  simp only [axiToNetMqReader]
  split_ifs <;> rfl

theorem readerTally_reader (round : ReaderRound) :
    (axiToNetMqReader round state).readerTally =
      state.readerTally.record sendSize round.outcome := by
  obtain ⟨receive, send⟩ := round
  cases receive with
  | failed left => exact (record_missed rfl state.readerTally).symm
  | filled packet fits =>
      have hn : ¬ (packet.length : ℤ) = -1 := natCast_ne_error packet.length
      cases send with
      | failed =>
          simp [axiToNetMqReader, State.readerTally, Fill.result, hn,
            UdpSend.result, UdpSend.transmit, ReaderRound.outcome,
            Fill.packet?, UdpSend.count?, Tally.record, sendSize, Outcome.sent]
      | sent count within =>
          have hz : ¬ (count : ℤ) = -1 := natCast_ne_error count
          have hwithin : min count packet.length = count :=
            Nat.min_eq_left within
          simp [axiToNetMqReader, State.readerTally, Fill.result, hn, hz,
            UdpSend.result, UdpSend.transmit, ReaderRound.outcome,
            Fill.packet?, UdpSend.count?, Tally.record, sendSize, Outcome.sent,
            Fill.store, hwithin]

end Rounds

/-! ## Runs -/

section Runs

variable (rounds : List Round) (state : State width)

/-- The registers of the writer follow its own rounds. -/
theorem writerTally_run :
    (run rounds state).writerTally =
      (writerHistory rounds).foldl (Tally.record readSize)
        state.writerTally := by
  apply view_foldl State.writerTally
  intro current round
  cases round with
  | writer round => exact writerTally_writer current round
  | reader round => exact writerTally_reader current round

/-- The registers of the reader follow its own rounds. -/
theorem readerTally_run :
    (run rounds state).readerTally =
      (readerHistory rounds).foldl (Tally.record sendSize)
        state.readerTally := by
  apply view_foldl State.readerTally
  intro current round
  cases round with
  | writer round => exact readerTally_writer current round
  | reader round => exact readerTally_reader current round

variable (writerBuffer readerBuffer : Packet)

theorem writerTally_start :
    (run rounds (start width writerBuffer readerBuffer)).writerTally =
      Tally.of width readSize (writerHistory rounds) := by
  rw [writerTally_run]
  exact foldl_record readSize (writerHistory rounds)

theorem readerTally_start :
    (run rounds (start width writerBuffer readerBuffer)).readerTally =
      Tally.of width sendSize (readerHistory rounds) := by
  rw [readerTally_run]
  exact foldl_record sendSize (readerHistory rounds)

end Runs

/-! ## The accounts -/

section Accounts

variable {rounds : List Round} {packet datagram : Packet}

/-- The writer enqueues what it has received. -/
theorem writer_passed
    (hpassed : .passed packet datagram ∈ writerHistory rounds) :
    datagram = packet := by
  obtain ⟨round, _, houtcome⟩ := List.mem_filterMap.mp hpassed
  cases round with
  | reader round => cases houtcome
  | writer round =>
      obtain ⟨recv, send⟩ := round
      cases recv with
      | failed left => cases houtcome
      | filled packet fits =>
          cases send with
          | failed => cases houtcome
          | queued =>
              cases houtcome
              rfl

/-- The reader sends a part of what it has received, from the start on. -/
theorem reader_passed
    (hpassed : .passed packet datagram ∈ readerHistory rounds) :
    datagram <+: packet := by
  obtain ⟨round, _, houtcome⟩ := List.mem_filterMap.mp hpassed
  cases round with
  | writer round => cases houtcome
  | reader round =>
      obtain ⟨receive, send⟩ := round
      cases receive with
      | failed left => cases houtcome
      | filled packet fits =>
          cases send with
          | failed => cases houtcome
          | sent count within =>
              cases houtcome
              exact List.take_prefix count packet

/-- Counting what was not passed on balances the accounts unless the counter
has wrapped around. -/
theorem balanced_iff_of_every {all passed dropped : ℕ}
    (hevery : all = passed + dropped) :
    all = passed + (BitVec.ofNat width dropped).toNat ↔
      dropped < 2 ^ width := by
  rw [hevery, Nat.add_left_cancel_iff, eq_comm]
  exact toNat_ofNat_eq_iff

theorem writerAccounts_of_tally {history : List (Outcome Packet Packet)}
    {state : State width}
    (hpassed : ∀ packet datagram, .passed packet datagram ∈ history →
      datagram = packet)
    (htally : state.writerTally = Tally.of width readSize history) :
    WriterAccounts history state := by
  have hqueue : state.netToAxi = sent history := congrArg Tally.sent htally
  have herrors : state.netToAxiMqWErrorCount =
      BitVec.ofNat width (droppedCount history) :=
    congrArg Tally.dropped htally
  have hevery : (received history).length =
      state.netToAxi.length + droppedCount history := by
    rw [hqueue, length_received]
  exact {
    enqueued := hqueue ▸ sent_sublist hpassed
    every := hevery
    writeErrors := herrors
    balanced_iff := herrors ▸ balanced_iff_of_every hevery
    readErrors := congrArg Tally.missed htally
    bytes :=
      calc state.totalBytesReadFromNet
          = BitVec.ofNat width (history.map readSize).sum :=
            congrArg Tally.bytes htally
        _ = BitVec.ofNat width ((received history).map List.length).sum :=
            congrArg (BitVec.ofNat width)
              (sum_map_filterMap history Outcome.received List.length) }

theorem readerAccounts_of_tally {history : List (Outcome Packet Packet)}
    {state : State width}
    (hpassed : ∀ packet datagram, .passed packet datagram ∈ history →
      datagram <+: packet)
    (htally : state.readerTally = Tally.of width sendSize history) :
    ReaderAccounts history state := by
  have hnetwork : state.network = sent history := congrArg Tally.sent htally
  have herrors : state.netSendErrorCount =
      BitVec.ofNat width (droppedCount history) :=
    congrArg Tally.dropped htally
  have hevery : (received history).length =
      state.network.length + droppedCount history := by
    rw [hnetwork, length_received]
  exact {
    transmitted := hnetwork ▸ sent_sublistForall₂ hpassed
    every := hevery
    sendErrors := herrors
    balanced_iff := herrors ▸ balanced_iff_of_every hevery
    receiveErrors := congrArg Tally.missed htally
    bytes :=
      calc state.totalBytesSendToNet
          = BitVec.ofNat width (history.map sendSize).sum :=
            congrArg Tally.bytes htally
        _ = BitVec.ofNat width ((sent history).map List.length).sum :=
            congrArg (BitVec.ofNat width)
              (sum_map_filterMap history Outcome.sent List.length)
        _ = BitVec.ofNat width (state.network.map List.length).sum := by
            rw [hnetwork] }

end Accounts

/-- In every run of the two threads the accounts of both are kept. -/
theorem packets_accounted (width : ℕ) (writerBuffer readerBuffer : Packet)
    (rounds : List Round) :
    WriterAccounts (writerHistory rounds)
        (run rounds (start width writerBuffer readerBuffer)) ∧
      ReaderAccounts (readerHistory rounds)
        (run rounds (start width writerBuffer readerBuffer)) :=
  ⟨writerAccounts_of_tally (fun _ _ => writer_passed)
      (writerTally_start rounds writerBuffer readerBuffer),
    readerAccounts_of_tally (fun _ _ => reader_passed)
      (readerTally_start rounds writerBuffer readerBuffer)⟩

/-! ## Counters that wrap around -/

/-- A packet of one byte that the queue does not take. -/
def refused : Round := .writer ⟨.filled [0] (by decide), .failed⟩

theorem droppedCount_refused (count : ℕ) :
    droppedCount (writerHistory (List.replicate count refused)) = count := by
  have hhistory : writerHistory (List.replicate count refused) =
      List.replicate count (.dropped [0]) :=
    List.filterMap_replicate_of_some rfl
  rw [hhistory, droppedCount, List.countP_replicate]
  exact if_pos rfl

/-- The packets in the queue and the write errors of a run add up to the
packets received. -/
def Balanced (width : ℕ) (rounds : List Round) : Prop :=
  (received (writerHistory rounds)).length =
    (run rounds (start width [] [])).netToAxi.length +
      (run rounds (start width [] [])).netToAxiMqWErrorCount.toNat

/-- After as many lost packets as the counter has values none is counted. -/
theorem not_balanced_refused (width : ℕ) :
    ¬ Balanced width (List.replicate (2 ^ width) refused) := by
  intro hbalanced
  have haccounts :
      WriterAccounts (writerHistory (List.replicate (2 ^ width) refused))
        (run (List.replicate (2 ^ width) refused) (start width [] [])) :=
    writerAccounts_of_tally (fun _ _ => writer_passed)
      (writerTally_start (List.replicate (2 ^ width) refused) [] [])
  have hfewer := haccounts.balanced_iff.mp hbalanced
  rw [droppedCount_refused] at hfewer
  exact Nat.lt_irrefl _ hfewer

theorem refused_not_balanced :
    ¬ Balanced 32 (List.replicate (2 ^ 32) refused) ∧
      ¬ Balanced 64 (List.replicate (2 ^ 64) refused) :=
  ⟨not_balanced_refused 32, not_balanced_refused 64⟩

end Songpark.PacketThreads

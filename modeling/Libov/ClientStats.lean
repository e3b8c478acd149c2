/-
# Statistics of a connection and their reports

An `ovboxclient_t` counts messages, pings and pongs as long as it lives.  The renderer
keeps the values that it has reported (`client_stats`) and reports differences.

* `PingStatCollector`, `MessageStat.sub`: the counters and the subtraction of `size_t`;
* `OvboxCounters`: the counting part of a client, with a turn of `sendsrv` and one of
  `pingservice`;
* `StatsRenderer`, `getClientStats`: the reports of the renderer;
* `ClientStats.toJson`: the values that are reported.

Ping times are exact numbers here, but the positions in the sorted ping times are computed
with floating point numbers.
-/
import Libov.BinaryRounding
import Libov.OvTypes
import Libov.ProcessMsg
import Libov.SendsrvLoop

namespace Libov

/-! ## Pings (`ping_stat_collector_t`) -/

/-- The three ways of a ping: to the peer, through the relay server, and within the
local network. -/
inductive PingClass where
  | p2p
  | srv
  | loc
  deriving DecidableEq

/-- `ping_stat_t`. -/
structure PingStat where
  tMin : ℚ
  tMed : ℚ
  tP99 : ℚ
  tMean : ℚ
  received : UInt64
  lost : UInt64
  stateSent : UInt64
  stateReceived : UInt64

/-- The constructor. -/
def PingStat.init : PingStat := ⟨0, 0, 0, 0, 0, 0, 0, 0⟩

/-- `ping_stat_collector_t`. -/
structure PingStatCollector where
  sent : UInt64
  received : UInt64
  data : List ℚ
  idx : ℕ
  filled : ℕ
  sum : ℚ

namespace PingStatCollector

/-- The constructor. -/
def init (n : ℕ) : PingStatCollector := ⟨0, 0, List.replicate n 0, 0, 0, 0⟩

/-- `add_value`. -/
def addValue (c : PingStatCollector) (pt : ℚ) : PingStatCollector :=
  { c with
    received := c.received + 1
    sum := c.sum - c.data.getD c.idx 0 + pt
    data := c.data.set c.idx pt
    idx := if c.data.length ≤ c.idx + 1 then 0 else c.idx + 1
    filled := if c.filled < c.data.length then c.filled + 1 else c.filled }

/-- `std::round` of a number that is not negative. -/
def round (x : ℚ) : ℕ := ⌊x + 1 / 2⌋.toNat

/-- `(float)filled - 1.0`, a `double`. -/
def lastIdx (filled : ℕ) : ℚ :=
  BinaryRounding.nearest 53 (BinaryRounding.nearest 24 filled - 1)

/-- `idx_med`. -/
def idxMed (filled : ℕ) : ℕ := round (BinaryRounding.nearest 53 (1 / 2 * lastIdx filled))

/-- `idx_99`; the factor is the `float` nearest to `0.99`. -/
def idx99 (filled : ℕ) : ℕ :=
  round (BinaryRounding.nearest 53 (16609444 / 2 ^ 24 * lastIdx filled))

/-- `update_ping_stat`. -/
def updatePingStat (c : PingStatCollector) (ps : PingStat) : PingStat :=
  let received := c.received - ps.stateReceived
  let lost := c.sent - ps.stateSent
  let ps : PingStat :=
    { tMin := -1
      tMed := -1
      tP99 := -1
      tMean := -1
      received := received
      -- pongs of earlier pings do not take it below zero
      lost := lost - min received lost
      stateSent := c.sent
      stateReceived := c.received }
  if c.filled = 0 then ps
  else
    let sb := (c.data.take c.filled).mergeSort
    let idxMed := idxMed c.filled
    let tMed :=
      if c.filled % 2 = 0 then
        -- even number of samples, median is mean of two neighbours
        (sb.getD idxMed 0 + sb.getD (if idxMed ≠ 0 then idxMed - 1 else idxMed + 1) 0) / 2
      else sb.getD idxMed 0
    { ps with
      tMed := tMed
      tMin := sb.getD 0 0
      tP99 := sb.getD (idx99 c.filled) 0
      tMean := c.sum / BinaryRounding.nearest 24 c.filled }

end PingStatCollector

/-! ## The counters of a client -/

/-- `message_stat_t::operator-=`. -/
def MessageStat.sub (st src : MessageStat) : MessageStat :=
  { received := st.received - src.received
    lost := st.lost - src.lost
    seqerrIn := st.seqerrIn - src.seqerrIn
    seqerrOut := st.seqerrOut - src.seqerrOut }

/-- `client_stats_t`; the members `ping_p2p`, `ping_srv` and `ping_loc` are `ping`. -/
structure ClientStats where
  ping : PingClass → PingStat
  packages : MessageStat
  statePackages : MessageStat

/-- The value that `operator[]` inserts. -/
def ClientStats.init : ClientStats := ⟨fun _ => PingStat.init, MessageStat.zero, MessageStat.zero⟩

/-- The counting part of `ovboxclient_t`; `collectors` are the maps
`ping_stat_collecors_p2p`, `_srv` and `_local`. -/
structure OvboxCounters where
  secret : Secret
  callerid : StageDeviceId
  loop : SendsrvLoop
  collectors : PingClass → StageDeviceId → PingStatCollector

/-- What a client is created with; the addresses are those left in the buffers. -/
structure ClientStart where
  secret : Secret
  callerid : StageDeviceId
  sender1 : Endpoint
  sender2 : Endpoint
  sender : Endpoint

namespace OvboxCounters

/-- The constructor. -/
def start (st : ClientStart) : OvboxCounters :=
  { secret := st.secret
    callerid := st.callerid
    loop := SendsrvLoop.fresh st.sender1 st.sender2 st.sender
    collectors := fun _ _ => PingStatCollector.init 2048 }

/-- Change one collector. -/
def onCollector (c : OvboxCounters) (cls : PingClass) (ocid : ℕ)
    (f : PingStatCollector → PingStatCollector) : OvboxCounters :=
  { c with collectors := fun cls' dev =>
      if cls' = cls ∧ dev.toNat = ocid then f (c.collectors cls' dev) else c.collectors cls' dev }

@[simp] theorem collectors_onCollector (c : OvboxCounters) (cls cls' : PingClass) (ocid : ℕ)
    (f : PingStatCollector → PingStatCollector) (dev : StageDeviceId) :
    (c.onCollector cls ocid f).collectors cls' dev =
      if cls' = cls ∧ dev.toNat = ocid then f (c.collectors cls' dev)
      else c.collectors cls' dev := rfl

@[simp] theorem loop_onCollector (c : OvboxCounters) (cls : PingClass) (ocid : ℕ)
    (f : PingStatCollector → PingStatCollector) : (c.onCollector cls ocid f).loop = c.loop := rfl

/-- The class of pongs that a port stands for. -/
def pongClass (destport : Port) : Option PingClass :=
  if destport = portPong then some .p2p
  else if destport = portPongSrv then some .srv
  else if destport = portPongLocal then some .loc
  else none

/-- What `process_msg` counts: `process_pong_msg` adds the ping time `tms` that
`get_pingtime` reports. -/
def countPong (tms : ℚ) (c : OvboxCounters) (m : MsgBuf) : OvboxCounters :=
  if calledFor c.callerid m = some .processPongMsg ∧ 0 < tms then
    match pongClass m.destport with
    | some cls => c.onCollector cls m.cid.toNat fun p => p.addValue tms
    | none => c
  else c

/-- A turn of `sendsrv`. -/
def receive (c : OvboxCounters) (rx : Received) (tms : ℚ) : OvboxCounters :=
  let r := turn c.secret c.loop rx
  { r.1.foldl (countPong tms) c with loop := r.2 }

/-- Loop body of `pingservice`. -/
def pingPeer (t : OvboxClient) (ocid : ℕ) (ep : EpDesc) (c : OvboxCounters) : OvboxCounters :=
  if ep.timeout ≠ 0 ∧ ocid ≠ t.callerid.toNat then
    let c := c.onCollector .p2p ocid fun p => { p with sent := p.sent + 1 }
    let c := c.onCollector .srv ocid fun p => { p with sent := p.sent + 1 }
    if t.targetInSameNetwork ep then
      c.onCollector .loc ocid fun p => { p with sent := p.sent + 1 }
    else c
  else c

/-- `for(auto& ep : endpoints) { ..; ++ocid; }`. -/
def pingPeers (t : OvboxClient) : ℕ → List EpDesc → OvboxCounters → OvboxCounters
  | _, [], c => c
  | ocid, ep :: eps, c => pingPeers t (ocid + 1) eps (pingPeer t ocid ep c)

/-- A turn of `pingservice`. -/
def pingservice (c : OvboxCounters) (t : OvboxClient) : OvboxCounters :=
  pingPeers t 0 t.endpoints.1 c

/-- `ovboxclient_t::update_client_stats`. -/
def updateClientStats (c : OvboxCounters) (cid : StageDeviceId) (stats : ClientStats) :
    ClientStats :=
  let packages := c.loop.sorter.getStat cid
  let ostat := stats.statePackages
  let diff := packages.sub ostat
  { ping := fun cls => (c.collectors cls cid).updatePingStat (stats.ping cls)
    -- late messages take the loss count back
    packages := { diff with lost := if 2 ^ 30 < diff.lost then 0 else diff.lost }
    statePackages := packages }

end OvboxCounters

/-! ## The reports of the renderer -/

/-- The members of the renderer that reports use. -/
structure StatsRenderer where
  ovboxclient : Option OvboxCounters
  clientStats : StageDeviceId → Option ClientStats

/-- The loop over the devices on stage. -/
def updateAll (c : OvboxCounters) : List (StageDeviceId × StageDevice) →
    (StageDeviceId → Option ClientStats) → StageDeviceId → Option ClientStats
  | [], stats => stats
  | dev :: devs, stats =>
      updateAll c devs (Function.update stats dev.1
        (some (c.updateClientStats dev.1 ((stats dev.1).getD ClientStats.init))))

/-- `to_json(const ping_stat_t&)`. -/
structure PingStatJson where
  min : ℚ
  median : ℚ
  p99 : ℚ
  mean : ℚ
  received : UInt64
  lost : UInt64

def PingStat.toJson (ps : PingStat) : PingStatJson :=
  { min := ps.tMin
    median := ps.tMed
    p99 := ps.tP99
    mean := ps.tMean
    received := ps.received
    lost := ps.lost }

/-- `to_json(const message_stat_t&)`. -/
structure MessageStatJson where
  received : UInt64
  lost : UInt64
  seqerr : UInt64
  seqrecovered : UInt64

def MessageStat.toJson (ms : MessageStat) : MessageStatJson :=
  { received := ms.received
    lost := ms.lost
    seqerr := ms.seqerrIn
    seqrecovered := ms.seqerrIn - ms.seqerrOut }

/-- `to_json(const client_stats_t&)`; the objects `p2p`, `srv` and `loc` are `ping`. -/
structure ClientStatsJson where
  ping : PingClass → PingStatJson
  packages : MessageStatJson

def ClientStats.toJson (ms : ClientStats) : ClientStatsJson :=
  ⟨fun cls => (ms.ping cls).toJson, ms.packages.toJson⟩

/-- `ov_render_tascar_t::get_client_stats`: the values reported for each device and the
renderer behind. -/
def StatsRenderer.getClientStats (stage : StageMap) (thisstagedeviceid : StageDeviceId)
    (r : StatsRenderer) : (StageDeviceId → Option ClientStatsJson) × StatsRenderer :=
  let clientStats := match r.ovboxclient with
    | some c => updateAll c stage.entries r.clientStats
    -- `client_stats.clear()`
    | none => fun _ => none
  (fun dev => if dev ≠ thisstagedeviceid then (clientStats dev).map ClientStats.toJson else none,
    { r with clientStats := clientStats })

/-- What happens to the renderer.  A session without the name of a relay server has no
client. -/
inductive StatsOp where
  | startSession (client : Option ClientStart)
  | endSession
  | received (rx : Received) (tms : ℚ)
  | pings (t : OvboxClient)
  | getClientStats

/-- One step. -/
def StatsRenderer.step (stage : StageMap) (thisstagedeviceid : StageDeviceId)
    (r : StatsRenderer) : StatsOp → StatsRenderer
  | .startSession (some st) => { r with ovboxclient := some (OvboxCounters.start st) }
  | .startSession none => r
  | .endSession => { r with ovboxclient := none }
  | .received rx tms => { r with ovboxclient := r.ovboxclient.map fun c => c.receive rx tms }
  | .pings t => { r with ovboxclient := r.ovboxclient.map fun c => c.pingservice t }
  | .getClientStats => (r.getClientStats stage thisstagedeviceid).2

/-- The renderer before its first session. -/
def StatsRenderer.new : StatsRenderer := ⟨none, fun _ => none⟩

end Libov

/-
# The list of endpoints (`callerlist.h`, `callerlist.cc`)

An entry is filled by messages of its device and counted down by the passes of
`checkstatus`.  A pass announces a device at its first countdown and announces its loss when
the entry has run out, which also resets the entry.

* `EpEntry`: an entry of the table, `ep_desc_t` with all its members;
* `EndpointList`: the table, the key of the relay server and what has been announced;
* `EpEntry.check`, `checkstatus`: one entry in a pass, and the whole pass;
* `EndpointOp`, `endpointStep`: the functions of `endpoint_list_t` as steps.

`mstat.try_lock()` either succeeds or not; its outcome is an argument.
-/
import Libov.Forwarding
import Libov.Runs

namespace Libov

/-! ## Entries -/

/-- `CALLERLIST_TIMEOUT`, in ping periods. -/
def callerlistTimeout : UInt32 := 120

/-- An address with all bytes zero, as `memset` leaves it. -/
def Endpoint.zero : Endpoint := ⟨0, 0, 0, 0⟩

/-- `memcpy(&ep, data, sizeof(endpoint_t))`. -/
def Endpoint.ofBytes (data : List UInt8) : Endpoint where
  sinFamily := UInt16.ofNat (leValue (data.take 2))
  sinPort := UInt16.ofNat (leValue ((data.drop 2).take 2))
  sAddr := UInt32.ofNat (leValue ((data.drop 4).take 4))
  sinZero := UInt64.ofNat (leValue ((data.drop 8).take 8))

/-- `ep_desc_t`: what forwarding reads, and the bookkeeping. -/
structure EpEntry extends EpDesc where
  announced : Bool
  pingtMin : ℚ
  pingtMax : ℚ
  pingtSum : ℚ
  pingtN : UInt32
  numReceived : UInt32
  numLost : UInt32
  version : String

namespace EpEntry

/-- The constructor; it leaves `pubkey` uninitialised. -/
def init (pubkey : PublicKey) : EpEntry where
  ep := Endpoint.zero
  localep := Endpoint.zero
  timeout := 0
  mode := bPeer2peer
  hasPubkey := false
  pubkey := pubkey
  announced := false
  pingtMin := 10000
  pingtMax := 0
  pingtSum := 0
  pingtN := 0
  numReceived := 0
  numLost := 0
  version := ""

/-- What `cid_register` stores. -/
def register (e : EpEntry) (data : List UInt8) (mode : Epmode) (rver : String) : EpEntry :=
  { e with
    ep := Endpoint.ofBytes data
    announced := if mode ≠ e.mode then false else e.announced
    mode := mode
    timeout := callerlistTimeout
    version := rver }

/-- What `cid_setlocalip` stores: some systems send a family of their own. -/
def setlocalip (e : EpEntry) (data : List UInt8) : EpEntry :=
  { e with localep := { Endpoint.ofBytes data with sinFamily := afInet } }

/-- What `cid_setpingtime` stores; `locked` tells whether the statistics are free. -/
def setpingtime (e : EpEntry) (pingtime : ℚ) (locked : Bool) : EpEntry :=
  let e := { e with timeout := callerlistTimeout }
  if 0 < pingtime ∧ locked = true then
    { e with
      pingtN := e.pingtN + 1
      pingtSum := e.pingtSum + pingtime
      pingtMax := max pingtime e.pingtMax
      pingtMin := min pingtime e.pingtMin }
  else e

/-- What `cid_set_pubkey` stores. -/
def setPubkey (e : EpEntry) (key : PublicKey) : EpEntry :=
  { e with pubkey := key, hasPubkey := true }

end EpEntry

/-! ## The list -/

/-- What is announced to the derived class. -/
inductive Announcement where
  | newConnection (cid : ℕ) (ep : EpEntry)
  | connectionLost (cid : ℕ)
  | latency (cid : ℕ) (lmin lmean lmax : ℚ) (received lost : UInt32)

/-- `endpoint_list_t`.  `statlogcnt` belongs to the thread of `checkstatus`. -/
structure EndpointList where
  endpoints : Fin maxStageId → EpEntry
  pingperiodms : ℕ
  srvHasPubkey : Bool
  srvPubkey : PublicKey
  statlogcnt : UInt32
  /-- What has been announced so far. -/
  announced : List Announcement

namespace EndpointList

/-- Passes between two reports of ping statistics. -/
def statlogPasses (pingperiodms : ℕ) : UInt32 := UInt32.ofNat (60000 / pingperiodms)

/-- The constructor; the keys are those left in the memory. -/
def init (keys : Fin maxStageId → PublicKey) (srvPubkey : PublicKey) : EndpointList where
  endpoints := fun i => EpEntry.init (keys i)
  pingperiodms := 2000
  srvHasPubkey := false
  srvPubkey := srvPubkey
  statlogcnt := statlogPasses 2000
  announced := []

/-- Change `endpoints[cid]` if there is such an entry. -/
def modifyEntry (l : EndpointList) (cid : StageDeviceId) (f : EpEntry → EpEntry) : EndpointList :=
  if h : cid.toNat < maxStageId then
    { l with
      endpoints := Function.update l.endpoints ⟨cid.toNat, h⟩ (f (l.endpoints ⟨cid.toNat, h⟩)) }
  else l

/-- `cid_register`. -/
def cidRegister (l : EndpointList) (cid : StageDeviceId) (data : List UInt8) (mode : Epmode)
    (rver : String) (locked : Bool) : EndpointList :=
  if locked then l.modifyEntry cid fun e => e.register data mode rver else l

/-- `cid_setlocalip`. -/
def cidSetlocalip (l : EndpointList) (cid : StageDeviceId) (data : List UInt8) : EndpointList :=
  l.modifyEntry cid fun e => e.setlocalip data

/-- `cid_setpingtime`. -/
def cidSetpingtime (l : EndpointList) (cid : StageDeviceId) (pingtime : ℚ) (locked : Bool) :
    EndpointList :=
  l.modifyEntry cid fun e => e.setpingtime pingtime locked

/-- `cid_set_pubkey`; a key that is known already is not copied again. -/
def cidSetPubkey (l : EndpointList) (cid : StageDeviceId) (data : List UInt8) : EndpointList :=
  if h : data.length = cryptoBoxPublicKeyBytes then
    if cid.toNat < maxStageId then l.modifyEntry cid fun e => e.setPubkey ⟨data, h⟩
    else if cid = stageIdServer then { l with srvPubkey := ⟨data, h⟩, srvHasPubkey := true }
    else l
  else l

/-- `set_hiresping`. -/
def setHiresping (l : EndpointList) (hr : Bool) : EndpointList :=
  { l with pingperiodms := if hr then 50 else 500 }

end EndpointList

/-! ## The passes of `checkstatus` -/

/-- An entry in a pass: what is announced and the entry behind.  `key` is what the
constructor of the fresh entry finds in the memory of its key. -/
def EpEntry.check (cid : ℕ) (key : PublicKey) (e : EpEntry) : List Announcement × EpEntry :=
  if e.timeout ≠ 0 then
    -- bookkeeping of connected endpoints
    (if e.announced then [] else [.newConnection cid e],
      { e with announced := true, timeout := e.timeout - 1 })
  else if e.announced then
    -- bookkeeping of disconnected endpoints
    ([.connectionLost cid], EpEntry.init key)
  else ([], e)

/-- An entry in the report of ping statistics. -/
def EpEntry.logStat (cid : ℕ) (e : EpEntry) : List Announcement × EpEntry :=
  if e.timeout ≠ 0 then
    ([.latency cid e.pingtMin (e.pingtSum / (max 1 e.pingtN.toNat : ℕ)) e.pingtMax e.numReceived
        e.numLost],
      { e with
        pingtN := 0
        pingtMin := 1000
        pingtMax := 0
        pingtSum := 0
        numReceived := 0
        numLost := 0 })
  else ([], e)

namespace EndpointList

/-- `for(stage_device_id_t ep = 0; ep != MAX_STAGE_ID; ++ep)`, an iteration of which works
on its own entry. -/
def forEntries (l : EndpointList) (body : Fin maxStageId → EpEntry → List Announcement × EpEntry) :
    EndpointList :=
  { l with
    endpoints := fun i => (body i (l.endpoints i)).2
    announced := l.announced ++
      (List.finRange maxStageId).flatMap fun i => (body i (l.endpoints i)).1 }

/-- The report of ping statistics, once in a minute. -/
def logStats (l : EndpointList) : EndpointList :=
  let l := if l.statlogcnt = 0 then
      { l with statlogcnt := statlogPasses l.pingperiodms }.forEntries fun i e => e.logStat i
    else l
  { l with statlogcnt := l.statlogcnt - 1 }

/-- A pass of `checkstatus`. -/
def checkstatus (l : EndpointList) (keys : Fin maxStageId → PublicKey) : EndpointList :=
  (l.forEntries fun i e => e.check i (keys i)).logStats

end EndpointList

/-! ## Steps -/

/-- A call of a function of `endpoint_list_t`, or a pass of `checkstatus`. -/
inductive EndpointOp where
  | cidRegister (cid : StageDeviceId) (data : List UInt8) (mode : Epmode) (rver : String)
      (locked : Bool)
  | cidSetlocalip (cid : StageDeviceId) (data : List UInt8)
  | cidSetpingtime (cid : StageDeviceId) (pingtime : ℚ) (locked : Bool)
  | cidSetPubkey (cid : StageDeviceId) (data : List UInt8)
  | setHiresping (hr : Bool)
  | checkstatus (keys : Fin maxStageId → PublicKey)

/-- One step. -/
def endpointStep (l : EndpointList) : EndpointOp → EndpointList
  | .cidRegister cid data mode rver locked => l.cidRegister cid data mode rver locked
  | .cidSetlocalip cid data => l.cidSetlocalip cid data
  | .cidSetpingtime cid pingtime locked => l.cidSetpingtime cid pingtime locked
  | .cidSetPubkey cid data => l.cidSetPubkey cid data
  | .setHiresping hr => l.setHiresping hr
  | .checkstatus keys => l.checkstatus keys

/-! ## What a step does to an entry -/

section Entry

variable (l : EndpointList) (i : Fin maxStageId)

namespace EndpointList

theorem endpoints_modifyEntry (cid : StageDeviceId) (f : EpEntry → EpEntry) :
    (l.modifyEntry cid f).endpoints i
      = if cid.toNat = i then f (l.endpoints i) else l.endpoints i := by
  unfold modifyEntry
  by_cases h : cid.toNat < maxStageId
  · rw [dif_pos h]
    by_cases hi : cid.toNat = i
    · obtain rfl : ⟨cid.toNat, h⟩ = i := Fin.ext hi
      rw [if_pos rfl]
      exact Function.update_self ..
    · rw [if_neg hi]
      exact Function.update_of_ne (fun heq => hi (congrArg Fin.val heq).symm) _ _
  · rw [dif_neg h, if_neg fun hi => h (hi.trans_lt i.2)]

@[simp] theorem announced_modifyEntry (cid : StageDeviceId) (f : EpEntry → EpEntry) :
    (l.modifyEntry cid f).announced = l.announced := by
  unfold modifyEntry
  split_ifs
  · rfl
  · rfl

end EndpointList

/-- The entry behind the first part of a pass; the report of ping statistics behind it
touches the statistics alone. -/
theorem endpoints_checkstatus (keys : Fin maxStageId → PublicKey) :
    ((l.checkstatus keys).endpoints i = ((l.endpoints i).check i (keys i)).2) ∨
      (l.checkstatus keys).endpoints i = (((l.endpoints i).check i (keys i)).2.logStat i).2 := by
  unfold EndpointList.checkstatus EndpointList.logStats
  by_cases hlog : (l.forEntries fun i e => e.check i (keys i)).statlogcnt = 0
  · rw [if_pos hlog]
    exact Or.inr rfl
  · rw [if_neg hlog]
    exact Or.inl rfl

end Entry

/-- The report of ping statistics leaves what forwarding reads. -/
theorem toEpDesc_logStat (cid : ℕ) (e : EpEntry) :
    (e.logStat cid).2.toEpDesc = e.toEpDesc ∧ (e.logStat cid).2.announced = e.announced := by
  unfold EpEntry.logStat
  by_cases h : e.timeout ≠ 0
  · rw [if_pos h]
    exact ⟨rfl, rfl⟩
  · rw [if_neg h]
    exact ⟨rfl, rfl⟩

/-- What a pass leaves of an entry, the statistics apart. -/
theorem toEpDesc_checkstatus (l : EndpointList) (keys : Fin maxStageId → PublicKey)
    (i : Fin maxStageId) :
    ((l.checkstatus keys).endpoints i).toEpDesc = ((l.endpoints i).check i (keys i)).2.toEpDesc ∧
      ((l.checkstatus keys).endpoints i).announced
        = ((l.endpoints i).check i (keys i)).2.announced := by
  rcases endpoints_checkstatus l i keys with h | h
  · rw [h]
    exact ⟨rfl, rfl⟩
  · rw [h]
    exact toEpDesc_logStat i _

/-- What a check can do to an entry: count it down, reset it, or nothing. -/
theorem check_cases (cid : ℕ) (key : PublicKey) (e : EpEntry) :
    (e.timeout ≠ 0 ∧ (e.check cid key).2 = { e with announced := true, timeout := e.timeout - 1 } ∧
      (e.check cid key).1 = if e.announced then [] else [.newConnection cid e]) ∨
    (e.timeout = 0 ∧ e.announced = true ∧ (e.check cid key).2 = EpEntry.init key ∧
      (e.check cid key).1 = [.connectionLost cid]) ∨
    (e.timeout = 0 ∧ e.announced = false ∧ (e.check cid key).2 = e ∧ (e.check cid key).1 = []) := by
  unfold EpEntry.check
  by_cases htimeout : e.timeout ≠ 0
  · rw [if_pos htimeout]
    exact Or.inl ⟨htimeout, rfl, rfl⟩
  · rw [if_neg htimeout]
    cases hannounced : e.announced with
    | true => exact Or.inr (Or.inl ⟨not_not.mp htimeout, rfl, rfl, rfl⟩)
    | false => exact Or.inr (Or.inr ⟨not_not.mp htimeout, rfl, rfl, rfl⟩)

end Libov

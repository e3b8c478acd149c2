/-
# The client that a session sets up

`start_session` creates the network client of a stage, an `ovboxclient_t`, from the stage and the
variables of the extra configuration.

* `ClientSurroundings`, `sessionClient` : the constructor, with the calls behind it;
* `servedPorts` : the local ports at which its threads read payloads;
* `sessionClient_atStart`, `sessionClient_congr` : what the client depends on;
* `UpToDate.client_eq` : the client of a running session is the one a new session would set up.
-/
import Libov.RunningSession
import Libov.ClientNode

namespace Libov

open Renderer

/-! ## Constructor -/

/-- The mode of a client, as the constructor puts it together. -/
def clientMode (peer2peer donotsend receivedownmix senddownmix usingproxy encryption : Bool) :
    Epmode :=
  let flag (c : Bool) (b mode : Epmode) : Epmode := if c then mode ||| b else mode
  flag encryption bEncryption <| flag usingproxy bUsingproxy <| flag senddownmix bSenddownmix <|
    flag donotsend bDonotsend <| flag receivedownmix bReceivedownmix <|
    flag peer2peer bPeer2peer 0

/-- What the constructor of the client finds outside: the keys made for the socket, the addresses
of hosts, the own address, the port of a tunnel, and what is left in the memory. -/
structure ClientSurroundings where
  recipientPublic : PublicKey
  recipientSecret : SecretKey
  /-- `gethostbyname` -/
  address : String → Endpoint
  /-- `getipaddr()` with the port of the socket -/
  localep : Endpoint
  tunnelport : Port
  /-- a port for the log of pings is given -/
  pinglog : Bool
  endpointKeys : Fin maxStageId → PublicKey
  srvPubkey : PublicKey
  decryptedMsg : Buffer bufSize
  outside : EpDesc
  threads : ℕ → ThreadState

/-- An empty memory, and one address for all hosts. -/
def ClientSurroundings.blank (recipientPublic : PublicKey) : ClientSurroundings where
  recipientPublic := recipientPublic
  recipientSecret := Buffer.zero _
  address _ := Endpoint.cleared
  localep := Endpoint.zero
  tunnelport := 0
  pinglog := false
  endpointKeys _ := Buffer.zero _
  srvPubkey := Buffer.zero _
  decryptedMsg := Buffer.zero _
  outside := EpDesc.unused
  threads _ := ThreadState.start

section Client

variable (env : SessionEnv) (st : Stage) (x : ExtraVars) (s : ClientSurroundings)

/-- The session receives from its proxy only. -/
def useProxy : Bool := x .useProxy

/-- The hosts of the proxy clients. -/
def proxyHosts : OrderedMap StageDeviceId String := x .proxyclients

/-- The messages to the relay server go through a tunnel. -/
def tunnelled : Bool := st.rendersettings.usetcptunnel && !st.rendersettings.peer2peer

/-- The mode of the client of a session. -/
def sessionMode : Epmode :=
  clientMode st.rendersettings.peer2peer (useProxy x || !st.rendersettings.receive)
    st.thisdevice.receivedownmix st.thisdevice.senddownmix (useProxy x)
    st.rendersettings.encryption

/-- The `ovboxclient_t` that `start_session` creates, with `add_extraport`, `add_proxy_client` and
`set_hiresping`. -/
def sessionClient : ClientState where
  remoteServer := OvboxUdpSocket.fresh
    (s.address (if tunnelled st then "127.0.0.1" else st.host)) st.pin st.thisstagedeviceid
  recipientPublic := s.recipientPublic
  recipientSecret := s.recipientSecret
  localServer := s.address "localhost"
  localep := s.localep
  toport := if tunnelled st then s.tunnelport else st.port
  recport := getZitaport st.thisstagedeviceid env.portoffset 0
  portoffset := env.portoffset
  callerid := st.thisstagedeviceid
  mode := sessionMode st x
  sendlocal := (ownDevice st).sendlocal
  xdest := if 0 < st.rendersettings.secrec then [100] else []
  proxyclients := (proxyHosts x).entries.map fun client => (client.1, s.address client.2)
  decryptedMsg := s.decryptedMsg
  endpointList :=
    (EndpointList.init s.endpointKeys s.srvPubkey).setHiresping st.thisdevice.hiresping
  outside := s.outside
  collectors := fun _ _ => PingStatCollector.init 2048
  cbPing := s.pinglog
  threads := s.threads
  localSends := []
  remoteSends := []
  pingReports := []

/-- The local ports at which the client reads, with the threads that read there: the sender of the
session, the ports of the render settings, and the other sessions on this device. -/
def servedPorts : List (Port × Thread) :=
  (getZitaport st.thisstagedeviceid env.portoffset 0, .recsrv) ::
    (st.rendersettings.xrecport.map fun p => (p, .xrecsrv p)) ++
    [(env.distToOtherTascarport, .xrecsrv 9871)]

/-- The look-ups of a start do not change the client. -/
theorem sessionClient_atStart : sessionClient env st.atStart x s = sessionClient env st x s := by
  unfold Stage.atStart
  split_ifs
  · unfold sessionClient
    rw [ownDevice_lookedUp]
    rfl
  · rfl

/-- The client depends on two of the variables only. -/
theorem sessionClient_congr {x y : ExtraVars} (huse : x .useProxy = y .useProxy)
    (hclients : x .proxyclients = y .proxyclients) :
    sessionClient env st x s = sessionClient env st y s := by
  have hmode : sessionMode st x = sessionMode st y := by
    unfold sessionMode useProxy
    rw [huse]
  have hproxies : proxyHosts x = proxyHosts y := hclients
  unfold sessionClient
  rw [hmode, hproxies]

end Client

/-- The client of a session that is up to date is the one that a new session would set up, and
reads at the same ports. -/
theorem UpToDate.client_eq {served : Served} (h : UpToDate served) (env : SessionEnv)
    (s : ClientSurroundings) (ht : served.backend.tascar = true)
    (hn : served.backend.restartNeeded = false) :
    sessionClient env served.stage served.vars s
        = sessionClient env served.backend.stage served.backend.extra s ∧
      servedPorts env served.stage = servedPorts env served.backend.stage := by
  obtain ⟨hstage, hvars⟩ := h.settled ht hn
  have hclient := sessionClient_congr env served.stage s (hvars .useProxy (by decide)).symm
    (hvars .proxyclients (by decide)).symm
  have hports : servedPorts env served.stage.atStart = servedPorts env served.stage := by
    unfold Stage.atStart
    split_ifs
    · rfl
    · rfl
  rw [hstage, sessionClient_atStart, hports]
  exact ⟨hclient, rfl⟩

end Libov

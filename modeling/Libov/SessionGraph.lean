/-
# The audio graph of a session

The document of a session declares audio clients, the routes and the processes of the network, and
connects their ports.  Here the document is drawn as a graph, so that one can ask whether all of
these ports are there.  Drawn are the elements `connect` of the session and the ports that its
stage waits for; the connections that a sound or a route has as an attribute of its own, and the
ports of the multicast processes that are waited for, are left out.

* `AudioClient`, `AudioPort`, `SessionGraph` : clients with numbers of channels, and connections;
* `Draws`, `DrawnBy` : the graph is that of what is added to a document;
* `inputGraph`, `routedGraph`, `sessionGraph` : the graph of a session, part by part;
* `describes_sessionDescription` : the document of a session describes its graph.
-/
import Libov.ZitaProcesses

namespace Libov

open Renderer

/-! ## Graphs -/

/-- What a document of a session declares as an audio client. -/
inductive AudioClient where
  | bus (channel : String)
  | levelanalysis
  | main
  | metronome
  /-- the route for the gain of a device -/
  | member (dev : StageDevice)
  /-- the second bus of a device -/
  | second (dev : StageDevice)
  | receiver (r : ZitaReceiver)
  | sender

inductive PortDirection where
  | input
  | output
  deriving DecidableEq

/-- A port of an audio client, counted from `0`. -/
structure AudioPort where
  client : AudioClient
  direction : PortDirection
  index : ℕ

/-- An end of a connection: a port of the document, or one of the audio device, of the scene or of
another program. -/
inductive LinkEnd where
  | own (p : AudioPort)
  | outside (port : String)

/-- Clients with their numbers of channels, the connections made by elements of their own, and the
ports that the stage waits for. -/
structure SessionGraph where
  clients : List (AudioClient × ℕ)
  links : List (LinkEnd × LinkEnd)
  waits : List AudioPort

namespace SessionGraph

def empty : SessionGraph := ⟨[], [], []⟩

def append (a b : SessionGraph) : SessionGraph :=
  ⟨a.clients ++ b.clients, a.links ++ b.links, a.waits ++ b.waits⟩

instance : Append SessionGraph := ⟨append⟩

end SessionGraph

/-! ## Texts -/

/-- What an element declares: a route with its name and its number of channels, or a process with
its command. -/
inductive Declaration where
  | route (name channels : String)
  | process (command : String)

/-- The value of an attribute. -/
def attributeOf (key : String) (attributes : List (String × String)) : String :=
  (attributes.lookup key).getD ""

/-- The audio client that an element declares. -/
def TscNode.declaration : TscNode → Option Declaration
  | element name attributes _ _ =>
      if name = "route" then
        some (.route (attributeOf "name" attributes) (attributeOf "channels" attributes))
      else if name = "system" then some (.process (attributeOf "command" attributes))
      else none

section Texts

variable (env : SessionEnv) (st : Stage) (x : ExtraVars)

/-- The name of a client among the audio clients. -/
def AudioClient.name : AudioClient → String
  | bus channel => "bus." ++ channel
  | levelanalysis => st.thisdevice.uid ++ ".levelanalysis"
  | main => "main." ++ st.thisdeviceid
  | metronome => st.thisdeviceid ++ ".metronome"
  | member dev => getStagedevName st dev.id ++ "." ++ st.thisdeviceid
  | second dev => getStagedevName st dev.id ++ "_sec"
  | receiver r => r.jname st
  | sender => st.thisdeviceid ++ "_sender"

/-- The channel numbers that a receiver is started with. -/
def chanNumbers (channels : ℕ) : String :=
  ",".intercalate ((List.range channels).map fun c => toString (c + 1))

/-- The declaration of a client with a number of channels. -/
def AudioClient.declaration (channels : ℕ) : AudioClient → Declaration
  | receiver r => .process (env.zitapath ++ "ovzita-n2j --chan " ++ chanNumbers channels ++
      " --jname " ++ r.jname st ++ " --buf " ++ r.buffer env st ++ " 0.0.0.0 " ++
      toString (r.port env))
  | sender => .process (env.zitapath ++ "ovzita-j2n --chan " ++ toString channels ++ " --jname " ++
      st.thisdeviceid ++ "_sender --" ++ zitasampleformat x ++ " 127.0.0.1 " ++
      toString (getZitaport st.thisstagedeviceid env.portoffset 0))
  | client => .route (client.name st) (toString channels)

/-- The name of a port.  The processes count their ports from `1`. -/
def AudioPort.text (p : AudioPort) : String :=
  match p.client, p.direction with
  | .receiver r, _ => r.jname st ++ ":out_" ++ toString (p.index + 1)
  | .sender, _ => senderPort st p.index
  | client, .input => client.name st ++ ":in." ++ toString p.index
  | client, .output => client.name st ++ ":out." ++ toString p.index

def LinkEnd.text : LinkEnd → String
  | own p => p.text st
  | outside port => port

/-- The element of a connection. -/
def linkNode (l : LinkEnd × LinkEnd) : TscNode := sessionAddConnect (l.1.text st) (l.2.text st)

/-- The graph is that of the parts: they declare its clients, connect its ports and wait for
them. -/
structure Draws (g : SessionGraph) (parts : SessionParts) : Prop where
  clients : parts.mods.filterMap TscNode.declaration
    = g.clients.map fun c => c.1.declaration env st x c.2
  links : parts.connects = g.links.map (linkNode st)
  waits : parts.waitports = g.waits.map (AudioPort.text st)
  -- the waiting itself is added at the end
  quiet : Without ["waitforjackport"] parts.mods

variable {env st x}

/-- Nothing is drawn where nothing is added. -/
theorem Draws.empty : Draws env st x SessionGraph.empty SessionParts.empty :=
  ⟨rfl, rfl, rfl, Without.nil⟩

/-- What is added one after the other is drawn side by side. -/
theorem Draws.append {g g' : SessionGraph} {parts parts' : SessionParts}
    (h : Draws env st x g parts) (h' : Draws env st x g' parts') :
    Draws env st x (g ++ g') (parts ++ parts') where
  clients := by
    show (parts.mods ++ parts'.mods).filterMap _ = (g.clients ++ g'.clients).map _
    rw [List.filterMap_append, List.map_append, h.clients, h'.clients]
  links := by
    show parts.connects ++ parts'.connects = (g.links ++ g'.links).map _
    rw [List.map_append, h.links, h'.links]
  waits := by
    show parts.waitports ++ parts'.waitports = (g.waits ++ g'.waits).map _
    rw [List.map_append, h.waits, h'.waits]
  quiet := h.quiet.append h'.quiet

/-- Parts that are added under a condition are drawn under it. -/
theorem Draws.ite {c : Prop} [Decidable c] {g : SessionGraph} {parts : SessionParts}
    (h : c → Draws env st x g parts) :
    Draws env st x (if c then g else SessionGraph.empty)
      (if c then parts else SessionParts.empty) := by
  by_cases hc : c
  · rw [if_pos hc, if_pos hc]
    exact h hc
  · rw [if_neg hc, if_neg hc]
    exact Draws.empty

end Texts

/-! ## The graph of a session -/

section Graphs

variable (env : SessionEnv) (st : Stage) (x : ExtraVars)

/-- The number of channels of a receiver. -/
def receiverChannels (dev : StageDevice) : ℕ :=
  if dev.senddownmix then 2 else dev.channels.length

/-- The graph of `levelmeterRoute`. -/
def levelmeterGraph : SessionGraph :=
  if reclevelanalyser x then
    { clients := [(.levelanalysis, st.thisdevice.channels.length)]
      links := st.thisdevice.channels.zipIdx.map fun p =>
        (.outside p.1.sourceport, .own ⟨.levelanalysis, .input, p.2⟩)
      waits := [] }
  else SessionGraph.empty

/-- The graph of `tuner`. -/
def tunerGraph : SessionGraph where
  clients := []
  links := st.thisdevice.channels.map fun ch => (.outside ch.sourceport, .outside "tuner:in")
  waits := []

/-- The graph of `effectBuses`. -/
def effectGraph : SessionGraph :=
  if !st.host.isEmpty || emptysessionismonitor x then
    { clients := st.thisdevice.channels.map fun ch => (.bus ch.id, 1)
      links := st.thisdevice.channels.map fun ch =>
        (.outside ch.sourceport, .own ⟨.bus ch.id, .input, 0⟩)
      waits := [] }
  else SessionGraph.empty

/-- The graph of `inputParts`. -/
def inputGraph : SessionGraph := levelmeterGraph st x ++ tunerGraph st ++ effectGraph st x

/-- The graph of `addSecondaryBus`. -/
def secondaryGraph (dev : StageDevice) : SessionGraph :=
  let channels :=
    if dev.nozita || st.thisstagedeviceid == dev.id then [] else List.range dev.channels.length
  { clients := (if dev.nozita then [] else [(.receiver ⟨dev, true⟩, receiverChannels dev)]) ++
      [(.second dev, dev.channels.length)]
    links := channels.map fun c =>
      (.own ⟨.receiver ⟨dev, true⟩, .output, c⟩, .own ⟨.second dev, .input, c⟩)
    waits := channels.map fun c => ⟨.receiver ⟨dev, true⟩, .output, c⟩ }

/-- The graph of `rawRoute`. -/
def rawGraph (dev : StageDevice) (chcnt : ℕ) : SessionGraph where
  clients := [(.member dev, receiverChannels dev)]
  links := (List.range (receiverChannels dev)).map fun c =>
    (.own ⟨.member dev, .output, c⟩,
      .own ⟨.main, .input, if (chcnt + c + 1) % 2 = 1 then 0 else 1⟩)
  waits := (List.range (receiverChannels dev)).flatMap fun c =>
    ⟨.member dev, .output, c⟩ ::
      if dev.nozita then [] else [⟨.receiver ⟨dev, false⟩, .output, c⟩]

/-- The graph of `receiverConnects`. -/
def sceneGraph (dev : StageDevice) : SessionGraph :=
  let names := if dev.nozita then [] else channelNames 0 dev.channels
  { clients := []
    links := names.zipIdx.map fun p =>
      (.own ⟨.receiver ⟨dev, false⟩, .output, p.2⟩,
        .outside (st.thisdeviceid ++ ".main:" ++ getStagedevName st dev.id ++ "." ++ p.1 ++ ".0"))
    waits := names.zipIdx.map fun p => ⟨.receiver ⟨dev, false⟩, .output, p.2⟩ }

/-- The graph of `addNetworkReceiver`. -/
def networkGraph (dev : StageDevice) (chcnt : ℕ) : SessionGraph :=
  if receivesFrom st dev then
    ⟨if dev.nozita then [] else [(.receiver ⟨dev, false⟩, receiverChannels dev)], [], []⟩ ++
      (if rawRouting st then rawGraph dev chcnt else sceneGraph st dev) ++
      (if 0 < st.rendersettings.secrec then secondaryGraph st dev else SessionGraph.empty)
  else SessionGraph.empty

/-- The graph of `addNetworkReceivers`. -/
def networkGraphs : ℕ → List StageDevice → SessionGraph
  | _, [] => SessionGraph.empty
  | chcnt, dev :: members =>
      networkGraph st dev chcnt ++ networkGraphs (addNetworkReceiver env st dev chcnt).2 members

/-- The graph of `secondarySelfmonitor`. -/
def selfmonitorGraph : SessionGraph where
  clients := [(.second (ownDevice st), (ownDevice st).channels.length)]
  links := (ownDevice st).channels.zipIdx.map fun p =>
    (.own ⟨.bus p.1.id, .output, 0⟩, .own ⟨.second (ownDevice st), .input, p.2⟩)
  waits := []

/-- The graph of `rawMain`. -/
def rawMainGraph : SessionGraph :=
  let output (c : ℕ) (dest : String) : List (LinkEnd × LinkEnd) :=
    if dest.isEmpty then [] else [(.own ⟨.main, .output, c⟩, .outside dest)]
  if st.rendersettings.receive then
    { clients := [(.main, 2)]
      links := output 0 st.rendersettings.outputport1 ++ output 1 st.rendersettings.outputport2
      waits := [] }
  else SessionGraph.empty

/-- The inputs of the sender. -/
def senderWaits : List AudioPort :=
  (List.range (ownDevice st).channels.length).map fun c => ⟨.sender, .input, c⟩

/-- The graph of `rawSender`. -/
def rawSenderGraph : SessionGraph :=
  if (ownDevice st).channels.isEmpty then SessionGraph.empty
  else
    { clients := [(.sender, (ownDevice st).channels.length)]
      links := (ownDevice st).channels.zipIdx.map fun p =>
        (.own ⟨.bus p.1.id, .output, 0⟩, .own ⟨.sender, .input, p.2⟩)
      waits := senderWaits st }

/-- The graph of `createRawDev`. -/
def rawDevGraph : SessionGraph :=
  rawMainGraph st ++ networkGraphs env st 0 (stageMembers st) ++
    (if 0 < st.rendersettings.secrec then selfmonitorGraph st else SessionGraph.empty) ++
    rawSenderGraph st

/-- The graph of `stageReceivers`. -/
def stageReceiversGraph : SessionGraph :=
  networkGraphs env st 0 ((stageMembers st).filter fun dev => !dev.channels.isEmpty) ++
    if 0 < st.rendersettings.secrec && !(ownDevice st).channels.isEmpty then selfmonitorGraph st
    else SessionGraph.empty

/-- The graph of `metronomeRoute`. -/
def metronomeGraph : SessionGraph :=
  if sendsChannels st then ⟨[(.metronome, 2)], [], []⟩ else SessionGraph.empty

/-- The connections of `senderConnects`. -/
def senderLinks : List (LinkEnd × LinkEnd) :=
  (ownDevice st).channels.zipIdx.flatMap fun p =>
    (if st.thisdevice.nozita then [] else
      [(.own ⟨.bus p.1.id, .output, 0⟩, .own ⟨.sender, .input, p.2⟩),
        (.own ⟨.metronome, .output, 0⟩, .own ⟨.sender, .input, p.2⟩)]) ++
    match (if st.rendersettings.receive then (egoSourceNames st)[p.2]? else none) with
    | some name => [(.own ⟨.metronome, .output, 1⟩,
        .outside (st.thisdeviceid ++ ".main:" ++ name))]
    | none => []

/-- The graph of `channelSender`. -/
def channelSenderGraph : SessionGraph :=
  if sendsChannels st then
    let zita := !st.thisdevice.nozita
    { clients := if zita then [(.sender, (ownDevice st).channels.length)] else []
      links := senderLinks st
      waits := if zita then senderWaits st else [] }
  else SessionGraph.empty

/-- The graph of `downmixSender`. -/
def downmixSenderGraph : SessionGraph :=
  if st.thisdevice.senddownmix && st.rendersettings.receive && !st.thisdevice.nozita then
    { clients := [(.sender, 2)]
      links :=
        [(.outside (st.thisdeviceid ++ ".main:main_l"), .own ⟨.sender, .input, 0⟩),
          (.outside (st.thisdeviceid ++ ".main:main_r"), .own ⟨.sender, .input, 1⟩)]
      waits := [] }
  else SessionGraph.empty

/-- The graph of `create_virtual_acoustics`. -/
def stageGraph : SessionGraph :=
  stageReceiversGraph env st ++ metronomeGraph st ++
    (channelSenderGraph st ++ downmixSenderGraph st)

/-- The graph of `routedParts`. -/
def routedGraph : SessionGraph :=
  if st.host.isEmpty then SessionGraph.empty
  else if rawRouting st then rawDevGraph env st
  else stageGraph env st

/-! ## The graph is that of the document -/

variable {env st x}

/-- The level meters have an input for each channel of the device. -/
theorem draws_levelmeterRoute :
    Draws env st x (levelmeterGraph st x) (levelmeterRoute st x) := by
  refine Draws.ite fun _ => ⟨rfl, ?_, rfl, Without.singleton "route" rfl (by decide)⟩
  show _ = List.map _ (List.map _ _)
  rw [List.map_map]
  rfl

/-- The tuner is no client of the document, but its input is connected. -/
theorem draws_tuner : Draws env st x (tunerGraph st) (tuner env st x) := by
  refine ⟨rfl, ?_, rfl, Without.singleton "tuner" rfl (by decide)⟩
  show _ = List.map _ (List.map _ _)
  rw [List.map_map]
  rfl

theorem append_port (name kind : String) (index : ℕ) :
    name ++ (kind ++ toString index) = name ++ kind ++ toString index :=
  String.append_assoc.symm

/-- Each channel has a bus of one input. -/
theorem draws_effectBuses : Draws env st x (effectGraph st x) (effectBuses st x) := by
  refine Draws.ite fun _ => ⟨?_, ?_, rfl, ?_⟩
  · have hbus : TscNode.declaration ∘ effectBus
        = some ∘ fun ch => (AudioClient.bus ch.id).declaration env st x 1 := rfl
    show List.filterMap _ (List.map _ _) = List.map _ (List.map _ _)
    rw [List.filterMap_map, hbus, List.filterMap_eq_map, List.map_map]
    rfl
  · have hlink : (fun ch : DeviceChannel =>
        sessionAddConnect ch.sourceport ("bus." ++ ch.id ++ ":in.0"))
          = linkNode st ∘ fun ch => (.outside ch.sourceport, .own ⟨.bus ch.id, .input, 0⟩) := by
      funext ch
      exact congrArg (sessionAddConnect ch.sourceport) (append_port _ ":in." 0)
    show _ = List.map _ (List.map _ _)
    rw [List.map_map, ← hlink]
  · exact Without.map _ "route" (fun _ => rfl) (by decide)

/-- What is added for the inputs. -/
theorem draws_inputParts : Draws env st x (inputGraph st x) (inputParts env st x) := by
  have hscanner : Draws env st x SessionGraph.empty ⟨streamScanner x, [], []⟩ := by
    refine ⟨?_, rfl, rfl, ?_⟩
    · unfold streamScanner
      split_ifs
      · rfl
      · rfl
    · exact Without.ite ((Without.singleton "osclist" rfl (by decide)).append
        (Without.singleton "lsllist" rfl (by decide))) Without.nil
  exact ((hscanner.append draws_levelmeterRoute).append draws_tuner).append draws_effectBuses

/-- A receiver is started with the numbers of its channels. -/
theorem chanlist_eq (dev : StageDevice) : chanlist dev = chanNumbers (receiverChannels dev) := by
  unfold chanlist receiverChannels
  split_ifs
  · rfl
  · rfl

/-- The process of a receiver declares it with these channels. -/
theorem declaration_process (r : ZitaReceiver) :
    (r.process env st).declaration
      = some ((AudioClient.receiver r).declaration env st x (receiverChannels r.member)) := by
  unfold ZitaReceiver.process
  rw [chanlist_eq]
  rfl

/-- The second bus of a device has an input for each channel, fed by the second receiver. -/
theorem draws_addSecondaryBus (dev : StageDevice) :
    Draws env st x (secondaryGraph st dev) (addSecondaryBus env st dev) := by
  refine ⟨?_, ?_, ?_, ?_⟩
  · show _ = List.map _ ((if dev.nozita then [] else _) ++ [_])
    rw [mods_addSecondaryBus, List.filterMap_append, List.map_append]
    cases dev.nozita with
    | true => rfl
    | false =>
        rw [if_neg Bool.false_ne_true, if_neg Bool.false_ne_true,
          List.filterMap_cons_some (declaration_process _)]
        rfl
  · show List.map _ _ = List.map _ (List.map _ _)
    rw [List.map_map]
    rfl
  · show List.map _ _ = List.map _ (List.map _ _)
    rw [List.map_map]
    rfl
  · rw [mods_addSecondaryBus]
    exact (Without.ite Without.nil (Without.singleton "system" rfl (by decide))).append
      (Without.singleton "route" rfl (by decide))

/-- The route of a device is mixed into the two inputs of the main route. -/
theorem draws_rawRoute (dev : StageDevice) (chcnt : ℕ) :
    Draws env st x (rawGraph dev chcnt)
      (rawRoute env st dev (getStagedevName st dev.id)
        (ZitaReceiver.jname st ⟨dev, false⟩) chcnt) := by
  refine ⟨rfl, ?_, ?_, Without.singleton "route" rfl (by decide)⟩
  · show List.map _ _ = List.map _ (List.map _ _)
    rw [List.map_map]
    refine List.map_congr_left fun c _ => ?_
    refine congrArg (sessionAddConnect _) ?_
    show "main." ++ st.thisdeviceid ++ (if (chcnt + c + 1) % 2 = 1 then ":in.0" else ":in.1")
      = "main." ++ st.thisdeviceid ++ ":in." ++ toString (if (chcnt + c + 1) % 2 = 1 then 0 else 1)
    split_ifs
    · exact append_port _ ":in." 0
    · exact append_port _ ":in." 1
  · show List.flatMap _ _ = List.map _ (List.flatMap _ _)
    rw [List.map_flatMap]
    refine List.flatMap_congr fun c _ => ?_
    rw [List.map_cons]
    cases dev.nozita with
    | true => rfl
    | false => rfl

/-- The receivers in the scene are connected to the sources there. -/
theorem draws_receiverConnects (dev : StageDevice) :
    Draws env st x (sceneGraph st dev)
      (receiverConnects st dev (getStagedevName st dev.id)
        (ZitaReceiver.jname st ⟨dev, false⟩)) := by
  refine ⟨rfl, ?_, ?_, Without.nil⟩
  · show List.map _ _ = List.map _ (List.map _ _)
    rw [List.map_map]
    rfl
  · show List.map _ _ = List.map _ (List.map _ _)
    rw [List.map_map]
    rfl

/-- A device is received by its receiver, with its route or its source, and on the second bus. -/
theorem draws_addNetworkReceiver (dev : StageDevice) (chcnt : ℕ) :
    Draws env st x (networkGraph st dev chcnt) (addNetworkReceiver env st dev chcnt).1 := by
  unfold networkGraph addNetworkReceiver
  cases hreceives : receivesFrom st dev with
  | false => exact Draws.empty
  | true =>
      rw [if_pos rfl, if_pos rfl]
      refine (Draws.append ?_ ?_).append (Draws.ite fun _ => draws_addSecondaryBus dev)
      · refine ⟨?_, rfl, rfl, Without.ite Without.nil (Without.singleton "system" rfl (by decide))⟩
        cases dev.nozita with
        | true => rfl
        | false =>
            show List.filterMap _ [ZitaReceiver.process env st ⟨dev, false⟩] = _
            rw [List.filterMap_cons_some (declaration_process _)]
            rfl
      · have hname : (if rawRouting st then "n2j_" else "") ++ getStagedevName st dev.id ++ "." ++
            st.thisdeviceid = ZitaReceiver.jname st ⟨dev, false⟩ := rfl
        rw [hname]
        cases rawRouting st with
        | true => exact draws_rawRoute dev chcnt
        | false => exact draws_receiverConnects dev

/-- The devices of a stage are drawn one after the other, with the channels counted through. -/
theorem draws_addNetworkReceivers (chcnt : ℕ) (members : List StageDevice) :
    Draws env st x (networkGraphs env st chcnt members)
      (addNetworkReceivers env st chcnt members) := by
  induction members generalizing chcnt with
  | nil => exact Draws.empty
  | cons dev members ih => exact (draws_addNetworkReceiver dev chcnt).append (ih _)

/-- The output of a bus is the source that the channel is sent from. -/
theorem text_bus (ch : DeviceChannel) :
    (AudioPort.mk (.bus ch.id) .output 0).text st = getChannelSource ch :=
  (append_port _ ":out." 0).symm

/-- The outputs of the metronome. -/
theorem text_metronome (c : ℕ) :
    (AudioPort.mk .metronome .output c).text st
      = st.thisdeviceid ++ (".metronome" ++ (":out." ++ toString c)) := by
  rw [← String.append_assoc, ← String.append_assoc]
  rfl

/-- The second bus of the own device is fed by the buses of its channels. -/
theorem draws_secondarySelfmonitor :
    Draws env st x (selfmonitorGraph st) (secondarySelfmonitor env st) := by
  refine ⟨rfl, ?_, rfl, Without.singleton "route" rfl (by decide)⟩
  show List.map _ _ = List.map _ (List.map _ _)
  rw [List.map_map]
  exact List.map_congr_left fun p _ => congrArg (sessionAddConnect · _) (text_bus p.1).symm

/-- The main route has two channels, each connected where an output port is given. -/
theorem draws_rawMain : Draws env st x (rawMainGraph st) (rawMain env st x) := by
  have houtput (c : ℕ) (dest : String) :
      (if dest.isEmpty then [] else
          [sessionAddConnect ("main." ++ st.thisdeviceid ++ (":out." ++ toString c)) dest])
        = (if dest.isEmpty then [] else
            [(LinkEnd.own ⟨.main, .output, c⟩, LinkEnd.outside dest)]).map (linkNode st) := by
    split_ifs
    · rfl
    · rw [append_port]
      rfl
  refine Draws.ite fun _ => ⟨rfl, ?_, rfl, Without.singleton "route" rfl (by decide)⟩
  show _ ++ _ = List.map _ (_ ++ _)
  rw [List.map_append, ← houtput 0, ← houtput 1]
  rfl

/-- The sender of the raw mode has an input for each channel. -/
theorem draws_rawSender : Draws env st x (rawSenderGraph st) (rawSender env st x) := by
  unfold rawSenderGraph rawSender
  dsimp only
  split_ifs
  · exact Draws.empty
  · refine ⟨rfl, ?_, ?_, Without.singleton "system" rfl (by decide)⟩
    · show List.map _ _ = List.map _ (List.map _ _)
      rw [List.map_map]
      exact List.map_congr_left fun p _ => congrArg (sessionAddConnect · _) (text_bus p.1).symm
    · show List.map _ _ = List.map _ (List.map _ _)
      rw [List.map_map]
      rfl

/-- The metronome is a client of two channels where channels are sent. -/
theorem draws_metronomeRoute :
    Draws env st x (metronomeGraph st) ⟨metronomeRoute env st x, [], []⟩ := by
  unfold metronomeGraph metronomeRoute
  cases sendsChannels st with
  | true => exact ⟨rfl, rfl, rfl, Without.singleton "route" rfl (by decide)⟩
  | false => exact ⟨rfl, rfl, rfl, Without.nil⟩

/-- The connections of the sender, element by element. -/
theorem senderConnects_eq : senderConnects st = (senderLinks st).map (linkNode st) := by
  unfold senderConnects senderLinks
  rw [List.map_flatMap]
  refine List.flatMap_congr fun p _ => ?_
  rw [List.map_append]
  refine congrArg₂ (· ++ ·) ?_ ?_
  · cases st.thisdevice.nozita with
    | true => rfl
    | false =>
        show [_, _] = [sessionAddConnect ((AudioPort.mk (.bus p.1.id) .output 0).text st) _,
          sessionAddConnect ((AudioPort.mk .metronome .output 0).text st) _]
        rw [text_bus, text_metronome]
        rfl
  · cases (if st.rendersettings.receive then (egoSourceNames st)[p.2]? else none) with
    | none => rfl
    | some name =>
        show [_] = [sessionAddConnect ((AudioPort.mk .metronome .output 1).text st) _]
        rw [text_metronome]
        rfl

/-- The sender of the channels waits for its own inputs. -/
theorem draws_channelSender :
    Draws env st x (channelSenderGraph st) (channelSender env st x) := by
  refine Draws.ite fun _ => ⟨?_, ?_, ?_,
    Without.ite (Without.singleton "system" rfl (by decide)) Without.nil⟩
  · cases hzita : st.thisdevice.nozita with
    | true => rfl
    | false => rfl
  · exact senderConnects_eq
  · cases hzita : st.thisdevice.nozita with
    | true => rfl
    | false =>
        show List.map _ _ = List.map _ (List.map _ _)
        rw [List.map_map]
        rfl

/-- The sender of a downmix has two inputs, fed by the outputs of the scene. -/
theorem draws_downmixSender :
    Draws env st x (downmixSenderGraph st) (downmixSender env st x) :=
  Draws.ite fun _ => ⟨rfl, rfl, rfl, Without.singleton "system" rfl (by decide)⟩

/-! ## The graph of the document -/

/-- The text of an element. -/
def TscNode.content : TscNode → String
  | element _ _ text _ => text

/-- The ports that an element waits for. -/
def TscNode.waitsFor : TscNode → List String
  | element name _ _ children =>
      if name = "waitforjackport" then children.map TscNode.content else []

/-- Modules without routes and processes declare no client. -/
theorem Without.declarations {tags : List String} {mods : List TscNode} (h : Without tags mods)
    (hroute : "route" ∈ tags) (hsystem : "system" ∈ tags) :
    mods.filterMap TscNode.declaration = [] := by
  refine List.filterMap_eq_nil_iff.mpr fun n hn => ?_
  cases n with
  | element name attributes text children =>
      have htag : name ∉ tags := h _ hn
      show (if name = "route" then _ else if name = "system" then _ else none) = none
      rw [if_neg (ne_of_mem_of_not_mem hroute htag).symm,
        if_neg (ne_of_mem_of_not_mem hsystem htag).symm]

/-- Modules without the waiting element wait for no port. -/
theorem Without.waits {tags : List String} {mods : List TscNode} (h : Without tags mods)
    (hwait : "waitforjackport" ∈ tags) : mods.flatMap TscNode.waitsFor = [] := by
  refine List.flatMap_eq_nil_iff.mpr fun n hn => ?_
  cases n with
  | element name attributes text children =>
      have htag : name ∉ tags := h _ hn
      show (if name = "waitforjackport" then _ else _) = _
      rw [if_neg (ne_of_mem_of_not_mem hwait htag).symm]

/-- The waiting element lists the ports that it is given. -/
theorem waits_waitforjackports (id : String) (waitports : List String) (sleep : Bool) :
    (sessionAddWaitforjackports id waitports sleep).flatMap TscNode.waitsFor = waitports := by
  have hports : (waitports.map fun port => TscNode.textNode "port" port).map TscNode.content
      = waitports := by
    rw [List.map_map]
    exact List.map_id _
  have hsleep : Without ["waitforjackport"] (if sleep then [TscNode.leaf "sleep" []] else []) :=
    Without.ite (Without.singleton "sleep" rfl (by decide)) Without.nil
  unfold sessionAddWaitforjackports
  rw [List.flatMap_append, List.flatMap_singleton, hsleep.waits List.mem_cons_self,
    List.append_nil]
  exact hports

variable (env st x) in
/-- The elements declare the clients of the graph, connect its ports and wait for them. -/
structure DrawnBy (g : SessionGraph) (mods connects : List TscNode) : Prop where
  clients : mods.filterMap TscNode.declaration
    = g.clients.map fun c => c.1.declaration env st x c.2
  links : connects = g.links.map (linkNode st)
  waits : mods.flatMap TscNode.waitsFor = g.waits.map (AudioPort.text st)

/-- What is added to a document, followed by an element that waits for the ports and by others. -/
theorem Draws.drawnBy {g : SessionGraph} {parts : SessionParts} (h : Draws env st x g parts)
    (id : String) (sleep : Bool) {others : List TscNode} (hothers : Without clientTags others) :
    DrawnBy env st x g
      (parts.mods ++ sessionAddWaitforjackports id parts.waitports sleep ++ others)
      parts.connects where
  clients := by
    rw [List.filterMap_append, List.filterMap_append, h.clients,
      (without_waitforjackports _ _ _).declarations (by decide) (by decide),
      hothers.declarations (by decide) (by decide), List.append_nil, List.append_nil]
  links := h.links
  waits := by
    rw [List.flatMap_append, List.flatMap_append, h.quiet.waits List.mem_cons_self,
      waits_waitforjackports, hothers.waits (by decide), List.append_nil, List.nil_append, h.waits]

/-- The raw mode as a whole. -/
theorem drawnBy_createRawDev :
    DrawnBy env st x (rawDevGraph env st) (createRawDev env st x).mods
      (createRawDev env st x).connects := by
  have h : Draws env st x (rawDevGraph env st) (rawMain env st x ++
      addNetworkReceivers env st 0 (stageMembers st) ++
      (if 0 < st.rendersettings.secrec then secondarySelfmonitor env st else SessionParts.empty) ++
      rawSender env st x) :=
    ((draws_rawMain.append (draws_addNetworkReceivers 0 _)).append
      (Draws.ite fun _ => draws_secondarySelfmonitor)).append draws_rawSender
  have hdrawn := h.drawnBy (st.thisdeviceid ++ ".waitforports") true Without.nil
  rw [List.append_nil] at hdrawn
  exact hdrawn

variable (env st x) in
/-- What `create_virtual_acoustics` adds for the ports of the audio clients. -/
def stageParts : SessionParts :=
  stageReceivers env st ++ ⟨metronomeRoute env st x, [], []⟩ ++
    (channelSender env st x ++ downmixSender env st x)

/-- The scene with its network, up to the waiting. -/
theorem draws_stageParts : Draws env st x (stageGraph env st) (stageParts env st x) := by
  have hreceivers : Draws env st x (stageReceiversGraph env st) (stageReceivers env st) :=
    (draws_addNetworkReceivers 0 _).append (Draws.ite fun _ => draws_secondarySelfmonitor)
  exact (hreceivers.append draws_metronomeRoute).append
    (draws_channelSender.append draws_downmixSender)

/-- The waiting is added at the end, for all ports of the parts. -/
theorem drawnBy_stage :
    DrawnBy env st x (stageGraph env st) (stageModules env st x) (stageConnects env st x) := by
  have hothers : Without clientTags (headtracker env st x ++ echoc env st x ++ pos2osc st) :=
    ((without_headtracker env st x).append (without_echoc env st x)).append (without_pos2osc st)
  have hwaits : (stageParts env st x).waitports = (stageReceivers env st).waitports ++
      (channelSender env st x ++ downmixSender env st x).waitports := by
    show _ ++ [] ++ _ = _
    rw [List.append_nil]
  have hmods : stageModules env st x = (stageParts env st x).mods ++
      sessionAddWaitforjackports (st.thisdeviceid ++ ".waitforports")
        (stageParts env st x).waitports true ++
      (headtracker env st x ++ echoc env st x ++ pos2osc st) := by
    rw [hwaits]
    simp only [stageModules, stageSenders, stageParts, SessionParts.mods_append, List.append_assoc]
  have hconnects : stageConnects env st x = (stageParts env st x).connects := by
    show _ ++ _ = _ ++ [] ++ _
    rw [List.append_nil]
    rfl
  rw [hmods, hconnects]
  exact draws_stageParts.drawnBy _ true hothers

/-- A session without a relay server has no network; another one is raw or has a scene. -/
theorem drawnBy_routedParts :
    DrawnBy env st x (routedGraph env st) (routedParts env st x).mods
      (routedParts env st x).connects := by
  unfold routedGraph routedParts
  split_ifs
  · exact ⟨rfl, rfl, rfl⟩
  · exact drawnBy_createRawDev
  · exact drawnBy_stage

variable (st) in
/-- The graph of `receiverOutputs`. -/
def outputsGraph : SessionGraph :=
  let rs := st.rendersettings
  let output (srcport dest : String) : List (LinkEnd × LinkEnd) :=
    if dest.isEmpty then []
    else [(.outside (st.thisdeviceid ++ ".main:" ++ srcport), .outside dest)]
  let srcport (stereo itu51 : String) :=
    if rs.rectype = "omni" then "main.0" else if rs.rectype = "itu51" then itu51 else stereo
  if st.thisdevice.senddownmix then SessionGraph.empty
  else
    ⟨[], output (srcport "main_l" "main.0L") rs.outputport1 ++
      output (srcport "main_r" "main.1R") rs.outputport2, []⟩

/-- The outputs of the scene are connected where output ports are given. -/
theorem draws_receiverOutputs :
    Draws env st x (outputsGraph st) ⟨[], receiverOutputs st, []⟩ := by
  have houtput (srcport dest : String) :
      (if dest.isEmpty then [] else
          [sessionAddConnect (st.thisdeviceid ++ ".main:" ++ srcport) dest])
        = (if dest.isEmpty then [] else
            [(LinkEnd.outside (st.thisdeviceid ++ ".main:" ++ srcport),
              LinkEnd.outside dest)]).map (linkNode st) := by
    split_ifs
    · rfl
    · rfl
  unfold outputsGraph receiverOutputs
  dsimp only
  by_cases hmix : st.thisdevice.senddownmix
  · rw [if_pos hmix, if_pos hmix]
    exact Draws.empty
  · rw [if_neg hmix, if_neg hmix]
    refine ⟨rfl, ?_, rfl, Without.nil⟩
    dsimp only
    rw [List.map_append, ← houtput, ← houtput]

variable (env st x) in
/-- The graph of a session. -/
def sessionGraph : SessionGraph :=
  inputGraph st x ++
    (if !rawRouting st && st.rendersettings.receive then outputsGraph st
      else SessionGraph.empty) ++
    routedGraph env st ++
    ⟨[], st.rendersettings.xports.entries.map fun xport => (.outside xport.1, .outside xport.2), []⟩

/-- The elements declare nothing but processes. -/
def OnlyProcesses (mods : List TscNode) : Prop :=
  ∃ commands : List String, mods.filterMap TscNode.declaration = commands.map .process

/-- Processes that are no clients can be added one after the other. -/
theorem OnlyProcesses.append {mods mods' : List TscNode} (h : OnlyProcesses mods)
    (h' : OnlyProcesses mods') : OnlyProcesses (mods ++ mods') := by
  obtain ⟨commands, hcommands⟩ := h
  obtain ⟨commands', hcommands'⟩ := h'
  refine ⟨commands ++ commands', ?_⟩
  rw [List.filterMap_append, hcommands, hcommands', List.map_append]

/-- They can be added under a condition as well. -/
theorem OnlyProcesses.ite {c : Prop} [Decidable c] {mods : List TscNode} (h : OnlyProcesses mods) :
    OnlyProcesses (if c then mods else []) := by
  split_ifs
  · exact h
  · exact ⟨[], rfl⟩

/-- Modules without processes and routes are a case of it. -/
theorem Without.onlyProcesses {mods : List TscNode} (h : Without ["system", "route"] mods) :
    OnlyProcesses mods := ⟨[], h.declarations (by decide) (by decide)⟩

/-- What a session starts beside its routes and its network are processes only. -/
theorem onlyProcesses_furtherModules : OnlyProcesses (furtherModules env st x) := by
  have hprocess (n : TscNode) (hn : ∃ command, n.declaration = some (.process command))
      (id : String) (waitports : List String) :
      OnlyProcesses (n :: sessionAddWaitforjackports id waitports false) := by
    obtain ⟨command, hcommand⟩ := hn
    refine ⟨[command], ?_⟩
    rw [List.filterMap_cons_some hcommand,
      (without_waitforjackports _ _ _).declarations (by decide) (by decide)]
    rfl
  have hreceiver : OnlyProcesses (mczitaReceiver env st (mczitaSettings x)) :=
    OnlyProcesses.ite (hprocess _ ⟨_, rfl⟩ _ _)
  have hsender : OnlyProcesses (mczitaSender env st (mczitaSettings x)) :=
    OnlyProcesses.ite (hprocess _ ⟨_, rfl⟩ _ _)
  have hrecorder : OnlyProcesses (jackrec env x) :=
    (Without.ite Without.nil ((Without.singleton "jackrec" rfl (by decide)).append
      (Without.singleton "touchosc" rfl (by decide)))).onlyProcesses
  have hmha : OnlyProcesses (mhaModule st x) := by
    unfold mhaModule
    split_ifs
    · exact Without.nil.onlyProcesses
    · exact ⟨["mha ?read:" ++ st.thisdeviceid ++ ".mhacfg"], rfl⟩
  have hmidi : OnlyProcesses (midictl env st x) :=
    (Without.ite (Without.singleton "midictl" rfl (by decide)) Without.nil).onlyProcesses
  exact (((hreceiver.append hsender).append hrecorder).append hmha).append hmidi

variable (env st x) in
/-- The document declares the clients of the graph, its elements `connect` connect the ports of the
graph, and its stage waits for them; whatever else it declares are processes. -/
structure Describes (d : SessionDescription) (g : SessionGraph) : Prop where
  clients : ∃ further : List String,
    ((d.modules ++ d.stageModules).filterMap TscNode.declaration).Perm
      ((g.clients.map fun c => c.1.declaration env st x c.2) ++ further.map .process)
  links : d.connects = g.links.map (linkNode st)
  waits : d.stageModules.flatMap TscNode.waitsFor = g.waits.map (AudioPort.text st)

/-- The inputs wait for no port. -/
theorem waits_inputGraph : (inputGraph st x).waits = [] := by
  have hlevel : (levelmeterGraph st x).waits = [] := by
    unfold levelmeterGraph
    split_ifs
    · rfl
    · rfl
  have heffect : (effectGraph st x).waits = [] := by
    unfold effectGraph
    split_ifs
    · rfl
    · rfl
  show (levelmeterGraph st x).waits ++ [] ++ (effectGraph st x).waits = []
  rw [hlevel, heffect]
  rfl

/-- The document of a session describes its graph. -/
theorem describes_sessionDescription :
    Describes env st x (sessionDescription env st x) (sessionGraph env st x) := by
  have hinput : Draws env st x (inputGraph st x) (inputParts env st x) := draws_inputParts
  have houtputs : Draws env st x
      (if !rawRouting st && st.rendersettings.receive then outputsGraph st
        else SessionGraph.empty)
      ⟨[], if !rawRouting st && st.rendersettings.receive then receiverOutputs st else [], []⟩ := by
    split_ifs
    · exact draws_receiverOutputs
    · exact Draws.empty
  have hrouted : DrawnBy env st x (routedGraph env st) (routedParts env st x).mods
      (routedParts env st x).connects := drawnBy_routedParts
  refine ⟨?_, ?_, ?_⟩
  · obtain ⟨further, hfurther⟩ := @onlyProcesses_furtherModules env st x
    refine ⟨further, ?_⟩
    show (List.filterMap _ ((inputParts env st x).mods ++ furtherModules env st x ++
      (routedParts env st x).mods)).Perm (List.map _ (_ ++ _ ++ _ ++ []) ++ _)
    rw [List.append_nil, List.map_append, List.map_append, ← houtputs.clients, ← hinput.clients,
      ← hrouted.clients, List.filterMap_append, List.filterMap_append, hfurther]
    show List.Perm (_ ++ _ ++ _) (_ ++ [] ++ _ ++ _)
    rw [List.append_nil, List.append_assoc, List.append_assoc]
    exact List.perm_append_comm.append_left _
  · show (inputParts env st x).connects ++ _ ++ (routedParts env st x).connects ++ _
      = List.map _ (_ ++ _ ++ _ ++ _)
    rw [List.map_append, List.map_append, List.map_append, ← hinput.links, ← houtputs.links,
      ← hrouted.links, List.map_map]
    rfl
  · show (routedParts env st x).mods.flatMap _ = List.map _ (_ ++ _ ++ _ ++ [])
    rw [List.append_nil, List.map_append, List.map_append, waits_inputGraph, ← houtputs.waits,
      ← hrouted.waits]
    rfl

end Graphs

end Libov

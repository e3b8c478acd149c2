/-
# Elements of a session description

`start_session` of `ov_render_tascar.cc` describes a TASCAR session by an XML document.
An element has a name, attributes, a text and children; what a function of the renderer
adds to the document is returned as lists of elements here, in the order in which they are
added.

The formatting of numbers, the files on disk and the members of the renderer that no
configuration changes are collected in `SessionText` and `SessionEnv`.
-/
import Libov.RenderTascar

namespace Libov

/-! ## Elements -/

/-- An XML element. -/
inductive TscNode where
  | element (name : String) (attributes : List (String × String)) (text : String)
      (children : List TscNode)

namespace TscNode

/-- An element with attributes only. -/
def leaf (name : String) (attributes : List (String × String)) : TscNode :=
  element name attributes "" []

/-- An element with children. -/
def node (name : String) (attributes : List (String × String)) (children : List TscNode) :
    TscNode :=
  element name attributes "" children

/-- An element with a text only. -/
def textNode (name text : String) : TscNode := element name [] text []

end TscNode

/-- What is added under a condition is the same exactly if it is the same where the
condition holds. -/
theorem ite_eq_ite_iff {α : Type*} {c : Prop} [Decidable c] {a b d : α} :
    (if c then a else d) = (if c then b else d) ↔ (c → a = b) := by
  by_cases hc : c
  · rw [if_pos hc, if_pos hc, forall_prop_of_true hc]
  · rw [if_neg hc, if_neg hc]
    exact iff_of_true rfl fun h => absurd h hc

/-- What a function adds to the modules and to the connections of a session, and the ports
that the session has to wait for. -/
structure SessionParts where
  mods : List TscNode
  connects : List TscNode
  waitports : List String

namespace SessionParts

def empty : SessionParts := ⟨[], [], []⟩

/-- What is added first comes first. -/
def append (a b : SessionParts) : SessionParts :=
  ⟨a.mods ++ b.mods, a.connects ++ b.connects, a.waitports ++ b.waitports⟩

instance : Append SessionParts := ⟨append⟩

end SessionParts

/-! ## Surroundings -/

/-- How numbers are written into a session description. -/
structure SessionText extends Numeric where
  /-- `TASCAR::to_string` of a `float`. -/
  toStrF : ℚ → String
  /-- `std::to_string` of a `float` or `double`. -/
  stdToString : ℚ → String
  /-- `TASCAR::to_string` of a position. -/
  pos : Pos → String
  /-- `TASCAR::to_string` of Euler angles. -/
  zyx : ZyxEuler → String
  /-- `TASCAR::to_string(20 * log10(gain))`. -/
  decibel : ℚ → String
  /-- `TASCAR::to_string(20.0f * log10f(gain))`. -/
  decibelF : ℚ → String
  /-- `std::to_string(1.0 - exp(-1.0 / (30.0 * tau)))`. -/
  autoref : ℚ → String
  /-- `TASCAR::to_string(sqrt(1.0 - absorption))`. -/
  reflectivity : ℚ → String
  /-- Location and orientation of a source on the arc in front of a device that only
  listens, by the number of devices on stage and the place of the source. -/
  arc : ℕ → ℕ → String × String
  /-- `TASCAR::to_string_bool`. -/
  toStringBool : Bool → String
  /-- `TASCAR::vecstr2str`. -/
  vecstr2str : List String → String

/-- The members of the renderer that an extra configuration does not change, and what
`start_session` reads from outside. -/
structure SessionEnv where
  text : SessionText
  myTascarport : Port
  distToOtherTascarport : Port
  portoffset : Port
  folder : String
  zitapath : String
  secondary : Bool
  /-- `std::hash` of a text. -/
  hash : String → ℕ
  /-- There is a file of this name. -/
  fileExists : String → Bool
  /-- The include file made of the text, without system modules where they are not
  allowed. -/
  itsc : String → String

/-! ## Names and ports -/

/-- A flag as an attribute. -/
def boolText (b : Bool) : String := if b then "true" else "false"

/-- `get_zitaport_`. -/
def getZitaport (deviceid : StageDeviceId) (offset xoffset : Port) : Port :=
  UInt16.ofNat (4464 + 2 * deviceid.toNat + offset.toNat + xoffset.toNat)

/-- `get_channel_source`. -/
def getChannelSource (ch : DeviceChannel) : String := "bus." ++ ch.id ++ ":out.0"

/-- `get_stagedev_name`, while the session is set up. -/
def getStagedevName (st : Stage) (id : StageDeviceId) : String :=
  match (Renderer.lookedUp st).find? id with
  | none => ""
  | some dev => dev.label ++ "_" ++ toString id

/-- The names under which the sounds of a device are connected: channels without a name
are counted from `k` on. -/
def channelNames : ℕ → List DeviceChannel → List String
  | _, [] => []
  | k, ch :: chs =>
      if ch.name.isEmpty then toString k :: channelNames (k + 1) chs
      else ch.name :: channelNames k chs

/-- What stands behind the last dot. -/
def behindLastDot : List Char → List Char
  | [] => []
  | c :: cs => if '.' ∈ cs then behindLastDot cs else if c = '.' then cs else c :: cs

/-- The extension in `url2localfilename`: what stands behind the last dot in front of the
first question mark, with a dot in front of it. -/
def urlExtension (url : String) : String :=
  let path := url.toList.takeWhile (· != '?')
  if '.' ∈ path then
    let extension := String.ofList (behindLastDot path)
    if extension.isEmpty then "" else "." ++ extension
  else ""

/-- `url2localfilename`. -/
def url2localfilename (hash : String → ℕ) (url : String) : String :=
  if url.isEmpty then url else toString (hash url) ++ urlExtension url

/-! ## Small elements -/

/-- `session_add_connect`. -/
def sessionAddConnect (src dest : String) : TscNode :=
  .leaf "connect" [("src", src), ("dest", dest)]

/-- `session_add_waitforjackports`. -/
def sessionAddWaitforjackports (id : String) (waitports : List String) (sleep : Bool) :
    List TscNode :=
  [.node "waitforjackport" [("timeout", "5"), ("name", id)]
    (waitports.map fun port => .textNode "port" port)] ++
    if sleep then [.leaf "sleep" []] else []

/-- A module that runs a command. -/
def systemModule (command : String) (relaunch : Bool) : TscNode :=
  .leaf "system" ([("sleep", "0.2"), ("noshell", "true"), ("command", command)] ++
    if relaunch then [("relaunch", "true")] else [])

end Libov

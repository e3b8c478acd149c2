/-
# JSON helpers of the client

`my_js_value`, `json_merge` and `ovstrrep` (`ov_tools.h`, `ov_tools.cc`), and the
exceptions that the configuration code throws.
-/
import Libov.Json

namespace Libov

/-! ## Exceptions -/

/-- The points at which `start_session` can throw. -/
inductive StartFault where
  /-- The constructor of `ovboxclient_t`. -/
  | ovboxclient
  /-- `add_proxy_client` for the proxy client at a position of the list. -/
  | proxyClient (k : ℕ)
  /-- The document of the user-provided TASCAR include file. -/
  | tscinclude
  /-- The constructor of the TASCAR session. -/
  | load
  /-- The validation or the start of the TASCAR session. -/
  | start
  deriving DecidableEq

/-- The exceptions of the configuration code, with what their texts are put
together from. -/
inductive ErrMsg where
  /-- An exception of the JSON library. -/
  | json (e : JsonError)
  /-- "`e` ('`obj`', key: '`key`')" -/
  | jsValue (e : JsonError) (obj : Json) (key : String)
  /-- "get_stage_dev: `e`" -/
  | getStageDev (e : ErrMsg)
  /-- "set_extra_config: `e`" -/
  | setExtraConfig (e : ErrMsg)
  /-- "Unable to open ambient sound file from `url`: Not in B-Format (`channels`
  channels)", or the reason why the file cannot be opened. -/
  | ambientSound (url : String) (channels : Option ℕ)
  /-- "Unable to start audio backend. [..]" -/
  | audioBackend
  /-- An exception thrown while a session starts. -/
  | session (fault : StartFault)
  /-- "Invalid hash code, propably not a REST API response." -/
  | invalidHash
  /-- No exception: a plugin behind the last one of a channel is read, and what follows is not
  defined.  Here a call that comes to this point ends there. -/
  | undefined

/-! ## Robust access to values -/

section Value

variable {T : Type} [Json.FromJson T] (num : Numeric) (obj : Json) (key : String)

/-- The value of a member, if there is one. -/
def jsValue? : Except ErrMsg (Option T) :=
  match obj.find? key with
  | none => .ok none
  | some j =>
      match Json.FromJson.get num j with
      | .ok v => .ok (some v)
      | .error e => .error (.jsValue e obj key)

/-- `my_js_value`: the value of a member, or the default value where there is
none or `obj` is no object. -/
def myJsValue (defval : T) : Except ErrMsg T := (fun v => v.getD defval) <$> jsValue? num obj key

end Value

/-- `j[key]` in a function that passes the exception of the library on. -/
def subscript (j : Json) (key : String) : Except ErrMsg Json :=
  match j.subscript key with
  | .ok v => .ok v
  | .error e => .error (.json e)

/-! ## Merging -/

/-- The loop of `json_merge` over the members of `rhs`; `j` is what has been
merged so far. -/
def mergeMembers (lhs j : Json) : List (String × Json) → Except JsonError Json
  | [] => .ok j
  | (key, .obj es) :: rest => do
      let old ← j.subscript key
      -- an object that is there is merged, one that is not is copied
      let new ← if old.isNull then pure (.obj es)
        else mergeMembers (lhs.member key) (lhs.member key) es
      mergeMembers lhs (← j.set key new) rest
  | (key, v) :: rest => do mergeMembers lhs (← j.set key v) rest

/-- `json_merge`: the members of `rhs` written over those of `lhs`. -/
def jsonMerge (lhs rhs : Json) : Except JsonError Json := do
  mergeMembers lhs lhs (← rhs.items)

example : jsonMerge (.obj [("a", .obj [("x", .int 1)]), ("b", .null)])
    (.obj [("a", .obj [("y", .int 2)]), ("b", .obj [])])
      = .ok (.obj [("a", .obj [("x", .int 1), ("y", .int 2)]), ("b", .obj [])]) := by
  rfl

/-! ## Replacing a pattern -/

/-- The text behind the first `skip` characters with every occurrence of the
pattern replaced. -/
def replaceFrom (pat rep : List Char) : ℕ → List Char → List Char
  | _, [] => []
  | skip + 1, _ :: cs => replaceFrom pat rep skip cs
  | 0, c :: cs =>
      if pat.isPrefixOf (c :: cs) then rep ++ replaceFrom pat rep (pat.length - 1) cs
      else c :: replaceFrom pat rep 0 cs

/-- `ovstrrep`: every occurrence of a pattern replaced, from left to right. -/
def ovstrrep (s pat rep : String) : String :=
  String.ofList (replaceFrom pat.toList rep.toList 0 s.toList)

example : ovstrrep "https:\\/\\/a\\b" "\\/" "/" = "https://a\\b" := by decide

end Libov

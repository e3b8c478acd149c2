/-
# The service of the client

`service` and `device_update` of `ov_client_orlandoviols.cc`: every turn of the
loop sends the hash of the last response to the server, takes the hash and an
update of the configuration from the response, merges the update and applies the
configuration.

The parser of the JSON library is a parameter.  What happens to the hash and to
the configuration is stated for all runs of the loop.
-/
import Libov.ClientConfig
import Libov.Runs

namespace Libov

open Programs Runs

/-! ## The response of the server -/

/-- The lines that `std::getline` reads from a text. -/
def getlines : List Char → List (List Char)
  | [] => []
  | '\n' :: cs => [] :: getlines cs
  | c :: cs =>
      match getlines cs with
      | [] => [[c]]
      | line :: lines => (c :: line) :: lines

/-- The first line of a response. -/
def hashLine? (retv : String) : Option String := (getlines retv.toList).head?.map String.ofList

/-- The other lines of a response, without the end of the last one. -/
def responseBody (retv : String) : String :=
  String.ofList ((getlines retv.toList).tail.flatMap fun line => line ++ ['\n']).dropLast

example : hashLine? "h1\n\x7b\n\x7d\n" = some "h1" ∧ responseBody "h1\n\x7b\n\x7d\n" = "\x7b\n\x7d" := by decide

/-! ## State and turns -/

/-- What the service works with. -/
structure Service where
  /-- The hash that the next request sends. -/
  hash : String
  devcfg : Json
  client : Client

/-- Programs of the service. -/
abbrev ServiceM := EStateM ErrMsg Service

/-- The service before its first request. -/
def Service.init (client : Client) : Service := ⟨"", .null, client⟩

/-- `device_update`: the response is the empty text where the request failed, or an
exception that has been thrown while the request was put together. -/
def deviceUpdate (response : Except ErrMsg String) : ServiceM String := do
  let retv ← ofExcept response
  match hashLine? retv with
  | none => return ""
  | some line =>
      -- a web page instead of a hash
      throwIf (line.toList.head? == some '<') .invalidHash
      modify fun s => { s with hash := line }
      return responseBody retv

/-- What surrounds a turn of the loop. -/
structure Turn where
  response : Except ErrMsg String
  env : ConfigEnv

section Service

variable (num : Numeric) (parse : String → Except JsonError Json)

/-- A configuration with an update merged. -/
def mergeConfig (devcfg : Json) (update : String) : Except JsonError Json := do
  jsonMerge devcfg (← parse update)

/-- The update of a response, if there is one. -/
def updateConfig (stagecfg : String) : ServiceM Unit :=
  onlyIf (stagecfg != "") do
    let s ← get
    let devcfg ← ofExcept ((mergeConfig parse s.devcfg stagecfg).mapError .json)
    modify fun s => { s with devcfg := devcfg }

/-- A file with a local configuration; one that cannot be read is left out. -/
def readConfigFile (devcfg : Json) (config : String) : Json :=
  if config = "" then devcfg else (mergeConfig parse devcfg config).toOption.getD devcfg

/-- `service` up to the loop, which is entered where the server could be reached or
the client is a mixer of its own. -/
def startService (files : List String) (response : Except ErrMsg String) (announced : Bool) :
    ServiceM Bool := do
  modify fun s => { s with devcfg := files.foldl (readConfigFile parse) s.devcfg }
  let stagecfg ← deviceUpdate response
  updateConfig parse stagecfg
  let s ← get
  let mixer ← ofExcept (myJsValue num s.devcfg "standalonemixer" false)
  let enter := announced || mixer
  modify fun s => { s with client := { s.client with
    standaloneMixer := mixer
    quitrequest := s.client.quitrequest || !enter } }
  return enter

/-- One turn of the loop.  The inner handler reports the exceptions of the update and of
the configuration; the outer one waits. -/
def serviceTurn (turn : Turn) : ServiceM Unit := do
  let stagecfg ← deviceUpdate turn.response
  caught do
    updateConfig parse stagecfg
    let s ← get
    onPart Service.client (fun c s => { s with client := c }) (parseConfig num turn.env s.devcfg)

/-- The service after a turn of the loop. -/
def serviceStep (s : Service) (turn : Turn) : Service := stateAfter (serviceTurn num parse turn) s

/-! ## What a turn does to hash and configuration -/

/-- A response with a hash line and a body. -/
def Delivers (response : Except ErrMsg String) (hash body : String) : Prop :=
  ∃ retv, response = .ok retv ∧ hashLine? retv = some hash ∧ responseBody retv = body ∧ body ≠ ""

theorem Delivers.body_ne {response : Except ErrMsg String} {hash body : String}
    (h : Delivers response hash body) : body ≠ "" := by
  obtain ⟨_, -, -, -, hbody⟩ := h
  exact hbody

/-- A hash line that does not look like the start of a web page. -/
def AcceptedHash (hash : String) : Prop := hash.toList.head? ≠ some '<'

theorem deviceUpdate_of_delivers {response : Except ErrMsg String} {hash body : String}
    (h : Delivers response hash body) (hhash : AcceptedHash hash) (s : Service) :
    deviceUpdate response s = .ok body { s with hash := hash } := by
  obtain ⟨retv, rfl, hline, rfl, -⟩ := h
  rw [deviceUpdate, bind_of_ok (ofExcept_ok retv s), hline]
  exact bind_of_ok (throwIf_of_false (beq_eq_false_iff_ne.2 hhash) _ _)

theorem deviceUpdate_of_page {response : Except ErrMsg String} {hash body : String}
    (h : Delivers response hash body) (hhash : ¬ AcceptedHash hash) (s : Service) :
    deviceUpdate response s = .error .invalidHash s := by
  obtain ⟨retv, rfl, hline, -, -⟩ := h
  rw [AcceptedHash, not_not] at hhash
  rw [deviceUpdate, bind_of_ok (ofExcept_ok retv s), hline]
  exact bind_of_error (throwIf_of_true (by rw [hhash, beq_self_eq_true]) _ _)

/-- An update that can be merged is merged, and one that cannot leaves the service as it
is. -/
theorem updateConfig_ok {s : Service} {stagecfg : String} {devcfg : Json}
    (h : mergeConfig parse s.devcfg stagecfg = .ok devcfg) (hbody : stagecfg ≠ "") :
    updateConfig parse stagecfg s = .ok () { s with devcfg := devcfg } := by
  rw [updateConfig, onlyIf_of_true (bne_iff_ne.2 hbody), get_bind_apply, h]
  rfl

theorem updateConfig_error {s : Service} {stagecfg : String} {e : JsonError}
    (h : mergeConfig parse s.devcfg stagecfg = .error e) (hbody : stagecfg ≠ "") :
    updateConfig parse stagecfg s = .error (.json e) s := by
  rw [updateConfig, onlyIf_of_true (bne_iff_ne.2 hbody), get_bind_apply, h]
  rfl

/-- The configuration is applied to the client only. -/
theorem serviceTurn_rest (P : Service → Prop) (hclient : ∀ c s, P s → P { s with client := c })
    (env : ConfigEnv) : Keeps P (do
      let s ← get
      onPart Service.client (fun c s => { s with client := c })
        (parseConfig num env s.devcfg) : ServiceM Unit) := by
  refine Keeps.bind Keeps.of_get ?_
  intro s
  exact Keeps.onPart hclient _

/-- A turn with an update that can be merged. -/
theorem serviceStep_merges {s : Service} {turn : Turn} {hash body : String} {devcfg : Json}
    (h : Delivers turn.response hash body) (hhash : AcceptedHash hash)
    (hmerge : mergeConfig parse s.devcfg body = .ok devcfg) :
    (serviceStep num parse s turn).hash = hash ∧
      (serviceStep num parse s turn).devcfg = devcfg := by
  have hmerged : updateConfig parse body { s with hash := hash }
      = .ok () { s with hash := hash, devcfg := devcfg } :=
    updateConfig_ok parse hmerge h.body_ne
  rw [serviceStep, serviceTurn, stateAfter, bind_of_ok (deviceUpdate_of_delivers h hhash s),
    caught_apply, stateAfter, bind_of_ok hmerged]
  exact serviceTurn_rest num (fun s' => s'.hash = hash ∧ s'.devcfg = devcfg)
    (fun _ _ hs => hs) turn.env _ ⟨rfl, rfl⟩

/-- A turn with an update that cannot be merged stores the hash all the same. -/
theorem serviceStep_loses {s : Service} {turn : Turn} {hash body : String} {e : JsonError}
    (h : Delivers turn.response hash body) (hhash : AcceptedHash hash)
    (hmerge : mergeConfig parse s.devcfg body = .error e) :
    serviceStep num parse s turn = { s with hash := hash } := by
  have hlost : updateConfig parse body { s with hash := hash }
      = .error (.json e) { s with hash := hash } :=
    updateConfig_error parse hmerge h.body_ne
  rw [serviceStep, serviceTurn, stateAfter, bind_of_ok (deviceUpdate_of_delivers h hhash s),
    caught_apply, stateAfter_error (bind_of_error hlost)]

/-- A turn with a web page for a response does nothing. -/
theorem serviceStep_page {s : Service} {turn : Turn} {hash body : String}
    (h : Delivers turn.response hash body) (hhash : ¬ AcceptedHash hash) :
    serviceStep num parse s turn = s := by
  rw [serviceStep, serviceTurn, stateAfter_error (bind_of_error (deviceUpdate_of_page h hhash s))]

/-! ## The stored hash -/

theorem keeps_acceptedHash_deviceUpdate (response : Except ErrMsg String) :
    Keeps (fun s => AcceptedHash s.hash) (deviceUpdate response) := by
  rw [deviceUpdate]
  refine Keeps.bind (Keeps.of_except _) ?_
  intro retv
  cases hashLine? retv with
  | none => exact Keeps.of_pure _
  | some line =>
      intro s hs
      cases hpage : line.toList.head? == some '<' with
      | true =>
          have hthrows : (throwIf (line.toList.head? == some '<') .invalidHash : ServiceM Unit) s
              = .error .invalidHash s := throwIf_of_true hpage _ _
          show AcceptedHash (stateAfter ((throwIf _ _ : ServiceM Unit) >>= _) s).hash
          rw [stateAfter_error (bind_of_error hthrows)]
          exact hs
      | false =>
          have hgo : (throwIf (line.toList.head? == some '<') .invalidHash : ServiceM Unit) s
              = .ok () s := throwIf_of_false hpage _ _
          show AcceptedHash (stateAfter ((throwIf _ _ : ServiceM Unit) >>= _) s).hash
          rw [stateAfter, bind_of_ok hgo]
          exact beq_eq_false_iff_ne.1 hpage

theorem keeps_acceptedHash_updateConfig (stagecfg : String) :
    Keeps (fun s => AcceptedHash s.hash) (updateConfig parse stagecfg) := by
  refine Keeps.onlyIf (Keeps.bind Keeps.of_get ?_)
  intro s
  refine Keeps.bind (Keeps.of_except _) ?_
  intro devcfg
  exact Keeps.of_modify fun _ hs => hs

/-- The hash of the service never looks like the start of a web page. -/
theorem acceptedHash_serviceStep (s : Service) (turn : Turn) (hs : AcceptedHash s.hash) :
    AcceptedHash (serviceStep num parse s turn).hash := by
  have hturn : Keeps (fun s => AcceptedHash s.hash) (serviceTurn num parse turn) := by
    rw [serviceTurn]
    refine Keeps.bind (keeps_acceptedHash_deviceUpdate turn.response) ?_
    intro stagecfg
    refine Keeps.caught (Keeps.bind (keeps_acceptedHash_updateConfig parse stagecfg) ?_)
    intro _
    exact serviceTurn_rest num (fun s => AcceptedHash s.hash) (fun _ _ hs => hs) turn.env
  exact hturn s hs

/-- The loop starts with an accepted hash, and with the first update merged. -/
theorem startService_stores {files : List String} {first : Except ErrMsg String} {announced : Bool}
    {client : Client} {enter : Bool} {s₀ : Service}
    (h : startService num parse files first announced (Service.init client) = .ok enter s₀) :
    AcceptedHash s₀.hash ∧ ∀ hash body, Delivers first hash body →
      mergeConfig parse (files.foldl (readConfigFile parse) .null) body = .ok s₀.devcfg := by
  rw [startService, modify_bind_apply, bind_eq_ok] at h
  obtain ⟨stagecfg, s₁, hdevice, h⟩ := h
  obtain ⟨_, s₂, hupdate, h⟩ := bind_eq_ok.1 h
  rw [get_bind_apply, ofExcept_bind_eq_ok] at h
  obtain ⟨mixer, -, h⟩ := h
  rw [modify_bind_apply] at h
  cases h
  have hinit : AcceptedHash "" := by
    rw [AcceptedHash]
    decide
  have hhash₁ := keeps_acceptedHash_deviceUpdate first
    { Service.init client with
      devcfg := files.foldl (readConfigFile parse) (Service.init client).devcfg }
    hinit
  rw [stateAfter_ok hdevice] at hhash₁
  have hhash₂ : AcceptedHash s₂.hash :=
    (keeps_acceptedHash_updateConfig parse stagecfg).of_ok hhash₁ hupdate
  refine ⟨hhash₂, ?_⟩
  intro hash body hdelivers
  by_cases hhash : AcceptedHash hash
  · rw [deviceUpdate_of_delivers hdelivers hhash] at hdevice
    cases hdevice
    cases hmerge : mergeConfig parse (files.foldl (readConfigFile parse) .null) stagecfg with
    | error e =>
        rw [updateConfig_error parse hmerge hdelivers.body_ne] at hupdate
        cases hupdate
    | ok devcfg =>
        rw [updateConfig_ok parse hmerge hdelivers.body_ne] at hupdate
        cases hupdate
        rfl
  · rw [deviceUpdate_of_page hdelivers hhash] at hdevice
    cases hdevice

/-! ## Lost updates -/

/-- No update is lost in a run of the loop from `s₀`, which the files and the first response
have led to. -/
structure NoLostUpdate (files : List String) (first : Except ErrMsg String) (s₀ : Service)
    (turns : List Turn) : Prop where
  /-- The update of the first response has been merged. -/
  first : ∀ hash body, Delivers first hash body →
    mergeConfig parse (files.foldl (readConfigFile parse) .null) body = .ok s₀.devcfg
  /-- Whenever the stored hash is that of a response with a body, the body has been merged. -/
  merged : ∀ before turn later rest, turns = before ++ turn :: (later ++ rest) →
    ∀ hash body, Delivers turn.response hash body →
      (run (serviceStep num parse) s₀ (before ++ turn :: later)).hash = hash →
      mergeConfig parse (run (serviceStep num parse) s₀ before).devcfg body
        = .ok (run (serviceStep num parse) s₀ (before ++ [turn])).devcfg
  /-- Behind a body that cannot be merged the hash is still the previous one. -/
  keepsHash : ∀ before turn rest, turns = before ++ turn :: rest →
    ∀ hash body, Delivers turn.response hash body →
      (∀ devcfg, mergeConfig parse (run (serviceStep num parse) s₀ before).devcfg body
        ≠ .ok devcfg) →
      (run (serviceStep num parse) s₀ (before ++ [turn])).hash
        = (run (serviceStep num parse) s₀ before).hash

/-- The update of a response with an accepted hash line can be merged. -/
def Mergeable (s : Service) (turn : Turn) : Prop :=
  ∀ hash body, Delivers turn.response hash body → AcceptedHash hash →
    ∃ devcfg, mergeConfig parse s.devcfg body = .ok devcfg

/-- **Lost updates.**  A run of the loop loses no update exactly if every update that a
response with an accepted hash line brings can be merged. -/
theorem no_lost_update_iff (files : List String) (first : Except ErrMsg String) (announced : Bool)
    (client : Client) (s₀ : Service)
    (hstart : startService num parse files first announced (Service.init client) = .ok true s₀)
    (turns : List Turn) :
    NoLostUpdate num parse files first s₀ turns ↔
      AllSteps (serviceStep num parse) (Mergeable parse) s₀ turns := by
  obtain ⟨hhash₀, hfirst⟩ := startService_stores num parse hstart
  constructor
  · intro h
    rw [allSteps_iff_split]
    intro before turn rest hsplit hash body hdelivers hhash
    cases hmerge : mergeConfig parse (run (serviceStep num parse) s₀ before).devcfg body with
    | ok devcfg => exact ⟨devcfg, rfl⟩
    | error e =>
        -- the hash is stored although the body is lost
        have hstored : (run (serviceStep num parse) s₀ (before ++ [turn])).hash = hash := by
          rw [run_append_one, serviceStep_loses num parse hdelivers hhash hmerge]
        have hmerged := h.merged before turn [] rest hsplit hash body hdelivers hstored
        rw [hmerge] at hmerged
        cases hmerged
  · intro h
    rw [allSteps_iff_split] at h
    refine ⟨hfirst, ?_, ?_⟩
    · intro before turn later rest hsplit hash body hdelivers hstored
      have hhash : AcceptedHash hash := by
        rw [← hstored]
        exact invariant_run_of_step (acceptedHash_serviceStep num parse) hhash₀ _
      obtain ⟨devcfg, hmerge⟩ := h before turn (later ++ rest) hsplit hash body hdelivers hhash
      rw [run_append_one, (serviceStep_merges num parse hdelivers hhash hmerge).2, hmerge]
    · intro before turn rest hsplit hash body hdelivers hlost
      by_cases hhash : AcceptedHash hash
      · obtain ⟨devcfg, hmerge⟩ := h before turn rest hsplit hash body hdelivers hhash
        exact absurd hmerge (hlost devcfg)
      · rw [run_append_one, serviceStep_page num parse hdelivers hhash]

end Service

/-- A parser that reads an empty object and nothing else. -/
def parseEmptyObject (text : String) : Except JsonError Json :=
  if text = "{}" then .ok (.obj []) else .error .parse101

/-- A turn of the loop with an answer of the server and no fault. -/
def answered (retv : String) : Turn where
  response := .ok retv
  env := ⟨⟨true, none⟩, ⟨true, none⟩, ⟨true, none⟩, none, none⟩

/-- The service that has entered its loop without an update. -/
def enteredService : Service :=
  stateAfter (startService Numeric.exact parseEmptyObject [] (.ok "") true)
    (Service.init (Client.init (Renderer.init Numeric.exact "box" "127.0.0.1")))

theorem enteredService_starts :
    startService Numeric.exact parseEmptyObject [] (.ok "") true
      (Service.init (Client.init (Renderer.init Numeric.exact "box" "127.0.0.1")))
      = .ok true enteredService :=
  rfl

/-- A body that is delivered whole is merged. -/
theorem no_lost_update_one_turn :
    NoLostUpdate Numeric.exact parseEmptyObject [] (.ok "") enteredService [answered "h1\n{}"] := by
  have hmergeable : Mergeable parseEmptyObject enteredService (answered "h1\n{}") := by
    rintro hash body ⟨retv, hretv, -, rfl, -⟩ -
    cases hretv
    have hbody : responseBody "h1\n{}" = "{}" := by decide
    rw [hbody]
    exact ⟨.null, rfl⟩
  exact (no_lost_update_iff Numeric.exact parseEmptyObject [] (.ok "") true _ enteredService
    enteredService_starts _).2 ⟨hmergeable, trivial⟩

/-- Behind a body that breaks off the hash is stored, so the server is not asked for the
update again. -/
theorem truncated_update_lost :
    ¬ NoLostUpdate Numeric.exact parseEmptyObject [] (.ok "") enteredService
      [answered "h1\n\x7b"] := by
  intro h
  have hdelivers : Delivers (answered "h1\n\x7b").response "h1" "\x7b" :=
    ⟨"h1\n\x7b", rfl, by decide, by decide, by decide⟩
  have hlost : ∀ devcfg,
      mergeConfig parseEmptyObject enteredService.devcfg "\x7b" ≠ .ok devcfg := by
    rintro devcfg ⟨⟩
  have hkept := h.keepsHash [] (answered "h1\n\x7b") [] rfl "h1" "\x7b" hdelivers hlost
  have hstored : (run (serviceStep Numeric.exact parseEmptyObject) enteredService
      ([] ++ [answered "h1\n\x7b"])).hash = "h1" := by
    decide +kernel
  have hbefore : (run (serviceStep Numeric.exact parseEmptyObject) enteredService []).hash = "" :=
    rfl
  rw [hstored, hbefore] at hkept
  exact absurd hkept (by decide)

end Libov

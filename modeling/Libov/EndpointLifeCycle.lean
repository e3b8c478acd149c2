/-
# The life cycle of an endpoint

Whatever the order of messages and passes of `checkstatus`, an entry is determined by the
number of passes since its timeout was refreshed last: the timeout is what is left of
`CALLERLIST_TIMEOUT`, the device is announced from the first pass on, and the pass behind
the last countdown announces the loss and resets the entry.

* `passesSince` : the passes since the last refresh;
* `lifeCycle_step`, `lifeCycle_run` : the invariant;
* `endpoint_life_cycle` : what follows for timeouts and announcements.
-/
import Libov.CallerList

open Runs

namespace Libov

/-! ## Announcements about a device -/

/-- A new connection or its loss. -/
inductive Connection where
  | new
  | lost
  deriving DecidableEq

/-- What an announcement tells about the connection of a device. -/
def Announcement.connection? (cid : ℕ) : Announcement → Option Connection
  | newConnection cid' _ => if cid' = cid then some .new else none
  | connectionLost cid' => if cid' = cid then some .lost else none
  | latency .. => none

/-- The connections and losses of a device that have been announced. -/
def connections (cid : ℕ) (as : List Announcement) : List Connection :=
  as.filterMap (Announcement.connection? cid)

/-- The announcements of two lists, one after the other. -/
theorem connections_append (cid : ℕ) (as bs : List Announcement) :
    connections cid (as ++ bs) = connections cid as ++ connections cid bs :=
  List.filterMap_append

/-- A list that only one element contributes to. -/
theorem flatMap_eq_single {α β : Type*} [DecidableEq α] {l : List α} (hnd : l.Nodup) {a : α}
    (ha : a ∈ l) {f : α → List β} (h : ∀ b, b ≠ a → f b = []) : l.flatMap f = f a := by
  induction l with
  | nil => exact absurd ha List.not_mem_nil
  | cons b l ih =>
      obtain ⟨hb, hl⟩ := List.nodup_cons.mp hnd
      rw [List.flatMap_cons]
      rcases List.mem_cons.mp ha with rfl | hmem
      · have hrest : l.flatMap f = [] := by
          rw [List.flatMap_eq_nil_iff]
          intro c hc
          exact h c fun heq => hb (heq ▸ hc)
        rw [hrest, List.append_nil]
      · rw [h b fun heq => hb (heq ▸ hmem), List.nil_append]
        exact ih hl hmem

/-- Of announcements that only the entry of a device makes, an iteration over the entries makes
those of that entry. -/
theorem filterMap_forEntries {β : Type} (sel : Announcement → Option β) (l : EndpointList)
    (i : Fin maxStageId) (body : Fin maxStageId → EpEntry → List Announcement × EpEntry)
    (h : ∀ j e, j ≠ i → (body j e).1.filterMap sel = []) :
    (l.forEntries body).announced.filterMap sel
      = l.announced.filterMap sel ++ (body i (l.endpoints i)).1.filterMap sel := by
  unfold EndpointList.forEntries
  rw [List.filterMap_append, List.filterMap_flatMap]
  have hsingle := flatMap_eq_single (List.nodup_finRange maxStageId) (List.mem_finRange i)
    (f := fun j => (body j (l.endpoints j)).1.filterMap sel) fun j hj => h j _ hj
  rw [hsingle]

/-- A pass over the entries announces for one of them what its body announces. -/
theorem connections_forEntries (l : EndpointList) (i : Fin maxStageId)
    (body : Fin maxStageId → EpEntry → List Announcement × EpEntry)
    (h : ∀ j e, j ≠ i → connections i (body j e).1 = []) :
    connections i (l.forEntries body).announced
      = connections i l.announced ++ connections i (body i (l.endpoints i)).1 :=
  filterMap_forEntries _ l i body h

/-- The statistics of an entry are no announcement of a connection. -/
theorem connections_logStat (i j : Fin maxStageId) (e : EpEntry) :
    connections i (e.logStat j).1 = [] := by
  unfold EpEntry.logStat
  split_ifs
  · rfl
  · rfl

/-- A check announces its own device. -/
theorem connections_check_of_ne {i j : Fin maxStageId} (hj : j ≠ i) (key : PublicKey)
    (e : EpEntry) : connections i (e.check j key).1 = [] := by
  have hne : (j : ℕ) ≠ i := fun h => hj (Fin.ext h)
  rcases check_cases j key e with ⟨-, -, h⟩ | ⟨-, -, -, h⟩ | ⟨-, -, -, h⟩
  · rw [h]
    split_ifs
    · rfl
    · simp [connections, Announcement.connection?, hne]
  · rw [h]
    simp [connections, Announcement.connection?, hne]
  · rw [h]
    rfl

/-- What a pass announces about the connection of a device. -/
theorem connections_checkstatus (l : EndpointList) (keys : Fin maxStageId → PublicKey)
    (i : Fin maxStageId) :
    connections i (l.checkstatus keys).announced
      = connections i l.announced ++ connections i ((l.endpoints i).check i (keys i)).1 := by
  have hcheck := connections_forEntries l i (fun i e => e.check i (keys i))
    fun j e hj => connections_check_of_ne hj (keys j) e
  rw [← hcheck]
  unfold EndpointList.checkstatus EndpointList.logStats
  by_cases hlog : (l.forEntries fun i e => e.check i (keys i)).statlogcnt = 0
  · rw [if_pos hlog]
    refine (connections_forEntries _ i _ fun j e _ => connections_logStat i j e).trans ?_
    rw [connections_logStat, List.append_nil]
  · rw [if_neg hlog]

/-! ## Refreshes and passes -/

/-- The step sets the timeout of the device to its start. -/
def EndpointOp.refreshes (i : Fin maxStageId) : EndpointOp → Bool
  | cidRegister cid _ _ _ locked => cid.toNat = i && locked
  | cidSetpingtime cid _ _ => cid.toNat = i
  | _ => false

/-- The step is a pass of `checkstatus`. -/
def EndpointOp.isPass : EndpointOp → Bool
  | checkstatus _ => true
  | _ => false

/-- The number of passes since the last refresh, if there was one. -/
def countPasses (i : Fin maxStageId) (k : Option ℕ) (op : EndpointOp) : Option ℕ :=
  if op.refreshes i then some 0 else if op.isPass then k.map (· + 1) else k

/-- The passes since the last refresh of a list of steps. -/
def passesSince (i : Fin maxStageId) (ops : List EndpointOp) : Option ℕ :=
  run (countPasses i) none ops

/-- The passes in a list of steps. -/
def passes (ops : List EndpointOp) : ℕ := ops.countP EndpointOp.isPass

/-- The passes since the last refreshing operation are those behind it. -/
theorem passesSince_of_not_refreshed {i : Fin maxStageId} (before : List EndpointOp)
    {after : List EndpointOp} {op : EndpointOp} (hop : op.refreshes i = true)
    (hafter : ∀ op ∈ after, op.refreshes i = false) :
    passesSince i (before ++ op :: after) = some (passes after) := by
  have hrun : ∀ (k : ℕ) (ops : List EndpointOp), (∀ op ∈ ops, op.refreshes i = false) →
      run (countPasses i) (some k) ops = some (k + passes ops) := by
    intro k ops hops
    induction ops generalizing k with
    | nil => rfl
    | cons op ops ih =>
        obtain ⟨hop, hrest⟩ := List.forall_mem_cons.mp hops
        rw [run_cons, countPasses, hop, if_neg Bool.false_ne_true]
        unfold passes at ih ⊢
        cases hpass : op.isPass with
        | true =>
            rw [if_pos rfl, Option.map_some, ih (k + 1) hrest, List.countP_cons_of_pos hpass,
              Nat.add_right_comm, Nat.add_assoc]
        | false =>
            rw [if_neg Bool.false_ne_true, ih k hrest,
              List.countP_cons_of_neg (by rw [hpass]; exact Bool.false_ne_true)]
  unfold passesSince
  rw [run_append, run_cons, countPasses, if_pos hop, hrun 0 after hafter, Nat.zero_add]

/-! ## The invariant -/

/-- The entry so many passes behind its last refresh, or before the first one. -/
def EpEntry.Counted (e : EpEntry) : Option ℕ → Prop
  | none => e.timeout = 0 ∧ e.announced = false
  | some k =>
      (k ≤ 120 ∧ e.timeout.toNat = 120 - k ∧ (0 < k → e.announced = true)) ∨
        (120 < k ∧ e.timeout = 0 ∧ e.announced = false)

/-- What holds of a device so many passes behind its last refresh. -/
structure LifeCycle (i : Fin maxStageId) (k : Option ℕ) (l : EndpointList) : Prop where
  counted : (l.endpoints i).Counted k
  /-- an announced device was announced last as a new one -/
  last : (l.endpoints i).announced = true →
    ∃ cs, connections i l.announced = cs ++ [.new]
  /-- a new connection stands in front of every loss -/
  paired : ∀ cs ds, connections i l.announced = cs ++ .lost :: ds → ∃ cs', cs = cs' ++ [.new]

/-- The entry as it is reset. -/
structure EpEntry.IsReset (e : EpEntry) : Prop where
  timeout : e.timeout = 0
  announced : e.announced = false
  hasPubkey : e.hasPubkey = false
  ep : e.ep = Endpoint.zero
  localep : e.localep = Endpoint.zero

/-- One more announcement. -/
theorem paired_append_one {c : Connection} {old : List Connection}
    (hold : ∀ cs ds, old = cs ++ .lost :: ds → ∃ cs', cs = cs' ++ [.new])
    (hc : c = .lost → ∃ cs, old = cs ++ [.new]) (cs ds : List Connection)
    (hsplit : old ++ [c] = cs ++ .lost :: ds) : ∃ cs', cs = cs' ++ [.new] := by
  rcases List.eq_nil_or_concat ds with rfl | ⟨ds', d, rfl⟩
  · obtain ⟨rfl, hlost⟩ := List.append_inj' hsplit rfl
    exact hc (List.cons.inj hlost).1
  · rw [List.concat_eq_append, ← List.cons_append, ← List.append_assoc] at hsplit
    exact hold cs ds' (List.append_inj' hsplit rfl).1

section Step

variable {i : Fin maxStageId} {k : Option ℕ} {l l' : EndpointList}

/-- A step other than a pass: nothing is announced, and the timeout of the entry is
refreshed, or timeout and announcement are left alone. -/
structure QuietStep (i : Fin maxStageId) (refreshes : Bool) (l l' : EndpointList) : Prop where
  announced : l'.announced = l.announced
  refreshed : refreshes = true → (l'.endpoints i).timeout = callerlistTimeout ∧
    ((l'.endpoints i).announced = true → (l.endpoints i).announced = true)
  kept : refreshes = false → (l'.endpoints i).timeout = (l.endpoints i).timeout ∧
    (l'.endpoints i).announced = (l.endpoints i).announced

/-- Where no entry changes and nothing is announced, the entry is quiet. -/
theorem QuietStep.of_endpoints_eq (hannounced : l'.announced = l.announced)
    (hendpoints : l'.endpoints = l.endpoints) : QuietStep i false l l' where
  announced := hannounced
  refreshed := fun h => absurd h Bool.false_ne_true
  kept := fun _ => by rw [hendpoints]; exact ⟨rfl, rfl⟩

/-- A change that refreshes the entry it is made to. -/
theorem quietStep_refresh (l : EndpointList) (cid : StageDeviceId) {f : EpEntry → EpEntry}
    (hf : ∀ e, (f e).timeout = callerlistTimeout ∧
      ((f e).announced = true → e.announced = true)) :
    QuietStep i (decide (cid.toNat = i)) l (l.modifyEntry cid f) := by
  refine ⟨l.announced_modifyEntry cid f, fun h => ?_, fun h => ?_⟩
  · rw [l.endpoints_modifyEntry, if_pos (of_decide_eq_true h)]
    exact hf _
  · rw [l.endpoints_modifyEntry, if_neg (of_decide_eq_false h)]
    exact ⟨rfl, rfl⟩

/-- A change to other members of an entry. -/
theorem quietStep_keep (l : EndpointList) (cid : StageDeviceId) {f : EpEntry → EpEntry}
    (hf : ∀ e, (f e).timeout = e.timeout ∧ (f e).announced = e.announced) :
    QuietStep i false l (l.modifyEntry cid f) := by
  refine ⟨l.announced_modifyEntry cid f, fun h => absurd h Bool.false_ne_true, fun _ => ?_⟩
  rw [l.endpoints_modifyEntry]
  split_ifs
  · exact hf _
  · exact ⟨rfl, rfl⟩

/-- A registration gives the entry its full time and announces nothing. -/
theorem register_refreshes (e : EpEntry) (data : List UInt8) (mode : Epmode) (rver : String) :
    (e.register data mode rver).timeout = callerlistTimeout ∧
      ((e.register data mode rver).announced = true → e.announced = true) := by
  refine ⟨rfl, fun h => ?_⟩
  by_cases hmode : mode ≠ e.mode
  · exact absurd ((if_pos hmode).symm.trans h) Bool.false_ne_true
  · exact (if_neg hmode).symm.trans h

/-- So does a ping time. -/
theorem setpingtime_refreshes (e : EpEntry) (pingtime : ℚ) (locked : Bool) :
    (e.setpingtime pingtime locked).timeout = callerlistTimeout ∧
      ((e.setpingtime pingtime locked).announced = true → e.announced = true) := by
  unfold EpEntry.setpingtime
  dsimp only
  split_ifs
  · exact ⟨rfl, id⟩
  · exact ⟨rfl, id⟩

/-- A key is stored in an entry without refreshing it. -/
theorem quietStep_cidSetPubkey (l : EndpointList) (cid : StageDeviceId) (data : List UInt8) :
    QuietStep i false l (l.cidSetPubkey cid data) := by
  unfold EndpointList.cidSetPubkey
  split_ifs
  · exact quietStep_keep l cid fun e => ⟨rfl, rfl⟩
  · exact .of_endpoints_eq rfl rfl
  · exact .of_endpoints_eq rfl rfl
  · exact .of_endpoints_eq rfl rfl

/-- Each operation but a pass is quiet, and refreshes the entry if it is said to. -/
theorem quietStep_endpointStep {op : EndpointOp} (hop : op.isPass = false) :
    QuietStep i (op.refreshes i) l (endpointStep l op) := by
  cases op with
  | cidRegister cid data mode rver locked =>
      cases locked with
      | false =>
          have hno : (EndpointOp.cidRegister cid data mode rver false).refreshes i = false :=
            Bool.and_false _
          rw [hno]
          exact .of_endpoints_eq rfl rfl
      | true =>
          have hown : (EndpointOp.cidRegister cid data mode rver true).refreshes i
              = decide (cid.toNat = i) := Bool.and_true _
          rw [hown]
          exact quietStep_refresh l cid fun e => register_refreshes e data mode rver
  | cidSetlocalip cid data =>
      exact quietStep_keep l cid (f := fun e => e.setlocalip data) fun e => ⟨rfl, rfl⟩
  | cidSetpingtime cid pingtime locked =>
      exact quietStep_refresh l cid fun e => setpingtime_refreshes e pingtime locked
  | cidSetPubkey cid data => exact quietStep_cidSetPubkey l cid data
  | setHiresping hr => exact .of_endpoints_eq rfl rfl
  | checkstatus keys => exact absurd hop.symm Bool.false_ne_true

/-- A step other than a pass starts the count again, or leaves it. -/
theorem LifeCycle.quiet (h : LifeCycle i k l) {refreshes : Bool}
    (hquiet : QuietStep i refreshes l l') :
    LifeCycle i (if refreshes then some 0 else k) l' := by
  obtain ⟨hannounced, hrefreshed, hkept⟩ := hquiet
  cases refreshes with
  | true =>
      obtain ⟨htimeout, hbefore⟩ := hrefreshed rfl
      refine ⟨Or.inl ⟨Nat.zero_le _, ?_, fun h => absurd h (Nat.lt_irrefl 0)⟩, fun hnow => ?_, ?_⟩
      · rw [htimeout]
        rfl
      · rw [hannounced]
        exact h.last (hbefore hnow)
      · rw [hannounced]
        exact h.paired
  | false =>
      obtain ⟨htimeout, hsame⟩ := hkept rfl
      refine ⟨?_, fun hnow => ?_, ?_⟩
      · have hcounted := h.counted
        unfold EpEntry.Counted at hcounted ⊢
        rw [htimeout, hsame]
        exact hcounted
      · rw [hannounced]
        exact h.last (hsame ▸ hnow)
      · rw [hannounced]
        exact h.paired

/-- What a pass does to an entry: it counts it down and announces it if that has not been done,
it announces its loss and resets it, or it leaves it alone. -/
theorem pass_cases (l : EndpointList) (i : Fin maxStageId) (keys : Fin maxStageId → PublicKey) :
    ((l.endpoints i).timeout ≠ 0 ∧
      ((l.checkstatus keys).endpoints i).timeout = (l.endpoints i).timeout - 1 ∧
      ((l.checkstatus keys).endpoints i).announced = true ∧
      connections i (l.checkstatus keys).announced = connections i l.announced ++
        if (l.endpoints i).announced then [] else [.new]) ∨
    ((l.endpoints i).timeout = 0 ∧ (l.endpoints i).announced = true ∧
      ((l.checkstatus keys).endpoints i).IsReset ∧
      connections i (l.checkstatus keys).announced = connections i l.announced ++ [.lost]) ∨
    ((l.endpoints i).timeout = 0 ∧ (l.endpoints i).announced = false ∧
      ((l.checkstatus keys).endpoints i).timeout = 0 ∧
      ((l.checkstatus keys).endpoints i).announced = false ∧
      connections i (l.checkstatus keys).announced = connections i l.announced) := by
  obtain ⟨hdesc, hannounced'⟩ := toEpDesc_checkstatus l keys i
  have htimeout' := congrArg EpDesc.timeout hdesc
  have hconnections := connections_checkstatus l keys i
  rcases check_cases i (keys i) (l.endpoints i) with ⟨htimeout, he, has⟩ |
    ⟨htimeout, hannounced, he, has⟩ | ⟨htimeout, hannounced, he, has⟩
  · rw [he] at htimeout' hannounced'
    refine Or.inl ⟨htimeout, htimeout', hannounced', ?_⟩
    rw [hconnections, has]
    cases (l.endpoints i).announced with
    | true => rfl
    | false => simp [connections, Announcement.connection?]
  · rw [he] at hdesc htimeout' hannounced'
    refine Or.inr (Or.inl ⟨htimeout, hannounced, ?_, ?_⟩)
    · exact ⟨htimeout', hannounced', congrArg EpDesc.hasPubkey hdesc, congrArg EpDesc.ep hdesc,
        congrArg EpDesc.localep hdesc⟩
    · rw [hconnections, has]
      simp [connections, Announcement.connection?]
  · rw [he] at htimeout' hannounced'
    refine Or.inr (Or.inr ⟨htimeout, hannounced, htimeout'.trans htimeout,
      hannounced'.trans hannounced, ?_⟩)
    rw [hconnections, has]
    exact List.append_nil _

/-- An entry that is counted down has been refreshed less than 120 passes ago. -/
theorem LifeCycle.countdown (h : LifeCycle i k l) (htimeout : (l.endpoints i).timeout ≠ 0)
    (htimeout' : (l'.endpoints i).timeout = (l.endpoints i).timeout - 1)
    (hannounced' : (l'.endpoints i).announced = true)
    (hconnections : connections i l'.announced = connections i l.announced ++
      if (l.endpoints i).announced then [] else [.new]) :
    ∃ j < 120, k = some j ∧ LifeCycle i (some (j + 1)) l' := by
  obtain ⟨hcounted, hlast, hpaired⟩ := h
  cases k with
  | none => exact absurd hcounted.1 htimeout
  | some j =>
      have hnonzero : (l.endpoints i).timeout.toNat ≠ 0 := fun hzero =>
        htimeout (UInt32.toNat_inj.mp hzero)
      obtain ⟨hj, hleft, -⟩ := hcounted.resolve_right fun h => htimeout h.2.1
      have hone : (1 : UInt32).toNat = 1 := rfl
      have hnext : (l'.endpoints i).timeout.toNat = 120 - (j + 1) := by
        rw [htimeout', UInt32.toNat_sub_of_le _ _ (by rw [UInt32.le_iff_toNat_le]; omega)]
        omega
      refine ⟨j, by omega, rfl, Or.inl ⟨by omega, hnext, fun _ => hannounced'⟩, ?_, ?_⟩
      · intro _
        rw [hconnections]
        cases hold : (l.endpoints i).announced with
        | true =>
            rw [if_pos rfl, List.append_nil]
            exact hlast hold
        | false => exact ⟨_, rfl⟩
      · rw [hconnections]
        cases (l.endpoints i).announced with
        | true =>
            rw [if_pos rfl, List.append_nil]
            exact hpaired
        | false => exact paired_append_one hpaired fun h => by cases h

/-- The loss of an entry is announced by the pass behind the last countdown. -/
theorem LifeCycle.loss (h : LifeCycle i k l) (htimeout : (l.endpoints i).timeout = 0)
    (hannounced : (l.endpoints i).announced = true) (hreset : (l'.endpoints i).IsReset)
    (hconnections : connections i l'.announced = connections i l.announced ++ [.lost]) :
    k = some 120 ∧ LifeCycle i (some 121) l' := by
  obtain ⟨hcounted, hlast, hpaired⟩ := h
  cases k with
  | none => exact absurd (hcounted.2.symm.trans hannounced) Bool.false_ne_true
  | some j =>
      obtain ⟨hj, hleft, -⟩ :=
        hcounted.resolve_right fun h => Bool.false_ne_true (h.2.2.symm.trans hannounced)
      have hzero : (l.endpoints i).timeout.toNat = 0 := congrArg UInt32.toNat htimeout
      obtain rfl : j = 120 := by omega
      refine ⟨rfl, Or.inr ⟨Nat.lt_succ_self _, hreset.timeout, hreset.announced⟩, ?_, ?_⟩
      · intro hnow
        exact absurd (hreset.announced.symm.trans hnow) Bool.false_ne_true
      · rw [hconnections]
        exact paired_append_one hpaired fun _ => hlast hannounced

/-- An entry that is not in use stays so. -/
theorem LifeCycle.idle (h : LifeCycle i k l) (htimeout : (l.endpoints i).timeout = 0)
    (hannounced : (l.endpoints i).announced = false) (htimeout' : (l'.endpoints i).timeout = 0)
    (hannounced' : (l'.endpoints i).announced = false)
    (hconnections : connections i l'.announced = connections i l.announced) :
    k ≠ some 120 ∧ LifeCycle i (k.map (· + 1)) l' := by
  obtain ⟨hcounted, -, hpaired⟩ := h
  have hlast : (l'.endpoints i).announced = true →
      ∃ cs, connections i l'.announced = cs ++ [.new] := by
    intro hnow
    exact absurd (hannounced'.symm.trans hnow) Bool.false_ne_true
  have hzero : (l.endpoints i).timeout.toNat = 0 := congrArg UInt32.toNat htimeout
  rw [← hconnections] at hpaired
  cases k with
  | none => exact ⟨(Option.some_ne_none _).symm, ⟨htimeout', hannounced'⟩, hlast, hpaired⟩
  | some j =>
      have hj : 120 < j := by
        rcases hcounted with ⟨hj, hleft, hnew⟩ | hout
        · exact absurd (hannounced.symm.trans (hnew (by omega))) Bool.false_ne_true
        · exact hout.1
      refine ⟨?_, Or.inr ⟨Nat.lt_succ_of_lt hj, htimeout', hannounced'⟩, hlast, hpaired⟩
      rw [ne_eq, Option.some.injEq]
      omega

/-- A pass takes the entry one countdown further: it is announced, its loss is announced,
or nothing is. -/
theorem LifeCycle.pass (h : LifeCycle i k l) (keys : Fin maxStageId → PublicKey) :
    LifeCycle i (k.map (· + 1)) (l.checkstatus keys) ∧
      (connections i (l.checkstatus keys).announced).count .lost
        = (connections i l.announced).count .lost + (if k = some 120 then 1 else 0) ∧
      (k = some 120 → ((l.checkstatus keys).endpoints i).IsReset) := by
  rcases pass_cases l i keys with ⟨htimeout, htimeout', hannounced', hconnections⟩ |
    ⟨htimeout, hannounced, hreset, hconnections⟩ |
    ⟨htimeout, hannounced, htimeout', hannounced', hconnections⟩
  · obtain ⟨j, hj, rfl, hnext⟩ := h.countdown htimeout htimeout' hannounced' hconnections
    have hne : ¬ some j = some 120 := by
      rw [Option.some.injEq]
      omega
    refine ⟨hnext, ?_, fun h => absurd h hne⟩
    rw [hconnections, List.count_append, if_neg hne]
    cases (l.endpoints i).announced with
    | true => rfl
    | false => rfl
  · obtain ⟨rfl, hnext⟩ := h.loss htimeout hannounced hreset hconnections
    refine ⟨hnext, ?_, fun _ => hreset⟩
    rw [hconnections, List.count_append, if_pos rfl]
    rfl
  · obtain ⟨hne, hnext⟩ := h.idle htimeout hannounced htimeout' hannounced' hconnections
    refine ⟨hnext, ?_, fun h => absurd h hne⟩
    rw [hconnections, if_neg hne, Nat.add_zero]

/-- Every step keeps the invariant; a loss is announced by the pass behind the last
countdown, and by no other step. -/
theorem lifeCycle_step (h : LifeCycle i k l) (op : EndpointOp) :
    LifeCycle i (countPasses i k op) (endpointStep l op) ∧
      (connections i (endpointStep l op).announced).count .lost
        = (connections i l.announced).count .lost
          + (if op.isPass = true ∧ k = some 120 then 1 else 0) ∧
      (op.isPass = true → k = some 120 → ((endpointStep l op).endpoints i).IsReset) := by
  cases hop : op.isPass with
  | true =>
      cases op with
      | checkstatus keys =>
          simp only [true_and, forall_true_left]
          exact h.pass keys
      | _ => exact absurd hop Bool.false_ne_true
  | false =>
      have hquiet : QuietStep i (op.refreshes i) l (endpointStep l op) := quietStep_endpointStep hop
      refine ⟨?_, ?_, fun h => absurd h Bool.false_ne_true⟩
      · have hnext := h.quiet hquiet
        unfold countPasses
        rwa [hop, if_neg Bool.false_ne_true]
      · rw [hquiet.announced, if_neg fun h => Bool.false_ne_true h.1, Nat.add_zero]

end Step

/-! ## Runs -/

section Run

variable (keys : Fin maxStageId → PublicKey) (srvPubkey : PublicKey) (i : Fin maxStageId)

/-- A new entry has never been refreshed. -/
theorem lifeCycle_init : LifeCycle i none (EndpointList.init keys srvPubkey) where
  counted := ⟨rfl, rfl⟩
  last := fun h => absurd h Bool.false_ne_true
  paired := fun cs ds h => absurd h.symm (by simp [connections, EndpointList.init])

/-- By induction over the operations, the entry is where its life cycle says. -/
theorem lifeCycle_run (ops : List EndpointOp) :
    LifeCycle i (passesSince i ops) (run endpointStep (EndpointList.init keys srvPubkey) ops) := by
  unfold passesSince
  induction ops using List.reverseRecOn with
  | nil => exact lifeCycle_init keys srvPubkey i
  | append_singleton ops op ih =>
      rw [run_append_one, run_append_one]
      exact (lifeCycle_step ih op).1

/-- The losses that have been announced for the device. -/
def lossesAnnounced (ops : List EndpointOp) : ℕ :=
  (connections i (run endpointStep (EndpointList.init keys srvPubkey) ops).announced).count .lost

/-- One more operation announces a loss if it is the pass that ends the time. -/
theorem lossesAnnounced_append_one (ops : List EndpointOp) (op : EndpointOp) :
    lossesAnnounced keys srvPubkey i (ops ++ [op]) = lossesAnnounced keys srvPubkey i ops
      + (if op.isPass = true ∧ passesSince i ops = some 120 then 1 else 0) := by
  unfold lossesAnnounced
  rw [run_append_one]
  exact (lifeCycle_step (lifeCycle_run keys srvPubkey i ops) op).2.1

/-- Behind its last refresh a device is lost once, when more than 120 passes have gone by. -/
theorem lossesAnnounced_of_not_refreshed {before : List EndpointOp} {op : EndpointOp}
    (hop : op.refreshes i = true) (after : List EndpointOp)
    (hafter : ∀ op ∈ after, op.refreshes i = false) :
    lossesAnnounced keys srvPubkey i (before ++ op :: after)
      = lossesAnnounced keys srvPubkey i (before ++ [op])
        + (if 120 < passes after then 1 else 0) := by
  induction after using List.reverseRecOn with
  | nil => rfl
  | append_singleton after op' ih =>
      have hbefore : ∀ op ∈ after, op.refreshes i = false := fun o ho =>
        hafter o (List.mem_append_left _ ho)
      have hsince := passesSince_of_not_refreshed before hop hbefore
      have hlast : passes (after ++ [op']) = passes after + if op'.isPass = true then 1 else 0 := by
        rw [passes, passes, List.countP_append, List.countP_singleton]
      rw [← List.cons_append, ← List.append_assoc, lossesAnnounced_append_one, ih hbefore, hlast]
      -- the pass that takes the count beyond 120 is the one that announces the loss
      simp only [hsince, Option.some.injEq]
      by_cases hpass : op'.isPass = true
      · simp only [hpass, if_true, true_and]
        split_ifs
        all_goals omega
      · simp only [hpass, if_false, false_and, Nat.add_zero, Bool.false_eq_true]

/-- The timeout of an endpoint is at most `CALLERLIST_TIMEOUT`, and `0` or that for one that
is not announced.  In front of every loss stands a new connection.  A step announces a loss
exactly if it is a pass and the timeout has been refreshed 120 passes before, which is once
for each time that a device falls silent; the entry is reset by this pass. -/
theorem endpoint_life_cycle (ops : List EndpointOp) :
    let l := run endpointStep (EndpointList.init keys srvPubkey) ops
    (l.endpoints i).timeout ≤ callerlistTimeout ∧
    ((l.endpoints i).announced = false →
      (l.endpoints i).timeout = 0 ∨ (l.endpoints i).timeout = callerlistTimeout) ∧
    (∀ cs ds, connections i l.announced = cs ++ .lost :: ds → ∃ cs', cs = cs' ++ [.new]) ∧
    (∀ before op after, ops = before ++ op :: after →
      lossesAnnounced keys srvPubkey i (before ++ [op]) = lossesAnnounced keys srvPubkey i before
        + (if op.isPass = true ∧ passesSince i before = some 120 then 1 else 0) ∧
      (op.isPass = true → passesSince i before = some 120 →
        ((run endpointStep (EndpointList.init keys srvPubkey)
          (before ++ [op])).endpoints i).IsReset)) ∧
    (∀ before op after, ops = before ++ op :: after → op.refreshes i = true →
      (∀ op ∈ after, op.refreshes i = false) →
      lossesAnnounced keys srvPubkey i ops = lossesAnnounced keys srvPubkey i (before ++ [op])
        + (if 120 < passes after then 1 else 0)) := by
  intro l
  obtain ⟨hcounted, -, hpaired⟩ := lifeCycle_run keys srvPubkey i ops
  change (l.endpoints i).Counted (passesSince i ops) at hcounted
  have hstart : callerlistTimeout.toNat = 120 := rfl
  refine ⟨?_, ?_, hpaired, ?_, ?_⟩
  · rw [UInt32.le_iff_toNat_le, hstart]
    cases hsince : passesSince i ops with
    | none =>
        rw [hsince] at hcounted
        rw [hcounted.1]
        exact Nat.zero_le _
    | some k =>
        rw [hsince] at hcounted
        rcases hcounted with ⟨-, hleft, -⟩ | ⟨-, hzero, -⟩
        · omega
        · rw [hzero]
          exact Nat.zero_le _
  · intro hannounced
    cases hsince : passesSince i ops with
    | none =>
        rw [hsince] at hcounted
        exact Or.inl hcounted.1
    | some k =>
        rw [hsince] at hcounted
        rcases hcounted with ⟨-, hleft, hnew⟩ | ⟨-, hzero, -⟩
        · -- not announced, so no pass has gone by
          have hk : k = 0 := by
            by_contra hpos
            exact Bool.false_ne_true
              (hannounced.symm.trans (hnew (Nat.pos_of_ne_zero hpos)))
          subst hk
          exact Or.inr (UInt32.toNat_inj.mp hleft)
        · exact Or.inl hzero
  · intro before op after hsplit
    refine ⟨lossesAnnounced_append_one keys srvPubkey i before op, fun hpass hsince => ?_⟩
    rw [run_append_one]
    exact (lifeCycle_step (lifeCycle_run keys srvPubkey i before) op).2.2 hpass hsince
  · intro before op after hsplit hop hafter
    rw [hsplit]
    exact lossesAnnounced_of_not_refreshed keys srvPubkey i hop after hafter

end Run

end Libov

import ClusterGate.Proofs.AfterClose
import ClusterGate.Proofs.MatchedCalls
import ClusterGate.Proofs.ScriptedHosts

/-!
# Isolation of hosts

Leave out of a run all connects to other hosts, and all calls on connections to other hosts and on
their statements, but let the topologies come in that came in meanwhile, and let the time pass that
passed meanwhile (`Site.isolated`). Then every connect to the host that is left and every call on
its connections returns what it returned before, at the same time and after the same driver calls
(`Site.host_isolation`).

So nothing that connections share leads from one host to another: not the table of hosts, not the
store of session attributes with its sweeps, not the zone settings, and not the flag of the cluster
engine.
-/

namespace ClusterGate

/-! ## Operations and what is told of them -/

section
variable {W : Type}

/-- The operation opens a connection to the host, or is a call on a connection to it. -/
def Operation.goesTo (hosts : List String) (host : String) : Operation W → Bool
  | connect _ spec _ => spec.host = host
  | call target _ => target.owner.goesTo hosts host
  | _ => false

def Outcome.renamed (rename : ConnectionId → ConnectionId) : Outcome → Outcome
  | opened result => opened (result.map (·.renamed rename))
  | answered request result => answered request result
  | swept count => swept count
  | seeded result => seeded result
  | nothing => nothing

/-- What is told of an operation: when it began, what it returned and what the driver was asked. -/
structure Account where
  time : Nat
  outcome : Outcome
  contacts : List Event

def Account.renamed (rename : ConnectionId → ConnectionId) (a : Account) : Account :=
  ⟨a.time, a.outcome.renamed rename, a.contacts.map (Event.renamed rename)⟩

def Moment.account (b : Backend W) (m : Moment W) : Account :=
  let done := Site.perform b m.operation m.site
  ⟨b.now m.site.world, done.value, Event.contacts done.events⟩

end

/-! ## What is left of a run -/

section
variable {W : Type} {b : Backend W} {hosts : List String} {host : String}

/-- What is left of an operation on another host, when the world is `world` without it: the
topologies that came in meanwhile, and the time at which it was over. -/
def Moment.trace (i : b.Isolation hosts host) (world : W) (m : Moment W) : List (Operation W) :=
  (Change.topologies (m.operation.changes b m.site)).map .applyTopology ++
    [.elapse (i.wait world (b.now (Site.perform b m.operation m.site).state.world))]

/-- What is left of an operation, when the world is `world` without the other hosts. -/
def Moment.remains (i : b.Isolation hosts host) (world : W) (m : Moment W) : List (Operation W) :=
  match m.operation with
  | .connect protocol spec props =>
    if spec.host = host then [.connect protocol spec props] else m.trace i world
  | .call target request =>
    if target.owner.goesTo hosts host then
      [.call (target.renamed (·.alone hosts host)) request]
    else m.trace i world
  | .release id => if id.goesTo hosts host then [.release (id.alone hosts host)] else []
  | .elapse changed => [.elapse (i.seen changed)]
  | op => [op]

/-- Of the connections that are opened those to the host are left. -/
theorem Moment.openedHosts_remains (i : b.Isolation hosts host) (world : W) (m : Moment W) :
    openedHosts (m.remains i world) = (openedHosts [m.operation]).filter (· = host) := by
  have htrace : openedHosts (m.trace i world) = [] := by
    rw [openedHosts, trace, List.filterMap_append, List.filterMap_map]
    simp [Function.comp_def, Operation.opened?]
  obtain ⟨s, op⟩ := m
  cases op with
  | connect protocol spec props =>
    have hopened : openedHosts [Operation.connect (W := W) protocol spec props] = [spec.host] := rfl
    rw [hopened]
    by_cases hspec : spec.host = host
    · simp only [remains, if_pos hspec, hopened]
      simp [hspec]
    · simp only [remains, if_neg hspec, htrace]
      simp [hspec]
  | call target request =>
    simp only [remains]
    split
    · rfl
    · rw [htrace]
      rfl
  | release id =>
    simp only [remains]
    split <;> rfl
  | _ => rfl

/-- What is left of a run, when it starts from `start`. -/
def Site.isolated (i : b.Isolation hosts host) (start : Site W) (moments : List (Moment W)) :
    List (Operation W) :=
  moments.foldl (fun ops m => ops ++ m.remains i (Site.after b start ops).world) []

theorem Site.isolated_concat (i : b.Isolation hosts host) (start : Site W)
    (moments : List (Moment W)) (m : Moment W) :
    Site.isolated i start (moments ++ [m]) =
      Site.isolated i start moments ++
        m.remains i (Site.after b start (Site.isolated i start moments)).world :=
  List.foldl_concat _ _ m moments

theorem Site.openedHosts_isolated (i : b.Isolation hosts host) (start s : Site W)
    (ops : List (Operation W)) :
    openedHosts (Site.isolated i start (Site.trail b s ops)) =
      (openedHosts ops).filter (· = host) := by
  induction ops using List.reverseRecOn with
  | nil => rfl
  | append_singleton ops op ih =>
    have happend (first second : List (Operation W)) :
        openedHosts (first ++ second) = openedHosts first ++ openedHosts second :=
      List.filterMap_append
    rw [trail_concat, isolated_concat, happend, happend, ih, Moment.openedHosts_remains,
      List.filter_append]

end

/-! ## One operation -/

namespace Site

variable {W : Type} {b : Backend W} {hosts : List String} {host : String}

/-- The second site saw the connections to the host alone. -/
structure Companion (i : b.Isolation hosts host) (s s' : Site W) : Prop where
  gate : ∃ mode mode', Gate.Companion hosts host mode mode' s.gate s'.gate
  watch : Watch.Alike i s.watch s'.watch

variable {i : b.Isolation hosts host} {s s' : Site W}

/-- After an operation and what is left of it the sites are companions again, and the same is told
of both if the operation was on the host. -/
structure Follows (i : b.Isolation hosts host) (s s' : Site W) (op : Operation W)
    (left : List (Operation W)) : Prop where
  companion : (perform b op s).state.Companion i (after b s' left)
  accounts : ((trail b s' left).filter (·.operation.isDriven)).map (Moment.account b) =
    if op.goesTo hosts host then [(Moment.account b ⟨s, op⟩).renamed (·.alone hosts host)] else []

/-- What is not driven leaves no account. -/
theorem filter_trail_of_not_driven {left : List (Operation W)}
    (h : ∀ op ∈ left, op.isDriven = false) (s : Site W) :
    (trail b s left).filter (·.operation.isDriven) = [] := by
  refine List.filter_eq_nil_iff.mpr fun m hm => ?_
  obtain ⟨before, rest, hleft, -⟩ := mem_trail b hm
  have hmem : m.operation ∈ left := by
    rw [hleft]
    simp
  rw [h _ hmem]
  exact Bool.false_ne_true

/-! ### On other hosts -/

/-- Topologies that come in one after the other. -/
theorem after_topologies (s : Site W) (lists : List (List HostSpec)) :
    after b s (lists.map .applyTopology) =
      ⟨{ s.gate with tracker := s.gate.tracker.replay (lists.map .topology) }, s.world⟩ := by
  induction lists generalizing s with
  | nil => rfl
  | cons first rest ih => exact ih (perform b (.applyTopology first) s).state

/-- The topologies that came in and the time that passed make up for an operation on another host.
-/
theorem follows_trace (h : s.Companion i s') {op : Operation W}
    (hother : op.goesTo hosts host = false)
    (hforeign : ∀ change ∈ op.changes b s, change.isForeign host = true)
    (hworld : i.twin (perform b op s).state.world s'.world)
    (hgate : ∃ mode mode', Gate.Companion hosts host mode mode' (perform b op s).state.gate
      s'.gate) :
    Follows i s s' op (Moment.trace i s'.world ⟨s, op⟩) := by
  obtain ⟨mode, mode', hgate⟩ := hgate
  -- What is left of the operation changes the table and the time, and nothing else.
  let lists := Change.topologies (op.changes b s)
  let next : Gate := { s'.gate with tracker := s'.gate.tracker.replay (lists.map .topology) }
  have halike : s'.gate.Alike next := ⟨rfl, rfl, rfl, rfl⟩
  have hended : after b s' (Moment.trace i s'.world ⟨s, op⟩) =
      ⟨next, i.wait s'.world (b.now (perform b op s).state.world)⟩ := by
    rw [Moment.trace, after_append, after_topologies]
    rfl
  constructor
  · rw [hended]
    refine ⟨⟨mode, mode', ?_⟩, ?_, ?_, i.twin_wait hworld _, i.now_wait _ _⟩
    · exact hgate.of_alike ⟨rfl, rfl, rfl, rfl⟩ halike hgate.recorded
        (hgate.recorded'.of_same halike rfl) hgate.modes
    · show next.tracker.interval = (perform b op s).state.gate.tracker.interval
      rw [perform_tracker, Tracker.interval_replay, Tracker.interval_replay]
      exact h.watch.interval
    · show next.tracker.sight host = (perform b op s).state.gate.tracker.sight host
      have hsight : s'.gate.tracker.sight host = s.gate.tracker.sight host := h.watch.sight
      rw [perform_tracker, Tracker.sight_replay_foreign _ hforeign, Tracker.sight_replay,
        Tracker.sight_replay, hsight]
  · have hsilent : ∀ left ∈ Moment.trace i s'.world ⟨s, op⟩, left.isDriven = false := by
      intro left hmem
      rcases List.mem_append.mp hmem with hmem | hmem
      · obtain ⟨list, -, rfl⟩ := List.mem_map.mp hmem
        rfl
      · rw [List.mem_singleton.mp hmem]
        rfl
    rw [filter_trail_of_not_driven hsilent, hother]
    rfl

/-- Of a connect to another host its topologies and its time are left. -/
theorem follows_connect_elsewhere (h : s.Companion i s') {spec : HostSpec}
    (hopened : hosts[s.gate.minted]? = some spec.host) (hother : spec.host ≠ host)
    (protocol : String) (props : Properties) :
    let op : Operation W := .connect protocol spec props
    Follows i s s' op (Moment.trace i s'.world ⟨s, op⟩) := by
  intro op
  obtain ⟨mode, mode', hgate⟩ := h.gate
  have hid : ConnectionId.goesTo hosts host ⟨s.gate.minted⟩ = false :=
    (ConnectionId.goesTo_mk hopened).trans (decide_eq_false hother)
  refine follows_trace h (decide_eq_false hother)
    (foreign_connectChanges b hother protocol props s) ?_
    ⟨mode, mode', hgate.connect_elsewhere b hopened protocol props hother⟩
  exact world_connect (P := fun w => i.twin w s'.world)
    (i.unseenConnect h.watch.world hid protocol spec props)
    fun _ request _ hw => i.unseenCall hw hid request

/-- Of a call on a connection to another host no more is left. -/
theorem follows_call_elsewhere (h : s.Companion i s') {target : Target}
    (hother : target.owner.goesTo hosts host = false) (request : Request) :
    let op : Operation W := .call target request
    Follows i s s' op (Moment.trace i s'.world ⟨s, op⟩) := by
  intro op
  obtain ⟨mode, mode', hgate⟩ := h.gate
  obtain ⟨next, hnext⟩ := hgate.call_elsewhere b target request hother
  have hcall : ∀ w request, i.twin w s'.world →
      i.twin (b.call w target.owner request).1 s'.world :=
    fun _ request hw => i.unseenCall hw hother request
  refine follows_trace h hother ?_ ?_ ⟨next, mode', hnext⟩
  · exact foreign_changes_call b (fun _ hheld => hgate.host_ne_of_held hheld hother) request
  · rcases perform_call_state b target request s with hstate | ⟨-, hstate⟩
    · rw [hstate]
      exact world_callFor (fun w request _ => hcall w request)
        (fun _ hheld => connection?_id hheld) (fun _ w => hcall w request) h.watch.world
    · rw [hstate]
      exact h.watch.world

/-! ### On the host -/

/-- An operation on the host is done on both sites. -/
theorem follows_matched {op op' : Operation W} (hop : op.goesTo hosts host = true)
    (hop' : op'.isDriven = true) (h : s.Companion i s')
    (hmatches : MatchesAt i (Outcome.renamed (·.alone hosts host) <$> perform b op) (perform b op')
      s s')
    (hgate : ∃ mode mode', Gate.Companion hosts host mode mode' (perform b op s).state.gate
      (perform b op' s').state.gate) :
    Follows i s s' op [op'] := by
  obtain ⟨hvalue, hcontacts, hstate⟩ := hmatches
  rw [Act.map_apply] at hvalue hcontacts hstate
  have hnow : b.now s'.world = b.now s.world := h.watch.now
  refine ⟨⟨hgate, hstate⟩, ?_⟩
  rw [if_pos hop]
  simp [trail, hop', Moment.account, Account.renamed, hvalue, hcontacts, hnow]

/-- A connect to the host is made in both runs, and its connection has two lifetimes. -/
theorem follows_connect (h : s.Companion i s') {spec : HostSpec}
    (hopened : hosts[s.gate.minted]? = some spec.host) (hspec : spec.host = host)
    (protocol : String) (props : Properties) :
    let op : Operation W := .connect protocol spec props
    Follows i s s' op [op] := by
  intro op
  obtain ⟨mode, mode', hgate⟩ := h.gate
  have hid : ConnectionId.goesTo hosts host ⟨s.gate.minted⟩ = true :=
    (ConnectionId.goesTo_mk hopened).trans (decide_eq_true hspec)
  obtain ⟨hvalue, hcontacts, hstate⟩ := matches_connect hgate h.watch hspec hid protocol props
  rw [Act.map_apply] at hvalue hcontacts hstate
  refine follows_matched (decide_eq_true hspec) rfl h ⟨?_, ?_, hstate⟩
    ⟨mode, mode', hgate.connect_both b hopened protocol props hspec hvalue⟩
  · exact congrArg Outcome.opened hvalue
  · simpa [perform, op] using hcontacts

/-- A target is reached in both gates or in none. -/
theorem reaches_renamed {mode mode' : ConnectionId → Option Bool}
    (hgate : Gate.Companion hosts host mode mode' s.gate s'.gate) {target : Target}
    (hown : target.owner.goesTo hosts host = true) :
    (target.renamed (·.alone hosts host)).reaches s'.gate = target.reaches s.gate := by
  cases target with
  | connection id => exact hgate.isSome_eq hown
  | statement statement => rfl

/-- A call on a connection to the host is made in both runs, on either lifetime. -/
theorem follows_call (h : s.Companion i s') {target : Target}
    (hown : target.owner.goesTo hosts host = true) (request : Request) :
    Follows i s s' (.call target request)
      [.call (target.renamed (·.alone hosts host)) request] := by
  obtain ⟨mode, mode', hgate⟩ := h.gate
  refine follows_matched hown rfl h ?_ (hgate.call_both b target request hown)
  -- The handle is held in both gates or in none.
  have hreaches := reaches_renamed hgate hown
  cases hreached : target.reaches s.gate with
  | true =>
    have hreached' := hreaches.trans hreached
    have hcall := matches_callFor hgate h.watch hown request
    rw [MatchesAt, Act.map_apply, perform_call_reached b hreached, perform_call_reached b hreached',
      Target.owner_renamed]
    refine ⟨?_, hcall.contacts, hcall.state⟩
    exact congrArg (Outcome.answered request) hcall.value
  | false =>
    cases target with
    | connection id =>
      have hgone : s.gate.connection? id = none :=
        Option.isNone_iff_eq_none.mp (Option.isSome_eq_false_iff.mp hreached)
      have hgone' : s'.gate.connection? (id.alone hosts host) = none := by
        rw [hgate.held id hown, hgone]
        rfl
      rw [MatchesAt, Act.map_apply, Target.renamed, perform_call_connection_gone b hgone,
        perform_call_connection_gone b hgone']
      exact ⟨rfl, rfl, h.watch⟩
    | statement statement => cases hreached

/-! ### Apart from connections -/

/-- An operation that is no connect and no call has no account. -/
theorem follows_silent {op : Operation W} {left : List (Operation W)} (hop : op.isDriven = false)
    (hleft : ∀ op ∈ left, op.isDriven = false)
    (h : (perform b op s).state.Companion i (after b s' left)) : Follows i s s' op left := by
  refine ⟨h, ?_⟩
  have hother : op.goesTo hosts host = false := by
    cases op with
    | connect => cases hop
    | call => cases hop
    | _ => rfl
  rw [filter_trail_of_not_driven hleft, hother]
  rfl

theorem watch_release (gone : ConnectionId) (s : Site W) :
    (perform b (.release gone) s).state.watch = s.watch := by
  cases hheld : s.gate.connection? gone <;> simp [perform, watch, hheld]

theorem follows_release (h : s.Companion i s') (gone : ConnectionId) :
    Follows i s s' (.release gone)
      (if gone.goesTo hosts host then [.release (gone.alone hosts host)] else []) := by
  obtain ⟨mode, mode', hgate⟩ := h.gate
  cases hgone : gone.goesTo hosts host with
  | true =>
    refine follows_silent rfl (List.forall_mem_singleton.mpr rfl) ⟨⟨mode, mode', ?_⟩, ?_⟩
    · exact hgate.release_both b hgone
    · show Watch.Alike i _ (perform b (.release (gone.alone hosts host)) s').state.watch
      rw [watch_release, watch_release]
      exact h.watch
  | false =>
    refine follows_silent rfl (List.forall_mem_nil _) ⟨⟨mode, mode', ?_⟩, ?_⟩
    · exact hgate.release_elsewhere b hgone
    · rw [watch_release]
      exact h.watch

/-- What is done to a gate apart from its connections is done to both gates. -/
theorem follows_inside (h : s.Companion i s') {op op' : Operation W} (hop : op.isDriven = false)
    (hop' : op'.isDriven = false) (halike : s.gate.Alike (perform b op s).state.gate)
    (halike' : s'.gate.Alike (perform b op' s').state.gate)
    (hwatch : Watch.Alike i (perform b op s).state.watch (perform b op' s').state.watch) :
    Follows i s s' op [op'] := by
  obtain ⟨mode, mode', hgate⟩ := h.gate
  refine follows_silent hop (List.forall_mem_singleton.mpr hop') ⟨?_, hwatch⟩
  exact hgate.inside b hop hop' halike halike'

/-- A topology that is taken in is taken in on both sites. -/
theorem alike_receive (h : s.Companion i s') (push : TopologyPush) :
    Watch.Alike i ⟨s.gate.tracker.receive push, s.world⟩ ⟨s'.gate.tracker.receive push, s'.world⟩ :=
  h.watch.receiveAll (rfl : [push] = [push]) h.watch.world h.watch.now

/-! ### Any operation -/

/-- What is left of an operation follows it. -/
theorem follows_perform (h : s.Companion i s') (op : Operation W)
    (hopened : ∀ opened ∈ op.opened?, hosts[s.gate.minted]? = some opened) :
    Follows i s s' op (Moment.remains i s'.world ⟨s, op⟩) := by
  cases op with
  | connect protocol spec props =>
    simp only [Moment.remains]
    split
    · next hspec => exact follows_connect h (hopened _ rfl) hspec protocol props
    · next hother => exact follows_connect_elsewhere h (hopened _ rfl) hother protocol props
  | call target request =>
    simp only [Moment.remains]
    split
    · next hown => exact follows_call h hown request
    · next hother => exact follows_call_elsewhere h (Bool.eq_false_iff.mpr hother) request
  | release gone => exact follows_release h gone
  -- The others are no matter of connections.
  | purge => exact follows_inside h rfl rfl ⟨rfl, rfl, rfl, rfl⟩ ⟨rfl, rfl, rfl, rfl⟩ h.watch
  | announce specs =>
    exact follows_inside h rfl rfl ⟨rfl, rfl, rfl, rfl⟩ ⟨rfl, rfl, rfl, rfl⟩
      (alike_receive h ⟨specs, true⟩)
  | applyTopology specs =>
    exact follows_inside h rfl rfl ⟨rfl, rfl, rfl, rfl⟩ ⟨rfl, rfl, rfl, rfl⟩
      (alike_receive h ⟨specs, false⟩)
  | seed source =>
    cases source with
    | error e =>
      exact follows_inside h rfl rfl ⟨rfl, rfl, rfl, rfl⟩ ⟨rfl, rfl, rfl, rfl⟩ h.watch
    | ok specs =>
      exact follows_inside h rfl rfl ⟨rfl, rfl, rfl, rfl⟩ ⟨rfl, rfl, rfl, rfl⟩
        (alike_receive h ⟨specs, true⟩)
  | elapse changed =>
    exact follows_inside h rfl rfl ⟨rfl, rfl, rfl, rfl⟩ ⟨rfl, rfl, rfl, rfl⟩
      ⟨h.watch.interval, h.watch.sight, i.twin_seen changed, i.now_seen changed⟩

/-! ## Runs -/

/-- Every connect begins a lifetime, whether it succeeds or not, and nothing else does. -/
theorem minted_after (s : Site W) (ops : List (Operation W)) :
    (after b s ops).gate.minted = s.gate.minted + (openedHosts ops).length := by
  induction ops using List.reverseRecOn with
  | nil => rfl
  | append_singleton ops op ih =>
    rw [after_concat, minted_perform, ih, openedHosts, openedHosts, List.filterMap_append]
    cases hopened : op.opened? <;> simp [hopened, Nat.add_assoc]

/-- A new gate is its own companion. -/
theorem companion_new {config : Config} {gate : Gate} (hnew : Gate.ofConfig config = .ok gate)
    (i : b.Isolation hosts host) (world : W) :
    Companion i ⟨gate, world⟩ ⟨gate, i.seen world⟩ := by
  have hrecorded := recorded_after b hnew world []
  obtain ⟨space, rfl⟩ := Gate.ofConfig_eq hnew
  refine ⟨⟨_, _, rfl, hrecorded, hrecorded, fun _ _ => rfl, fun _ _ => rfl, ?_, rfl⟩, rfl, rfl,
    i.twin_seen world, i.now_seen world⟩
  exact List.forall_mem_nil _

/-- Up to every point of a run the run without the other hosts goes along. -/
theorem isolated_follows {config : Config} {gate : Gate} (hnew : Gate.ofConfig config = .ok gate)
    (i : b.Isolation hosts host) (world : W) (ops : List (Operation W))
    (hopened : openedHosts ops <+: hosts) :
    let s : Site W := ⟨gate, world⟩
    let s' : Site W := ⟨gate, i.seen world⟩
    let left := isolated i s' (trail b s ops)
    (after b s ops).Companion i (after b s' left) ∧
      ((trail b s' left).filter (·.operation.isDriven)).map (Moment.account b) =
        ((trail b s ops).filter (·.operation.goesTo hosts host)).map fun m =>
          (m.account b).renamed (·.alone hosts host) := by
  intro s s' left
  induction ops using List.reverseRecOn with
  | nil => exact ⟨companion_new hnew i world, rfl⟩
  | append_singleton ops op ih =>
    rw [openedHosts, List.filterMap_append] at hopened
    obtain ⟨hcompanion, haccounts⟩ := ih ((List.prefix_append _ _).trans hopened)
    -- As many lifetimes were begun as hosts opened, so the next host is that of the next lifetime.
    have hplace : ∀ opened ∈ op.opened?, hosts[(after b s ops).gate.minted]? = some opened := by
      intro opened hop
      obtain ⟨rest, hrest⟩ := hopened
      have hfirst : s.gate.minted = 0 := by
        obtain ⟨space, hgate⟩ := Gate.ofConfig_eq hnew
        exact congrArg Gate.minted hgate
      rw [minted_after, hfirst, ← hrest]
      simp [openedHosts, Option.mem_def.mp hop]
    obtain ⟨hnext, haccount⟩ := follows_perform hcompanion op hplace
    have hleft : left = isolated i s' (trail b s ops) ++
        Moment.remains i (after b s' (isolated i s' (trail b s ops))).world
          ⟨after b s ops, op⟩ := by
      show isolated i s' (trail b s (ops ++ [op])) = _
      rw [trail_concat, isolated_concat]
    rw [hleft]
    constructor
    · rw [after_concat, after_append]
      exact hnext
    · rw [trail_append, trail_concat, List.filter_append, List.filter_append, List.map_append,
        List.map_append, haccounts, haccount]
      cases hgoes : op.goesTo hosts host <;> simp [hgoes]

/-- Whatever the other hosts are used for, every connect to a host and every call on its connections
has the result and the driver calls that it has when nothing is done on the other hosts, at the same
times and but for the lifetimes. Of the connects it is those to the host that are left. -/
theorem host_isolation {config : Config} {gate : Gate} (hnew : Gate.ofConfig config = .ok gate)
    (world : W) (ops : List (Operation W)) (host : String)
    (i : b.Isolation (openedHosts ops) host) :
    let s : Site W := ⟨gate, world⟩
    let s' : Site W := ⟨gate, i.seen world⟩
    let left := isolated i s' (trail b s ops)
    openedHosts left = (openedHosts ops).filter (· = host) ∧
      ((trail b s' left).filter (·.operation.isDriven)).map (Moment.account b) =
        ((trail b s ops).filter (·.operation.goesTo (openedHosts ops) host)).map fun m =>
          (m.account b).renamed (·.alone (openedHosts ops) host) := by
  intro s s' left
  exact ⟨openedHosts_isolated i s' s ops,
    (isolated_follows hnew i world ops (List.prefix_refl _)).2⟩

open ScriptedCluster (backend isolation)

/-- While the host `b` is asked about write forwarding, the host `a` becomes a reader. -/
def demotingCluster : ScriptedCluster :=
  healthyCluster.layDown "b" { Behaviour.healthy with
    duringProbe := some [⟨"a", 5432, .reader⟩, ⟨"b", 5432, .reader⟩] }

/-- Statements in strict-writer mode on two hosts, a minute after the connections were opened. -/
def onTwoHosts : List (Operation ScriptedCluster) :=
  let strict : Request := .execute "SET SESSION ns.strict_writer = true"
  let later := ((demotingCluster.link ⟨0⟩ "b" "url").link ⟨1⟩ "a" "url").tick 60000000000
  [.connect "jdbc" ⟨"b", 5432, .writer⟩ ∅, .connect "jdbc" ⟨"a", 5432, .writer⟩ ∅,
    .call (.connection ⟨0⟩) strict, .call (.connection ⟨1⟩) strict,
    .applyTopology [⟨"b", 5432, .reader⟩, ⟨"a", 5432, .writer⟩], .elapse later,
    .call (.statement ⟨⟨0⟩⟩) (.executeUpdate "insert"),
    .call (.connection ⟨1⟩) (.execute "insert")]

/-- Without the other host the connection is probed and asked the same: the topology that came in
while the other host was asked is still there. -/
theorem host_isolation_two_hosts :
    let ops := onTwoHosts
    let i := isolation (openedHosts ops) "a"
    let s' : Site ScriptedCluster := ⟨.plain, i.seen demotingCluster⟩
    let left := isolated i s' (trail backend ⟨.plain, demotingCluster⟩ ops)
    openedHosts left = ["a"] ∧
      (((trail backend s' left).filter (·.operation.isDriven)).map (Moment.account backend)).map
          Account.contacts =
        [[.opened ⟨0⟩ "jdbc" ⟨"a", 5432, .writer⟩,
            .called ⟨0⟩ .probe (.executeQuery versionQuery),
            .called ⟨0⟩ .probe (.executeQuery markerQuery)], [],
          [.called ⟨0⟩ .probe (.executeQuery forwardingQuery)]] := by
  intro ops i s' left
  obtain ⟨hopened, haccounts⟩ := host_isolation Gate.ofConfig_plain demotingCluster ops "a" i
  constructor
  · rw [hopened]
    decide
  · rw [haccounts, List.map_map]
    decide +kernel

end Site

end ClusterGate

import ClusterGate.Proofs.Mirroring
import ClusterGate.Proofs.SessionHistory

/-!
# The gate of one host

A gate that only ever saw the connections to one host is the companion of one that saw all of them:
it holds the same of these connections, under the lifetimes that they have alone, and in the same
modes (`Gate.Companion`). Operations on the host are done to both gates, operations on other hosts
to the first gate alone, and either way they are companions afterwards.
-/

namespace ClusterGate

/-! ## Handles under other lifetimes -/

def Connection.renamed (rename : ConnectionId → ConnectionId) (c : Connection) : Connection :=
  { c with id := rename c.id }

def Target.renamed (rename : ConnectionId → ConnectionId) : Target → Target
  | connection id => connection (rename id)
  | statement s => statement ⟨rename s.owner⟩

@[simp] theorem Target.owner_renamed (rename : ConnectionId → ConnectionId) (target : Target) :
    (target.renamed rename).owner = rename target.owner := by
  cases target <;> rfl

/-- A handle that is added is found after those that were there. -/
theorem Gate.connection?_of_append {g g' : Gate} {added : Option Connection}
    (h : g'.handles = g.handles ++ added.toList) (id : ConnectionId) :
    g'.connection? id = (g.connection? id).or (added.filter (·.id = id)) := by
  rw [connection?, connection?, h, List.find?_append]
  cases added with
  | none => rfl
  | some connection => by_cases hid : connection.id = id <;> simp [hid, Option.filter]

/-! ## Companions -/

section
variable (hosts : List String) (host : String)

/-- The second gate saw the connections to the host alone. The modes are those that the histories of
the two gates left, and `hosts` are those of all connections in the order of their lifetimes. -/
structure Gate.Companion (mode mode' : ConnectionId → Option Bool) (g g' : Gate) : Prop where
  space : g'.space = g.space
  recorded : g.Recorded mode
  recorded' : g'.Recorded mode'
  modes : ∀ id, id.goesTo hosts host = true → mode' (id.alone hosts host) = mode id
  held : ∀ id, id.goesTo hosts host = true →
    g'.connection? (id.alone hosts host) =
      (g.connection? id).map (·.renamed (·.alone hosts host))
  /-- The connections are at the places of their hosts. -/
  located : ∀ connection ∈ g.handles, hosts[connection.id.number]? = some connection.host.host
  begun : g'.minted = (hosts.take g.minted).count host

end

namespace Gate.Companion

variable {hosts : List String} {host : String} {mode mode' : ConnectionId → Option Bool}
  {g g' : Gate} {id : ConnectionId}

/-- A connection goes to the host that it was opened to. -/
theorem goesTo_iff (h : Companion hosts host mode mode' g g') {connection : Connection}
    (hheld : connection ∈ g.handles) :
    connection.id.goesTo hosts host = true ↔ connection.host.host = host := by
  rw [ConnectionId.goesTo, h.located connection hheld]
  simp

/-- A handle whose lifetime goes to the host is a connection to the host. -/
theorem host_of_held (h : Companion hosts host mode mode' g g') {connection : Connection}
    (hheld : g.connection? id = some connection) (hid : id.goesTo hosts host = true) :
    connection.host.host = host := by
  rw [← Site.connection?_id hheld] at hid
  exact (h.goesTo_iff (List.mem_of_find?_eq_some hheld)).mp hid

theorem host_ne_of_held (h : Companion hosts host mode mode' g g') {connection : Connection}
    (hheld : g.connection? id = some connection) (hid : id.goesTo hosts host = false) :
    connection.host.host ≠ host := by
  rw [← Site.connection?_id hheld] at hid
  intro hhost
  rw [(h.goesTo_iff (List.mem_of_find?_eq_some hheld)).mpr hhost] at hid
  cases hid

theorem isSome_eq (h : Companion hosts host mode mode' g g') (hid : id.goesTo hosts host = true) :
    (g'.connection? (id.alone hosts host)).isSome = (g.connection? id).isSome := by
  rw [h.held id hid, Option.isSome_map]

/-- The connections are in strict-writer mode in both gates or in none. -/
theorem isStrict_eq (h : Companion hosts host mode mode' g g') (hid : id.goesTo hosts host = true) :
    g'.isStrict (id.alone hosts host) = g.isStrict id := by
  rw [Bool.eq_iff_iff, h.recorded'.isStrict_iff, h.recorded.isStrict_iff, h.isSome_eq hid,
    h.modes id hid]

/-- The companion begins the lifetime that the next connection has alone. -/
theorem alone_minted (h : Companion hosts host mode mode' g g') :
    ConnectionId.alone hosts host ⟨g.minted⟩ = ⟨g'.minted⟩ :=
  congrArg ConnectionId.mk h.begun.symm

/-- What is done to the gates is no matter of handles. -/
theorem of_alike (h : Companion hosts host mode mode' g g') {next next' : Gate}
    (halike : g.Alike next) (halike' : g'.Alike next') {modes modes' : ConnectionId → Option Bool}
    (hrecorded : next.Recorded modes) (hrecorded' : next'.Recorded modes')
    (hmodes : ∀ id, id.goesTo hosts host = true → modes' (id.alone hosts host) = modes id) :
    Companion hosts host modes modes' next next' := by
  refine ⟨?_, hrecorded, hrecorded', hmodes, fun id hid => ?_, ?_, ?_⟩
  · rw [halike.space, halike'.space, h.space]
  · have hheld := h.held id hid
    rwa [connection?, connection?, ← halike.handles, ← halike'.handles] at hheld
  · rw [halike.handles]
    exact h.located
  · rw [halike.minted, halike'.minted]
    exact h.begun

end Gate.Companion

/-! ## Operations on connections -/

/-- The host that a connection is opened to. -/
def Operation.opened? {W : Type} : Operation W → Option String
  | connect _ spec _ => some spec.host
  | _ => none

/-- The hosts of all connections that are opened, in order. -/
def openedHosts {W : Type} (ops : List (Operation W)) : List String :=
  ops.filterMap Operation.opened?

/-- The operation opens a connection or is a call on one. -/
def Operation.isDriven {W : Type} : Operation W → Bool
  | connect .. | call .. => true
  | _ => false

/-! ## Gates after an operation -/

namespace Site

variable {W : Type} {b : Backend W}

/-- Only a connect begins a lifetime. -/
theorem minted_perform (op : Operation W) (s : Site W) :
    (perform b op s).state.gate.minted = s.gate.minted + op.opened?.toList.length := by
  cases op with
  | connect protocol spec props => exact (connect_gate b protocol spec props s).2.1
  | call target request => exact (perform_call_alike b target request s).minted
  | release id => cases hheld : s.gate.connection? id <;> simp [perform, Operation.opened?, hheld]
  | seed source => cases source <;> rfl
  | _ => rfl

/-- A release hands out no handle. -/
theorem mem_handles_release {gone : ConnectionId} {s : Site W} {connection : Connection}
    (h : connection ∈ (perform b (.release gone) s).state.gate.handles) :
    connection ∈ s.gate.handles := by
  cases hheld : s.gate.connection? gone with
  | none => simpa only [perform, Act.bind_state, Act.read_apply, hheld, Act.pure_value] using h
  | some released =>
    simp only [perform, Act.bind_state, Act.read_apply, hheld, Act.pure_value, release_state] at h
    exact (List.mem_filter.mp h).1

end Site

/-! ## Companions after an operation -/

/-- One more connection counts if it goes to the host. -/
theorem count_take_succ {hosts : List String} {host opened : String} {n : Nat}
    (h : hosts[n]? = some opened) :
    (hosts.take (n + 1)).count host =
      (hosts.take n).count host + if opened = host then 1 else 0 := by
  rw [List.take_add_one, List.count_append, h]
  simp [List.count_singleton]

namespace Gate.Companion

variable {W : Type} (b : Backend W) {hosts : List String} {host : String}
  {mode mode' : ConnectionId → Option Bool} {s s' : Site W}

section
variable (h : Companion hosts host mode mode' s.gate s'.gate) {spec : HostSpec}
  (hopened : hosts[s.gate.minted]? = some spec.host) (protocol : String) (props : Properties)
include h hopened

/-- A connection that is handed out goes to the host that it was opened to. -/
theorem located_connect : ∀ connection ∈ (Site.connect b protocol spec props s).state.gate.handles,
    hosts[connection.id.number]? = some connection.host.host := by
  obtain ⟨hhandles, hadded⟩ := Site.connect_handles b protocol spec props s
  rw [hhandles]
  refine List.forall_mem_append.mpr ⟨h.located, fun connection hmem => ?_⟩
  obtain ⟨hid, hspec⟩ := hadded connection (Option.mem_toList.mp hmem)
  rw [hid, hspec]
  exact hopened

/-- A connect to another host makes no difference to the companion. -/
theorem connect_elsewhere (hother : spec.host ≠ host) :
    Companion hosts host mode mode' (Site.connect b protocol spec props s).state.gate s'.gate := by
  obtain ⟨hspace, hminted, -⟩ := Site.connect_gate b protocol spec props s
  obtain ⟨hhandles, hadded⟩ := Site.connect_handles b protocol spec props s
  refine ⟨h.space.trans hspace.symm, Site.recorded_connect b h.recorded protocol spec props,
    h.recorded', h.modes, fun id hid => ?_, h.located_connect b hopened protocol props, ?_⟩
  · have hnone : (Site.connect b protocol spec props s).value.toOption.filter (·.id = id) =
        none := by
      refine Option.filter_eq_none_iff.mpr fun connection hmem => ?_
      rintro heq
      rw [← of_decide_eq_true heq, (hadded connection hmem).1, ConnectionId.goesTo_mk hopened]
        at hid
      exact hother (of_decide_eq_true hid)
    rw [Gate.connection?_of_append hhandles, hnone, Option.or_none, h.held id hid]
  · rw [hminted, count_take_succ hopened, if_neg hother, h.begun]
    rfl

/-- A connect to the host adds the same connection to both gates, or none. -/
theorem connect_both (hspec : spec.host = host)
    (hvalue : (Site.connect b protocol spec props s').value =
      (Site.connect b protocol spec props s).value.map (·.renamed (·.alone hosts host))) :
    Companion hosts host mode mode' (Site.connect b protocol spec props s).state.gate
      (Site.connect b protocol spec props s').state.gate := by
  obtain ⟨hspace, hminted, -⟩ := Site.connect_gate b protocol spec props s
  obtain ⟨hspace', hminted', -⟩ := Site.connect_gate b protocol spec props s'
  obtain ⟨hhandles, hadded⟩ := Site.connect_handles b protocol spec props s
  obtain ⟨hhandles', -⟩ := Site.connect_handles b protocol spec props s'
  have hown : ConnectionId.goesTo hosts host ⟨s.gate.minted⟩ = true :=
    (ConnectionId.goesTo_mk hopened).trans (decide_eq_true hspec)
  refine ⟨?_, Site.recorded_connect b h.recorded protocol spec props,
    Site.recorded_connect b h.recorded' protocol spec props, h.modes, fun id hid => ?_,
    h.located_connect b hopened protocol props, ?_⟩
  · rw [hspace, hspace', h.space]
  · rw [Gate.connection?_of_append hhandles, Gate.connection?_of_append hhandles', h.held id hid,
      hvalue, Option.map_or]
    congr 1
    cases hended : (Site.connect b protocol spec props s).value with
    | error e => rfl
    | ok connection =>
      rw [hended] at hadded
      rw [← (hadded connection rfl).1] at hown
      -- Connections to the host stay apart under their other lifetimes.
      have hsame := ConnectionId.alone_inj hown hid
      by_cases heq : connection.id = id <;>
        simp [Except.map, Except.toOption, Option.filter, Connection.renamed, hsame, heq]
  · rw [hminted, hminted', count_take_succ hopened, if_pos hspec, h.begun]

end

/-- A release of a connection to another host makes no difference to the companion. -/
theorem release_elsewhere (h : Companion hosts host mode mode' s.gate s'.gate)
    {gone : ConnectionId} (hgone : gone.goesTo hosts host = false) :
    Companion hosts host mode mode' (Site.perform b (.release gone) s).state.gate s'.gate := by
  refine ⟨?_, Site.recorded_perform b h.recorded (.release gone), h.recorded', h.modes,
    fun id hid => ?_, fun c hmem => h.located c (Site.mem_handles_release hmem), ?_⟩
  · rw [Site.space_perform, h.space]
  · have hne : id ≠ gone := by
      rintro rfl
      rw [hgone] at hid
      cases hid
    rw [Site.connection?_release, if_neg hne, h.held id hid]
  · rw [Site.minted_perform]
    exact h.begun

/-- A release of a connection to the host takes it out of both gates. -/
theorem release_both (h : Companion hosts host mode mode' s.gate s'.gate)
    {gone : ConnectionId} (hgone : gone.goesTo hosts host = true) :
    Companion hosts host mode mode' (Site.perform b (.release gone) s).state.gate
      (Site.perform b (.release (gone.alone hosts host)) s').state.gate := by
  refine ⟨?_, Site.recorded_perform b h.recorded (.release gone),
    Site.recorded_perform b h.recorded' (.release (gone.alone hosts host)), h.modes,
    fun id hid => ?_, fun c hmem => h.located c (Site.mem_handles_release hmem), ?_⟩
  · rw [Site.space_perform, Site.space_perform, h.space]
  · rw [Site.connection?_release, Site.connection?_release, h.held id hid]
    by_cases heq : id = gone
    · rw [if_pos heq, if_pos (congrArg _ heq)]
      rfl
    · rw [if_neg heq, if_neg fun hsame => heq ((ConnectionId.alone_inj hid hgone).mp hsame)]
  · rw [Site.minted_perform, Site.minted_perform]
    exact h.begun

section
variable (h : Companion hosts host mode mode' s.gate s'.gate) (target : Target) (request : Request)
include h

/-- A call on a connection to another host is none of the companion's. -/
theorem call_elsewhere (hother : target.owner.goesTo hosts host = false) :
    ∃ next, Companion hosts host next mode'
      (Site.perform b (.call target request) s).state.gate s'.gate := by
  refine ⟨_, h.of_alike (Site.perform_call_alike b target request s) ⟨rfl, rfl, rfl, rfl⟩
    (Site.recorded_call b h.recorded target request) h.recorded' fun id hid => ?_⟩
  have hstep : s.gate.modeStep? (W := W) id (.call target request) = none := by
    refine if_neg fun howner => ?_
    rw [howner.1, hid] at hother
    cases hother
  rw [hstep, h.modes id hid]
  rfl

/-- A call on a connection to the host sets the same mode in both gates, or none. -/
theorem call_both (hown : target.owner.goesTo hosts host = true) :
    ∃ next next', Companion hosts host next next'
      (Site.perform b (.call target request) s).state.gate
      (Site.perform b (.call (target.renamed (·.alone hosts host)) request) s').state.gate := by
  refine ⟨_, _, h.of_alike (Site.perform_call_alike b _ request s)
    (Site.perform_call_alike b _ request s') (Site.recorded_call b h.recorded target request)
    (Site.recorded_call b h.recorded' _ request) fun id hid => ?_⟩
  have hsame := ConnectionId.alone_inj hown hid
  rw [h.modes id hid]
  simp only [Gate.modeStep?, Target.owner_renamed, hsame, h.isSome_eq hid, h.space]

end

/-- Only calls touch a mode, so what neither connects nor calls leaves it alone. -/
theorem modeStep?_of_not_driven {g : Gate} {op : Operation W} (hop : op.isDriven = false)
    (id : ConnectionId) : g.modeStep? id op = none := by
  cases op with
  | call target request => cases hop
  | _ => rfl

/-- What is done to both gates and is no matter of connections leaves companions. -/
theorem inside (h : Companion hosts host mode mode' s.gate s'.gate) {op op' : Operation W}
    (hop : op.isDriven = false) (hop' : op'.isDriven = false)
    (halike : s.gate.Alike (Site.perform b op s).state.gate)
    (halike' : s'.gate.Alike (Site.perform b op' s').state.gate) :
    ∃ next next', Companion hosts host next next' (Site.perform b op s).state.gate
      (Site.perform b op' s').state.gate := by
  refine ⟨_, _, h.of_alike halike halike' (Site.recorded_perform b h.recorded op)
    (Site.recorded_perform b h.recorded' op') fun id hid => ?_⟩
  rw [modeStep?_of_not_driven hop, modeStep?_of_not_driven hop', h.modes id hid]

end Gate.Companion

end ClusterGate

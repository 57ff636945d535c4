import ClusterGate.Driver.Scripted
import ClusterGate.Proofs.Dictionary
import ClusterGate.Proofs.Mirroring

/-!
# Hosts of a scripted cluster

In a scripted cluster every connection depends on its own host and its own calls
(`ScriptedCluster.isolation`): how a host answers is laid down for each host, and a link is closed
by calls on it alone. So what is shown for worlds of this kind can be rehearsed.
-/

namespace ClusterGate.ScriptedCluster

/-! ## The links to one host -/

variable (hosts : List String) (host : String)

/-- The links to the host, under the lifetimes that they have alone. -/
def linksTo (w : ScriptedCluster) : List (ConnectionId × ScriptedLink) :=
  ((List.range hosts.length).map ConnectionId.mk).filterMap fun id =>
    if id.goesTo hosts host then (w.links.get? id).map (id.alone hosts host, ·) else none

/-- The cluster with the links to the host alone. -/
def seenFrom (w : ScriptedCluster) : ScriptedCluster :=
  { w with links := .ofList (w.linksTo hosts host) }

variable {hosts host}

/-- The links that are left are those to the host, each under the lifetime that it has alone. -/
theorem mem_linksTo {w : ScriptedCluster} {key : ConnectionId} {link : ScriptedLink} :
    (key, link) ∈ w.linksTo hosts host ↔
      ∃ id, id.goesTo hosts host = true ∧ id.alone hosts host = key ∧
        w.links.get? id = some link := by
  rw [linksTo, List.mem_filterMap]
  constructor
  · rintro ⟨id, -, hlink⟩
    split at hlink
    · next hid =>
      obtain ⟨found, hfound, hpair⟩ := Option.map_eq_some_iff.mp hlink
      obtain ⟨hkey, rfl⟩ := Prod.mk.inj hpair
      exact ⟨id, hid, hkey, hfound⟩
    · cases hlink
  · rintro ⟨id, hid, rfl, hfound⟩
    have hplace : hosts[id.number]? = some host := of_decide_eq_true hid
    obtain ⟨hlt, -⟩ := List.getElem?_eq_some_iff.mp hplace
    refine ⟨id, List.mem_map.mpr ⟨id.number, List.mem_range.mpr hlt, rfl⟩, ?_⟩
    rw [if_pos hid, hfound]
    rfl

/-- No link to the host is lost, and none is taken for another. -/
theorem get?_seenFrom (w : ScriptedCluster) {id : ConnectionId}
    (hid : id.goesTo hosts host = true) :
    (w.seenFrom hosts host).links.get? (id.alone hosts host) = w.links.get? id := by
  rw [seenFrom, Dict.get?_ofList]
  cases hlast : ((w.linksTo hosts host).filter fun e => e.1 = id.alone hosts host).getLast? with
  | none =>
    cases hlink : w.links.get? id with
    | none => rfl
    | some link =>
      have hmem := mem_linksTo.mpr ⟨id, hid, rfl, hlink⟩
      have hfound := List.filter_eq_nil_iff.mp (List.getLast?_eq_none_iff.mp hlast) _ hmem
      exact absurd (decide_eq_true rfl) hfound
  | some e =>
    obtain ⟨hmem, hkey⟩ := List.mem_filter.mp (List.mem_of_getLast? hlast)
    obtain ⟨other, hother, halone, hlink⟩ := mem_linksTo.mp hmem
    have hsame := (ConnectionId.alone_inj hother hid).mp (halone.trans (of_decide_eq_true hkey))
    rw [← hsame, hlink]
    rfl

/-! ## Clusters that look alike to one host -/

section
variable (hosts host)

/-- The clusters are laid down in the same way and have the same links to the host. -/
structure Twin (w w' : ScriptedCluster) : Prop where
  behaviours : w'.behaviours = w.behaviours
  announces : w'.announces = w.announces
  links : ∀ id, id.goesTo hosts host = true →
    w'.links.get? (id.alone hosts host) = w.links.get? id

end

namespace Twin

variable {w w' : ScriptedCluster}

theorem behaviour_eq (h : Twin hosts host w w') (name : String) :
    w'.behaviour name = w.behaviour name := by
  rw [behaviour, behaviour, h.behaviours]

/-- A link to the host is set in both. -/
theorem insert_both (h : Twin hosts host w w') {id : ConnectionId}
    (hid : id.goesTo hosts host = true) (link : ScriptedLink) :
    Twin hosts host { w with links := w.links.insert id link }
      { w' with links := w'.links.insert (id.alone hosts host) link } := by
  refine ⟨h.behaviours, h.announces, fun other hother => ?_⟩
  have hsame := ConnectionId.alone_inj hother hid
  by_cases heq : other = id <;> simp [hsame, heq, h.links other hother]

/-- Other links make no difference. -/
theorem insert_elsewhere (h : Twin hosts host w w') {id : ConnectionId}
    (hid : id.goesTo hosts host = false) (link : ScriptedLink) :
    Twin hosts host { w with links := w.links.insert id link } w' := by
  refine ⟨h.behaviours, h.announces, fun other hother => ?_⟩
  have hne : other ≠ id := by
    rintro rfl
    rw [hid] at hother
    cases hother
  simp [hne, h.links other hother]

/-- A host is opened in both clusters or in none. -/
theorem connect_both (h : Twin hosts host w w') {id : ConnectionId}
    (hid : id.goesTo hosts host = true) (protocol : String) (spec : HostSpec) :
    let opened := w.connect id protocol spec
    let opened' := w'.connect (id.alone hosts host) protocol spec
    opened'.2 = opened.2 ∧ Twin hosts host opened.1 opened'.1 ∧ opened.1.clock = w.clock ∧
      opened'.1.clock = w'.clock := by
  rw [connect, connect, h.behaviour_eq]
  cases (w.behaviour spec.host).connectFault with
  | some e => exact ⟨rfl, h, rfl, rfl⟩
  | none => exact ⟨rfl, h.insert_both hid _, rfl, rfl⟩

/-- A link to the host is answered in the same way in both clusters. -/
theorem call_both (h : Twin hosts host w w') {id : ConnectionId}
    (hid : id.goesTo hosts host = true) (request : Request) :
    let called := w.call id request
    let called' := w'.call (id.alone hosts host) request
    called'.2 = called.2 ∧ Twin hosts host called.1 called'.1 ∧ called.1.clock = w.clock ∧
      called'.1.clock = w'.clock := by
  have hpushes (name : String) : w'.pushes name request = w.pushes name request := by
    rw [pushes, pushes, h.behaviour_eq, h.announces]
  rw [call, call, h.links id hid]
  cases w.links.get? id with
  | none => exact ⟨rfl, h, rfl, rfl⟩
  | some link =>
    dsimp only
    rw [h.behaviour_eq, hpushes]
    refine ⟨rfl, ?_⟩
    by_cases hclose : request = .close
    · rw [if_pos hclose, if_pos hclose]
      exact ⟨h.insert_both hid _, rfl, rfl⟩
    · rw [if_neg hclose, if_neg hclose]
      exact ⟨h, rfl, rfl⟩

end Twin

/-- A scripted cluster keeps its hosts apart. -/
def isolation (hosts : List String) (host : String) : backend.Isolation hosts host where
  twin := Twin hosts host
  wait w time := { w with clock := time }
  seen := seenFrom hosts host
  connect h hnow hid protocol spec _ _ := by
    obtain ⟨hanswer, htwin, hclock, hclock'⟩ := h.connect_both hid protocol spec
    exact ⟨congrArg Answer.result hanswer, congrArg Answer.pushes hanswer, htwin,
      hclock'.trans (hnow.trans hclock.symm)⟩
  call h hnow hid request := by
    obtain ⟨hanswer, htwin, hclock, hclock'⟩ := h.call_both hid request
    exact ⟨congrArg Answer.result hanswer, congrArg Answer.pushes hanswer, htwin,
      hclock'.trans (hnow.trans hclock.symm)⟩
  unseenConnect := by
    intro w w' id h hid protocol spec _
    show Twin hosts host (w.connect id protocol spec).1 w'
    rw [connect]
    split
    · exact h
    · exact h.insert_elsewhere hid _
  unseenCall := by
    intro w w' id h hid request
    show Twin hosts host (w.call id request).1 w'
    rw [call]
    split
    · exact h
    · dsimp only
      split
      · exact h.insert_elsewhere hid _
      · exact h
  twin_wait h _ := ⟨h.behaviours, h.announces, h.links⟩
  now_wait _ _ := rfl
  twin_seen w := ⟨rfl, rfl, fun _ hid => get?_seenFrom w hid⟩
  now_seen _ := rfl

end ClusterGate.ScriptedCluster

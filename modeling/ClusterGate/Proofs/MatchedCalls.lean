import ClusterGate.Proofs.Companions
import ClusterGate.Proofs.Elsewhere

/-!
# Calls and connects on companions

Where the same is known of a host and the gates are companions, a call on a connection to the host
does the same on both sides (`Site.matches_callFor`), and so does a connect to the host
(`Site.matches_connect`).
-/

namespace ClusterGate

/-! ## Calls -/

namespace Site

variable {W : Type} {b : Backend W} {hosts : List String} {host : String}

/-- Two actions on a site do the same where the same is known of the host, if the second one is
about the connections that are left. -/
def MatchesAt (i : b.Isolation hosts host) {α : Type} (x y : Act Event (Site W) α)
    (s s' : Site W) : Prop :=
  (x s).Matches (·.alone hosts host) (fun s s' => Watch.Alike i s.watch s'.watch) (y s')

variable {i : b.Isolation hosts host} {mode mode' : ConnectionId → Option Bool} {s s' : Site W}

/-- The verdict of a check is the one on what the refreshed table says about the host. -/
theorem enforceOn_verdict {connection : Connection} {method : Method} {s : Site W}
    (hstatement : method.runsStatement = true) (hstrict : s.gate.isStrict connection.id = true)
    (sql : Option String) :
    let refreshed := Watch.refresh b connection.id connection.host.host s.watch
    (enforceOn b (some connection) method sql s).value =
      ((Policy.judge (refreshed.state.tracker.facts connection.host)).mapError fun reason =>
        ({ method := method.name, host := connection.host.host, sql, reason } : Violation)).map
          (fun _ => ()) := by
  intro refreshed
  have henforce : enforceOn b (some connection) method sql = enforce b connection method sql :=
    if_pos hstatement
  obtain ⟨hstate, -⟩ := enforceOn_checked (b := b) hstatement hstrict sql
  obtain ⟨hjudged, hvalue, -⟩ := enforce_strict (b := b) hstrict method sql
  rw [henforce, hjudged] at hstate
  rw [henforce, hvalue, hostFacts_value, hstate]
  rfl

theorem watch_concluded (target : Option Connection) (request : Request) (s : Site W) :
    (concluded target request s).watch = s.watch := by
  rw [watch, watch, concluded_tracker, concluded_world]

/-- What a table says about a host for the check is the same wherever the same is known of it. -/
theorem facts_eq_of_sight (spec : HostSpec) {t t' : Tracker}
    (h : t'.sight spec.host = t.sight spec.host) : t'.facts spec = t.facts spec := by
  have hfacts (t : Tracker) : t.facts spec =
      ((t.sight spec.host).map fun r =>
        if r.isWriter then HostFacts.writer else .reader r.forwarding).getD
          (.untracked spec.role) := by
    rw [Tracker.facts, Tracker.sight]
    cases t.record? spec.host <;> rfl
  rw [hfacts, hfacts, h]

section
variable (hgate : Gate.Companion hosts host mode mode' s.gate s'.gate)
  (hwatch : Watch.Alike i s.watch s'.watch)
include hgate hwatch

/-- A check comes to the same verdict, after the same question. -/
theorem matches_enforceOn {id : ConnectionId} (hid : id.goesTo hosts host = true)
    (method : Method) (sql : Option String) :
    MatchesAt i (enforceOn b (s.gate.connection? id) method sql)
      (enforceOn b (s'.gate.connection? (id.alone hosts host)) method sql) s s' := by
  rw [hgate.held id hid]
  cases hheld : s.gate.connection? id with
  | none => exact ⟨rfl, rfl, hwatch⟩
  | some connection =>
    obtain rfl := connection?_id hheld
    have hhost := hgate.host_of_held hheld hid
    subst hhost
    have hmode := hgate.isStrict_eq hid
    rw [Option.map_some]
    let other := connection.renamed (·.alone hosts connection.host.host)
    -- The gates agree on the mode, so the statement is checked in both or in none.
    have hmode' : s'.gate.isStrict other.id = s.gate.isStrict connection.id := hmode
    by_cases hchecked : method.runsStatement = true ∧ s.gate.isStrict connection.id = true
    · obtain ⟨hstatement, hstrict⟩ := hchecked
      have hstrict' : s'.gate.isStrict other.id = true := hmode'.trans hstrict
      obtain ⟨hstate, hevents⟩ := enforceOn_checked (b := b) hstatement hstrict sql
      obtain ⟨hstate', hevents'⟩ := enforceOn_checked (b := b) hstatement hstrict' sql
      obtain ⟨hasked, hrefreshed⟩ := Watch.alike_refresh hid hwatch
      refine ⟨?_, ?_, ?_⟩
      · rw [enforceOn_verdict hstatement hstrict, enforceOn_verdict hstatement hstrict']
        have hfacts := facts_eq_of_sight connection.host hrefreshed.sight
        exact congrArg _ (congrArg _ (congrArg _ hfacts))
      · rw [hevents, hevents']
        exact hasked
      · rw [hstate, hstate']
        exact hrefreshed
    · have hchecked' : ¬(method.runsStatement = true ∧ s'.gate.isStrict other.id = true) := by
        rwa [hmode']
      rw [MatchesAt, enforceOn_unchecked hchecked, enforceOn_unchecked hchecked']
      exact ⟨rfl, rfl, hwatch⟩

/-- Behind the stage of the control commands a call does the same. -/
theorem matches_proceed {id : ConnectionId} (hid : id.goesTo hosts host = true)
    (request : Request) :
    MatchesAt i (proceed b (s.gate.connection? id) id request)
      (proceed b (s'.gate.connection? (id.alone hosts host)) (id.alone hosts host) request)
      s s' := by
  have hchecked := matches_enforceOn hgate hwatch hid request.method request.sql?
  have hvalue := hchecked.value
  cases hverdict : (enforceOn b (s.gate.connection? id) request.method request.sql? s).value with
  | error violation =>
    rw [hverdict] at hvalue
    rw [MatchesAt, proceed_refused id hverdict, proceed_refused _ hvalue]
    exact ⟨rfl, hchecked.contacts, hchecked.state⟩
  | ok _ =>
    rw [hverdict] at hvalue
    obtain ⟨hresult, hstate, hcontacts⟩ := proceed_allowed id hverdict
    obtain ⟨hresult', hstate', hcontacts'⟩ := proceed_allowed (id.alone hosts host) hvalue
    have hanswered := Watch.matches_call hid .caller request hchecked.state
    refine ⟨?_, ?_, ?_⟩
    · rw [hresult, hresult', hanswered.value]
    · rw [hcontacts, hcontacts', List.map_append, hchecked.contacts, hanswered.contacts]
    · rw [hstate, hstate', watch_concluded, watch_concluded]
      exact hanswered.state

/-- A call on a connection to the host does the same. -/
theorem matches_callFor {id : ConnectionId} (hid : id.goesTo hosts host = true)
    (request : Request) :
    MatchesAt i (callFor b (s.gate.connection? id) id request)
      (callFor b (s'.gate.connection? (id.alone hosts host)) (id.alone hosts host) request)
      s s' := by
  by_cases hcommand : (s.gate.connection? id).isSome ∧ (request.mode? s.gate.space).isSome
  · obtain ⟨connection, hheld⟩ := Option.isSome_iff_exists.mp hcommand.1
    obtain ⟨enabled, hmode⟩ := Option.isSome_iff_exists.mp hcommand.2
    have hmode' : request.mode? s'.gate.space = some enabled := by rw [hgate.space, hmode]
    rw [hgate.held id hid, hheld, Option.map_some]
    -- The acknowledgement is that of the kind of call.
    obtain ⟨⟨ack, hack, hvalue⟩, hstate, hcontacts⟩ :=
      callFor_command b connection id request s hmode
    obtain ⟨⟨ack', hack', hvalue'⟩, hstate', hcontacts'⟩ :=
      callFor_command b (connection.renamed (·.alone hosts host)) (id.alone hosts host) request s'
        hmode'
    refine ⟨?_, ?_, ?_⟩
    · rw [hvalue, hvalue', Option.some.inj (hack'.symm.trans hack)]
    · rw [hcontacts, hcontacts']
      rfl
    · rw [hstate, hstate']
      exact hwatch
  · have hproceed := matches_proceed hgate hwatch hid request
    obtain ⟨hvalue, hstate, hcontacts⟩ :=
      callFor_pass b _ id request s (passes_of_not_command hcommand)
    rw [← hgate.isSome_eq hid, ← hgate.space] at hcommand
    obtain ⟨hvalue', hstate', hcontacts'⟩ :=
      callFor_pass b _ (id.alone hosts host) request s' (passes_of_not_command hcommand)
    refine ⟨?_, ?_, ?_⟩
    · rw [hvalue, hvalue', hproceed.value]
    · rw [hcontacts, hcontacts', hproceed.contacts]
    · rw [hstate, hstate']
      exact hproceed.state

end

/-! ## Connects -/

/-- Zones apart, a connect starts from what is known. -/
theorem alike_readied (hwatch : Watch.Alike i s.watch s'.watch) (props : Properties) :
    Watch.Alike i (readied props s).watch (readied props s').watch := by
  rw [readied_watch, readied_watch]
  refine ⟨?_, ?_, hwatch.world, hwatch.now⟩
  · rw [Tracker.interval_replay, Tracker.interval_replay]
    exact hwatch.interval
  · rw [sight_propertyChanges, sight_propertyChanges]
    exact hwatch.sight

/-- A connect to the host does the same, and hands out the same connection under the lifetime that
it has alone. -/
theorem matches_connect (hgate : Gate.Companion hosts host mode mode' s.gate s'.gate)
    (hwatch : Watch.Alike i s.watch s'.watch) {spec : HostSpec} (hspec : spec.host = host)
    (hid : ConnectionId.goesTo hosts host ⟨s.gate.minted⟩ = true) (protocol : String)
    (props : Properties) :
    MatchesAt i
      (Except.map (·.renamed (·.alone hosts host)) <$> connect b protocol spec props)
      (connect b protocol spec props) s s' := by
  have hminted := hgate.alone_minted
  have hopening : (opening b protocol spec props s).Matches (·.alone hosts host)
      (Watch.Alike i) (opening b protocol spec props s') := by
    have hopened := Watch.matches_connect hid protocol hspec props (alike_readied hwatch props)
    rwa [hminted] at hopened
  have hprobing : (probing b protocol spec props s).Matches (·.alone hosts host)
      (Watch.Alike i) (probing b protocol spec props s') := by
    have hprobed := Watch.matches_probeConnection hid hspec hopening.state
    rwa [hminted] at hprobed
  have hvalue := hopening.value
  have hasked := contacts_connect (b := b) protocol spec props s
  have hasked' := contacts_connect (b := b) protocol spec props s'
  -- A connect ends in one of three ways, and in both gates in the same one.
  cases hopen : (opening b protocol spec props s).value with
  | error source =>
    rw [hopen] at hvalue
    obtain ⟨hended, hstate⟩ := connect_refused hopen
    obtain ⟨hended', hstate'⟩ := connect_refused hvalue
    rw [hopen] at hasked
    rw [hvalue] at hasked'
    refine ⟨?_, ?_, ?_⟩
    · rw [Act.map_apply, hended, hended']
      rfl
    · rw [Act.map_apply, hasked, hasked', ← hminted]
      rfl
    · rw [Act.map_apply, hstate, hstate']
      exact hopening.state
  | ok _ =>
    rw [hopen] at hvalue hasked
    rw [hvalue] at hasked'
    have hprobed := hprobing.value
    cases hprobe : (probing b protocol spec props s).value with
    | error source =>
      rw [hprobe] at hprobed hasked
      rw [hprobed] at hasked'
      obtain ⟨hended, hstate⟩ := connect_abandoned hopen hprobe
      obtain ⟨hended', hstate'⟩ := connect_abandoned hvalue hprobed
      -- The connection that is given up is closed, which is one more call on either lifetime.
      have hclosed := Watch.matches_call hid .probe .close hprobing.state
      refine ⟨?_, ?_, ?_⟩
      · rw [Act.map_apply, hended, hended']
        rfl
      · rw [Act.map_apply, hasked, hasked', hprobing.contacts, ← hminted]
        simp [Event.renamed]
      · rw [Act.map_apply, hstate, hstate', ← hminted]
        exact hclosed.state
    | ok capabilities =>
      rw [hprobe] at hprobed hasked
      rw [hprobed] at hasked'
      obtain ⟨hended, hstate⟩ := connect_handedOut hopen hprobe
      obtain ⟨hended', hstate'⟩ := connect_handedOut hvalue hprobed
      refine ⟨?_, ?_, ?_⟩
      · rw [Act.map_apply, hended, hended', ← hminted]
        rfl
      · rw [Act.map_apply, hasked, hasked', hprobing.contacts, ← hminted]
        simp [Event.renamed]
      · rw [Act.map_apply, hstate, hstate', handOut_state, handOut_state]
        exact hprobing.state

end Site

end ClusterGate

import ClusterGate.Driver

/-!
# Session attributes

Each connection may have attributes that no server knows of. They are kept in one store, entry by
entry, and an entry may be tied to an owner. An entry whose owner is gone is an orphan: it stays
until the next write or purge sweeps it away.
-/

namespace ClusterGate

/-- Something whose end makes the entries tied to it orphans. -/
structure Owner where
  number : Nat
  deriving DecidableEq, Repr

structure SessionEntry where
  attributes : Dict String String
  owner : Option Owner
  deriving DecidableEq, Repr

namespace SessionEntry

def empty : SessionEntry := ⟨∅, none⟩

/-- The entry's owner is gone. An entry without an owner is never an orphan. -/
def isOrphan (alive : Owner → Bool) (e : SessionEntry) : Bool := e.owner.any fun o => !alive o

/-- Set an attribute. An owner that is given replaces the one before. -/
def set (e : SessionEntry) (owner : Option Owner) (key value : String) : SessionEntry :=
  ⟨e.attributes.insert key value, owner.or e.owner⟩

end SessionEntry

structure Sessions where
  entries : Dict ConnectionId SessionEntry
  deriving DecidableEq, Repr

namespace Sessions

def empty : Sessions := ⟨∅⟩

/-- The number of connections with an entry. -/
def size (s : Sessions) : Nat := s.entries.size

def find? (s : Sessions) (id : ConnectionId) : Option SessionEntry := s.entries.get? id

def get? (s : Sessions) (id : ConnectionId) (key : String) : Option String :=
  (s.find? id).bind (·.attributes.get? key)

def purge (alive : Owner → Bool) (s : Sessions) : Sessions :=
  ⟨s.entries.filter fun _ e => !e.isOrphan alive⟩

/-- The number of entries that a sweep takes away. -/
def orphans (alive : Owner → Bool) (s : Sessions) : Nat := s.size - (s.purge alive).size

def purgeNotices (alive : Owner → Bool) (s : Sessions) : List LogEntry :=
  if s.orphans alive = 0 then []
  else [Log.info "Purged orphaned session entries" [("purged", .count (s.orphans alive))]]

/-- Set an attribute of a connection, after a sweep. -/
def set (alive : Owner → Bool) (s : Sessions) (id : ConnectionId) (owner : Option Owner)
    (key value : String) : Sessions :=
  let swept := s.purge alive
  ⟨swept.entries.insert id (((swept.find? id).getD .empty).set owner key value)⟩

def clear (s : Sessions) (id : ConnectionId) : Sessions := ⟨s.entries.erase id⟩

def clearNotices (s : Sessions) (id : ConnectionId) : List LogEntry :=
  if (s.find? id).isSome then [Log.debug "Session attributes cleared" []] else []

theorem find?_clear (s : Sessions) (id id' : ConnectionId) :
    (s.clear id).find? id' = if id' = id then none else s.find? id' := by
  simp [clear, find?]

theorem find?_set (alive : Owner → Bool) (s : Sessions) (id id' : ConnectionId)
    (owner : Option Owner) (key value : String) :
    (s.set alive id owner key value).find? id' =
      if id' = id then some ((((s.purge alive).find? id).getD .empty).set owner key value)
      else (s.purge alive).find? id' := by
  simp [set, find?]

end Sessions

end ClusterGate

import MessageTransport.Endpoint
import MessageTransport.Room

set_option autoImplicit false

namespace MessageTransport

/-- The connections by remote endpoint. A registry does not keep a connection alive: whoever owns a
connection decides that, so every look-up takes the predicate `live`, and an entry whose handle has
died counts as absent until some operation takes it out. -/
structure Registry (Handle : Type) where
  entries : Std.TreeMap Endpoint Handle

namespace Registry

variable {Handle : Type}

def empty : Registry Handle := ⟨∅⟩

instance : Inhabited (Registry Handle) := ⟨empty⟩

/-- Bytes that an endpoint and its handle take. -/
def entryBytes : Nat := 40

/-- A registry with room for some connections. -/
def withCapacity? (capacity : Nat) : Option (Registry Handle) :=
  if Room.tableFits entryBytes capacity then some empty else none

/-- Every live handle. -/
def handles (live : Handle → Bool) (r : Registry Handle) : List Handle :=
  r.entries.values.filter live

/-- The number of live entries. -/
def size (live : Handle → Bool) (r : Registry Handle) : Nat := (r.handles live).length

def isEmpty (live : Handle → Bool) (r : Registry Handle) : Bool := r.size live == 0

/-- The live handle at an endpoint. A dead entry met on the way is taken out. -/
def get (live : Handle → Bool) (r : Registry Handle) (remote : Endpoint) :
    Option Handle × Registry Handle :=
  match r.entries[remote]? with
  | none => (none, r)
  | some h => if live h then (some h, r) else (none, ⟨r.entries.erase remote⟩)

def contains (live : Handle → Bool) (r : Registry Handle) (remote : Endpoint) :
    Bool × Registry Handle :=
  let (found, next) := r.get live remote
  (found.isSome, next)

/-- Registers a handle unless a live one is there already. -/
def insert (live : Handle → Bool) (r : Registry Handle) (remote : Endpoint) (h : Handle) :
    Bool × Registry Handle :=
  if (r.entries[remote]?).any live then (false, r) else (true, ⟨r.entries.insert remote h⟩)

/-- Takes out whatever is stored for an endpoint, and says whether there was anything. -/
def remove (r : Registry Handle) (remote : Endpoint) : Bool × Registry Handle :=
  (r.entries.contains remote, ⟨r.entries.erase remote⟩)

/-- Takes out the entry of an endpoint only if it holds this very handle, so that a connection that
goes away never takes a newer one with it. -/
def removeHandle [DecidableEq Handle] (r : Registry Handle) (remote : Endpoint) (h : Handle) :
    Bool × Registry Handle :=
  if r.entries[remote]? = some h then (true, ⟨r.entries.erase remote⟩) else (false, r)

def clear (_ : Registry Handle) : Registry Handle := empty

/-- The endpoints stored, those of dead handles included. -/
def endpoints (r : Registry Handle) : List Endpoint := r.entries.keys

/-- The registry as it is shown to people. -/
def describe (r : Registry Handle) : String :=
  "ConnectionRegistry \x7b endpoints: [" ++
    ", ".intercalate (r.endpoints.map Endpoint.text) ++ "] \x7d"

end Registry

end MessageTransport

import MessageTransport.Config
import MessageTransport.JsonText

set_option autoImplicit false

namespace MessageTransport.Config

inductive FieldName where
  | reactorCount
  | timeoutTick
  | connectTimeout
  | requestTimeout
  | maxMessageSize
  | sendRetryLimit
  | sendRetryInterval
  | nodelay
deriving DecidableEq, Repr

namespace FieldName

/-- Every field, in the order of the list form. -/
def all : List FieldName :=
  [reactorCount, timeoutTick, connectTimeout, requestTimeout, maxMessageSize, sendRetryLimit,
   sendRetryInterval, nodelay]

def key : FieldName → String
  | reactorCount => "reactor_count"
  | timeoutTick => "timeout_tick"
  | connectTimeout => "connect_timeout"
  | requestTimeout => "request_timeout"
  | maxMessageSize => "max_message_size"
  | sendRetryLimit => "send_retry_limit"
  | sendRetryInterval => "send_retry_interval"
  | nodelay => "nodelay"

def ofKey? (s : String) : Option FieldName := all.find? (fun f => f.key == s)

end FieldName

/-- A number below `limit`, written without sign, point or exponent. -/
def natOfJson? (limit : Nat) : JsonValue → Option Nat
  | .number spelling =>
    if spelling.all Char.isDigit then
      let n := spelling.foldl (fun n c => 10 * n + (c.toNat - '0'.toNat)) 0
      if n < limit then some n else none
    else none
  | _ => none

def u64OfJson? (v : JsonValue) : Option UInt64 := (natOfJson? UInt64.size v).map UInt64.ofNat

def durationOfParts? (seconds nanos : JsonValue) : Option Duration := do
  let s ← natOfJson? UInt64.size seconds
  let n ← natOfJson? UInt32.size nanos
  Duration.ofParts? (UInt64.ofNat s) (UInt32.ofNat n)

/-- The object form has its two members in either order. -/
def durationOfJson? : JsonValue → Option Duration
  | .array [seconds, nanos] => durationOfParts? seconds nanos
  | .object [(first, x), (second, y)] =>
    if first.text? = some "secs" ∧ second.text? = some "nanos" then durationOfParts? x y
    else if first.text? = some "nanos" ∧ second.text? = some "secs" then durationOfParts? y x
    else none
  | _ => none

def settingOfJson? (name : FieldName) (v : JsonValue) : Option Setting :=
  match name with
  | .reactorCount => (u64OfJson? v).map .reactorCount
  | .timeoutTick => (durationOfJson? v).map .timeoutTick
  | .connectTimeout => (durationOfJson? v).map .connectTimeout
  | .requestTimeout => (durationOfJson? v).map .requestTimeout
  | .maxMessageSize => (u64OfJson? v).map .maxMessageSize
  | .sendRetryLimit => (u64OfJson? v).map .sendRetryLimit
  | .sendRetryInterval => (durationOfJson? v).map .sendRetryInterval
  | .nodelay =>
    match v with
    | .bool b => some (.nodelay b)
    | _ => none

/-- Reads the members of the object form; `seen` are the fields that have been set. -/
def ofMembers? : List FieldName → Config → List (JsonText.Quoted × JsonValue) → Option Config
  | _, c, [] => some c
  | seen, c, (quoted, v) :: rest => do
    let key ← quoted.text?
    match FieldName.ofKey? key with
    | none => ofMembers? seen c rest
    | some name =>
      if name ∈ seen then none
      else do
        let setting ← settingOfJson? name v
        ofMembers? (name :: seen) (c.apply setting) rest

/-- Reads the items of the list form for the fields that are left. -/
def ofItems? : List FieldName → Config → List JsonValue → Option Config
  | _, c, [] => some c
  | [], _, _ :: _ => none
  | name :: names, c, v :: rest => do
    let setting ← settingOfJson? name v
    ofItems? names (c.apply setting) rest

/-- The settings as an object, in which fields may be missing and unknown ones are passed over, or
as a list of the fields in their order, of which a tail may be missing. A field given twice is
refused. -/
def ofJson? : JsonValue → Option Config
  | .object members => ofMembers? [] {} members
  | .array items => ofItems? FieldName.all {} items
  | _ => none

def ofText? (s : String) : Option Config := (JsonText.parse? s).bind ofJson?

def durationText (d : Duration) : String :=
  "\x7b\"secs\":" ++ d.seconds.toNat.repr ++ ",\"nanos\":" ++ d.nanos.toNat.repr ++ "\x7d"

def fieldText (c : Config) (count : Nat) : FieldName → String
  | .reactorCount => count.repr
  | .timeoutTick => durationText c.timeoutTick
  | .connectTimeout => durationText c.connectTimeout
  | .requestTimeout => durationText c.requestTimeout
  | .maxMessageSize => c.maxMessageSize.toNat.repr
  | .sendRetryLimit => c.sendRetryLimit.toNat.repr
  | .sendRetryInterval => durationText c.sendRetryInterval
  | .nodelay => if c.nodelay then "true" else "false"

/-- The object form with every field, where the reactor count is known. -/
def text (c : Config) (count : Nat) : String :=
  "\x7b" ++ ",".intercalate
    (FieldName.all.map (fun f => "\"" ++ f.key ++ "\":" ++ fieldText c count f)) ++ "\x7d"

end MessageTransport.Config

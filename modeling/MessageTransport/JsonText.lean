set_option autoImplicit false

namespace MessageTransport.JsonText

/-- A character of a string, or a 16-bit unit written as an escape. -/
inductive Unit16 where
  | char (c : Char)
  | escaped (unit : Nat)
deriving DecidableEq, Repr

abbrev Quoted := List Unit16

namespace Quoted

/-- Puts a character in front of a text that could be read. -/
def consChar (code : Nat) (rest : Option (List Char)) : Option (List Char) :=
  rest.map (fun cs => Char.ofNat code :: cs)

/-- The characters of a string. Escaped surrogates count only in pairs. -/
def chars? : Quoted → Option (List Char)
  | [] => some []
  | .char c :: rest => (chars? rest).map (fun cs => c :: cs)
  | .escaped high :: .escaped low :: rest =>
    if 0xd800 ≤ high ∧ high < 0xdc00 then
      if 0xdc00 ≤ low ∧ low < 0xe000 then
        consChar (0x10000 + (high - 0xd800) * 0x400 + (low - 0xdc00)) (chars? rest)
      else none
    else if 0xdc00 ≤ high ∧ high < 0xe000 then none
    else consChar high (chars? (.escaped low :: rest))
  | .escaped unit :: rest =>
    if 0xd800 ≤ unit ∧ unit < 0xe000 then none else consChar unit (chars? rest)

def text? (q : Quoted) : Option String := (chars? q).map String.ofList

end Quoted

/-- A token of a text. Numbers keep their spelling and strings their escapes, since a reader decides
what it makes of either. -/
inductive Token where
  | null
  | bool (b : Bool)
  | number (spelling : List Char)
  | string (content : Quoted)
  | openArray
  | closeArray
  | openObject
  | closeObject
  | comma
  | colon
deriving DecidableEq, Repr

namespace Token

/-- Splits the digits off the front; there has to be one. -/
def digits? (cs : List Char) : Option (List Char × List Char) :=
  match cs.takeWhile Char.isDigit with
  | [] => none
  | ds => some (ds, cs.dropWhile Char.isDigit)

/-- The part of a number before any point or exponent; a zero stands alone. -/
def whole? : List Char → Option (List Char × List Char)
  | '0' :: rest => some (['0'], rest)
  | cs => digits? cs

def fraction? : List Char → Option (List Char × List Char)
  | '.' :: rest => (digits? rest).map (fun r => ('.' :: r.1, r.2))
  | cs => some ([], cs)

def exponent? : List Char → Option (List Char × List Char)
  | 'e' :: rest => signed 'e' rest
  | 'E' :: rest => signed 'E' rest
  | cs => some ([], cs)
where
  signed (e : Char) : List Char → Option (List Char × List Char)
    | '+' :: rest => (digits? rest).map (fun r => (e :: '+' :: r.1, r.2))
    | '-' :: rest => (digits? rest).map (fun r => (e :: '-' :: r.1, r.2))
    | rest => (digits? rest).map (fun r => (e :: r.1, r.2))

def unsigned? (cs : List Char) : Option (List Char × List Char) := do
  let (whole, rest) ← whole? cs
  let (fraction, rest) ← fraction? rest
  let (exponent, rest) ← exponent? rest
  some (whole ++ fraction ++ exponent, rest)

def number? : List Char → Option (List Char × List Char)
  | '-' :: rest => (unsigned? rest).map (fun r => ('-' :: r.1, r.2))
  | cs => unsigned? cs

def hexDigit? (c : Char) : Option Nat :=
  if c.isDigit then some (c.toNat - '0'.toNat)
  else if 'a' ≤ c ∧ c ≤ 'f' then some (c.toNat - 'a'.toNat + 10)
  else if 'A' ≤ c ∧ c ≤ 'F' then some (c.toNat - 'A'.toNat + 10)
  else none

def hexUnit? (a b c d : Char) : Option Nat := do
  let ds ← [a, b, c, d].mapM hexDigit?
  some (ds.foldl (fun n k => 16 * n + k) 0)

/-- What a backslash and one letter stand for. -/
def escape? : Char → Option Char
  | '"' => some '"'
  | '\\' => some '\\'
  | '/' => some '/'
  | 'b' => some '\x08'
  | 'f' => some '\x0c'
  | 'n' => some '\n'
  | 'r' => some '\r'
  | 't' => some '\t'
  | _ => none

/-- The rest of a string behind its opening quote, and what follows the closing one. -/
def quoted? : List Char → Option (Quoted × List Char)
  | [] => none
  | '"' :: rest => some ([], rest)
  | '\\' :: 'u' :: a :: b :: c :: d :: rest => do
    let unit ← hexUnit? a b c d
    let (content, after) ← quoted? rest
    some (.escaped unit :: content, after)
  | '\\' :: c :: rest => do
    let plain ← escape? c
    let (content, after) ← quoted? rest
    some (.char plain :: content, after)
  | c :: rest =>
    if c.toNat < 0x20 ∨ c = '\\' then none
    else do
      let (content, after) ← quoted? rest
      some (.char c :: content, after)

def isBlank (c : Char) : Bool := c == ' ' || c == '\t' || c == '\n' || c == '\r'

/-- The first token of a text without leading blanks. -/
def next? : List Char → Option (Token × List Char)
  | '[' :: rest => some (openArray, rest)
  | ']' :: rest => some (closeArray, rest)
  | '{' :: rest => some (openObject, rest)
  | '}' :: rest => some (closeObject, rest)
  | ',' :: rest => some (comma, rest)
  | ':' :: rest => some (colon, rest)
  | '"' :: rest => (quoted? rest).map (fun r => (string r.1, r.2))
  | 'n' :: 'u' :: 'l' :: 'l' :: rest => some (null, rest)
  | 't' :: 'r' :: 'u' :: 'e' :: rest => some (bool true, rest)
  | 'f' :: 'a' :: 'l' :: 's' :: 'e' :: rest => some (bool false, rest)
  | cs => (number? cs).map (fun r => (number r.1, r.2))

/-- The tokens of a text; a token takes at least one character, so `steps` may be its length. -/
def scan : Nat → List Char → Option (List Token)
  | steps, cs =>
    match cs.dropWhile isBlank, steps with
    | [], _ => some []
    | _, 0 => none
    | rest, steps + 1 => do
      let (token, after) ← next? rest
      let tokens ← scan steps after
      some (token :: tokens)

def ofText? (s : String) : Option (List Token) := scan s.toList.length s.toList

end Token

end MessageTransport.JsonText

namespace MessageTransport

inductive JsonValue where
  | null
  | bool (b : Bool)
  | number (spelling : List Char)
  | string (content : JsonText.Quoted)
  | array (items : List JsonValue)
  | object (members : List (JsonText.Quoted × JsonValue))
deriving Repr

end MessageTransport

namespace MessageTransport.JsonText

/-- A list or object that has been opened and not closed, with what it holds so far in reverse. -/
inductive Frame where
  | items (done : List JsonValue)
  | members (done : List (Quoted × JsonValue)) (key : Quoted)

/-- What the text may go on with. `outer` are the open lists and objects around that place. -/
inductive State where
  | value (outer : List Frame)
  | firstItem (outer : List Frame)
  | key (outer : List Frame) (done : List (Quoted × JsonValue)) (mayClose : Bool)
  | colon (outer : List Frame) (done : List (Quoted × JsonValue)) (key : Quoted)
  | separator (frame : Frame) (outer : List Frame)
  | finished (value : JsonValue)

namespace State

/-- Hands a finished value to the list or object around it. -/
def put (outer : List Frame) (v : JsonValue) : State :=
  match outer with
  | [] => finished v
  | .items done :: rest => separator (.items (v :: done)) rest
  | .members done k :: rest => separator (.members ((k, v) :: done) k) rest

def start (outer : List Frame) : Token → Option State
  | .null => some (put outer .null)
  | .bool b => some (put outer (.bool b))
  | .number spelling => some (put outer (.number spelling))
  | .string content => some (put outer (.string content))
  | .openArray => some (firstItem outer)
  | .openObject => some (key outer [] true)
  | _ => none

def step : State → Token → Option State
  | value outer, t => start outer t
  | firstItem outer, .closeArray => some (put outer (.array []))
  | firstItem outer, t => start (.items [] :: outer) t
  | key outer done true, .closeObject => some (put outer (.object done.reverse))
  | key outer done _, .string k => some (colon outer done k)
  | colon outer done k, .colon => some (value (.members done k :: outer))
  | separator (.items done) outer, .comma => some (value (.items done :: outer))
  | separator (.items done) outer, .closeArray => some (put outer (.array done.reverse))
  | separator (.members done _) outer, .comma => some (key outer done false)
  | separator (.members done _) outer, .closeObject => some (put outer (.object done.reverse))
  | _, _ => none

end State

/-- The one value that a text consists of. -/
def parse? (s : String) : Option JsonValue := do
  let tokens ← Token.ofText? s
  match ← tokens.foldlM State.step (.value []) with
  | .finished v => some v
  | _ => none

end MessageTransport.JsonText

import ArsSolana.Python.SelfTest

/-!
# `conformance_cli.py`: the HTTP transport

`runHttpTransport` posts the vectors to an endpoint and compares the replies. Everything a round raises is caught in it.
-/

namespace ArsSolana.Python

/-! ## The endpoint -/

/-- A reply; its status has three digits. -/
structure Response where
  statusCode : Nat
  /-- `resp.json()`. -/
  json : Except Py.Exception Py.Value
  threeDigits : 100 ≤ statusCode ∧ statusCode < 1000

/-- What `requests.post(url, json=body, timeout=10)` returns or raises, request by request: the endpoint may have a state of its
own, and a request may get lost. -/
abbrev Endpoint := Nat → Py.Str → Py.Value → Except Py.Exception Response

def exceptionName : Py.ExceptionType → String
  | .valueError => "ValueError"
  | .typeError => "TypeError"
  | .attributeError => "AttributeError"
  | .overflowError => "OverflowError"
  | .other name => name

/-- A text as a line shows it. -/
def shown (s : Py.Str) : String := String.ofList (s.map fun c => c.char?.getD '\uFFFD')

/-- `endpoint.rstrip("/")`. -/
def rstripSlash (endpoint : Py.Str) : Py.Str := (endpoint.reverse.dropWhile (·.is '/')).reverse

/-- The URL of a path below the base. -/
def urlOf (base : Py.Str) (path : String) : Py.Str := base ++ Py.Str.ofString path

/-- The body of a replay request. -/
def eventsBody (log : List ArsEvent) : Py.Value := Py.record [("events", logDicts log)]

/-- The body of an encoding request. -/
def bondBody (v : ViewBondVector) : Py.Value := Py.record [("min_bond", .int v.minBondAtomic), ("min_score", .int v.minScore)]

/-! ## The rounds -/

/-- The value is this text. -/
def isText (x : Py.Value) (s : String) : Bool :=
  match x with
  | .str t => t = Py.Str.ofString s
  | _ => false

variable (py : Py.Interpreter) (repr : Py.Value → Except Py.Exception Py.Str)

/-- `str(x)`; that of a float, a list or a dictionary is given. -/
def strOf : Py.Value → Except Py.Exception Py.Str
  | .none => .ok (Py.Str.ofString "None")
  | .bool b => .ok (Py.Str.ofString (if b then "True" else "False"))
  | .int n => (py.strOfInt n).map Py.Str.ofString
  | .str s => .ok s
  | x => repr x

variable (post : Endpoint) (base : Py.Str)

/-- The line of what a round caught. -/
def caughtLine (name : String) (e : Py.Exception) : String := s!"{name}: transport {exceptionName e.type}: {e.message}"

/-- The `try` of the first loop, the `n`-th request: none when the vector passes, else the line of its failure. -/
def tryHttpState (v : StateVector) (n : Nat) : Except Py.Exception (Option String) := do
  let resp ← post n (urlOf base "/replay") (eventsBody v.log)
  if resp.statusCode ≠ 200 then .ok (some s!"{v.name}: HTTP {resp.statusCode}")
  else
    let payload ← resp.json
    let ok ←
      if isText (← payload.get "state") v.expectedState then do
        let released ← py.toInt ((← payload.get "released_atomic").orElse (.int 0))
        .ok (decide (released = v.expectedReleasedAtomic))
      else .ok false
    if ok then .ok none
    else
      let state ← strOf py repr (← payload.get "state")
      let released ← strOf py repr (← payload.get "released_atomic")
      .ok (some s!"{v.name}: got state={shown state}, released={shown released}")

/-- The `try` of the second loop. -/
def tryHttpIllegal (v : IllegalVector) (n : Nat) : Except Py.Exception (Option String) := do
  let resp ← post n (urlOf base "/replay") (eventsBody v.log)
  if 400 ≤ resp.statusCode ∧ resp.statusCode < 500 then .ok none
  else .ok (some s!"{v.name}: expected 4xx, got {resp.statusCode}")

/-- The `try` of the third loop. -/
def tryHttpViewBond (v : ViewBondVector) (n : Nat) : Except Py.Exception (Option String) := do
  let resp ← post n (urlOf base "/view_bond") (bondBody v)
  if resp.statusCode ≠ 200 then .ok (some s!"{v.name}: HTTP {resp.statusCode}")
  else
    let payload ← resp.json
    let got ← strOf py repr ((← payload.get "data_hex").orElse (.str []))
    if got = Py.Str.ofString v.expectedDataHex then .ok none
    else .ok (some s!"{v.name}: expected {v.expectedDataHex}, got {shown got}")

/-- The line a `try` leaves of a vector, none when it passes. -/
def failure (name : String) : Except Py.Exception (Option String) → Option String
  | .ok line => line
  | .error e => some (caughtLine name e)

/-- A round of the first loop. -/
def httpState (r : ConformanceReport) (v : StateVector × Nat) : ConformanceReport :=
  match failure v.1.name (tryHttpState py repr post base v.1 v.2) with
  | none => { r with statePassed := r.statePassed + 1 }
  | some line => { r with stateFailed := r.stateFailed ++ [line] }

/-- A round of the second loop. -/
def httpIllegal (r : ConformanceReport) (v : IllegalVector × Nat) : ConformanceReport :=
  match failure v.1.name (tryHttpIllegal post base v.1 v.2) with
  | none => { r with illegalPassed := r.illegalPassed + 1 }
  | some line => { r with illegalFailed := r.illegalFailed ++ [line] }

/-- A round of the third loop. -/
def httpViewBond (r : ConformanceReport) (v : ViewBondVector × Nat) : ConformanceReport :=
  match failure v.1.name (tryHttpViewBond py repr post base v.1 v.2) with
  | none => { r with viewBondPassed := r.viewBondPassed + 1 }
  | some line => { r with viewBondFailed := r.viewBondFailed ++ [line] }

/-- POST each vector to the implementation and compare the replies. The requests are numbered as they are sent. -/
def runHttpTransport (endpoint : Py.Str) (stateVectors : List StateVector) (illegalVectors : List IllegalVector)
    (viewBondVectors : List ViewBondVector) : ConformanceReport := Id.run do
  let base := rstripSlash endpoint
  let mut r : ConformanceReport := {}
  for v in stateVectors.zipIdx do
    r := httpState py repr post base r v
  for v in illegalVectors.zipIdx stateVectors.length do
    r := httpIllegal post base r v
  for v in viewBondVectors.zipIdx (stateVectors.length + illegalVectors.length) do
    r := httpViewBond py repr post base r v
  return r

end ArsSolana.Python

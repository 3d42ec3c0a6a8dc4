import ArsSolana.Python.HttpTransport
import ArsSolana.Python.X402

/-!
# `x402.py`: the hosted profile lookup

`httpProfileLookup` asks the hosted indexer for the profile of a payer. It returns what stands under `agent` in the reply, which may
be any JSON value.
-/

namespace ArsSolana.Python

/-- A reply to a `GET`. -/
structure Reply extends Response where
  /-- `r.raise_for_status()`. -/
  raiseForStatus : Except Py.Exception Unit
  /-- It raises exactly for the status of a client or a server error. -/
  raises_iff : (∃ e, raiseForStatus = .error e) ↔ 400 ≤ statusCode ∧ statusCode < 600

/-- What `requests.get(url, timeout=timeout_s)` returns or raises. -/
abbrev Indexer := Py.Str → Except Py.Exception Reply

/-- `f"{api_base.rstrip('/')}/api/agent/{pubkey}"`. -/
def agentUrl (apiBase : Py.Str) (pubkey : String) : Py.Str :=
  rstripSlash apiBase ++ Py.Str.ofString "/api/agent/" ++ Py.Str.ofString pubkey

/-- What the lookup raises comes from `requests`, whose exceptions have a text. -/
def LookupException.ofRequests (e : Py.Exception) : LookupException := ⟨.ok e.message⟩

/-- A profile lookup backed by the hosted indexer. -/
def httpProfileLookup (get : Indexer) (apiBase : Py.Str) : ProfileLookup := fun pubkey =>
  let profile : Except Py.Exception Py.Value := do
    let r ← get (agentUrl apiBase pubkey)
    if r.statusCode = 404 then .ok .none
    else
      r.raiseForStatus
      let data ← r.json
      match data with
      | .dict entries => .ok (Py.get entries "agent")
      | _ => .ok .none
  profile.mapError .ofRequests

/-- `apply_x402_gate` over the hosted lookup. -/
def hostedGate (py : Py.Interpreter) (solders : Solders) (xPaymentHeader : Option Py.Str) (policy : GatePolicy) (get : Indexer)
    (apiBase : Py.Str) : Except Py.Exception GateResult :=
  applyX402Gate py solders xPaymentHeader policy (httpProfileLookup get apiBase)

end ArsSolana.Python

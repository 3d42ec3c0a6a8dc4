import ArsSolana.Lemmas.Loops
import ArsSolana.Lemmas.Wire
import ArsSolana.Python.HttpTransport
import ArsSolana.Theorems.SelfTest

/-!
# What the HTTP transport says of an endpoint

The transport never raises and never loses a vector, whatever the endpoint does. Where the endpoint serves an implementation by the
protocol, the report is the one the python transport gives of the implementation.
-/

namespace ArsSolana.Python

open Tally

section Answers

variable (py : Py.Interpreter) (repr : Py.Value → Except Py.Exception Py.Str) (post : Endpoint) (base : Py.Str)

/-- The request was answered with this document. -/
def Replied (n : Nat) (path : String) (body x : Py.Value) : Prop :=
  ∃ resp, post n (urlOf base path) body = .ok resp ∧ resp.statusCode = 200 ∧ resp.json = .ok x

/-- The reply names the expected state and released amount. -/
def StateAnswered (v : StateVector × Nat) : Prop :=
  ∃ entries, Replied post base v.2 "/replay" (eventsBody v.1.log) (.dict entries) ∧
    isText (Py.get entries "state") v.1.expectedState = true ∧
    py.toInt ((Py.get entries "released_atomic").orElse (.int 0)) = .ok v.1.expectedReleasedAtomic

/-- The log was refused as the client's fault. -/
def IllegalAnswered (v : IllegalVector × Nat) : Prop :=
  ∃ resp, post v.2 (urlOf base "/replay") (eventsBody v.1.log) = .ok resp ∧ 400 ≤ resp.statusCode ∧ resp.statusCode < 500

/-- The reply has the expected bytes. -/
def BondAnswered (v : ViewBondVector × Nat) : Prop :=
  ∃ entries, Replied post base v.2 "/view_bond" (bondBody v.1) (.dict entries) ∧
    strOf py repr ((Py.get entries "data_hex").orElse (.str [])) = .ok (Py.Str.ofString v.1.expectedDataHex)

end Answers

variable {py : Py.Interpreter} {repr : Py.Value → Except Py.Exception Py.Str} {post : Endpoint} {base : Py.Str}

/-- What was replied stands in a 200. -/
theorem replied_iff {n : Nat} {path : String} {body x : Py.Value} {resp : Response}
    (hpost : post n (urlOf base path) body = .ok resp) :
    Replied post base n path body x ↔ resp.statusCode = 200 ∧ resp.json = .ok x := by
  simp [Replied, hpost]

/-- A lost request is not replied to. -/
theorem not_replied_of_error {n : Nat} {path : String} {body x : Py.Value} {e : Py.Exception}
    (hpost : post n (urlOf base path) body = .error e) : ¬Replied post base n path body x := by
  simp [Replied, hpost]

/-! ## A `try` -/

/-- How a `try` ends, with whether its vector was answered. -/
inductive HttpTried (answered : Prop) (name : String) : Except Py.Exception (Option String) → Prop
  | raised {e : Py.Exception} : ¬answered → HttpTried answered name (.error e)
  | passed : answered → HttpTried answered name (.ok none)
  | failed {line : String} : ¬answered → (∃ rest : String, line = s!"{name}: {rest}") → HttpTried answered name (.ok (some line))

/-- A described reply fails its vector, unless the description raises. -/
theorem httpTried_described {answered : Prop} {name : String} {x y : Except Py.Exception Py.Str}
    {line : Py.Str → Py.Str → String} (h : ¬answered) (hline : ∀ s t, ∃ rest : String, line s t = s!"{name}: {rest}") :
    HttpTried answered name (do
      let s ← x
      let t ← y
      .ok (some (line s t))) := by
  cases x with
  | error e => exact .raised h
  | ok s =>
    cases y with
    | error e => exact .raised h
    | ok t => exact .failed h (hline s t)

/-- Another status fails its vector. -/
theorem httpTried_status {answered : Prop} {name : String} (statusCode : Nat) (h : ¬answered) :
    HttpTried answered name (.ok (some s!"{name}: HTTP {statusCode}")) :=
  .failed h ⟨s!"HTTP {statusCode}", by simp [toString, ← String.toList_inj]⟩

/-- A document with entries has every field, `None` where there is no entry. -/
theorem get_dict (entries : List (Py.Str × Py.Value)) (key : String) :
    (Py.Value.dict entries).get key = .ok (Py.get entries key) := rfl

/-- Only a document with entries has fields. -/
theorem get_error_of_not_dict {x : Py.Value} (h : ∀ entries, x ≠ .dict entries) (key : String) : ∃ e, x.get key = .error e := by
  cases x with
  | dict entries => exact absurd rfl (h entries)
  | _ => exact ⟨_, rfl⟩

/-- A `try` that reads the document of a 200 reply answers its vector when the document's fields do. -/
theorem httpTried_reply {answered : Prop} {name path : String} {n : Nat} {body : Py.Value}
    {Fields : List (Py.Str × Py.Value) → Prop} {read : Py.Value → Except Py.Exception (Option String)}
    (hanswered : answered ↔ ∃ entries, Replied post base n path body (.dict entries) ∧ Fields entries)
    (hdict : ∀ entries, HttpTried (Fields entries) name (read (.dict entries)))
    (hother : ∀ x, (∀ entries, x ≠ .dict entries) → ∃ e, read x = .error e) :
    HttpTried answered name (do
      let resp ← post n (urlOf base path) body
      if resp.statusCode ≠ 200 then .ok (some s!"{name}: HTTP {resp.statusCode}")
      else
        let payload ← resp.json
        read payload) := by
  cases hpost : post n (urlOf base path) body with
  | error e =>
    refine .raised ?_
    rw [hanswered]
    rintro ⟨entries, hentries, -⟩
    exact not_replied_of_error hpost hentries
  | ok resp =>
    have hreplied : answered ↔ ∃ entries, (resp.statusCode = 200 ∧ resp.json = .ok (.dict entries)) ∧ Fields entries := by
      simp only [hanswered, replied_iff hpost]
    rw [Outcome.ok_bind]
    by_cases hstatus : resp.statusCode = 200
    · rw [if_neg (not_not.mpr hstatus)]
      cases hjson : resp.json with
      | error e => exact .raised (by simp [hreplied, hjson])
      | ok payload =>
        rw [Outcome.ok_bind]
        by_cases hpayload : ∃ entries, payload = .dict entries
        · obtain ⟨entries, rfl⟩ := hpayload
          have hfields : answered ↔ Fields entries := by simp [hreplied, hstatus, hjson]
          rw [hfields]
          exact hdict entries
        · have hnot : ¬answered := by
            rw [hreplied, hjson]
            rintro ⟨entries, ⟨-, hentries⟩, -⟩
            exact hpayload ⟨entries, Except.ok.inj hentries⟩
          obtain ⟨e, he⟩ := hother payload fun entries h => hpayload ⟨entries, h⟩
          rw [he]
          exact .raised hnot
    · rw [if_pos hstatus]
      exact httpTried_status _ (by simp [hreplied, hstatus])

variable (py repr post base) in
/-- A `try` of the first loop ends by what was replied. -/
theorem httpTried_state (v : StateVector) (n : Nat) :
    HttpTried (StateAnswered py post base (v, n)) v.name (tryHttpState py repr post base v n) := by
  have hline : ∀ s t, ∃ rest : String, s!"{v.name}: got state={shown s}, released={shown t}" = s!"{v.name}: {rest}" :=
    fun s t => ⟨s!"got state={shown s}, released={shown t}", by simp [toString, ← String.toList_inj]⟩
  refine httpTried_reply Iff.rfl ?dict ?other
  case dict =>
    intro entries
    simp only [get_dict, Outcome.ok_bind]
    by_cases hstate : isText (Py.get entries "state") v.expectedState = true
    · cases hreleased : py.toInt ((Py.get entries "released_atomic").orElse (.int 0)) with
      | error e =>
        simp only [hstate, if_true, Outcome.error_bind]
        exact .raised (by simp)
      | ok released =>
        by_cases hamount : released = v.expectedReleasedAtomic
        · simp only [hstate, hamount, decide_true, if_true, Outcome.ok_bind]
          exact .passed (by simp)
        · simp only [hstate, hamount, decide_false, if_true, Outcome.ok_bind, Bool.false_eq_true, if_false]
          exact httpTried_described (by simp [hamount]) hline
    · simp only [hstate, Bool.false_eq_true, if_false]
      exact httpTried_described (by simp) hline
  case other =>
    intro x hx
    obtain ⟨e, he⟩ := get_error_of_not_dict hx "state"
    simp only [he, Outcome.error_bind]
    exact ⟨e, rfl⟩

variable (py repr post base) in
/-- A `try` of the third loop ends by what was replied. -/
theorem httpTried_viewBond (v : ViewBondVector) (n : Nat) :
    HttpTried (BondAnswered py repr post base (v, n)) v.name (tryHttpViewBond py repr post base v n) := by
  refine httpTried_reply Iff.rfl ?dict ?other
  case dict =>
    intro entries
    simp only [get_dict, Outcome.ok_bind]
    cases hgot : strOf py repr ((Py.get entries "data_hex").orElse (.str [])) with
    | error e => exact .raised (by simp)
    | ok got =>
      rw [Outcome.ok_bind]
      by_cases hhex : got = Py.Str.ofString v.expectedDataHex
      · rw [if_pos hhex]
        exact .passed (congrArg Except.ok hhex)
      · rw [if_neg hhex]
        refine .failed (by simp [hhex]) ⟨s!"expected {v.expectedDataHex}, got {shown got}", ?_⟩
        simp [toString, ← String.toList_inj]
  case other =>
    intro x hx
    obtain ⟨e, he⟩ := get_error_of_not_dict hx "data_hex"
    simp only [he, Outcome.error_bind]
    exact ⟨e, rfl⟩

variable (post base) in
/-- A `try` of the second loop ends by what was replied. -/
theorem httpTried_illegal (v : IllegalVector) (n : Nat) :
    HttpTried (IllegalAnswered post base (v, n)) v.name (tryHttpIllegal post base v n) := by
  unfold tryHttpIllegal
  cases hpost : post n (urlOf base "/replay") (eventsBody v.log) with
  | error e => exact .raised (by simp [IllegalAnswered, hpost])
  | ok resp =>
    have hanswered : IllegalAnswered post base (v, n) ↔ 400 ≤ resp.statusCode ∧ resp.statusCode < 500 := by
      simp [IllegalAnswered, hpost]
    rw [Outcome.ok_bind]
    by_cases hstatus : 400 ≤ resp.statusCode ∧ resp.statusCode < 500
    · rw [if_pos hstatus]
      exact .passed (hanswered.mpr hstatus)
    · rw [if_neg hstatus]
      refine .failed (mt hanswered.mp hstatus) ⟨s!"expected 4xx, got {resp.statusCode}", ?_⟩
      simp [toString, ← String.toList_inj]

/-! ## The report -/

/-- What a round makes of its `try`. -/
theorem HttpTried.failure {answered : Prop} {name : String} {tried : Except Py.Exception (Option String)}
    (h : HttpTried answered name tried) :
    (answered ∧ Python.failure name tried = none) ∨
      ¬answered ∧ ∃ line, Python.failure name tried = some line ∧ ∃ rest : String, line = s!"{name}: {rest}" := by
  cases h with
  | @raised e h =>
    refine Or.inr ⟨h, _, rfl, s!"transport {exceptionName e.type}: {e.message}", ?_⟩
    simp [caughtLine, toString, ← String.toList_inj]
  | passed h => exact Or.inl ⟨h, rfl⟩
  | failed h hline => exact Or.inr ⟨h, _, rfl, hline⟩

open Classical in
/-- The report counts every vector once, by the reply to its request. -/
abbrev HttpTallied (py : Py.Interpreter) (repr : Py.Value → Except Py.Exception Py.Str) (post : Endpoint) (base : Py.Str)
    (stateVectors : List (StateVector × Nat)) (illegalVectors : List (IllegalVector × Nat))
    (viewBondVectors : List (ViewBondVector × Nat)) (r : ConformanceReport) : Prop :=
  Tallied (fun v => decide (StateAnswered py post base v)) (LineOf fun v => v.1.name)
    (fun v => decide (IllegalAnswered post base v)) (LineOf fun v => v.1.name)
    (fun v => decide (BondAnswered py repr post base v)) (LineOf fun v => v.1.name)
    stateVectors illegalVectors viewBondVectors r

open Classical in
/-- A round of the first loop counts its vector. -/
theorem round_httpState (r : ConformanceReport) (v : StateVector × Nat) :
    Round (fun v => decide (StateAnswered py post base v)) (LineOf fun v => v.1.name) v r.stateCount
        (httpState py repr post base r v).stateCount ∧
      ((httpState py repr post base r v).illegalCount, (httpState py repr post base r v).viewBondCount) =
        (r.illegalCount, r.viewBondCount) := by
  have htried := (httpTried_state py repr post base v.1 v.2).failure
  rcases htried with ⟨hanswered, hfailure⟩ | ⟨hanswered, line, hfailure, hline⟩
  · simp only [httpState, hfailure]
    exact ⟨.pass (decide_eq_true hanswered), rfl⟩
  · simp only [httpState, hfailure]
    exact ⟨.fail (decide_eq_false hanswered) hline, rfl⟩

open Classical in
/-- A round of the second loop counts its vector. -/
theorem round_httpIllegal (r : ConformanceReport) (v : IllegalVector × Nat) :
    Round (fun v => decide (IllegalAnswered post base v)) (LineOf fun v => v.1.name) v r.illegalCount
        (httpIllegal post base r v).illegalCount ∧
      ((httpIllegal post base r v).stateCount, (httpIllegal post base r v).viewBondCount) =
        (r.stateCount, r.viewBondCount) := by
  have htried := (httpTried_illegal post base v.1 v.2).failure
  rcases htried with ⟨hanswered, hfailure⟩ | ⟨hanswered, line, hfailure, hline⟩
  · simp only [httpIllegal, hfailure]
    exact ⟨.pass (decide_eq_true hanswered), rfl⟩
  · simp only [httpIllegal, hfailure]
    exact ⟨.fail (decide_eq_false hanswered) hline, rfl⟩

open Classical in
/-- A round of the third loop counts its vector. -/
theorem round_httpViewBond (r : ConformanceReport) (v : ViewBondVector × Nat) :
    Round (fun v => decide (BondAnswered py repr post base v)) (LineOf fun v => v.1.name) v r.viewBondCount
        (httpViewBond py repr post base r v).viewBondCount ∧
      ((httpViewBond py repr post base r v).stateCount, (httpViewBond py repr post base r v).illegalCount) =
        (r.stateCount, r.illegalCount) := by
  have htried := (httpTried_viewBond py repr post base v.1 v.2).failure
  rcases htried with ⟨hanswered, hfailure⟩ | ⟨hanswered, line, hfailure, hline⟩
  · simp only [httpViewBond, hfailure]
    exact ⟨.pass (decide_eq_true hanswered), rfl⟩
  · simp only [httpViewBond, hfailure]
    exact ⟨.fail (decide_eq_false hanswered) hline, rfl⟩

/-- The loops as folds. -/
theorem runHttpTransport_eq (py : Py.Interpreter) (repr : Py.Value → Except Py.Exception Py.Str) (post : Endpoint)
    (endpoint : Py.Str) (stateVectors : List StateVector) (illegalVectors : List IllegalVector)
    (viewBondVectors : List ViewBondVector) :
    runHttpTransport py repr post endpoint stateVectors illegalVectors viewBondVectors =
      (viewBondVectors.zipIdx (stateVectors.length + illegalVectors.length)).foldl
        (httpViewBond py repr post (rstripSlash endpoint))
        ((illegalVectors.zipIdx stateVectors.length).foldl (httpIllegal post (rstripSlash endpoint))
          (stateVectors.zipIdx.foldl (httpState py repr post (rstripSlash endpoint)) {})) := by
  simp [runHttpTransport]

/-- A report of the HTTP transport has counted every vector. -/
theorem httpTallied (py : Py.Interpreter) (repr : Py.Value → Except Py.Exception Py.Str) (post : Endpoint) (endpoint : Py.Str)
    (stateVectors : List StateVector) (illegalVectors : List IllegalVector) (viewBondVectors : List ViewBondVector) :
    HttpTallied py repr post (rstripSlash endpoint) stateVectors.zipIdx (illegalVectors.zipIdx stateVectors.length)
      (viewBondVectors.zipIdx (stateVectors.length + illegalVectors.length))
      (runHttpTransport py repr post endpoint stateVectors illegalVectors viewBondVectors) := by
  rw [runHttpTransport_eq]
  refine tallied_of_loops ?_ ?_ ?_ (foldlM_pure_rounds Unit _ _ _) (foldlM_pure_rounds Unit _ _ _)
    (foldlM_pure_rounds Unit _ _ _)
  · rintro r v _ ⟨⟩
    exact round_httpState r v
  · rintro r v _ ⟨⟩
    exact round_httpIllegal r v
  · rintro r v _ ⟨⟩
    exact round_httpViewBond r v

/-- The reply to every request says what its vector expects. -/
structure HttpAnswered (py : Py.Interpreter) (repr : Py.Value → Except Py.Exception Py.Str) (post : Endpoint) (base : Py.Str)
    (stateVectors : List StateVector) (illegalVectors : List IllegalVector) (viewBondVectors : List ViewBondVector) : Prop where
  state : ∀ v ∈ stateVectors.zipIdx, StateAnswered py post base v
  illegal : ∀ v ∈ illegalVectors.zipIdx stateVectors.length, IllegalAnswered post base v
  viewBond : ∀ v ∈ viewBondVectors.zipIdx (stateVectors.length + illegalVectors.length), BondAnswered py repr post base v

/-- The report is ok exactly when every reply says what its vector expects. -/
theorem runHttpTransport_ok_iff (py : Py.Interpreter) (repr : Py.Value → Except Py.Exception Py.Str) (post : Endpoint)
    (endpoint : Py.Str) (stateVectors : List StateVector) (illegalVectors : List IllegalVector)
    (viewBondVectors : List ViewBondVector) :
    (runHttpTransport py repr post endpoint stateVectors illegalVectors viewBondVectors).ok = true ↔
      HttpAnswered py repr post (rstripSlash endpoint) stateVectors illegalVectors viewBondVectors := by
  rw [(httpTallied py repr post endpoint stateVectors illegalVectors viewBondVectors).ok_iff]
  simp only [decide_eq_true_eq]
  exact ⟨fun h => ⟨h.1, h.2.1, h.2.2⟩, fun h => ⟨h.state, h.illegal, h.viewBond⟩⟩

/-- Whatever the endpoint does, with any state of its own and any request lost, the transport returns a report that counts every
vector once, as passed exactly when the reply to its request says what the vector expects, the failures in order on lines of their
own; and the report is ok exactly when every reply does. -/
theorem http_accounts (py : Py.Interpreter) (repr : Py.Value → Except Py.Exception Py.Str) (post : Endpoint) (endpoint : Py.Str)
    (stateVectors : List StateVector) (illegalVectors : List IllegalVector) (viewBondVectors : List ViewBondVector) :
    HttpTallied py repr post (rstripSlash endpoint) stateVectors.zipIdx (illegalVectors.zipIdx stateVectors.length)
        (viewBondVectors.zipIdx (stateVectors.length + illegalVectors.length))
        (runHttpTransport py repr post endpoint stateVectors illegalVectors viewBondVectors) ∧
      ((runHttpTransport py repr post endpoint stateVectors illegalVectors viewBondVectors).ok = true ↔
        HttpAnswered py repr post (rstripSlash endpoint) stateVectors illegalVectors viewBondVectors) :=
  ⟨httpTallied py repr post endpoint stateVectors illegalVectors viewBondVectors,
    runHttpTransport_ok_iff py repr post endpoint stateVectors illegalVectors viewBondVectors⟩

/-! ## An endpoint that serves an implementation -/

/-- The endpoint answers for the implementation by the protocol: the job a log replays to, a 4xx for a log it refuses, and the bytes
of an instruction; what the implementation raises otherwise, it does not answer. -/
structure Serves (mod : TargetModule) (post : Endpoint) (base : Py.Str) : Prop where
  replayed : ∀ n log job, mod.replay log = .ok job → ∃ entries state released,
    Replied post base n "/replay" (eventsBody log) (.dict entries) ∧ Py.get entries "state" = jsonText state ∧
      Py.get entries "released_atomic" = .int released ∧ (∀ s, mod.stateIs job s = .ok (decide (state = s))) ∧
      ∀ k, mod.releasedIs job k = .ok (decide (released = k))
  refused : ∀ n log e, mod.replay log = .error e → mod.isTransitionError e = true → ∃ resp,
    post n (urlOf base "/replay") (eventsBody log) = .ok resp ∧ 400 ≤ resp.statusCode ∧ resp.statusCode < 500
  crashed : ∀ n log e resp, mod.replay log = .error e → mod.isTransitionError e = false →
    post n (urlOf base "/replay") (eventsBody log) = .ok resp → 500 ≤ resp.statusCode
  encoded : ∀ n v data, viewBondData mod v = .ok data → ∃ entries,
    Replied post base n "/view_bond" (bondBody v) (.dict entries) ∧ Py.get entries "data_hex" = jsonText (Bytes.hex data)
  notEncoded : ∀ n v e resp, viewBondData mod v = .error e → post n (urlOf base "/view_bond") (bondBody v) = .ok resp →
    resp.statusCode ≠ 200

variable {mod : TargetModule} {endpoint : Py.Str}

/-- A field is the text that was written. -/
theorem isText_jsonText (s t : String) : isText (jsonText s) t = true ↔ s = t := by
  simp [isText, jsonText, Py.Str.ofString_injective.eq_iff]

/-- A request has one reply. -/
theorem Replied.unique {n : Nat} {path : String} {body x y : Py.Value} (hx : Replied post base n path body x)
    (hy : Replied post base n path body y) : x = y := by
  obtain ⟨resp, hpost, -, hjson⟩ := hx
  exact Except.ok.inj (hjson.symm.trans ((replied_iff hpost).mp hy).2)

/-- What is said of the reply to a request is said of the dictionary it was answered with. -/
theorem Replied.exists_dict_iff {n : Nat} {path : String} {body : Py.Value} {entries : List (Py.Str × Py.Value)}
    (h : Replied post base n path body (.dict entries)) (P : List (Py.Str × Py.Value) → Prop) :
    (∃ entries', Replied post base n path body (.dict entries') ∧ P entries') ↔ P entries := by
  constructor
  · intro hex
    obtain ⟨entries', hreplied, hP⟩ := hex
    obtain rfl := Py.Value.dict.inj (hreplied.unique h)
    exact hP
  · intro hP
    exact ⟨entries, h, hP⟩

/-- Served vectors are answered as the implementation answers them. -/
theorem stateAnswered_iff (h : Serves mod post base) (v : StateVector) (n : Nat) :
    StateAnswered py post base (v, n) ↔ answersState mod v = true := by
  cases hreplay : mod.replay v.log with
  | ok job =>
    obtain ⟨entries, state, released, hreplied, hstate, hreleased, hstateIs, hreleasedIs⟩ := h.replayed n v.log job hreplay
    have hfields : StateAnswered py post base (v, n) ↔ isText (Py.get entries "state") v.expectedState = true ∧
        py.toInt ((Py.get entries "released_atomic").orElse (.int 0)) = .ok v.expectedReleasedAtomic :=
      hreplied.exists_dict_iff _
    have hnumber : py.toInt ((Py.Value.int released).orElse (.int 0)) = .ok released := by
      by_cases hzero : released = 0 <;> simp [Py.Value.orElse, Py.Value.truthy, hzero, Py.Interpreter.toInt]
    rw [hfields, hstate, isText_jsonText, hreleased, hnumber, answersState_eq hreplay, hstateIs, hreleasedIs]
    simp [holds]
  | error e =>
    have hnot : answersState mod v = false := by simp only [answersState, hreplay]
    rw [hnot]
    refine iff_of_false ?_ Bool.false_ne_true
    rintro ⟨entries, ⟨resp, hpost, hstatus, -⟩, -⟩
    cases htransition : mod.isTransitionError e with
    | true =>
      obtain ⟨resp', hpost', hlow, -⟩ := h.refused n v.log e hreplay htransition
      cases hpost.symm.trans hpost'
      omega
    | false =>
      have := h.crashed n v.log e resp hreplay htransition hpost
      omega

/-- Served vectors are refused as the implementation refuses them. -/
theorem illegalAnswered_iff (h : Serves mod post base) (v : IllegalVector) (n : Nat) :
    IllegalAnswered post base (v, n) ↔ answersIllegal mod v = true := by
  cases hreplay : mod.replay v.log with
  | ok job =>
    obtain ⟨entries, state, released, ⟨resp, hpost, hstatus, -⟩, -⟩ := h.replayed n v.log job hreplay
    refine iff_of_false ?_ (by simp [answersIllegal, hreplay])
    rintro ⟨resp', hpost', hlow, -⟩
    cases hpost.symm.trans hpost'
    omega
  | error e =>
    have hanswers : answersIllegal mod v = mod.isTransitionError e := by simp only [answersIllegal, hreplay]
    rw [hanswers]
    cases htransition : mod.isTransitionError e with
    | true => exact iff_of_true (h.refused n v.log e hreplay htransition) rfl
    | false =>
      refine iff_of_false ?_ Bool.false_ne_true
      rintro ⟨resp, hpost, -, hhigh⟩
      have := h.crashed n v.log e resp hreplay htransition hpost
      omega

/-- Served vectors are encoded as the implementation encodes them. -/
theorem bondAnswered_iff (h : Serves mod post base) (v : ViewBondVector) (n : Nat) :
    BondAnswered py repr post base (v, n) ↔ answersViewBond mod v = true := by
  cases hdata : viewBondData mod v with
  | ok data =>
    obtain ⟨entries, hreplied, hhex⟩ := h.encoded n v data hdata
    have hfields : BondAnswered py repr post base (v, n) ↔
        strOf py repr ((Py.get entries "data_hex").orElse (.str [])) = .ok (Py.Str.ofString v.expectedDataHex) :=
      hreplied.exists_dict_iff _
    have htext : strOf py repr ((jsonText (Bytes.hex data)).orElse (.str [])) = .ok (Py.Str.ofString (Bytes.hex data)) := by
      cases hempty : Py.Str.ofString (Bytes.hex data) <;>
        simp [jsonText, hempty, Py.Value.orElse, Py.Value.truthy, strOf]
    rw [hfields, hhex, htext]
    simp [answersViewBond, hdata, Py.Str.ofString_injective.eq_iff]
  | error e =>
    refine iff_of_false ?_ (by simp [answersViewBond, hdata])
    rintro ⟨entries, ⟨resp, hpost, hstatus, -⟩, -⟩
    exact h.notEncoded n v e resp hdata hpost hstatus

/-! ## The two transports -/

/-- A vector that is answered raises nothing. -/
theorem not_raisesOn_of_answers {v : StateVector} {e : mod.Exc} (h : answersState mod v = true) : ¬RaisesOn mod v e := by
  intro he
  have htry := tryState_of_answers h
  rw [tryState_of_raisesOn he] at htry
  cases htry

/-- A vector that is answered is encoded. -/
theorem encodes_of_answers {v : ViewBondVector} (h : answersViewBond mod v = true) : Encodes mod v := by
  rw [encodes_iff]
  cases hdata : viewBondData mod v with
  | ok data => exact ⟨data, rfl⟩
  | error e => simp [answersViewBond, hdata] at h

/-- The loops return an ok report exactly when the implementation answers every vector. -/
theorem runVectors_ok_iff (mod : TargetModule) (stateVectors : List StateVector) (illegalVectors : List IllegalVector)
    (viewBondVectors : List ViewBondVector) :
    (∃ r, runVectors mod stateVectors illegalVectors viewBondVectors = .ok r ∧ r.ok = true) ↔
      (∀ v ∈ stateVectors, answersState mod v = true) ∧ (∀ v ∈ illegalVectors, answersIllegal mod v = true) ∧
        ∀ v ∈ viewBondVectors, answersViewBond mod v = true := by
  constructor
  · rintro ⟨r, hr, hok⟩
    exact (accounts_of_runVectors hr).ok.mp hok
  · intro h
    have hguarded : Guarded mod stateVectors viewBondVectors :=
      ⟨fun v hv e he => absurd he (not_raisesOn_of_answers (h.1 v hv)), fun v hv => encodes_of_answers (h.2.2 v hv)⟩
    obtain ⟨r, hr⟩ := (runVectors_ends_iff mod stateVectors illegalVectors viewBondVectors).mpr hguarded
    exact ⟨r, hr, (accounts_of_runVectors hr).ok.mpr h⟩

/-- The items of a numbered list, without their numbers. -/
theorem counted_of_zipIdx {α : Type} {answered : α × Nat → Bool} {p : α → Bool} {name : α → String} {vs : List α} {n : Nat}
    {count : Count} (hp : ∀ v n, answered (v, n) = p v) (h : Counted answered (LineOf fun v => name v.1) (vs.zipIdx n) count) :
    Counted p (LineOf name) vs count := by
  obtain rfl : answered = fun v => p v.1 := funext fun v => hp v.1 v.2
  have hmap : Counted p (LineOf name) ((vs.zipIdx n).map Prod.fst) count := h.map
  rwa [List.zipIdx_map_fst] at hmap

/-- What the HTTP transport counts of an endpoint that serves an implementation is what the implementation answers. -/
theorem accounts_of_serves (h : Serves mod post (rstripSlash endpoint)) (stateVectors : List StateVector)
    (illegalVectors : List IllegalVector) (viewBondVectors : List ViewBondVector) :
    Accounts mod stateVectors illegalVectors viewBondVectors
      (runHttpTransport py repr post endpoint stateVectors illegalVectors viewBondVectors) := by
  classical
  have htallied := httpTallied py repr post endpoint stateVectors illegalVectors viewBondVectors
  have hcounted : Tallied (answersState mod) (LineOf StateVector.name) (answersIllegal mod) (LineOf IllegalVector.name)
      (answersViewBond mod) (LineOf ViewBondVector.name) stateVectors illegalVectors viewBondVectors
      (runHttpTransport py repr post endpoint stateVectors illegalVectors viewBondVectors) := by
    refine ⟨counted_of_zipIdx ?_ htallied.state, counted_of_zipIdx ?_ htallied.illegal, counted_of_zipIdx ?_ htallied.viewBond⟩
    · intro v n
      rw [Bool.eq_iff_iff, decide_eq_true_eq, stateAnswered_iff h]
    · intro v n
      rw [Bool.eq_iff_iff, decide_eq_true_eq, illegalAnswered_iff h]
    · intro v n
      rw [Bool.eq_iff_iff, decide_eq_true_eq, bondAnswered_iff h]
  exact { hcounted with ok := hcounted.ok_iff }

/-- An endpoint that serves an implementation is judged as the implementation is. The reply to every vector is the expected one
exactly when the implementation's answer is, so the HTTP transport accounts for the vectors by the answers of the implementation;
what the python transport reports of it, the HTTP transport reports with the same numbers passed; and its report is ok exactly when
the python transport returns one that is. -/
theorem http_judges_implementation (mod : TargetModule) (py : Py.Interpreter) (repr : Py.Value → Except Py.Exception Py.Str)
    (post : Endpoint) (endpoint : Py.Str) (stateVectors : List StateVector) (illegalVectors : List IllegalVector)
    (viewBondVectors : List ViewBondVector) (r : ConformanceReport) (hserves : Serves mod post (rstripSlash endpoint))
    (hexports : ∀ name ∈ needed, mod.hasattr name = true)
    (hr : runHttpTransport py repr post endpoint stateVectors illegalVectors viewBondVectors = r) :
    ((∀ v n, StateAnswered py post (rstripSlash endpoint) (v, n) ↔ answersState mod v = true) ∧
      (∀ v n, IllegalAnswered post (rstripSlash endpoint) (v, n) ↔ answersIllegal mod v = true) ∧
      ∀ v n, BondAnswered py repr post (rstripSlash endpoint) (v, n) ↔ answersViewBond mod v = true) ∧
    Accounts mod stateVectors illegalVectors viewBondVectors r ∧
    (∀ r', runPythonTransport mod stateVectors illegalVectors viewBondVectors = .ok r' →
      Accounts mod stateVectors illegalVectors viewBondVectors r' ∧
      r.statePassed = r'.statePassed ∧ r.illegalPassed = r'.illegalPassed ∧ r.viewBondPassed = r'.viewBondPassed) ∧
    (r.ok = true ↔ ∃ r', runPythonTransport mod stateVectors illegalVectors viewBondVectors = .ok r' ∧ r'.ok = true) := by
  have haccounts : Accounts mod stateVectors illegalVectors viewBondVectors r := by
    rw [← hr]
    exact accounts_of_serves hserves stateVectors illegalVectors viewBondVectors
  have hmapped : ∀ r', runPythonTransport mod stateVectors illegalVectors viewBondVectors = .ok r' ↔
      runVectors mod stateVectors illegalVectors viewBondVectors = .ok r' := by
    intro r'
    rw [runPythonTransport_eq hexports]
    cases runVectors mod stateVectors illegalVectors viewBondVectors <;> simp [Except.mapError]
  refine ⟨⟨stateAnswered_iff hserves, illegalAnswered_iff hserves, bondAnswered_iff hserves⟩, haccounts, ?counts, ?verdict⟩
  case counts =>
    intro r' hr'
    have haccounts' := accounts_of_runVectors ((hmapped r').mp hr')
    exact ⟨haccounts', haccounts.state.passed.trans haccounts'.state.passed.symm,
      haccounts.illegal.passed.trans haccounts'.illegal.passed.symm,
      haccounts.viewBond.passed.trans haccounts'.viewBond.passed.symm⟩
  case verdict =>
    simp only [hmapped]
    rw [haccounts.ok, runVectors_ok_iff]

/-! ## The reference behind an endpoint -/

namespace HttpExample

def answer (x : Py.Value) : Response := ⟨200, .ok x, by decide⟩

def refusal : Response := ⟨400, .error ⟨.other "JSONDecodeError", ""⟩, by decide⟩

/-- The log in the body of a replay request. -/
def requestLog (body : Py.Value) : Option (List ArsEvent) := do
  let entries ← entriesOf body
  readLog (Py.get entries "events")

/-- The numbers in the body of an encoding request. -/
def requestBond (body : Py.Value) : Option (Int × Int) := do
  let entries ← entriesOf body
  let minBond ← intOf (Py.get entries "min_bond")
  let minScore ← intOf (Py.get entries "min_score")
  some (minBond, minScore)

def answerReplay (log : List ArsEvent) : Response :=
  match replay log with
  | .ok job => answer (Py.record [("state", jsonText job.state.text), ("released_atomic", .int job.releasedAtomic)])
  | .error _ => refusal

def answerBond (minBond minScore : Int) : Response :=
  match buildViewBondIx ⟨"conformance", conformanceAgent, minBond, minScore⟩ PROGRAM_ID_DEVNET with
  | .ok ix => answer (Py.record [("data_hex", jsonText (Bytes.hex ix.data))])
  | .error _ => refusal

/-- `telaro_ars` behind the protocol. -/
def referenceEndpoint (base : Py.Str) : Endpoint := fun _ url body =>
  if url = urlOf base "/replay" then .ok ((requestLog body).elim refusal answerReplay)
  else .ok ((requestBond body).elim refusal fun bond => answerBond bond.1 bond.2)

/-- The log is read off the body it was put into. -/
theorem requestLog_eventsBody (log : List ArsEvent) : requestLog (eventsBody log) = some log := by
  simp [requestLog, eventsBody, Py.get_entries, readLog_logDicts]

/-- The numbers are read off the body they were put into. -/
theorem requestBond_bondBody (v : ViewBondVector) : requestBond (bondBody v) = some (v.minBondAtomic, v.minScore) := by
  simp [requestBond, bondBody, Py.get_entries]

/-- The endpoint replays the log it is sent. -/
theorem post_replay (base : Py.Str) (n : Nat) (log : List ArsEvent) :
    referenceEndpoint base n (urlOf base "/replay") (eventsBody log) = .ok (answerReplay log) := by
  simp [referenceEndpoint, requestLog_eventsBody]

/-- The endpoint encodes the numbers it is sent. -/
theorem post_viewBond (base : Py.Str) (n : Nat) (v : ViewBondVector) :
    referenceEndpoint base n (urlOf base "/view_bond") (bondBody v) = .ok (answerBond v.minBondAtomic v.minScore) := by
  have hurl : urlOf base "/view_bond" ≠ urlOf base "/replay" := by
    intro h
    have := Py.Str.ofString_injective (List.append_cancel_left h)
    simp at this
  simp [referenceEndpoint, hurl, requestBond_bondBody]

/-- What the reference's module does of a log, and what the endpoint answers. -/
theorem answerReplay_self (py : Py.Interpreter) (log : List ArsEvent) :
    (∃ job : Job, (selfModule py).replay log = .ok job ∧ answerReplay log =
        answer (Py.record [("state", jsonText job.state.text), ("released_atomic", .int job.releasedAtomic)])) ∨
      ∃ e, (selfModule py).replay log = .error (.inl e) ∧ answerReplay log = refusal := by
  cases h : replay log with
  | ok job => exact Or.inl ⟨job, replay_self_ok py h, by simp only [answerReplay, h]⟩
  | error e => exact Or.inr ⟨e, replay_self_error py h, by simp only [answerReplay, h]⟩

/-- What it does of a vector of numbers. -/
theorem answerBond_self (py : Py.Interpreter) (v : ViewBondVector) :
    (∃ data, viewBondData (selfModule py) v = .ok data ∧ answerBond v.minBondAtomic v.minScore =
        answer (Py.record [("data_hex", jsonText (Bytes.hex data))])) ∨
      ∃ e, viewBondData (selfModule py) v = .error e ∧ answerBond v.minBondAtomic v.minScore = refusal := by
  cases h : buildViewBondIx ⟨"conformance", conformanceAgent, v.minBondAtomic, v.minScore⟩ PROGRAM_ID_DEVNET with
  | ok ix => exact Or.inl ⟨ix.data, viewBondData_self_ok py h, by simp only [answerBond, h]⟩
  | error e => exact Or.inr ⟨.inr e, viewBondData_self_error py h, by simp only [answerBond, h]⟩

/-- The reference is served. -/
theorem serves_reference (py : Py.Interpreter) (base : Py.Str) : Serves (selfModule py) (referenceEndpoint base) base where
  replayed n log job hjob := by
    rcases answerReplay_self py log with ⟨job', hjob', hanswer⟩ | ⟨e, he, -⟩
    · obtain rfl : job' = job := Except.ok.inj (hjob'.symm.trans hjob)
      refine ⟨Py.entries [("state", jsonText job'.state.text), ("released_atomic", .int job'.releasedAtomic)],
        job'.state.text, job'.releasedAtomic, ⟨_, post_replay base n log, ?_, ?_⟩, ?_⟩
      · rw [hanswer]
        rfl
      · rw [hanswer]
        rfl
      · simp [Py.get_entries, selfModule]
    · cases he.symm.trans hjob
  refused n log e he _ := by
    rcases answerReplay_self py log with ⟨job, hjob, -⟩ | ⟨-, -, hanswer⟩
    · cases hjob.symm.trans he
    · exact ⟨_, post_replay base n log, by rw [hanswer]; decide⟩
  crashed n log e resp he htransition _ := by
    rcases answerReplay_self py log with ⟨job, hjob, -⟩ | ⟨e', he', -⟩
    · cases hjob.symm.trans he
    · cases he'.symm.trans he
      cases htransition
  encoded n v data hdata := by
    rcases answerBond_self py v with ⟨data', hdata', hanswer⟩ | ⟨e, he, -⟩
    · obtain rfl : data' = data := Except.ok.inj (hdata'.symm.trans hdata)
      refine ⟨Py.entries [("data_hex", jsonText (Bytes.hex data'))], ⟨_, post_viewBond base n v, ?_, ?_⟩, ?_⟩
      · rw [hanswer]
        rfl
      · rw [hanswer]
        rfl
      · simp [Py.get_entries]
    · cases he.symm.trans hdata
  notEncoded n v e resp he hpost := by
    rcases answerBond_self py v with ⟨data, hdata, -⟩ | ⟨-, -, hanswer⟩
    · cases hdata.symm.trans he
    · rw [post_viewBond, hanswer] at hpost
      cases hpost
      decide

/-- The reference passes the corpus. -/
theorem corpus_passes :
    ∃ r, runPythonTransport (selfModule default) STATE_VECTORS ILLEGAL_VECTORS VIEW_BOND_VECTORS = .ok r ∧ r.ok = true := by
  obtain ⟨r, hr, hok⟩ := (runVectors_ok_iff (selfModule default) _ _ _).mpr corpus_answered
  exact ⟨r, by rw [runPythonTransport_eq (exports_self default), hr]; rfl, hok⟩

/-- The corpus, sent to the reference, passes. -/
theorem http_judges_reference :
    ∃ endpoint r, runHttpTransport default (fun _ => .ok []) (referenceEndpoint (rstripSlash endpoint)) endpoint STATE_VECTORS
        ILLEGAL_VECTORS VIEW_BOND_VECTORS = r ∧ r.ok = true := by
  obtain ⟨-, -, -, hverdict⟩ := http_judges_implementation (selfModule default) default (fun _ => .ok [])
    (referenceEndpoint (rstripSlash (Py.Str.ofString "https://localhost/"))) (Py.Str.ofString "https://localhost/") STATE_VECTORS
    ILLEGAL_VECTORS VIEW_BOND_VECTORS _ (serves_reference default _) (exports_self default) rfl
  exact ⟨_, _, rfl, hverdict.mpr corpus_passes⟩

end HttpExample

end ArsSolana.Python

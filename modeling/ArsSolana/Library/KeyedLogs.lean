import ArsSolana.Library.EventSourcing

/-!
# Logs kept apart by key

A store that keeps one log for each key and validates on append: the log of the event's key is replayed, and the event joins it
only when it is accepted next. Against it stands the reference store, which keeps one current state for each key. The results:
the log store tracks the reference store over any run of appends, accepted and refused ones mixed, and a key sees only its own
events, whatever is interleaved with them.
-/

namespace EventSourcing.Machine

variable {σ ε χ : Type} (M : Machine σ ε χ)

/-! ## One key: events offered one after another -/

/-- Why an event is refused in a state, `none` when it is accepted. -/
def verdict (s : Option σ) (e : ε) : Option χ :=
  match M.step s e with
  | .ok _ => none
  | .error x => some x

/-- The state after an event is offered: a refused event leaves it as it was. -/
def offer (s : Option σ) (e : ε) : Option σ :=
  match M.step s e with
  | .ok s' => some s'
  | .error _ => s

/-- The state after a run of offers. -/
def settle (s : Option σ) (es : List ε) : Option σ := es.foldl M.offer s

/-- Every offer of a run with its verdict. -/
def verdicts : Option σ → List ε → List (ε × Option χ)
  | _, [] => []
  | s, e :: es => (e, M.verdict s e) :: verdicts (M.offer s e) es

/-- The events of a list of verdicts that were accepted, in order. -/
def kept (vs : List (ε × Option χ)) : List ε := (vs.filter (fun v => v.2.isNone)).map (·.1)

/-- The accepted events of a run of offers, in order. -/
def accepted (s : Option σ) (es : List ε) : List ε := kept (M.verdicts s es)

/-- There is nothing against an event exactly when it is accepted. -/
theorem verdict_none_iff {s : Option σ} {e : ε} : M.verdict s e = none ↔ ∃ s', M.step s e = .ok s' := by
  unfold verdict
  split <;> simp_all

/-- What speaks against an event is the error of its step. -/
theorem verdict_some_iff {s : Option σ} {e : ε} {x : χ} : M.verdict s e = some x ↔ M.step s e = .error x := by
  unfold verdict
  split <;> simp_all

theorem offer_ok {s : Option σ} {e : ε} {s' : σ} (h : M.step s e = .ok s') : M.offer s e = some s' := by
  simp only [offer, h]

theorem offer_error {s : Option σ} {e : ε} {x : χ} (h : M.step s e = .error x) : M.offer s e = s := by
  simp only [offer, h]

/-- The first offer is among the accepted events exactly when nothing speaks against it. -/
theorem accepted_cons (s : Option σ) (e : ε) (es : List ε) :
    M.accepted s (e :: es) = (if M.verdict s e = none then [e] else []) ++ M.accepted (M.offer s e) es := by
  simp only [accepted, kept, verdicts, List.filter_cons]
  cases hv : M.verdict s e <;> simp

/-- The accepted events replay to the state the offers left. -/
theorem run_accepted (s : Option σ) (es : List ε) : M.run s (M.accepted s es) = .ok (M.settle s es) := by
  induction es generalizing s with
  | nil => rfl
  | cons e es ih =>
    rw [accepted_cons, settle, List.foldl_cons]
    cases he : M.step s e with
    | error x =>
      rw [if_neg (by simp [M.verdict_some_iff.mpr he]), M.offer_error he]
      exact ih s
    | ok s' =>
      rw [if_pos (M.verdict_none_iff.mpr ⟨s', he⟩), M.offer_ok he, List.singleton_append, M.run_cons_ok he]
      exact ih (some s')

/-- Every offer of an accepted log is accepted. -/
theorem verdicts_of_run {s t : Option σ} {es : List ε} (h : M.run s es = .ok t) : M.verdicts s es = es.map (·, none) := by
  induction es generalizing s with
  | nil => rfl
  | cons e es ih =>
    cases he : M.step s e with
    | error x =>
      rw [M.run_cons_error he] at h
      cases h
    | ok s' =>
      rw [M.run_cons_ok he] at h
      rw [verdicts, M.verdict_none_iff.mpr ⟨s', he⟩, M.offer_ok he, ih h, List.map_cons]

/-- All events of an accepted log are accepted. -/
theorem accepted_of_run {s t : Option σ} {es : List ε} (h : M.run s es = .ok t) : M.accepted s es = es := by
  rw [accepted, M.verdicts_of_run h, kept, List.filter_eq_self.mpr (by simp), List.map_map]
  exact List.map_id _

/-- Offering an accepted log leads where its run leads. -/
theorem settle_of_run {s t : Option σ} {es : List ε} (h : M.run s es = .ok t) : M.settle s es = t := by
  have hrun := M.run_accepted s es
  rw [M.accepted_of_run h, h] at hrun
  exact (Except.ok.inj hrun).symm

/-- What is accepted is among what was offered. -/
theorem accepted_sublist (s : Option σ) (es : List ε) : (M.accepted s es).Sublist es := by
  induction es generalizing s with
  | nil => exact List.Sublist.refl _
  | cons e es ih =>
    rw [accepted_cons]
    split
    · exact (ih _).cons_cons e
    · exact (ih _).cons e

/-- Offers leave no state exactly when none of them was accepted. -/
theorem settle_none_iff (es : List ε) : M.settle none es = none ↔ M.accepted none es = [] := by
  have hrun := M.run_accepted none es
  constructor
  · intro h
    by_contra hne
    obtain ⟨u, hu⟩ := M.run_some hrun hne
    rw [h] at hu
    cases hu
  · intro h
    rw [h] at hrun
    exact (Except.ok.inj hrun).symm

/-! ## Many keys: the reference store -/

section Keyed

variable {κ : Type} [DecidableEq κ] (key : ε → κ)

/-- One state for each key; an event is offered to the state of its key. -/
def offerAt (r : κ → Option σ) (e : ε) : κ → Option σ := Function.update r (key e) (M.offer (r (key e)) e)

/-- The states after a run of offers. -/
def settleAt (r : κ → Option σ) (es : List ε) : κ → Option σ := es.foldl (M.offerAt key) r

/-- Every offer of a run with its verdict. -/
def verdictsAt : (κ → Option σ) → List ε → List (ε × Option χ)
  | _, [] => []
  | r, e :: es => (e, M.verdict (r (key e)) e) :: verdictsAt (M.offerAt key r e) es

/-- An offer changes the state of its own key. -/
theorem offerAt_self (r : κ → Option σ) (e : ε) : M.offerAt key r e (key e) = M.offer (r (key e)) e := by
  simp only [offerAt, Function.update_self]

/-- An offer leaves the states of the other keys. -/
theorem offerAt_of_ne (r : κ → Option σ) {e : ε} {j : κ} (h : key e ≠ j) : M.offerAt key r e j = r j := by
  simp only [offerAt, Function.update_of_ne (Ne.symm h)]

/-- A key's state depends on its own events only. -/
theorem settleAt_apply (r : κ → Option σ) (es : List ε) (j : κ) :
    M.settleAt key r es j = M.settle (r j) (es.filter (fun e => key e = j)) := by
  induction es generalizing r with
  | nil => rfl
  | cons e es ih =>
    rw [settleAt, List.foldl_cons, ← settleAt, ih]
    by_cases h : key e = j
    · subst h
      simp only [offerAt_self, List.filter_cons, decide_true, if_true, settle, List.foldl_cons]
    · simp only [M.offerAt_of_ne key r h, List.filter_cons, h, decide_false, Bool.false_eq_true, if_false]

theorem verdictsAt_fst (r : κ → Option σ) (es : List ε) : (M.verdictsAt key r es).map (·.1) = es := by
  induction es generalizing r with
  | nil => rfl
  | cons e es ih => rw [verdictsAt, List.map_cons, ih]

/-- The verdicts on a key's events depend on its own events only. -/
theorem verdictsAt_filter (r : κ → Option σ) (es : List ε) (j : κ) :
    (M.verdictsAt key r es).filter (fun v => key v.1 = j) = M.verdicts (r j) (es.filter (fun e => key e = j)) := by
  induction es generalizing r with
  | nil => rfl
  | cons e es ih =>
    rw [verdictsAt]
    by_cases h : key e = j
    · subst h
      simp only [List.filter_cons, decide_true, if_true, verdicts, ih, offerAt_self]
    · simp only [List.filter_cons, h, decide_false, Bool.false_eq_true, if_false, ih, M.offerAt_of_ne key r h]

/-! ## What is put out -/

/-- What a run of offers puts out, when each event does depending on the state it is offered to. -/
def outputs {β : Type} (out : Option σ → ε → List β) : Option σ → List ε → List β
  | _, [] => []
  | s, e :: es => out s e ++ outputs out (M.offer s e) es

/-- What a run of offers puts out, over all keys. -/
def outputsAt {β : Type} (out : Option σ → ε → List β) : (κ → Option σ) → List ε → List β
  | _, [] => []
  | r, e :: es => out (r (key e)) e ++ outputsAt out (M.offerAt key r e) es

/-- What is put out for a key depends on its own events only. -/
theorem outputsAt_filter {β : Type} {out : Option σ → ε → List β} {keyOf : β → κ}
    (hout : ∀ s e, ∀ b ∈ out s e, keyOf b = key e) (r : κ → Option σ) (es : List ε) (j : κ) :
    (M.outputsAt key out r es).filter (fun b => keyOf b = j) = M.outputs out (r j) (es.filter (fun e => key e = j)) := by
  induction es generalizing r with
  | nil => rfl
  | cons e es ih =>
    rw [outputsAt, List.filter_append, ih]
    by_cases h : key e = j
    · subst h
      have hall : (out (r (key e)) e).filter (fun b => keyOf b = key e) = out (r (key e)) e :=
        List.filter_eq_self.mpr fun b hb => decide_eq_true (hout _ _ b hb)
      rw [hall, offerAt_self, List.filter_cons_of_pos (by simp), outputs]
    · have hnone : (out (r (key e)) e).filter (fun b => keyOf b = j) = [] :=
        List.filter_eq_nil_iff.mpr fun b hb => by simp [hout _ _ b hb, h]
      rw [hnone, List.nil_append, M.offerAt_of_ne key r h, List.filter_cons_of_neg (by simp [h])]

/-! ## The log store -/

/-- Append an event to the log of its key if that log, replayed, accepts it next; else leave the logs and say why. -/
def append (L : κ → List ε) (e : ε) : (κ → List ε) × Option χ :=
  match M.run none (L (key e)) with
  | .error x => (L, some x)
  | .ok s =>
    match M.step s e with
    | .error x => (L, some x)
    | .ok _ => (Function.update L (key e) (L (key e) ++ [e]), none)

/-- The logs and the verdicts after a run of appends. -/
def appendAll : (κ → List ε) → List ε → (κ → List ε) × List (ε × Option χ)
  | L, [] => (L, [])
  | L, e :: es =>
    let (L', v) := M.append key L e
    let (L'', vs) := appendAll L' es
    (L'', (e, v) :: vs)

/-- The logs track the states: each log replays to the state of its key. -/
def Tracks (L : κ → List ε) (r : κ → Option σ) : Prop := ∀ j, M.run none (L j) = .ok (r j)

variable {M} in
/-- Over tracked logs an append is accepted exactly when the state of the event's key accepts the event, for the same
reason if not; the logs stay tracked, and only the log of that key grows, by that event. -/
theorem Tracks.append {L : κ → List ε} {r : κ → Option σ} (h : M.Tracks L r) (e : ε) :
    (M.append key L e).2 = M.verdict (r (key e)) e ∧ M.Tracks (M.append key L e).1 (M.offerAt key r e) ∧
      ∀ j, (M.append key L e).1 j = L j ++ if key e = j ∧ M.verdict (r (key e)) e = none then [e] else [] := by
  unfold Machine.append
  rw [h (key e)]
  cases he : M.step (r (key e)) e with
  | error x =>
    have hv := M.verdict_some_iff.mpr he
    refine ⟨by simp [he, hv], ?_, fun j => by simp [he, hv]⟩
    intro j
    by_cases hj : key e = j
    · subst hj
      simpa [he, offerAt_self, M.offer_error he] using h (key e)
    · simpa [he, M.offerAt_of_ne key r hj] using h j
  | ok s' =>
    have hv := M.verdict_none_iff.mpr ⟨s', he⟩
    refine ⟨by simp [he, hv], ?_, ?_⟩
    · intro j
      by_cases hj : key e = j
      · subst hj
        simp only [he, Function.update_self, offerAt_self, M.offer_ok he]
        exact M.run_concat_iff.mpr ⟨_, _, h (key e), he, rfl⟩
      · simpa [he, Function.update_of_ne (Ne.symm hj), M.offerAt_of_ne key r hj] using h j
    · intro j
      by_cases hj : key e = j
      · subst hj
        simp [he, hv]
      · simp [he, Function.update_of_ne (Ne.symm hj), hj]

variable {M} in
/-- The log store simulates the reference store: over a run of appends the verdicts are the reference store's, the logs stay
tracked, and each log grows by the accepted events of its key, in order. -/
theorem Tracks.appendAll {L : κ → List ε} {r : κ → Option σ} (h : M.Tracks L r) (es : List ε) :
    (M.appendAll key L es).2 = M.verdictsAt key r es ∧ M.Tracks (M.appendAll key L es).1 (M.settleAt key r es) ∧
      ∀ j, (M.appendAll key L es).1 j = L j ++ M.accepted (r j) (es.filter (fun e => key e = j)) := by
  induction es generalizing L r with
  | nil => exact ⟨rfl, h, fun j => by simp [Machine.appendAll, accepted, verdicts, kept]⟩
  | cons e es ih =>
    obtain ⟨hv, ht, hl⟩ := h.append key e
    obtain ⟨hv', ht', hl'⟩ := ih ht
    refine ⟨by simp only [Machine.appendAll, verdictsAt, hv, hv'], ht', ?_⟩
    intro j
    simp only [Machine.appendAll]
    rw [hl', hl]
    by_cases hj : key e = j
    · subst hj
      simp only [List.filter_cons, decide_true, if_true, accepted_cons, true_and, offerAt_self, List.append_assoc]
    · simp only [M.offerAt_of_ne key r hj, List.filter_cons, hj, decide_false, Bool.false_eq_true, if_false, false_and,
        List.append_nil]

omit [DecidableEq κ] in
/-- Empty logs track no state. -/
theorem tracks_nil : M.Tracks (fun _ : κ => ([] : List ε)) (fun _ => none) := fun _ => rfl

end Keyed

end EventSourcing.Machine

namespace EventSourcing

/-- A list taken apart by a key is the list again, but for the order. -/
theorem perm_flatMap_filter {ε κ : Type} [DecidableEq κ] (key : ε → κ) {keys : List κ} (hkeys : keys.Nodup) {es : List ε}
    (h : ∀ e ∈ es, key e ∈ keys) : (keys.flatMap fun k => es.filter (fun e => key e = k)).Perm es := by
  induction keys generalizing es with
  | nil =>
    rw [List.eq_nil_iff_forall_not_mem.mpr fun e he => List.not_mem_nil (h e he)]
    exact List.Perm.refl _
  | cons k keys ih =>
    obtain ⟨hk, hkeys⟩ := List.nodup_cons.mp hkeys
    have hother : ∀ k' ∈ keys, es.filter (fun e => key e = k') =
        (es.filter (fun e => !decide (key e = k))).filter (fun e => key e = k') := by
      intro k' hk'
      rw [List.filter_filter]
      refine List.filter_congr fun e _ => ?_
      by_cases he : key e = k'
      · have hne : key e ≠ k := fun h => hk (by rwa [← h, he])
        simp [he, he ▸ hne]
      · simp [he]
    have hrest : ∀ e ∈ es.filter (fun e => !decide (key e = k)), key e ∈ keys := by
      intro e he
      obtain ⟨hmem, hne⟩ := List.mem_filter.mp he
      exact (List.mem_cons.mp (h e hmem)).resolve_left (by simpa using hne)
    rw [List.flatMap_cons, List.flatMap_congr hother]
    exact ((ih hkeys hrest).append_left _).trans (List.filter_append_perm _ _)

end EventSourcing

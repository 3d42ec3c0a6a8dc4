import ArsSolana.Lemmas.Builders

/-!
# Instruction data says which call it is

The data of the five instructions is a code: a discriminator, then the arguments as little-endian integers of the widths of the
layout. One decoder reads it back to the method and the arguments of the intent.
-/

namespace ArsSolana.Python

/-- An instruction with its arguments in order and the bytes each takes. -/
structure Layout where
  method : String
  fields : List (String × Nat)
  deriving DecidableEq, Repr

def layouts : List Layout := [
  ⟨"view_bond", [("min_bond", 8), ("min_score", 2)]⟩,
  ⟨"resolve_claim", [("action", 1)]⟩,
  ⟨"withdraw_bond", [("amount", 8)]⟩,
  ⟨"process_pool_yield", [("amount", 8)]⟩,
  ⟨"request_credit", [("amount", 8)]⟩]

/-- Read the arguments of a layout, and require the data to end. -/
def readArgs : List (String × Nat) → Bytes → Option (List (String × Int))
  | [], data => if data = [] then some [] else none
  | (name, width) :: fields, data => do
    let (value, data) ← Bytes.readLE width data
    let args ← readArgs fields data
    some ((name, value) :: args)

/-- Match the discriminator, then read the arguments. -/
def decodeData (data : Bytes) : Option (String × List (String × Int)) := do
  let layout ← layouts.find? fun layout => disc layout.method = data.take 8
  let args ← readArgs layout.fields (data.drop 8)
  some (layout.method, args)

/-! ## Reading back what was written -/

/-- An argument to be written: its name, its width in bytes, its value. -/
structure Arg where
  name : String
  width : Nat
  value : Int

def Arg.Fits (a : Arg) : Prop := 0 ≤ a.value ∧ a.value < 256 ^ a.width

/-- Arguments that fit are read back. -/
theorem readArgs_write {args : List Arg} (h : ∀ a ∈ args, a.Fits) :
    readArgs (args.map fun a => (a.name, a.width)) (args.flatMap fun a => Bytes.toLE a.width a.value.toNat) =
      some (args.map fun a => (a.name, a.value)) := by
  induction args with
  | nil => rfl
  | cons a args ih =>
    have hfits : a.Fits := h a (by simp)
    have hlt : a.value.toNat < 256 ^ a.width := by
      have hpos := hfits.1
      have hbound := hfits.2
      zify
      rwa [Int.toNat_of_nonneg hpos]
    have hvalue : (a.value.toNat : Int) = a.value := Int.toNat_of_nonneg hfits.1
    rw [List.map_cons, List.flatMap_cons, readArgs, Bytes.readLE_append hlt]
    simp only [Option.bind_eq_bind, Option.bind_some, ih fun b hb => h b (by simp [hb]), hvalue, List.map_cons]

theorem length_disc (name : String) : (disc name).length = 8 := by simp [disc]

/-- The five discriminators are distinct: each finds its own layout. -/
theorem find_layout : ∀ l ∈ layouts, (layouts.find? fun m => disc m.method = disc l.method) = some l := by decide +kernel

/-- The data of a call is decoded to it. -/
theorem decodeData_write {method : String} {args : List Arg} (h : ∀ a ∈ args, a.Fits)
    (hl : ⟨method, args.map fun a => (a.name, a.width)⟩ ∈ layouts) :
    decodeData (disc method ++ args.flatMap fun a => Bytes.toLE a.width a.value.toNat) =
      some (method, args.map fun a => (a.name, a.value)) := by
  have hlen := length_disc method
  unfold decodeData
  rw [List.take_left' hlen, List.drop_left' hlen, find_layout _ hl]
  simp only [Option.bind_eq_bind, Option.bind_some, readArgs_write h]

/-! ## The builders -/

/-- The data of an instruction with one argument. -/
theorem decodeData_single {method name : String} {width : Nat} (hl : ⟨method, [(name, width)]⟩ ∈ layouts) {value : Int}
    (h : 0 ≤ value ∧ value < 256 ^ width) :
    decodeData (disc method ++ Bytes.toLE width value.toNat) = some (method, [(name, value)]) := by
  have hfits : ∀ a ∈ [Arg.mk name width value], a.Fits := by
    intro a ha
    rw [List.mem_singleton.mp ha]
    exact h
  simpa using decodeData_write hfits hl

/-- The data of an instruction with one amount. -/
theorem decodeData_amount {method : String} (hl : ⟨method, [("amount", 8)]⟩ ∈ layouts) {amount : Int}
    (h : 0 ≤ amount ∧ amount < 2 ^ 64) :
    decodeData (disc method ++ Bytes.toLE 8 amount.toNat) = some (method, [("amount", amount)]) := by
  have hbound : amount < 256 ^ 8 := by
    have hhi := h.2
    norm_num
    omega
  exact decodeData_single hl ⟨h.1, hbound⟩

/-- In range a builder succeeds, and its data is decoded to the call of the intent. -/
theorem run_of_inRange (py : Py.Interpreter) (solders : Solders) (programId : Pubkey) {b : Build} (h : b.InRange) :
    ∃ ix, b.run py solders programId = .ok ix ∧
      decodeData ix.data = some ((b.intent programId).method, (b.intent programId).args) := by
  cases b with
  | viewBond params =>
    obtain ⟨hbond, hscore⟩ := h
    have hfits : ∀ a ∈ [Arg.mk "min_bond" 8 params.minBondAtomic, Arg.mk "min_score" 2 params.minScore], a.Fits := by
      intro a ha
      rcases List.mem_pair.mp ha with rfl | rfl
      · exact ⟨hbond.1, by norm_num; omega⟩
      · exact ⟨hscore.1, by norm_num; omega⟩
    refine ⟨_, by rw [Build.run, buildViewBondIx, if_neg (by omega), if_neg (by omega)], ?_⟩
    have hl : Layout.mk "view_bond" [("min_bond", 8), ("min_score", 2)] ∈ layouts := by decide
    have hdecode := decodeData_write hfits hl
    simp only [List.flatMap_cons, List.flatMap_nil, List.append_nil, ← List.append_assoc] at hdecode
    exact hdecode
  | resolveClaim params action =>
    have hlo : 0 ≤ action := h.1
    have hhi : action < 2 ^ 8 := h.2
    have hbyte : ¬¬(0 ≤ action ∧ action ≤ 255) := by omega
    refine ⟨_, by rw [Build.run, buildResolveClaimIx, if_neg hbyte], ?_⟩
    have hbound : action < 256 ^ 1 := by omega
    have hdecode := decodeData_single (by decide : Layout.mk "resolve_claim" [("action", 1)] ∈ layouts) ⟨hlo, hbound⟩
    simp only [Bytes.toLE] at hdecode
    exact hdecode
  | withdrawBond params =>
    refine ⟨_, by rw [Build.run, buildWithdrawBondIx, u64Le_ok py h]; rfl, ?_⟩
    exact decodeData_amount (by decide) h
  | processPoolYield params sourceAta =>
    refine ⟨_, by rw [Build.run, buildProcessPoolYieldIx, u64Le_ok py h]; rfl, ?_⟩
    exact decodeData_amount (by decide) h
  | requestCredit params controller =>
    refine ⟨_, by rw [Build.run, buildRequestCreditIx, u64Le_ok py h]; rfl, ?_⟩
    exact decodeData_amount (by decide) h

/-- Out of range a builder raises `ValueError`. -/
theorem run_of_not_inRange (py : Py.Interpreter) (solders : Solders) (programId : Pubkey) {b : Build} (h : ¬b.InRange) :
    ∃ e, b.run py solders programId = .error e ∧ e.type = .valueError := by
  cases b with
  | viewBond params =>
    rw [Build.run, buildViewBondIx]
    by_cases hscore : 0 ≤ params.minScore ∧ params.minScore ≤ 0xFFFF
    · have hbond : ¬(0 ≤ params.minBondAtomic ∧ params.minBondAtomic ≤ 0xFFFFFFFFFFFFFFFF) := by
        intro hbond
        exact h ⟨by omega, by omega⟩
      rw [if_neg (not_not_intro hscore), if_pos hbond]
      exact ⟨_, rfl, rfl⟩
    · rw [if_pos hscore]
      exact ⟨_, rfl, rfl⟩
  | resolveClaim params action =>
    have hbound : ¬(0 ≤ action ∧ action ≤ 255) := by
      intro hbound
      exact h ⟨hbound.1, by omega⟩
    rw [Build.run, buildResolveClaimIx, if_pos hbound]
    exact ⟨_, rfl, rfl⟩
  | withdrawBond params =>
    obtain ⟨e, he, htype⟩ := u64Le_error py h
    exact ⟨e, by rw [Build.run, buildWithdrawBondIx, he]; rfl, htype⟩
  | processPoolYield params sourceAta =>
    obtain ⟨e, he, htype⟩ := u64Le_error py h
    exact ⟨e, by rw [Build.run, buildProcessPoolYieldIx, he]; rfl, htype⟩
  | requestCredit params controller =>
    obtain ⟨e, he, htype⟩ := u64Le_error py h
    exact ⟨e, by rw [Build.run, buildRequestCreditIx, he]; rfl, htype⟩

/-- The data of a built instruction decode to the method and the arguments of its intent. -/
theorem decodeData_of_run {py : Py.Interpreter} {solders : Solders} {programId : Pubkey} {b : Build} {ix : Instruction}
    (h : b.run py solders programId = .ok ix) :
    decodeData ix.data = some ((b.intent programId).method, (b.intent programId).args) := by
  by_cases hr : b.InRange
  · obtain ⟨ix', hix', hdecode⟩ := run_of_inRange py solders programId hr
    obtain rfl := Except.ok.inj (h.symm.trans hix')
    exact hdecode
  · obtain ⟨e, he, -⟩ := run_of_not_inRange py solders programId hr
    rw [h] at he
    cases he

/-- The instruction data of the five builders is a uniquely decodable code. A builder succeeds exactly in range, else it raises
`ValueError`; what it builds is decoded to the method and the arguments of the matching intent, the action of an intent being 0;
and two instructions with equal data are of one method with the same arguments. -/
theorem instruction_data_uniquely_decodable (py : Py.Interpreter) (solders : Solders) :
    (∀ (b : Build) (programId : Pubkey),
      (b.InRange ↔ ∃ ix, b.run py solders programId = .ok ix) ∧
        (¬b.InRange → ∃ e, b.run py solders programId = .error e ∧ e.type = .valueError) ∧
        ∀ ix, b.run py solders programId = .ok ix →
          decodeData ix.data = some ((b.intent programId).method, (b.intent programId).args)) ∧
    (∀ (params : SlashCollateralParams) (programId : Pubkey),
      (Build.resolveClaim params 0).intent programId = slashCollateralIntent params programId) ∧
    ∀ (b b' : Build) (programId programId' : Pubkey) (ix ix' : Instruction),
      b.run py solders programId = .ok ix → b'.run py solders programId' = .ok ix' → ix.data = ix'.data →
      (b.intent programId).method = (b'.intent programId').method ∧
        (b.intent programId).args = (b'.intent programId').args := by
  refine ⟨fun b programId => ⟨⟨?inRange, ?succeeds⟩, run_of_not_inRange py solders programId, fun _ => decodeData_of_run⟩,
    fun _ _ => rfl, ?unique⟩
  case inRange =>
    intro h
    obtain ⟨ix, hix, -⟩ := run_of_inRange py solders programId h
    exact ⟨ix, hix⟩
  case succeeds =>
    intro hex
    obtain ⟨ix, hix⟩ := hex
    by_contra hr
    obtain ⟨e, he, -⟩ := run_of_not_inRange py solders programId hr
    rw [hix] at he
    cases he
  case unique =>
    intro b b' programId programId' ix ix' h h' hdata
    have hdecode := (decodeData_of_run h).symm.trans ((congrArg decodeData hdata).trans (decodeData_of_run h'))
    exact Prod.mk.inj (Option.some.inj hdecode)

end ArsSolana.Python

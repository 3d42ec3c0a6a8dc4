import ArsSolana.Lemmas.Builders
import ArsSolana.Lemmas.Derivations

/-!
# No two account roles share an address

The seeds of a program address are hashed one after another without delimiters. For the eight derivations of `pda.py` this is
still a code: the string of seeds says which function was called, and with which key. So the addresses one builder derives are as
distinct as the hash makes its inputs.
-/

namespace ArsSolana.Python

/-- The derivations of a builder, in the order of its accounts. -/
def Build.derivations : Build → List Derivation
  | viewBond _ => []
  | resolveClaim params _ => [.bondVault params.agent, .depositVault params.claim]
  | withdrawBond params => [.bondVault params.agent]
  | processPoolYield _ _ => [.poolConfig, .poolVault]
  | requestCredit params _ =>
    [.creditLine params.agent, .bondVault params.agent, .poolConfig, .poolVault, .poolMintAuth]

/-- Among these derivations, different hash inputs lead to different addresses. -/
def CollisionFree (solders : Solders) (programId : Pubkey) (derivations : List Derivation) : Prop :=
  ∀ d ∈ derivations, ∀ e ∈ derivations, d.input solders programId ≠ e.input solders programId →
    (d.pda solders programId).1 ≠ (e.pda solders programId).1

/-- A builder derives no address twice. -/
theorem Build.derivations_nodup (b : Build) : b.derivations.Nodup := by
  cases b <;> simp [Build.derivations]

/-- The derived addresses stand among the accounts, one after another. -/
theorem Build.derivations_infix (solders : Solders) (programId : Pubkey) (b : Build) :
    (b.derivations.map fun d => (d.pda solders programId).1) <:+:
      (b.accounts solders programId).map AccountMeta.pubkey := by
  cases b with
  | viewBond params => exact List.nil_infix
  | resolveClaim params action =>
    exact ⟨[params.claim, params.agent, params.bondMint], [params.claimerBondAta, params.signer, TOKEN_PROGRAM_ID], rfl⟩
  | withdrawBond params =>
    exact ⟨[params.agent, params.bondMint], [params.controllerBondAta, params.controller, TOKEN_PROGRAM_ID], rfl⟩
  | processPoolYield params sourceAta =>
    exact ⟨[], [sourceAta.getD params.underwriter, params.payer, TOKEN_PROGRAM_ID], rfl⟩
  | requestCredit params controller =>
    exact ⟨[params.agent], [controller.getD params.agent, TOKEN_PROGRAM_ID, SYSTEM_PROGRAM_ID], rfl⟩

/-- Where the hash has no collision, the addresses of derivations are pairwise distinct. -/
theorem addresses_nodup {solders : Solders} {programId : Pubkey} {derivations : List Derivation}
    (h : CollisionFree solders programId derivations) (hd : derivations.Nodup) :
    (derivations.map fun d => (d.pda solders programId).1).Nodup := by
  refine List.Nodup.map_on ?_ hd
  intro d hdm e hem haddr
  by_contra hne
  have hinput : d.input solders programId ≠ e.input solders programId := by
    intro heq
    exact hne (Derivation.input_injective heq)
  exact h d hdm e hem hinput haddr

/-- The seeds of two derivations, one after another and with any bump bytes appended, are equal only if the derivations are the
same function of the same key. So under one program id, and as far as the hash has no collision among its derivations, a builder
places its derived addresses pairwise distinct. -/
theorem pdas_never_alias :
    (∀ (solders : Solders) (programId : Pubkey) (d : Derivation),
      d.pda solders programId = solders.findProgramAddress d.seeds programId) ∧
    (∀ (d e : Derivation) (bump bump' : UInt8),
      d.seeds.flatten ++ [bump] = e.seeds.flatten ++ [bump'] → d = e) ∧
    ∀ (py : Py.Interpreter) (solders : Solders) (programId : Pubkey) (b : Build) (ix : Instruction),
      b.run py solders programId = .ok ix → CollisionFree solders programId b.derivations →
      (b.derivations.map fun d => (d.pda solders programId).1) <:+: ix.accounts.map AccountMeta.pubkey ∧
        (b.derivations.map fun d => (d.pda solders programId).1).Nodup := by
  refine ⟨Derivation.pda_eq, ?seeds, ?placed⟩
  case seeds =>
    intro d e bump bump' h
    exact Derivation.flatten_seeds_injective (List.append_inj_left' h rfl)
  case placed =>
    intro py solders programId b ix h hfree
    rw [accounts_of_run h]
    exact ⟨b.derivations_infix solders programId, addresses_nodup hfree b.derivations_nodup⟩

open DevnetExample SoldersExample in
/-- The two vaults of `resolve_claim` differ even where the claim is the agent. -/
theorem vaults_differ_for_one_key :
    let b := Build.resolveClaim ⟨"j", key 1, key 1, key 2, key 3, key 4⟩ 0
    (b.derivations.map fun d => (d.pda solders PROGRAM_ID_DEVNET).1).Nodup := by
  intro b
  have hfree : CollisionFree solders PROGRAM_ID_DEVNET b.derivations := by
    unfold CollisionFree
    decide +kernel
  exact (pdas_never_alias.2.2 default solders PROGRAM_ID_DEVNET b _ rfl hfree).2

end ArsSolana.Python

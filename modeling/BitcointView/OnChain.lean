import BitcointView.Contract
import BitcointView.OracleLoop

/-!
On-chain price sources. The engine's oracle loop asks an instance only on the branch for assets
without oracles, and there only `MANUALCURRENT`, so no path asks the `UNISWAPV2` or `UNISWAPV3`
instance, whatever `skip_onchain` says. Pool contracts are still read through the EVM manager
when an EVM token's protocol is priced as a pool, and `skip_onchain` does not stop that.
-/

namespace BitcointView

open Prog

def OracleTag.OffChain (o : OracleTag) : Prop := o ≠ .member .uniswapv2 ∧ o ≠ .member .uniswapv3

def Query.OnchainInstance (q : Query) : Prop :=
  q.adapter? = some .uniswapv2 ∨ q.adapter? = some .uniswapv3

def Query.FiatOffChain : (q : Query) → q.Answer → Prop
  | .queryFiatPair .., .ok (_, o) => OracleTag.OffChain (.member o)
  | _, _ => True

def offChain : Contract where
  entry r := r.2.1.OffChain
  answer := Query.FiatOffChain
  ask q := ¬ q.OnchainInstance
  result r := r.2.1.OffChain

theorem offChain_member {o : CurrentPriceOracle} (h : o = .blockchain ∨ o = .manualcurrent ∨
    o = .fiat) : (OracleTag.member o).OffChain := by
  rcases h with rfl | rfl | rfl <;> exact ⟨by decide, by decide⟩

theorem not_onchainInstance_of_adapter {q : Query} {a : Adapter} (h : q.adapter? = some a)
    (ha : a ≠ .uniswapv2 ∧ a ≠ .uniswapv3) : ¬ q.OnchainInstance := by
  rintro (h' | h') <;> rw [h] at h' <;> cases h' <;> simp at ha

theorem not_onchainInstance_of_adapter_none {q : Query} (h : q.adapter? = none) :
    ¬ q.OnchainInstance := by
  rintro (h' | h') <;> rw [h] at h' <;> cases h'

def AsksManualOnly : Effect → Prop
  | .ask q => q.adapter? = none ∨ q.adapter? = some .manualcurrent
  | _ => True

theorem offChain_asks_of_manualOnly (e : Effect) (h : AsksManualOnly e) : offChain.Asks e := by
  cases e with
  | ask q =>
    exact h.elim not_onchainInstance_of_adapter_none fun h =>
      not_onchainInstance_of_adapter h ⟨by decide, by decide⟩
  | _ => trivial

theorem every_cachedOr {P : Effect → Prop} {ignoreCache : Bool} {k : CacheKey} {m : Bool}
    {miss : Prog Triple} (hk : P (.lookup k)) (h : miss.Every P) :
    (cachedOr ignoreCache k m miss).Every P := by
  unfold cachedOr
  split
  · refine ⟨hk, fun o => ?_⟩
    cases o
    · exact h
    · trivial
  · exact h

theorem sat_cachedOr {ignoreCache : Bool} {k : CacheKey} {m : Bool} {miss : Prog Triple}
    (h : miss.Sat offChain offChain.result) :
    (cachedOr ignoreCache k m miss).Sat offChain offChain.result := by
  unfold cachedOr
  split
  · exact ⟨fun _ he => he, h⟩
  · exact h

section Engine

variable (co : Collaborators) (inq : Inquirer)

theorem queryOracleLoop_sat_manual (f t : AssetId) (c m : Bool) :
    (queryOracleLoop co f t c m [(.manualcurrent, some .manualcurrent)]
      (zeroPrice, .blockchain, false)).Sat offChain
        (fun r => r.2.1 = .blockchain ∨ r.2.1 = .manualcurrent) := by
  refine Sat.of_every_returns (queryOracleLoop_every co _ _ _ _ _ _ ?_ fun _ => trivial)
    ((queryOracleLoop_returns co _ _ _ _ _ _).mono fun r hr => by simpa using hr)
  intro a ha q hq
  simp only [List.map_cons, List.map_nil, List.mem_singleton, Option.some.injEq] at ha
  subst ha
  exact not_onchainInstance_of_adapter hq ⟨by decide, by decide⟩

theorem _queryOracleInstances_sat (f t : AssetId) (c s m : Bool) :
    (_queryOracleInstances co inq f t c s m).Sat offChain offChain.result := by
  unfold _queryOracleInstances
  split
  · trivial
  · split
    · exact (sat_ofExcept fun _ _ => trivial).bind fun _ _ =>
        (sat_ofExcept fun _ _ => trivial).bind fun _ _ => trivial
    · refine (queryOracleLoop_sat_manual co f t c m).bind ?_
      rintro ⟨price, oracle, used⟩ ho
      have hoff : (OracleTag.member oracle).OffChain :=
        offChain_member (ho.imp_right .inl)
      exact ⟨hoff, hoff⟩

theorem lpTokenPrices_sat (ts : List AssetId) :
    (lpTokenPrices ts).Sat offChain fun _ => True := by
  induction ts with
  | nil => trivial
  | cons t ts ih => exact (sat_callPy _).bind fun _ _ => ih.bind fun _ _ => trivial

theorem getEvmManager_sat (chain : ChainId) :
    (getEvmManager inq chain).Sat offChain fun _ => True := by
  unfold getEvmManager; split <;> trivial

theorem findLpPriceFromUniswaplikePool_sat (chain : ChainId) (token : AssetId) :
    (findLpPriceFromUniswaplikePool inq chain token).Sat offChain fun _ => True := by
  apply Sat.bind (getEvmManager_sat inq chain)
  rintro ⟨⟩ -
  refine ⟨not_onchainInstance_of_adapter_none rfl, fun r _ => ?_⟩
  rcases r with e | pool
  · trivial
  · exact (lpTokenPrices_sat _).bind fun _ _ => trivial

theorem getUnderlyingAssetPrice_sat (token : AssetId) (chain : ChainId)
    (protocol : Option String) :
    (getUnderlyingAssetPrice co inq token chain protocol).Sat offChain fun _ => True := by
  unfold getUnderlyingAssetPrice
  split
  · split
    · exact (findLpPriceFromUniswaplikePool_sat inq chain token).bind fun _ _ => trivial
    · trivial
  · trivial

theorem evmTokenUsdPrice_sat (asset : AssetId) (chain : ChainId) (protocol : Option String)
    (underlying : Option (List AssetId)) {rest : Prog Triple}
    (h : rest.Sat offChain offChain.result) :
    (evmTokenUsdPrice co inq asset chain protocol underlying rest).Sat offChain offChain.result := by
  unfold evmTokenUsdPrice
  dsimp only
  split
  · exact (getEvmManager_sat inq _).bind fun _ _ =>
      (getUnderlyingAssetPrice_sat co inq _ _ _).bind fun _ _ => trivial
  · split
    · exact (getUnderlyingAssetPrice_sat co inq _ _ _).bind fun _ _ => trivial
    · exact h

theorem bsqUsdPrice_sat (k : CacheKey) : (bsqUsdPrice co k).Sat offChain offChain.result := by
  unfold bsqUsdPrice
  split
  · trivial
  · refine ⟨not_onchainInstance_of_adapter_none rfl, fun (r : Except HelperError Price) _ => ?_⟩
    rcases r with e | priceInBtc
    · trivial
    · intro r hr
      rcases r with ((_ | _ | _ | _ | _ | _ | _ | _ | _ | _ | _ | _ | _) | ⟨btcPrice, oracle, _⟩)
      all_goals first
        | trivial
        | exact offChain_member (.inl rfl)
        | (have h := hr _ rfl; exact ⟨h, h⟩)

theorem _findUsdPrice_sat (a : AssetId) (ic so c m : Bool) :
    (_findUsdPrice co inq a ic so c m).Sat offChain offChain.result := by
  unfold _findUsdPrice
  split
  · exact ⟨by decide, by decide⟩
  · apply sat_cachedOr
    have hafter := findUsdPriceTail_of co (Prog.Sat offChain offChain.result) a (a, aUsd) c so m
      (fun _ => bsqUsdPrice_sat co _) (offChain_member (.inr (.inr rfl))) (sat_pyCall _ _ _)
    split
    · exact offChain_member (.inr (.inr rfl))
    · trivial
    · rename_i kind _
      cases kind with
      | fiat =>
        refine ⟨not_onchainInstance_of_adapter_none rfl,
          fun (r : Except HelperError (Price × CurrentPriceOracle)) hr => ?_⟩
        rcases r with (_ | _) | ⟨price, oracle⟩
        · exact hafter
        · trivial
        · exact hr
      | evmToken chain protocol underlying => exact evmTokenUsdPrice_sat co inq _ _ _ _ hafter
      | other => exact hafter

theorem _findPrice_sat (f t : AssetId) (ic so c m : Bool) :
    (_findPrice f t ic so c m).Sat offChain offChain.result := by
  unfold _findPrice
  split
  · exact offChain_member (.inr (.inl rfl))
  · split
    · exact sat_pyCall _ _ _
    · exact sat_cachedOr (sat_pyCall _ _ _)

theorem body_sat (c : Call) : (body co inq c).Sat offChain offChain.result := by
  cases c with
  | findPrice f t ic so c m => exact _findPrice_sat f t ic so c m
  | findUsdPrice a ic so c m => exact _findUsdPrice_sat co inq a ic so c m
  | queryOracleInstances f t c so m => exact _queryOracleInstances_sat co inq f t c so m

theorem _queryOracleInstances_asksManualOnly (f t : AssetId) (c s m : Bool) :
    (_queryOracleInstances co inq f t c s m).Every AsksManualOnly := by
  unfold _queryOracleInstances
  split
  · trivial
  · split
    · exact (every_ofExcept _ _).bind fun _ => (every_ofExcept _ _).bind fun _ => trivial
    · refine (queryOracleLoop_every co _ _ _ _ _ _ ?_ fun _ => trivial).bind fun _ => ⟨trivial, trivial⟩
      intro a ha q hq
      simp only [List.map_cons, List.map_nil, List.mem_singleton, Option.some.injEq] at ha
      exact .inr (ha ▸ hq)

theorem bsqUsdPrice_asksManualOnly (k : CacheKey) : (bsqUsdPrice co k).Every AsksManualOnly := by
  unfold bsqUsdPrice
  split
  · trivial
  · refine ⟨.inl rfl, fun (r : Except HelperError Price) => ?_⟩
    rcases r with e | priceInBtc
    · exact ⟨trivial, trivial⟩
    · refine ⟨trivial, fun r => ?_⟩
      rcases r with ((_ | _ | _ | _ | _ | _ | _ | _ | _ | _ | _ | _ | _) | ⟨btcPrice, oracle, _⟩) <;>
        trivial

theorem evmTokenUsdPrice_asksManualOnly (asset : AssetId) (chain : ChainId)
    (protocol : Option String) (underlying : Option (List AssetId)) {rest : Prog Triple}
    (h : rest.Every AsksManualOnly) :
    (evmTokenUsdPrice co inq asset chain protocol underlying rest).Every AsksManualOnly := by
  have hu : ∀ token, (getUnderlyingAssetPrice co inq token chain protocol).Every AsksManualOnly :=
    fun _ => getUnderlyingAssetPrice_every co inq (fun _ => trivial) (.inl rfl) protocol
  unfold evmTokenUsdPrice
  dsimp only
  split
  · exact (getEvmManager_every inq _ _).bind fun _ => (hu asset).bind fun _ => trivial
  · split
    · exact (hu asset).bind fun _ => trivial
    · exact h

theorem _findUsdPrice_asksManualOnly (a : AssetId) (ic so c m : Bool) :
    (_findUsdPrice co inq a ic so c m).Every AsksManualOnly := by
  unfold _findUsdPrice
  split
  · trivial
  · refine every_cachedOr trivial ?_
    have hafter := findUsdPriceTail_of co (Prog.Every AsksManualOnly) a (a, aUsd) c so m
      (fun _ => bsqUsdPrice_asksManualOnly co _) trivial (every_pyCall trivial)
    split
    · trivial
    · trivial
    · rename_i kind _
      cases kind with
      | fiat =>
        refine ⟨.inl rfl, fun (r : Except HelperError (Price × CurrentPriceOracle)) => ?_⟩
        rcases r with (_ | _) | _
        · exact hafter
        · trivial
        · trivial
      | evmToken chain protocol underlying =>
        exact evmTokenUsdPrice_asksManualOnly co inq _ _ _ _ hafter
      | other => exact hafter

theorem body_asksManualOnly (c : Call) : (body co inq c).Every AsksManualOnly := by
  cases c with
  | findPrice f t ic so c m =>
    rw [body_findPrice]
    unfold _findPrice
    split
    · trivial
    · split
      · exact every_pyCall trivial
      · exact every_cachedOr trivial (every_pyCall trivial)
  | findUsdPrice a ic so c m => exact _findUsdPrice_asksManualOnly co inq a ic so c m
  | queryOracleInstances f t c so m => exact _queryOracleInstances_asksManualOnly co inq f t c so m

theorem no_onchain_instance_asked_or_returned (env : Behaviour) (now : Timestamp) (d : Nat)
    (c : Call) (w : World) :
    (∃ new, (run env now (body co inq) d (body co inq c) w).2.asked = w.asked ++ new ∧
        ∀ q ∈ new, ¬ q.OnchainInstance) ∧
      ((∀ (hist : List Query) (q : Query), q.FiatOffChain (env hist q)) →
        (∀ k e, w.cache.get k = some e → e.oracle.OffChain) →
        (∀ r, (run env now (body co inq) d (body co inq c) w).1 = .ok r → r.2.1.OffChain) ∧
          ∀ k e, (run env now (body co inq) d (body co inq c) w).2.cache.get k = some e →
            e.oracle.OffChain) := by
  have hasks : ∀ c, (body co inq c).Every offChain.Asks :=
    fun c => (body_asksManualOnly co inq c).mono offChain_asks_of_manualOnly
  refine ⟨run_askedSince env now hasks d (hasks c) w, fun henv hw => ?_⟩
  obtain ⟨hres, hcache, -⟩ := run_sat env now henv (body_sat co inq) d c hw
  exact ⟨hres, hcache⟩

end Engine

theorem no_onchain_instance_asked_or_returned_skip :
    (∀ (hist : List Query) (q : Query), q.FiatOffChain (Behaviour.quoting 5 hist q)) ∧
      (∀ k e, World.empty.cache.get k = some e → e.oracle.OffChain) ∧
      (∃ new, (run (Behaviour.quoting 5) 0 (body (Collaborators.uniform .other false)
          (Inquirer.ordered [.coingecko])) 1 (body (Collaborators.uniform .other false)
          (Inquirer.ordered [.coingecko]) (.findPrice "A" "B" false true false false))
          World.empty).2.asked = World.empty.asked ++ new ∧ ∀ q ∈ new, ¬ q.OnchainInstance) ∧
      (∀ r, (run (Behaviour.quoting 5) 0 (body (Collaborators.uniform .other false)
          (Inquirer.ordered [.coingecko])) 1 (body (Collaborators.uniform .other false)
          (Inquirer.ordered [.coingecko]) (.findPrice "A" "B" false true false false))
          World.empty).1 = .ok r → r.2.1.OffChain) ∧
      ∀ k e, (run (Behaviour.quoting 5) 0 (body (Collaborators.uniform .other false)
          (Inquirer.ordered [.coingecko])) 1 (body (Collaborators.uniform .other false)
          (Inquirer.ordered [.coingecko]) (.findPrice "A" "B" false true false false))
          World.empty).2.cache.get k = some e → e.oracle.OffChain := by
  have henv : ∀ (hist : List Query) (q : Query), q.FiatOffChain (Behaviour.quoting 5 hist q) :=
    fun _ q => by cases q <;> trivial
  have hw : ∀ k e, World.empty.cache.get k = some e → e.oracle.OffChain := fun _ _ h => by
    cases h
  have h := no_onchain_instance_asked_or_returned (Collaborators.uniform .other false)
    (Inquirer.ordered [.coingecko]) (Behaviour.quoting 5) 0 1
    (.findPrice "A" "B" false true false false) World.empty
  exact ⟨henv, hw, h.1, h.2 henv hw⟩

theorem skip_onchain_reads_pool :
    (run Behaviour.unreachable 0
        (body { Collaborators.uniform (.evmToken chainEthereum (some "UNI-V2") none) false with
            protocolsWithPriceLogic := ["UNI-V2"], lpTokenAsPoolProtocols := ["UNI-V2"] }
          { Inquirer.ordered [.coingecko] with evmManagers := [chainEthereum] }) 1
        (body { Collaborators.uniform (.evmToken chainEthereum (some "UNI-V2") none) false with
            protocolsWithPriceLogic := ["UNI-V2"], lpTokenAsPoolProtocols := ["UNI-V2"] }
          { Inquirer.ordered [.coingecko] with evmManagers := [chainEthereum] }
          (.findUsdPrice "LP" false true false false)) World.empty).2.asked =
      [.readUniswaplikePool chainEthereum "LP"] :=
  rfl

end BitcointView

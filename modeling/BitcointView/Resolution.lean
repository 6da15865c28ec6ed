import BitcointView.OracleLoop

/-!
The public resolutions `find_price_add_oracle` and `find_usd_price_and_oracle`: which paths
raise, which answer from the cache, and what they query.
-/

namespace BitcointView

open Prog

section Paths

variable (co : Collaborators) (inq : Inquirer) (env : Behaviour) (now : Timestamp) (d : Nat)

theorem pyCall_queryOracleInstances_skip_onchain (c : Call) :
    pyCall queryOracleInstancesParams
      ["from_asset", "to_asset", "coming_from_latest_price", "skip_onchain", "match_main_currency"]
      c = raise (.typeError "got an unexpected keyword argument skip_onchain") := rfl

theorem run_cachedOr_miss {ignoreCache : Bool} {k : CacheKey} {m : Bool} {miss : Prog Triple}
    {w : World} (h : ignoreCache = true ∨ getCachedCurrentPriceEntry w.cache now k m = none) :
    run env now (body co inq) d (cachedOr ignoreCache k m miss) w =
      run env now (body co inq) d miss w := by
  rcases h with rfl | h
  · rfl
  · cases ignoreCache <;> simp [run_eq, cachedOr, runWith, h]

theorem _findUsdPrice_unexpected_keyword {asset : AssetId} (ic so c m : Bool) (w : World)
    (hmiss : ic = true ∨ getCachedCurrentPriceEntry w.cache now (asset, aUsd) m = none)
    (hkind : co.resolve asset = .ok .other) (hUsd : asset ≠ aUsd) (hBsq : asset ≠ aBsq)
    (hKfee : asset ≠ aKfee) :
    run env now (body co inq) d (body co inq (.findUsdPrice asset ic so c m)) w =
      (.error (.typeError "got an unexpected keyword argument skip_onchain"), w) := by
  simp only [body, _findUsdPrice, hUsd, if_false]
  rw [run_cachedOr_miss co inq env now d hmiss]
  simp [hkind, hBsq, hKfee, pyCall_queryOracleInstances_skip_onchain, run_eq, runWith]

theorem _findUsdPrice_unexpected_keyword_btc :
    (Collaborators.uniform .other false).resolve aBtc = .ok .other ∧
      run Behaviour.unreachable 0 (body (Collaborators.uniform .other false)
          (Inquirer.ordered [.coingecko])) 1
        (body (Collaborators.uniform .other false) (Inquirer.ordered [.coingecko])
          (.findUsdPrice aBtc false false false false)) World.empty =
        (.error (.typeError "got an unexpected keyword argument skip_onchain"), World.empty) :=
  ⟨rfl, _findUsdPrice_unexpected_keyword _ _ _ _ _ _ _ _ _ _
    (.inr rfl) rfl (by decide) (by decide) (by decide)⟩

theorem pyCall_findUsdPriceAndOracle (c : Call) :
    pyCall findUsdPriceAndOracleParams
      ["asset", "ignore_cache", "coming_from_latest_price", "match_main_currency"] c = callPy c :=
  rfl

theorem run_cachedOr_hit {k : CacheKey} {m : Bool} {miss : Prog Triple} {w : World}
    {e : CachedPriceEntry} (h : getCachedCurrentPriceEntry w.cache now k m = some e) :
    run env now (body co inq) d (cachedOr false k m miss) w = (.ok e.triple, w) := by
  simp [run_eq, cachedOr, runWith, h]

theorem run_findPrice_usd {f : AssetId} (hf : f ≠ aUsd) (ic so cf m : Bool) (w : World) :
    run env now (body co inq) (d + 1) (body co inq (.findPrice f aUsd ic so cf m)) w =
      run env now (body co inq) d (body co inq (.findUsdPrice f ic false cf m)) w := by
  simp only [body_findPrice, _findPrice, hf, if_false, if_true, pyCall_findUsdPriceAndOracle,
    callPy, run_call_succ]
  rcases run env now (body co inq) d (body co inq (.findUsdPrice f ic false cf m)) w with
    ⟨_ | _, w'⟩ <;> simp

theorem evmTokenUsdPrice_cases (asset : AssetId) (chain : ChainId) (protocol : Option String)
    (underlying : Option (List AssetId)) (rest : Prog Triple) :
    evmTokenUsdPrice co inq asset chain protocol underlying rest = rest ∨
      (evmTokenUsdPrice co inq asset chain protocol underlying rest).Returns (fun _ => False) := by
  unfold evmTokenUsdPrice
  dsimp only
  split
  · exact .inr ((returns_true _).bind fun _ _ => (returns_true _).bind fun _ _ => trivial)
  · split
    · exact .inr ((returns_true _).bind fun _ _ => trivial)
    · exact .inl rfl

theorem run_bsqUsdPrice {k : CacheKey} {w w' : World} {r : Triple}
    (hrun : run env now (body co inq) d (bsqUsdPrice co k) w = (.ok r, w')) :
    w'.cache.get k = some (.ofTriple r now) ∨
      ∃ p msg ws, r = (btcPerBsq * p, .member .blockchain, false) ∧
        w'.warnings = bsqWarning msg :: ws := by
  unfold bsqUsdPrice at hrun
  split at hrun
  · simp at hrun
  rw [run_ask] at hrun
  generalize env w.asked (.getBisqMarketPrice aBsq) = ans at hrun
  rcases ans with e | p
  · simp at hrun
  cases d with
  | zero => simp at hrun
  | succ d =>
    rw [run_call_succ] at hrun
    generalize run env now (body co inq) d (body co inq (.findUsdPrice aBtc false false false false))
      _ = x at hrun
    obtain ⟨(_ | _ | _ | _ | _ | _ | _ | _ | m | m | _ | _ | _) | ⟨b, o, u⟩, w₂⟩ := x
    all_goals simp only [run_raise, run_warn, run_pure, run_store, reduceCtorEq, Except.ok.injEq,
      Prod.mk.injEq, false_and] at hrun
    · exact .inr ⟨p, m, _, hrun.1.symm, by rw [← hrun.2]⟩
    · exact .inr ⟨p, m, _, hrun.1.symm, by rw [← hrun.2]⟩
    · obtain ⟨⟨⟩, rfl⟩ := hrun
      exact .inl (PriceCache.get_set_self _ _ _)

theorem findUsdPrice_after_miss {a : AssetId} (ha : a ≠ aUsd) {so cf m : Bool} {w w' : World}
    {r : Triple} (hmiss : getCachedCurrentPriceEntry w.cache now (a, aUsd) m = none)
    (hrun : run env now (body co inq) d (body co inq (.findUsdPrice a false so cf m)) w =
      (.ok r, w')) :
    (w' = w ∧ ∀ (env' : Behaviour) (now' : Timestamp) (w'' : World),
        getCachedCurrentPriceEntry w''.cache now' (a, aUsd) m = none →
        run env' now' (body co inq) d (body co inq (.findUsdPrice a false so cf m)) w'' =
          (.ok r, w'')) ∨
      w'.cache.get (a, aUsd) = some (.ofTriple r now) ∨ co.resolve a = .ok .fiat ∨
      (a = aBsq ∧ ∃ p msg ws, r = (btcPerBsq * p, .member .blockchain, false) ∧
        w'.warnings = bsqWarning msg :: ws) := by
  have htail := findUsdPriceTail_of co (fun t => ∀ w', run env now (body co inq) d t w = (.ok r, w') →
      (t = .pure r ∧ w' = w) ∨ (a = aBsq ∧ (w'.cache.get (a, aUsd) = some (.ofTriple r now) ∨
        ∃ p msg ws, r = (btcPerBsq * p, .member .blockchain, false) ∧
          w'.warnings = bsqWarning msg :: ws)))
    a (a, aUsd) cf so m (fun hb _ h => .inr ⟨hb, run_bsqUsdPrice co inq env now d h⟩)
    (fun _ h => by
      simp only [run_pure, Prod.mk.injEq, Except.ok.injEq] at h
      exact .inl ⟨by rw [h.1], h.2.symm⟩)
    (fun _ h => by simp [pyCall_queryOracleInstances_skip_onchain] at h)
  simp only [body_findUsdPrice, _findUsdPrice, if_neg ha] at hrun htail ⊢
  generalize (if a = aBsq then bsqUsdPrice co (a, aUsd)
    else if a = aKfee then Prog.pure (kfeeUsdPrice, OracleTag.member .fiat, false)
    else Prog.pyCall queryOracleInstancesParams
      ["from_asset", "to_asset", "coming_from_latest_price", "skip_onchain", "match_main_currency"]
      (.queryOracleInstances a aUsd cf so m)) = T at hrun htail ⊢
  rw [run_cachedOr_miss co inq env now d (.inr hmiss)] at hrun
  have hcore : run env now (body co inq) d T w = (.ok r, w') →
      (w' = w ∧ ∀ (env' : Behaviour) (now' : Timestamp) (w'' : World),
        getCachedCurrentPriceEntry w''.cache now' (a, aUsd) m = none →
        run env' now' (body co inq) d (cachedOr false (a, aUsd) m T) w'' = (.ok r, w'')) ∨
      w'.cache.get (a, aUsd) = some (.ofTriple r now) ∨ co.resolve a = .ok .fiat ∨
      (a = aBsq ∧ ∃ p msg ws, r = (btcPerBsq * p, .member .blockchain, false) ∧
        w'.warnings = bsqWarning msg :: ws) := fun h => by
    rcases htail _ h with ⟨rfl, rfl⟩ | ⟨hb, hw | hf⟩
    · refine .inl ⟨rfl, fun env' now' w'' hmiss'' => ?_⟩
      rw [run_cachedOr_miss co inq env' now' d (.inr hmiss'')]
      simp
    · exact .inr (.inl hw)
    · exact .inr (.inr (.inr ⟨hb, hf⟩))
  rcases hres : co.resolve a with (_ | _) | (_ | ⟨chain, protocol, underlying⟩ | _)
  · simp only [hres, run_pure, Prod.mk.injEq, Except.ok.injEq] at hrun
    obtain ⟨rfl, rfl⟩ := hrun
    refine .inl ⟨rfl, fun env' now' w'' hmiss'' => ?_⟩
    rw [run_cachedOr_miss co inq env' now' d (.inr hmiss'')]
    simp [hres]
  · simp [hres] at hrun
  · exact .inr (.inr (.inl rfl))
  · simp only [hres] at hrun ⊢
    rcases evmTokenUsdPrice_cases co inq a chain protocol underlying T with he | he
    · rw [he] at hrun ⊢
      simpa only [hres] using hcore hrun
    · rw [run_eq] at hrun
      exact (runWith_returns he hrun).elim
  · simp only [hres] at hrun ⊢
    simpa only [hres] using hcore hrun

theorem findUsdPrice_repeat {a : AssetId} (ha : a ≠ aUsd) {so cf m : Bool} {w w' : World}
    {r : Triple} (hmiss : getCachedCurrentPriceEntry w.cache now (a, aUsd) m = none)
    (hrun : run env now (body co inq) d (body co inq (.findUsdPrice a false so cf m)) w =
      (.ok r, w')) (hflag : r.2.2 = m) :
    ((w'.cache.get (a, aUsd) = some (.ofTriple r now) ∨ w' = w) ∧
        ∀ (env' : Behaviour) (now' : Timestamp), now ≤ now' →
          now' - now ≤ currentPriceCacheSecs →
          run env' now' (body co inq) d (body co inq (.findUsdPrice a false so cf m)) w' =
            (.ok r, w')) ∨
      co.resolve a = .ok .fiat ∨
      (a = aBsq ∧ ∃ p msg ws, r = (btcPerBsq * p, .member .blockchain, false) ∧
        w'.warnings = bsqWarning msg :: ws) := by
  rcases findUsdPrice_after_miss co inq env now d ha hmiss hrun with ⟨rfl, hrep⟩ | hw | h | h
  · exact .inl ⟨.inr rfl, fun env' now' hle _ =>
      hrep env' now' _ (getCachedCurrentPriceEntry_none_of_le hmiss hle)⟩
  · refine .inl ⟨.inl hw, fun env' now' _ hfresh => ?_⟩
    have hhit : getCachedCurrentPriceEntry w'.cache now' (a, aUsd) m = some (.ofTriple r now) :=
      getCachedCurrentPriceEntry_eq_some.mpr ⟨hw, hfresh, hflag⟩
    simp only [body_findUsdPrice, _findUsdPrice, ha, if_false]
    simpa using run_cachedOr_hit co inq env' now' d hhit
  · exact .inr (.inl h)
  · exact .inr (.inr h)

theorem pyCall_queryOracleInstances_findPrice (c : Call) :
    pyCall queryOracleInstancesParams
      ["from_asset", "to_asset", "skip_onchains", "coming_from_latest_price", "match_main_currency"]
      c = callPy c := rfl

theorem run_findPrice_generic {f t : AssetId} (hft : f ≠ t) (ht : t ≠ aUsd) {ic so c m : Bool}
    {w : World} (hmiss : ic = true ∨ getCachedCurrentPriceEntry w.cache now (f, t) m = none) :
    run env now (body co inq) (d + 1) (body co inq (.findPrice f t ic so c m)) w =
      run env now (body co inq) d (body co inq (.queryOracleInstances f t c so m)) w := by
  simp only [body_findPrice, _findPrice, hft, ht, if_false]
  rw [run_cachedOr_miss co inq env now (d + 1) hmiss, pyCall_queryOracleInstances_findPrice, callPy,
    run_call_succ]
  rcases run env now (body co inq) d (body co inq (.queryOracleInstances f t c so m)) w with
    ⟨_ | _, _⟩ <;> rfl

end Paths

end BitcointView

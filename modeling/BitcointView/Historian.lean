import BitcointView.Singleton
import BitcointView.Resolution

/-!
The historical price engine of `history/price.py`. Each of its functions starts by calling
`PriceHistorian()` without arguments, which re-enters `PriceHistorian.__new__` because
`_instance` is never assigned; so they are modelled over the class attributes of
`Singletons`. `query_historical_price` returns `Option Price`: it can fall off its end and
return `None`.
-/

namespace BitcointView

open Prog

def HistoricalPriceOracle.attrName : HistoricalPriceOracle → String
  | .manual => "_manual"
  | .coingecko => "_coingecko"
  | .cryptocompare => "_cryptocompare"
  | .defillama => "_defillama"

/-- `getattr(instance, f'_{oracle!s}')` on `PriceHistorian`. -/
def historianOracleAttr (h : HistorianClass) (o : HistoricalPriceOracle) : Except PyError Nat :=
  let attr := match o with
    | .manual => h.manual
    | .coingecko => h.coingecko
    | .cryptocompare => h.cryptocompare
    | .defillama => h.defillama
  match attr with
  | some i => .ok i
  | none => .error (.attributeError s!"PriceHistorian object has no attribute {o.attrName}")

/-- `PriceHistorian.set_oracles_order`. -/
def historianSetOraclesOrder (oracles : List HistoricalPriceOracle) (s : Singletons) :
    Except PyError Unit × Singletons :=
  if oracles.length ≠ 0 ∧ oracles.Nodup then
    match priceHistorianNew .empty s with
    | (.error e, s') => (.error e, s')
    | (.ok _, s') =>
      let s₁ : Singletons := { s' with historian := { s'.historian with oracles := some oracles } }
      match oracles.mapM (historianOracleAttr s₁.historian) with
      | .error e => (.error e, s₁)
      | .ok instances =>
        (.ok (), { s₁ with historian := { s₁.historian with oracleInstances := some instances } })
  else (.error (.assertionError "Oracle can\x27t be empty or have repeated items"), s)

/-- `Price(usd_price * price_mapping)` when `query_historical_price` returned `None`. -/
def mulNoneError : PyError := .typeError "unsupported operand type(s) for *: FVal and NoneType"

section Engine

variable (co : Collaborators) (specialTokens : List AssetId)

/-- `PriceHistorian.get_price_for_special_asset`, given `query_historical_price`. -/
def getPriceForSpecialAsset
    (query : AssetId → AssetId → Timestamp → Singletons → Except PyError (Option Price) × Singletons)
    (fromAsset toAsset : AssetId) (timestamp : Timestamp) (s : Singletons) :
    Except PyError (Option Price) × Singletons :=
  if fromAsset = aKfee then
    let usdPrice := kfeeUsdPrice
    if toAsset = aUsd then (.ok (some usdPrice), s)
    else
      match priceHistorianNew .empty s with
      | (.error e, s') => (.error e, s')
      | (.ok _, s') =>
        match query aUsd toAsset timestamp s' with
        | (.error e, s'') => (.error e, s'')
        | (.ok none, s'') => (.error mulNoneError, s'')
        | (.ok (some priceMapping), s'') => (.ok (some (usdPrice * priceMapping)), s'')
  else (.ok none, s)

/-- `PriceHistorian.query_historical_price`, at Python recursion depth `d`. After the special
assets it only resolves both assets to fiat and calls `Inquirer()`, then falls off its end. -/
def queryHistoricalPrice : Nat → AssetId → AssetId → Timestamp → Singletons →
    Except PyError (Option Price) × Singletons
  | 0, _, _, _, s => (.error .recursionError, s)
  | d + 1, fromAsset, toAsset, timestamp, s =>
    if fromAsset = toAsset then (.ok (some 1), s) else
    match priceHistorianNew .empty s with
    | (.error e, s') => (.error e, s')
    | (.ok _, s') =>
      match getPriceForSpecialAsset (queryHistoricalPrice d) fromAsset toAsset timestamp s' with
      | (.error e, s'') => (.error e, s'')
      | (.ok (some p), s'') => (.ok (some p), s'')
      | (.ok none, s'') =>
        match co.resolveToFiatAsset fromAsset, co.resolveToFiatAsset toAsset with
        | .ok (), .ok () =>
          match inquirerNew co specialTokens .empty s'' with
          | (.error e, s₃) => (.error e, s₃)
          | (.ok _, s₃) => (.ok none, s₃)
        | _, _ => (.ok none, s'')

end Engine

section Asserts

variable (co : Collaborators) (specialTokens : List AssetId)

theorem historical_price_always_asserts (calls : List Ctor) (oracles : List HistoricalPriceOracle)
    (d : Nat) {fromAsset toAsset : AssetId} (hne : fromAsset ≠ toAsset) (timestamp : Timestamp) :
    (historianSetOraclesOrder oracles (runCtors co specialTokens calls .init).2).1 ≠ .ok () ∧
      queryHistoricalPrice co specialTokens (d + 1) fromAsset toAsset timestamp
          (runCtors co specialTokens calls .init).2 =
        (.error (.assertionError errorMsg), (runCtors co specialTokens calls .init).2) := by
  have hnew : priceHistorianNew .empty (runCtors co specialTokens calls .init).2 =
      (.error (.assertionError errorMsg), (runCtors co specialTokens calls .init).2) :=
    priceHistorianNew_of_incomplete (by decide) (instanceAttr_runCtors_init co specialTokens calls)
  constructor
  · unfold historianSetOraclesOrder
    split
    · rw [hnew]; simp
    · simp
  · simp only [queryHistoricalPrice, hne, if_false, hnew]

theorem historical_price_always_asserts_btc :
    aBtc ≠ "EUR" ∧
      (historianSetOraclesOrder [.manual] (runCtors (Collaborators.uniform .other false) []
          [.priceHistorian ⟨some 10, some 11, some 12, some 13⟩] .init).2).1 ≠ .ok () ∧
      queryHistoricalPrice (Collaborators.uniform .other false) [] 1 aBtc "EUR" 0
          (runCtors (Collaborators.uniform .other false) []
            [.priceHistorian ⟨some 10, some 11, some 12, some 13⟩] .init).2 =
        (.error (.assertionError errorMsg), (runCtors (Collaborators.uniform .other false) []
          [.priceHistorian ⟨some 10, some 11, some 12, some 13⟩] .init).2) :=
  ⟨by decide, historical_price_always_asserts _ _ _ _ 0 (by decide) _⟩

end Asserts

section Kfee

variable (co : Collaborators) (inq : Inquirer) (env : Behaviour) (now : Timestamp) (d : Nat)

theorem run_findPrice_kfee_usd {ic so c m : Bool} {w : World}
    (hmiss : ic = true ∨ getCachedCurrentPriceEntry w.cache now (aKfee, aUsd) m = none)
    (hkind : co.resolve aKfee = .ok .other) :
    run env now (body co inq) (d + 1) (body co inq (.findPrice aKfee aUsd ic so c m)) w =
      (.ok (kfeeUsdPrice, .member .fiat, false), w) := by
  simp only [body_findPrice, _findPrice, show aKfee ≠ aUsd by decide, if_false, if_true,
    pyCall_findUsdPriceAndOracle, callPy, run_call_succ, body_findUsdPrice, _findUsdPrice]
  rw [run_cachedOr_miss co inq env now d hmiss]
  simp [hkind, show aKfee ≠ aBsq by decide]

theorem getPriceForSpecialAsset_kfee {query : AssetId → AssetId → Timestamp → Singletons →
      Except PyError (Option Price) × Singletons} {toAsset : AssetId} (hto : toAsset ≠ aUsd)
    {timestamp : Timestamp} {s s' : Singletons} {i : Nat} (hi : s.historian.instanceAttr = some i)
    {p : Price} (hq : query aUsd toAsset timestamp s = (.ok (some p), s')) :
    getPriceForSpecialAsset query aKfee toAsset timestamp s = (.ok (some (kfeeUsdPrice * p)), s') := by
  simp [getPriceForSpecialAsset, hto, priceHistorianNew_of_registered hi, hq]

end Kfee

end BitcointView

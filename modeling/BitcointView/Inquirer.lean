import BitcointView.Prog

/-!
The resolution functions of `Inquirer` (`src/backend/inquirer.py`). Each Python function is a
definition under its own name; the functions of the repository that `inquirer.py` calls but
does not define or import (`lp_price_from_uniswaplike_pool_contract`, `get_bisq_market_price`,
`Inquirer._query_fiat_pair`) are questions to collaborators.
-/

namespace BitcointView

/-- The attributes of the `Inquirer` singleton that `set_oracles_order` and the resolution
functions read. -/
structure Inquirer where
  oracles : Option (List CurrentPriceOracle)
  oracleInstances : Option (List (Option Adapter))
  oraclesNotOnchain : Option (List CurrentPriceOracle)
  oracleInstancesNotOnchain : Option (List (Option Adapter))
  uniswapv2 : Option Adapter
  uniswapv3 : Option Adapter
  evmManagers : List ChainId
  specialTokens : List AssetId

namespace Inquirer

/-- The attributes right after `Inquirer.__new__`: no order set, no EVM manager and no DeFi oracle
injected. -/
def constructed (specialTokens : List AssetId) : Inquirer :=
  ⟨none, none, none, none, none, none, [], specialTokens⟩

/-- `getattr(instance, f'_{oracle!s}')`, the enum printing as its lower-case name. -/
def oracleAttr (inq : Inquirer) : CurrentPriceOracle → Except PyError (Option Adapter)
  | .coingecko => .ok (some .coingecko)
  | .cryptocompare => .ok (some .cryptocompare)
  | .defillama => .ok (some .defillama)
  | .manualcurrent => .ok (some .manualcurrent)
  | .uniswapv2 => .ok inq.uniswapv2
  | .uniswapv3 => .ok inq.uniswapv3
  | .blockchain => .error (.attributeError "Inquirer object has no attribute _blockchain")
  | .fiat => .error (.attributeError "Inquirer object has no attribute _fiat")

def isOnchain (o : CurrentPriceOracle) : Bool :=
  o = .uniswapv2 || o = .uniswapv3

/-- `Inquirer.set_oracles_order`. `_oracles` is assigned before the attribute lookups, so a
failing lookup leaves the new ids beside the old instances. -/
def setOraclesOrder (inq : Inquirer) (oracles : List CurrentPriceOracle) :
    Except PyError Unit × Inquirer :=
  if oracles.length ≠ 0 ∧ oracles.Nodup then
    let inq₁ := { inq with oracles := some oracles }
    match oracles.mapM inq.oracleAttr with
    | .error e => (.error e, inq₁)
    | .ok instances =>
      let kept := (oracles.zip instances).filter (fun p => !isOnchain p.1)
      (.ok (), { inq₁ with
        oracleInstances := some instances
        oraclesNotOnchain := some (kept.map Prod.fst)
        oracleInstancesNotOnchain := some (kept.map Prod.snd) })
  else (.error (.assertionError "Oracles can\x27t be empty or have repeated items"), inq)

/-- The singleton after `Inquirer()` and `set_oracles_order(oracles)`. -/
def ordered (oracles : List CurrentPriceOracle) : Inquirer :=
  ((constructed []).setOraclesOrder oracles).2

end Inquirer

def queryOracleInstancesParams : List String :=
  ["from_asset", "to_asset", "coming_from_latest_price", "skip_onchains", "match_main_currency"]

def findUsdPriceAndOracleParams : List String :=
  ["asset", "ignore_cache", "skip_onchain", "coming_from_latest_price", "match_main_currency"]

def unpackNoneError : PyError := .typeError "cannot unpack non-iterable NoneType object"

def recursionLoopWarning (fromAsset toAsset : AssetId) : String :=
  s!"Was not able to find price from {fromAsset} to {toAsset} since your manual latest " ++
    "prices form a loop. For now, other oracles will be used."

def bsqWarning (msg : String) : String := s!"Could not find price for BSQ. {msg}"

def resolveOrRaise {α : Type} (asset : AssetId) (r : Except AssetError α) : Prog α :=
  Prog.ofExcept (r.mapError (·.toPyError asset))

/-- The cache check that opens `_find_price` and `_find_usd_price`. -/
def cachedOr (ignoreCache : Bool) (cacheKey : CacheKey) (matchMainCurrency : Bool)
    (miss : Prog Triple) : Prog Triple :=
  if ignoreCache = false then
    .lookup cacheKey matchMainCurrency fun cache => match cache with
      | some c => .pure c.triple
      | none => miss
  else miss

@[simp] theorem cachedOr_true (cacheKey : CacheKey) (matchMainCurrency : Bool) (miss : Prog Triple) :
    cachedOr true cacheKey matchMainCurrency miss = miss := rfl

def Call.pair : Call → CacheKey
  | .findPrice f t .. => (f, t)
  | .findUsdPrice a .. => (a, aUsd)
  | .queryOracleInstances f t .. => (f, t)

def Call.cacheRead : Call → Option (CacheKey × Bool)
  | .findPrice f t ic _ _ m => if ic ∨ f = t then none else some ((f, t), m)
  | .findUsdPrice a ic _ _ m => if ic ∨ a = aUsd then none else some ((a, aUsd), m)
  | .queryOracleInstances .. => none

theorem Call.cacheRead_eq_some {c : Call} {key : CacheKey} {m : Bool}
    (h : c.cacheRead = some (key, m)) :
    (∃ f t so cf, c = .findPrice f t false so cf m ∧ f ≠ t ∧ key = (f, t)) ∨
      ∃ a so cf, c = .findUsdPrice a false so cf m ∧ a ≠ aUsd ∧ key = (a, aUsd) := by
  cases c with
  | findPrice f t ic so cf m' =>
    simp only [Call.cacheRead, Option.ite_none_left_eq_some, not_or, Bool.not_eq_true,
      Option.some.injEq, Prod.mk.injEq] at h
    obtain ⟨⟨rfl, hft⟩, rfl, rfl⟩ := h
    exact .inl ⟨f, t, so, cf, rfl, hft, rfl⟩
  | findUsdPrice a ic so cf m' =>
    simp only [Call.cacheRead, Option.ite_none_left_eq_some, not_or, Bool.not_eq_true,
      Option.some.injEq, Prod.mk.injEq] at h
    obtain ⟨⟨rfl, ha⟩, rfl, rfl⟩ := h
    exact .inr ⟨a, so, cf, rfl, ha, rfl⟩
  | queryOracleInstances => cases h

theorem Call.pair_of_cacheRead {c : Call} {key : CacheKey} {m : Bool}
    (h : c.cacheRead = some (key, m)) : c.pair = key := by
  obtain ⟨_, _, _, _, rfl, -, rfl⟩ | ⟨_, _, _, rfl, -, rfl⟩ := Call.cacheRead_eq_some h <;> rfl

section Engine

variable (co : Collaborators) (inq : Inquirer)

/-- The skip test of the loop in `_query_oracle_instances`. -/
def skipsInstance (a : Adapter) : Prog Bool :=
  if co.isOracleInterface a then
    .ask (.rateLimitedInLast a defaultRateLimitWaitingTime) fun (limited : Bool) =>
      if limited then .pure true
      else if co.isPenalizable a then .ask (.isPenalized a) .pure
      else .pure false
  else .pure false

/-- The `for` loop of `_query_oracle_instances` over `zip(oracles, oracles_instances)`. -/
def queryOracleLoop (fromAsset toAsset : AssetId) (comingFromLatestPrice matchMainCurrency : Bool) :
    List (CurrentPriceOracle × Option Adapter) → Price × CurrentPriceOracle × Bool →
      Prog (Price × CurrentPriceOracle × Bool)
  | [], acc => .pure acc
  | (_, none) :: _, _ =>
    .raise (.attributeError "NoneType object has no attribute query_current_price")
  | (oracle, some a) :: rest, (price, oracleQueried, used) => do
    let skip ← skipsInstance co a
    if skip then
      queryOracleLoop fromAsset toAsset comingFromLatestPrice matchMainCurrency rest
        (price, oracleQueried, used)
    else
      .ask (.queryCurrentPrice a fromAsset toAsset matchMainCurrency)
        fun (r : Except OracleError (Price × Bool)) => match r with
        | .ok (p, u) =>
          if p ≠ zeroPrice then .pure (p, oracle, u)
          else queryOracleLoop fromAsset toAsset comingFromLatestPrice matchMainCurrency rest
            (p, oracleQueried, u)
        | .error .recursionError =>
          if comingFromLatestPrice then .raise .recursionError
          else .warn (recursionLoopWarning fromAsset toAsset)
            (queryOracleLoop fromAsset toAsset comingFromLatestPrice matchMainCurrency rest
              (price, oracleQueried, used))
        | .error _ =>
          queryOracleLoop fromAsset toAsset comingFromLatestPrice matchMainCurrency rest
            (price, oracleQueried, used)

/-- `Inquirer._query_oracle_instances`. On the branch for assets with oracles the code binds
`oracle_instances`, while the loop reads `oracles_instances`, which only the other branch binds. -/
def _queryOracleInstances (fromAsset toAsset : AssetId)
    (comingFromLatestPrice _skipOnchains matchMainCurrency : Bool) : Prog Triple :=
  if inq.oracles.isNone ∨ inq.oracleInstances.isNone ∨ inq.oraclesNotOnchain.isNone ∨
      inq.oracleInstancesNotOnchain.isNone then
    .raise (.assertionError "Inquirer should never be called before setting the oracles")
  else if co.isAssetWithOracles fromAsset then do
    resolveOrRaise fromAsset (co.resolveToAssetWithOracles fromAsset)
    resolveOrRaise toAsset (co.resolveToAssetWithOracles toAsset)
    .raise (.unboundLocalError "oracles_instances")
  else do
    let (price, oracleQueried, used) ←
      queryOracleLoop co fromAsset toAsset comingFromLatestPrice matchMainCurrency
        [(.manualcurrent, some .manualcurrent)] (zeroPrice, .blockchain, false)
    .store (fromAsset, toAsset) (price, .member oracleQueried, used)
      (.pure (price, .member oracleQueried, used))

/-- `Inquirer.get_evm_manager`, which asserts that the chain's manager was injected. -/
def getEvmManager (chain : ChainId) : Prog Unit :=
  if chain ∈ inq.evmManagers then .pure ()
  else .raise (.assertionError s!"evm manager for chain id {chain} should have been injected")

theorem getEvmManager_every (P : Effect → Prop) (chain : ChainId) :
    (getEvmManager inq chain).Every P := by
  unfold getEvmManager; split <;> trivial

/-- The `token_price_func` calls of `lp_price_from_uniswaplike_pool_contract`: `find_usd_price` on
each pool token. -/
def lpTokenPrices : List AssetId → Prog (List Price)
  | [] => .pure []
  | t :: ts => do
    let r ← Prog.callPy (.findUsdPrice t false false false false)
    let ps ← lpTokenPrices ts
    .pure (r.1 :: ps)

/-- Modelled from the spec: `lp_price_from_uniswaplike_pool_contract`, which `inquirer.py` calls
but neither defines nor imports. -/
def lpPriceFromUniswaplikePoolContract (chain : ChainId) (token : AssetId) : Prog (Option Price) :=
  .ask (.readUniswaplikePool chain token) fun (r : Except HelperError UniswaplikePool) =>
    match r with
    | .error e => .raise e.toPyError
    | .ok pool => do
      let prices ← lpTokenPrices pool.tokens
      .pure (pool.price prices)

/-- `Inquirer.find_lp_price_from_uniswaplike_pool`. -/
def findLpPriceFromUniswaplikePool (chain : ChainId) (token : AssetId) : Prog (Option Price) := do
  getEvmManager inq chain
  lpPriceFromUniswaplikePoolContract chain token

section Every

variable {P : Effect → Prop} (hcall : ∀ c, P (.call c))
include hcall

theorem lpTokenPrices_every (ts : List AssetId) : (lpTokenPrices ts).Every P := by
  induction ts with
  | nil => trivial
  | cons t ts ih => exact (Prog.every_callPy (hcall _)).bind fun _ => ih.bind fun _ => trivial

theorem findLpPriceFromUniswaplikePool_every {chain : ChainId} {token : AssetId}
    (hask : P (.ask (.readUniswaplikePool chain token))) :
    (findLpPriceFromUniswaplikePool inq chain token).Every P := by
  refine (getEvmManager_every inq P chain).bind fun _ => ⟨hask, fun r => ?_⟩
  rcases r with e | pool
  · trivial
  · exact (lpTokenPrices_every hcall _).bind fun _ => trivial

end Every

/-- `get_underlying_asset_price`. It has no `return`, so it returns `None`. -/
def getUnderlyingAssetPrice (token : AssetId) (chain : ChainId) (protocol : Option String) :
    Prog Unit :=
  match protocol with
  | some p =>
    if p ∈ co.lpTokenAsPoolProtocols then do
      let _ ← findLpPriceFromUniswaplikePool inq chain token
      .pure ()
    else .pure ()
  | none => .pure ()

theorem getUnderlyingAssetPrice_every {P : Effect → Prop} (hcall : ∀ c, P (.call c))
    {token : AssetId} {chain : ChainId} (hask : P (.ask (.readUniswaplikePool chain token)))
    (protocol : Option String) : (getUnderlyingAssetPrice co inq token chain protocol).Every P := by
  unfold getUnderlyingAssetPrice
  split
  · split
    · exact (findLpPriceFromUniswaplikePool_every inq hcall hask).bind fun _ => trivial
    · trivial
  · trivial

/-- The `isinstance(asset, EvmToken)` block of `_find_usd_price`, continuing with `rest`. Both of
its branches unpack the `None` of `get_underlying_asset_price`. -/
def evmTokenUsdPrice (asset : AssetId) (chain : ChainId) (protocol : Option String)
    (underlyingTokens : Option (List AssetId)) (rest : Prog Triple) : Prog Triple :=
  let isKnownProtocol := match protocol with
    | some p => decide (p ∈ co.protocolsWithPriceLogic)
    | none => false
  if asset ∈ inq.specialTokens then do
    getEvmManager inq chainEthereum
    getUnderlyingAssetPrice co inq asset chain protocol
    .raise unpackNoneError
  else if isKnownProtocol || underlyingTokens.isSome then do
    getUnderlyingAssetPrice co inq asset chain protocol
    .raise unpackNoneError
  else rest

/-- The `asset == A_BSQ` block of `_find_usd_price`. The local `oracle` is bound on no path that
reaches its first `return`, and `price_in_btc` is unbound in the handler when
`get_bisq_market_price` itself raised. -/
def bsqUsdPrice (cacheKey : CacheKey) : Prog Triple :=
  match co.resolveToCryptoAsset aBsq with
  | .error _ => .raise (.unboundLocalError "oracle")
  | .ok () =>
    .ask (.getBisqMarketPrice aBsq) fun (r : Except HelperError Price) => match r with
    | .error e =>
      let m := e.msg
      .warn (bsqWarning m) (.raise (.unboundLocalError "price_in_btc"))
    | .ok priceInBtc =>
      .call (.findUsdPrice aBtc false false false false) fun r => match r with
      | .ok (btcPrice, oracle, _) =>
        .store cacheKey (priceInBtc * btcPrice, oracle, false)
          (.pure (priceInBtc * btcPrice, oracle, false))
      | .error (.remoteError m) | .error (.deserializationError m) =>
        .warn (bsqWarning m) (.pure (btcPerBsq * priceInBtc, .member .blockchain, false))
      | .error e => .raise e

/-- `Inquirer._find_usd_price`. -/
def _findUsdPrice (asset : AssetId)
    (ignoreCache skipOnchain comingFromLatestPrice matchMainCurrency : Bool) : Prog Triple :=
  if asset = aUsd then .pure (1, .enumClass, false) else
  let cacheKey := (asset, aUsd)
  cachedOr ignoreCache cacheKey matchMainCurrency <|
  match co.resolve asset with
  | .error .unknownAsset => .pure (zeroPrice, .member .fiat, false)
  | .error .wrongAssetType => .raise (.wrongAssetType asset)
  | .ok kind =>
    let afterEvmToken : Prog Triple :=
      if asset = aBsq then bsqUsdPrice co cacheKey
      else if asset = aKfee then .pure (kfeeUsdPrice, .member .fiat, false)
      else Prog.pyCall queryOracleInstancesParams
        ["from_asset", "to_asset", "coming_from_latest_price", "skip_onchain", "match_main_currency"]
        (.queryOracleInstances asset aUsd comingFromLatestPrice skipOnchain matchMainCurrency)
    let afterFiat : Prog Triple := match kind with
      | .evmToken chain protocol underlyingTokens =>
        evmTokenUsdPrice co inq asset chain protocol underlyingTokens afterEvmToken
      | _ => afterEvmToken
    match kind with
    | .fiat =>
      .ask (.queryFiatPair asset aUsd) fun (r : Except HelperError (Price × CurrentPriceOracle)) =>
        match r with
        | .ok (price, oracle) => .pure (price, .member oracle, false)
        | .error (.remoteError _) => afterFiat
        | .error (.deserializationError m) => .raise (.deserializationError m)
    | _ => afterFiat

/-- `Inquirer._find_price`. The call on the USD path does not pass `skip_onchain`. -/
def _findPrice (fromAsset toAsset : AssetId)
    (ignoreCache skipOnchain comingFromLatestPrice matchMainCurrency : Bool) : Prog Triple :=
  if fromAsset = toAsset then .pure (1, .member .manualcurrent, false)
  else if toAsset = aUsd then
    Prog.pyCall findUsdPriceAndOracleParams
      ["asset", "ignore_cache", "coming_from_latest_price", "match_main_currency"]
      (.findUsdPrice fromAsset ignoreCache false comingFromLatestPrice matchMainCurrency)
  else cachedOr ignoreCache (fromAsset, toAsset) matchMainCurrency <|
    Prog.pyCall queryOracleInstancesParams
      ["from_asset", "to_asset", "skip_onchains", "coming_from_latest_price", "match_main_currency"]
      (.queryOracleInstances fromAsset toAsset comingFromLatestPrice skipOnchain matchMainCurrency)

def body : Call → Prog Triple
  | .findPrice f t ic so c m => _findPrice f t ic so c m
  | .findUsdPrice a ic so c m => _findUsdPrice co inq a ic so c m
  | .queryOracleInstances f t c so m => _queryOracleInstances co inq f t c so m

@[simp] theorem body_findPrice (f t : AssetId) (ic so c m : Bool) :
    body co inq (.findPrice f t ic so c m) = _findPrice f t ic so c m := rfl

@[simp] theorem body_findUsdPrice (a : AssetId) (ic so c m : Bool) :
    body co inq (.findUsdPrice a ic so c m) = _findUsdPrice co inq a ic so c m := rfl

@[simp] theorem body_queryOracleInstances (f t : AssetId) (c so m : Bool) :
    body co inq (.queryOracleInstances f t c so m) = _queryOracleInstances co inq f t c so m := rfl

theorem findUsdPriceTail_of (P : Prog Triple → Prop) (a : AssetId) (key : CacheKey) (c so m : Bool)
    (hbsq : a = aBsq → P (bsqUsdPrice co key)) (hkfee : P (.pure (kfeeUsdPrice, .member .fiat, false)))
    (hquery : P (Prog.pyCall queryOracleInstancesParams
      ["from_asset", "to_asset", "coming_from_latest_price", "skip_onchain", "match_main_currency"]
      (.queryOracleInstances a aUsd c so m))) :
    P (if a = aBsq then bsqUsdPrice co key
      else if a = aKfee then .pure (kfeeUsdPrice, .member .fiat, false)
      else Prog.pyCall queryOracleInstancesParams
        ["from_asset", "to_asset", "coming_from_latest_price", "skip_onchain", "match_main_currency"]
        (.queryOracleInstances a aUsd c so m)) := by
  split
  · exact hbsq ‹_›
  · split
    · exact hkfee
    · exact hquery

end Engine

end BitcointView

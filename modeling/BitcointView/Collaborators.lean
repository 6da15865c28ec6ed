import BitcointView.Basic

/-!
The engine's collaborators, which `src/` does not contain: the asset resolver with the
protocol tables of `types`, the classes of the price-source objects, and the questions the
engine puts to the price sources with the answers their contracts allow.
-/

namespace BitcointView

/-- The price-source objects an `Inquirer` holds, one per `_<oracle>` attribute. -/
inductive Adapter
  | coingecko | cryptocompare | defillama | manualcurrent | uniswapv2 | uniswapv3
  deriving DecidableEq, Repr

inductive AssetError
  | unknownAsset | wrongAssetType
  deriving DecidableEq, Repr

def AssetError.toPyError (asset : AssetId) : AssetError → PyError
  | .unknownAsset => .unknownAsset asset
  | .wrongAssetType => .wrongAssetType asset

/-- The type `Asset.resolve()` returns, as far as `_find_usd_price` inspects it. -/
inductive AssetKind
  | fiat
  | evmToken (chain : ChainId) (protocol : Option String) (underlyingTokens : Option (List AssetId))
  | other
  deriving DecidableEq, Repr

structure Collaborators where
  resolve : AssetId → Except AssetError AssetKind
  isAssetWithOracles : AssetId → Bool
  resolveToAssetWithOracles : AssetId → Except AssetError Unit
  resolveToCryptoAsset : AssetId → Except AssetError Unit
  resolveToFiatAsset : AssetId → Except AssetError Unit
  resolveToEvmToken : AssetId → Except AssetError Unit
  protocolsWithPriceLogic : List String
  lpTokenAsPoolProtocols : List String
  isOracleInterface : Adapter → Bool
  isPenalizable : Adapter → Bool

def Collaborators.uniform (kind : AssetKind) (withOracles : Bool) : Collaborators where
  resolve _ := .ok kind
  isAssetWithOracles _ := withOracles
  resolveToAssetWithOracles _ := .ok ()
  resolveToCryptoAsset _ := .ok ()
  resolveToFiatAsset _ := .ok ()
  resolveToEvmToken _ := .ok ()
  protocolsWithPriceLogic := []
  lpTokenAsPoolProtocols := []
  isOracleInterface _ := false
  isPenalizable _ := false

inductive OracleError
  | defiPoolError | priceQueryUnsupportedAsset | remoteError | recursionError
  deriving DecidableEq, Repr

inductive HelperError
  | remoteError (msg : String)
  | deserializationError (msg : String)
  deriving DecidableEq, Repr

def HelperError.msg : HelperError → String
  | .remoteError m | .deserializationError m => m

def HelperError.toPyError : HelperError → PyError
  | .remoteError m => .remoteError m
  | .deserializationError m => .deserializationError m

/-- What `lp_price_from_uniswaplike_pool_contract` reads from a pool contract. -/
structure UniswaplikePool where
  tokens : List AssetId
  price : List Price → Option Price

/-- The questions the engine puts to a collaborator; a cooperative thread may yield at each. -/
inductive Query
  | rateLimitedInLast (a : Adapter) (seconds : Nat)
  | isPenalized (a : Adapter)
  | queryCurrentPrice (a : Adapter) (fromAsset toAsset : AssetId) (matchMainCurrency : Bool)
  | queryFiatPair (base quote : AssetId)
  | getBisqMarketPrice (asset : AssetId)
  | readUniswaplikePool (chain : ChainId) (token : AssetId)
  deriving DecidableEq, Repr

def Query.Answer : Query → Type
  | .rateLimitedInLast .. => Bool
  | .isPenalized _ => Bool
  | .queryCurrentPrice .. => Except OracleError (Price × Bool)
  | .queryFiatPair .. => Except HelperError (Price × CurrentPriceOracle)
  | .getBisqMarketPrice _ => Except HelperError Price
  | .readUniswaplikePool .. => Except HelperError UniswaplikePool

def Query.adapter? : Query → Option Adapter
  | .rateLimitedInLast a _ | .isPenalized a | .queryCurrentPrice a .. => some a
  | _ => none

end BitcointView

import Mathlib.Data.Rat.Defs

/-!
Values the price engine of `inquirer.py` and `history/price.py` passes around. Assets are
compared by identifier, as the asset classes of the repository do, prices are exact
rationals (`FVal` is an arbitrary-precision decimal) and timestamps are Python integers.
-/

namespace BitcointView

abbrev AssetId := String
abbrev Price := ℚ
abbrev Timestamp := Int
abbrev ChainId := Nat

def aUsd : AssetId := "USD"
def aBtc : AssetId := "BTC"
def aBsq : AssetId := "BSQ"
def aKfee : AssetId := "KFEE"
def aWeth : AssetId := "eip155:1/erc20:0xC02aaA39b223FE8D0A0e5C4F27eAD9083C756Cc2"

def chainEthereum : ChainId := 1

def currentPriceCacheSecs : Int := 300
def defaultRateLimitWaitingTime : Nat := 60
def btcPerBsq : Price := 1 / 1000000
def zeroPrice : Price := 0
def kfeeUsdPrice : Price := 1 / 100

inductive CurrentPriceOracle
  | coingecko | cryptocompare | uniswapv2 | uniswapv3 | manualcurrent | blockchain | fiat
  | defillama
  deriving DecidableEq, Repr

inductive OracleTag
  | member (o : CurrentPriceOracle)
  | enumClass
  deriving DecidableEq, Repr

abbrev Triple := Price × OracleTag × Bool

abbrev CacheKey := AssetId × AssetId

structure CachedPriceEntry where
  price : Price
  time : Timestamp
  oracle : OracleTag
  usedMainCurrency : Bool
  deriving DecidableEq, Repr

def CachedPriceEntry.triple (e : CachedPriceEntry) : Triple :=
  (e.price, e.oracle, e.usedMainCurrency)

def CachedPriceEntry.ofTriple (r : Triple) (time : Timestamp) : CachedPriceEntry :=
  ⟨r.1, time, r.2.1, r.2.2⟩

@[simp] theorem CachedPriceEntry.triple_ofTriple (r : Triple) (time : Timestamp) :
    (CachedPriceEntry.ofTriple r time).triple = r := rfl

@[simp] theorem CachedPriceEntry.time_ofTriple (r : Triple) (time : Timestamp) :
    (CachedPriceEntry.ofTriple r time).time = time := rfl

@[simp] theorem CachedPriceEntry.usedMainCurrency_ofTriple (r : Triple) (time : Timestamp) :
    (CachedPriceEntry.ofTriple r time).usedMainCurrency = r.2.2 := rfl

@[simp] theorem CachedPriceEntry.triple_mk (p : Price) (t : Timestamp) (o : OracleTag) (b : Bool) :
    (CachedPriceEntry.mk p t o b).triple = (p, o, b) := rfl

inductive PyError
  | assertionError (msg : String)
  | typeError (msg : String)
  | unboundLocalError (name : String)
  | attributeError (msg : String)
  | recursionError
  | runtimeError (msg : String)
  | unknownAsset (asset : AssetId)
  | wrongAssetType (asset : AssetId)
  | remoteError (msg : String)
  | deserializationError (msg : String)
  | defiPoolError
  | priceQueryUnsupportedAsset
  | noPriceForGivenTimestamp (fromAsset toAsset : AssetId) (time : Timestamp)
  deriving DecidableEq, Repr

/-- The keyword a call passes that the callee's signature does not declare. -/
def unexpectedKeyword (params keywords : List String) : Option String :=
  keywords.find? (· ∉ params)

theorem unexpectedKeyword_eq_none {params keywords : List String} :
    unexpectedKeyword params keywords = none ↔ ∀ k ∈ keywords, k ∈ params := by
  simp [unexpectedKeyword]

end BitcointView

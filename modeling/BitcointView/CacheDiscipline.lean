import BitcointView.OracleLoop

/-!
How the engine's code uses the price cache. A frame running call `c` reads only the entry of
`c.cacheRead` and returns that entry's triple at once. It writes only under the pair `c` resolves,
and returns at once the triple it wrote. Every resolution body has this shape.
-/

namespace BitcointView

open Prog

namespace Prog

def CacheCoherent (c : Call) : Prog Triple → Prop
  | pure _ => True
  | raise _ => True
  | lookup k m n =>
    c.cacheRead = some (k, m) ∧ (∀ e, n (some e) = pure e.triple) ∧ (n none).CacheCoherent c
  | store k r n => k = c.pair ∧ n = pure r
  | ask _ n => ∀ a, (n a).CacheCoherent c
  | warn _ n => n.CacheCoherent c
  | call _ n => ∀ r, (n r).CacheCoherent c

def NoCacheOp : Effect → Prop
  | .lookup _ => False
  | .store _ _ => False
  | _ => True

theorem CacheCoherent.bind {α : Type} {c : Call} {p : Prog α} {f : α → Prog Triple}
    (hp : p.Every NoCacheOp) (hf : ∀ a, (f a).CacheCoherent c) : (p >>= f).CacheCoherent c := by
  induction p with
  | pure a => exact hf a
  | raise e => trivial
  | lookup k m n ih => exact hp.1.elim
  | store k r n ih => exact hp.1.elim
  | ask q n ih => exact fun a => ih a (hp.2 a)
  | warn s n ih => exact ih hp.2
  | call c n ih => exact fun r => ih r (hp.2 r)

theorem cacheCoherent_ofExcept (c : Call) (r : Except PyError Triple) :
    (ofExcept r).CacheCoherent c := by
  cases r <;> trivial

theorem cacheCoherent_pyCall (c : Call) (params keywords : List String) (c' : Call) :
    (pyCall params keywords c').CacheCoherent c := by
  unfold pyCall
  split
  · trivial
  · exact cacheCoherent_ofExcept c

end Prog

theorem cacheCoherent_cachedOr {c : Call} {ignoreCache : Bool} {k : CacheKey} {m : Bool}
    (hk : ignoreCache = false → c.cacheRead = some (k, m)) {miss : Prog Triple}
    (h : miss.CacheCoherent c) : (cachedOr ignoreCache k m miss).CacheCoherent c := by
  unfold cachedOr
  split
  · exact ⟨hk ‹_›, fun _ => rfl, h⟩
  · exact h

section Engine

variable (co : Collaborators) (inq : Inquirer)

theorem getUnderlyingAssetPrice_noCacheOp (token : AssetId) (chain : ChainId)
    (protocol : Option String) : (getUnderlyingAssetPrice co inq token chain protocol).Every NoCacheOp :=
  getUnderlyingAssetPrice_every co inq (fun _ => trivial) trivial protocol

theorem evmTokenUsdPrice_cacheCoherent {c : Call} (asset : AssetId) (chain : ChainId)
    (protocol : Option String) (underlying : Option (List AssetId)) {rest : Prog Triple}
    (h : rest.CacheCoherent c) :
    (evmTokenUsdPrice co inq asset chain protocol underlying rest).CacheCoherent c := by
  unfold evmTokenUsdPrice
  dsimp only
  split
  · exact CacheCoherent.bind (getEvmManager_every inq NoCacheOp _) fun _ =>
      CacheCoherent.bind (getUnderlyingAssetPrice_noCacheOp co inq _ _ _) fun _ => trivial
  · split
    · exact CacheCoherent.bind (getUnderlyingAssetPrice_noCacheOp co inq _ _ _) fun _ => trivial
    · exact h

theorem bsqUsdPrice_cacheCoherent {c : Call} {k : CacheKey} (hk : k = c.pair) :
    (bsqUsdPrice co k).CacheCoherent c := by
  unfold bsqUsdPrice
  split
  · trivial
  · intro (r : Except HelperError Price)
    rcases r with e | priceInBtc
    · trivial
    · intro r
      rcases r with ((_ | _ | _ | _ | _ | _ | _ | _ | _ | _ | _ | _ | _) | ⟨btcPrice, oracle, _⟩) <;>
        trivial

theorem _queryOracleInstances_cacheCoherent (f t : AssetId) (cf s m : Bool) :
    (_queryOracleInstances co inq f t cf s m).CacheCoherent (.queryOracleInstances f t cf s m) := by
  unfold _queryOracleInstances
  split
  · trivial
  · split
    · exact CacheCoherent.bind (every_ofExcept _ _) fun _ =>
        CacheCoherent.bind (every_ofExcept _ _) fun _ => trivial
    · refine CacheCoherent.bind (queryOracleLoop_every co _ _ _ _ _ _ (fun _ _ _ _ => trivial)
        (fun _ => trivial)) ?_
      rintro ⟨price, oracleQueried, used⟩
      exact ⟨rfl, rfl⟩

theorem _findUsdPrice_cacheCoherent (a : AssetId) (ic so cf m : Bool) :
    (_findUsdPrice co inq a ic so cf m).CacheCoherent (.findUsdPrice a ic so cf m) := by
  unfold _findUsdPrice
  split
  · trivial
  · refine cacheCoherent_cachedOr (fun hic => by simp [Call.cacheRead, hic, *]) ?_
    have hafter := findUsdPriceTail_of co (Prog.CacheCoherent (.findUsdPrice a ic so cf m)) a
      (a, aUsd) cf so m (fun _ => bsqUsdPrice_cacheCoherent co rfl) trivial
      (cacheCoherent_pyCall _ _ _ _)
    split
    · trivial
    · trivial
    · rename_i kind _
      cases kind with
      | fiat =>
        intro (r : Except HelperError (Price × CurrentPriceOracle))
        rcases r with (_ | _) | _
        · exact hafter
        · trivial
        · trivial
      | evmToken chain protocol underlying =>
        exact evmTokenUsdPrice_cacheCoherent co inq _ _ _ _ hafter
      | other => exact hafter

theorem _findPrice_cacheCoherent (f t : AssetId) (ic so cf m : Bool) :
    (_findPrice f t ic so cf m).CacheCoherent (.findPrice f t ic so cf m) := by
  unfold _findPrice
  split
  · trivial
  · split
    · exact cacheCoherent_pyCall _ _ _ _
    · exact cacheCoherent_cachedOr (fun hic => by simp [Call.cacheRead, hic, *])
        (cacheCoherent_pyCall _ _ _ _)

theorem body_cacheCoherent (c : Call) : (body co inq c).CacheCoherent c := by
  cases c with
  | findPrice f t ic so cf m => exact _findPrice_cacheCoherent f t ic so cf m
  | findUsdPrice a ic so cf m => exact _findUsdPrice_cacheCoherent co inq a ic so cf m
  | queryOracleInstances f t cf so m => exact _queryOracleInstances_cacheCoherent co inq f t cf so m

end Engine

end BitcointView

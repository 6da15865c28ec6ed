import BitcointView.Resolution

/-!
`ignore_cache = True`: which resolutions the price cache cannot influence. A cache read is the
only node whose outcome depends on the cache, so a tree with no read, whose nested calls have
none either, behaves the same over any two caches.
-/

namespace BitcointView

open Prog

def World.SameButCache (w₁ w₂ : World) : Prop :=
  w₁.warnings = w₂.warnings ∧ w₁.asked = w₂.asked

def UsdPricingReadsNoCache (co : Collaborators) (a : AssetId) : Prop :=
  a ≠ aBsq ∧ ∀ chain p u, co.resolve a = .ok (.evmToken chain (some p) u) →
    p ∉ co.lpTokenAsPoolProtocols

def Call.IgnoresCache (co : Collaborators) : Call → Prop
  | .findPrice f t ic _ _ _ => ic = true ∧ (t = aUsd → UsdPricingReadsNoCache co f)
  | .findUsdPrice a ic _ _ _ => ic = true ∧ UsdPricingReadsNoCache co a
  | .queryOracleInstances .. => True

def NoCacheRead (co : Collaborators) : Effect → Prop
  | .lookup _ => False
  | .call c => c.IgnoresCache co
  | _ => True

section Agree

variable {α : Type} (env : Behaviour) (now : Timestamp)

theorem runWith_sameButCache {P : Effect → Prop} (hP : ∀ k, ¬ P (.lookup k))
    {callee₁ callee₂ : Call → World → Except PyError Triple × World}
    (hcall : ∀ c w₁ w₂, P (.call c) → w₁.SameButCache w₂ →
      (callee₁ c w₁).1 = (callee₂ c w₂).1 ∧ (callee₁ c w₁).2.SameButCache (callee₂ c w₂).2)
    {p : Prog α} (hp : p.Every P) {w₁ w₂ : World} (hw : w₁.SameButCache w₂) :
    (p.runWith env now callee₁ w₁).1 = (p.runWith env now callee₂ w₂).1 ∧
      (p.runWith env now callee₁ w₁).2.SameButCache (p.runWith env now callee₂ w₂).2 := by
  induction p generalizing w₁ w₂ with
  | pure a => exact ⟨rfl, hw⟩
  | raise e => exact ⟨rfl, hw⟩
  | lookup k m n ih => exact (hP k hp.1).elim
  | store k r n ih => exact ih hp.2 hw
  | ask q n ih =>
    simp only [runWith, hw.2]
    exact ih _ (hp.2 _) ⟨hw.1, rfl⟩
  | warn s n ih => exact ih hp.2 ⟨by simp [hw.1], hw.2⟩
  | call c n ih =>
    obtain ⟨hr, hw'⟩ := hcall c w₁ w₂ hp.1 hw
    simp only [runWith, hr]
    exact ih _ (hp.2 _) hw'

end Agree

section Engine

variable (co : Collaborators) (inq : Inquirer)

theorem getUnderlyingAssetPrice_of_not_pool {token : AssetId} {chain : ChainId}
    {protocol : Option String} (h : ∀ p, protocol = some p → p ∉ co.lpTokenAsPoolProtocols) :
    getUnderlyingAssetPrice co inq token chain protocol = .pure () := by
  unfold getUnderlyingAssetPrice
  split
  · rw [if_neg (h _ rfl)]
  · rfl

theorem _queryOracleInstances_noCacheRead (f t : AssetId) (c s m : Bool) :
    (_queryOracleInstances co inq f t c s m).Every (NoCacheRead co) := by
  unfold _queryOracleInstances
  split
  · trivial
  · split
    · exact (every_ofExcept _ _).bind fun _ => (every_ofExcept _ _).bind fun _ => trivial
    · exact (queryOracleLoop_every co _ _ _ _ _ _ (fun _ _ _ _ => trivial) (fun _ => trivial)).bind
        fun _ => ⟨trivial, trivial⟩

theorem _findUsdPrice_noCacheRead {a : AssetId} (ha : UsdPricingReadsNoCache co a) (so c m : Bool) :
    (_findUsdPrice co inq a true so c m).Every (NoCacheRead co) := by
  unfold _findUsdPrice
  split
  · trivial
  · rw [cachedOr_true]
    have hafter := findUsdPriceTail_of co (Prog.Every (NoCacheRead co)) a (a, aUsd) c so m
      (fun h => absurd h ha.1) trivial (every_pyCall trivial)
    split
    · trivial
    · trivial
    · rename_i kind hkind
      cases kind with
      | fiat =>
        refine ⟨trivial, fun (r : Except HelperError (Price × CurrentPriceOracle)) => ?_⟩
        rcases r with (_ | _) | _
        · exact hafter
        · trivial
        · trivial
      | evmToken chain protocol underlying =>
        have hpool : ∀ p, protocol = some p → p ∉ co.lpTokenAsPoolProtocols := by
          rintro p rfl
          exact ha.2 _ _ _ hkind
        unfold evmTokenUsdPrice
        simp only [getUnderlyingAssetPrice_of_not_pool co inq hpool]
        split
        · exact (getEvmManager_every inq _ _).bind fun _ => trivial
        · split
          · trivial
          · exact hafter
      | other => exact hafter

theorem _findPrice_noCacheRead {f t : AssetId} (hf : t = aUsd → UsdPricingReadsNoCache co f)
    (so c m : Bool) : (_findPrice f t true so c m).Every (NoCacheRead co) := by
  unfold _findPrice
  split
  · trivial
  · split
    · apply every_pyCall
      exact ⟨rfl, hf ‹_›⟩
    · rw [cachedOr_true]
      apply every_pyCall
      trivial

theorem body_noCacheRead {c : Call} (hc : c.IgnoresCache co) :
    (body co inq c).Every (NoCacheRead co) := by
  cases c with
  | findPrice f t ic so c m =>
    obtain ⟨rfl, hf⟩ := hc
    exact _findPrice_noCacheRead co hf so c m
  | findUsdPrice a ic so c m =>
    obtain ⟨rfl, ha⟩ := hc
    exact _findUsdPrice_noCacheRead co inq ha so c m
  | queryOracleInstances f t c so m => exact _queryOracleInstances_noCacheRead co inq f t c so m

theorem run_sameButCache_of_ignoresCache (env : Behaviour) (now : Timestamp) (d : Nat) :
    ∀ {c : Call}, c.IgnoresCache co → ∀ {w₁ w₂ : World}, w₁.SameButCache w₂ →
      (run env now (body co inq) d (body co inq c) w₁).1 =
          (run env now (body co inq) d (body co inq c) w₂).1 ∧
        (run env now (body co inq) d (body co inq c) w₁).2.SameButCache
          (run env now (body co inq) d (body co inq c) w₂).2 := by
  induction d with
  | zero =>
    intro c hc w₁ w₂ hw
    simp only [run_eq]
    refine runWith_sameButCache env now (fun _ h => h) ?_ (body_noCacheRead co inq hc) hw
    intro _ _ _ _ hw
    exact ⟨rfl, hw⟩
  | succ d ih =>
    intro c hc w₁ w₂ hw
    simp only [run_eq]
    exact runWith_sameButCache env now (fun _ h => h) (fun c _ _ hc' hw => @ih c hc' _ _ hw)
      (body_noCacheRead co inq hc) hw

end Engine

end BitcointView

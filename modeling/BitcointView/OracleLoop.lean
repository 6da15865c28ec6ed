import BitcointView.Run

/-!
The oracle loop of `_query_oracle_instances`: which collaborators each of its nodes can
address, what it can return, and what the function does on each branch.
-/

namespace BitcointView

open Prog

theorem setOraclesOrder_ok {inq inq' : Inquirer} {O : List CurrentPriceOracle}
    (h : inq.setOraclesOrder O = (.ok (), inq')) :
    inq'.oracles = some O ∧ inq'.oracleInstances.isNone = false ∧
      inq'.oraclesNotOnchain.isNone = false ∧ inq'.oracleInstancesNotOnchain.isNone = false := by
  unfold Inquirer.setOraclesOrder at h
  split at h
  · split at h
    · exact absurd (Prod.mk.inj h).1 (by simp)
    · obtain ⟨-, rfl⟩ := Prod.mk.inj h
      simp
  · exact absurd (Prod.mk.inj h).1 (by simp)

section Loop

variable (co : Collaborators) {P : Effect → Prop}

theorem skipsInstance_every {a : Adapter} (h : ∀ q, q.adapter? = some a → P (.ask q)) :
    (skipsInstance co a).Every P := by
  unfold skipsInstance
  split
  · refine ⟨h _ rfl, fun (limited : Bool) => ?_⟩
    dsimp only
    split
    · trivial
    · split
      · exact ⟨h _ rfl, fun _ => trivial⟩
      · trivial
  · trivial

theorem queryOracleLoop_every (fromAsset toAsset : AssetId) (c m : Bool)
    (pairs : List (CurrentPriceOracle × Option Adapter)) (acc : Price × CurrentPriceOracle × Bool)
    (hask : ∀ a, some a ∈ pairs.map Prod.snd → ∀ q, q.adapter? = some a → P (.ask q))
    (hwarn : c = false → P (.warn (recursionLoopWarning fromAsset toAsset))) :
    (queryOracleLoop co fromAsset toAsset c m pairs acc).Every P := by
  induction pairs generalizing acc with
  | nil => trivial
  | cons p rest ih =>
    obtain ⟨oracle, _ | a⟩ := p
    · trivial
    obtain ⟨price, oracleQueried, used⟩ := acc
    have hrest : ∀ acc, (queryOracleLoop co fromAsset toAsset c m rest acc).Every P :=
      fun acc => ih acc (fun a ha => hask a (List.mem_cons_of_mem _ ha))
    have ha : ∀ q, q.adapter? = some a → P (.ask q) := hask a (List.mem_cons_self _ _)
    refine (skipsInstance_every co ha).bind fun skip => ?_
    split
    · exact hrest _
    · refine ⟨ha _ rfl, fun (r : Except OracleError (Price × Bool)) => ?_⟩
      rcases r with (_ | _ | _ | _) | ⟨p, u⟩
      · exact hrest _
      · exact hrest _
      · exact hrest _
      · cases c
        · exact ⟨hwarn rfl, hrest _⟩
        · trivial
      · by_cases hp : p = zeroPrice <;> simp [hp, Every, hrest]

theorem queryOracleLoop_returns (fromAsset toAsset : AssetId) (c m : Bool)
    (pairs : List (CurrentPriceOracle × Option Adapter)) (acc : Price × CurrentPriceOracle × Bool) :
    (queryOracleLoop co fromAsset toAsset c m pairs acc).Returns
      (fun r => r.2.1 = acc.2.1 ∨ r.2.1 ∈ pairs.map Prod.fst) := by
  induction pairs generalizing acc with
  | nil => exact .inl rfl
  | cons p rest ih =>
    obtain ⟨oracle, _ | a⟩ := p
    · trivial
    obtain ⟨price, oracleQueried, used⟩ := acc
    have hrest : ∀ acc, acc.2.1 = oracleQueried →
        (queryOracleLoop co fromAsset toAsset c m rest acc).Returns
          (fun r => r.2.1 = oracleQueried ∨ r.2.1 ∈ ((oracle, some a) :: rest).map Prod.fst) := by
      rintro acc rfl
      exact (ih acc).mono fun r hr => hr.imp_right (List.mem_cons_of_mem _)
    refine (returns_true _).bind fun skip _ => ?_
    split
    · exact hrest _ rfl
    · intro (r : Except OracleError (Price × Bool))
      rcases r with (_ | _ | _ | _) | ⟨p, u⟩
      · exact hrest _ rfl
      · exact hrest _ rfl
      · exact hrest _ rfl
      · by_cases hc : c
        · simp [hc, Returns]
        · simpa [hc, Returns] using hrest _ rfl
      · by_cases hp : p = zeroPrice
        · simpa [hp, Returns] using hrest _ rfl
        · simp [hp, Returns]

end Loop

theorem _queryOracleInstances_unbound_local (co : Collaborators) {inq₀ inq : Inquirer}
    {O : List CurrentPriceOracle} (hset : inq₀.setOraclesOrder O = (.ok (), inq))
    (env : Behaviour) (now : Timestamp) (d : Nat) (w : World) {fromAsset toAsset : AssetId}
    (c s m : Bool) (hwith : co.isAssetWithOracles fromAsset = true)
    (hfrom : co.resolveToAssetWithOracles fromAsset = .ok ())
    (hto : co.resolveToAssetWithOracles toAsset = .ok ()) :
    run env now (body co inq) d (_queryOracleInstances co inq fromAsset toAsset c s m) w =
      (.error (.unboundLocalError "oracles_instances"), w) := by
  obtain ⟨h1, h2, h3, h4⟩ := setOraclesOrder_ok hset
  simp [run_eq, _queryOracleInstances, h1, h2, h3, h4, hwith, resolveOrRaise, hfrom, hto,
    Except.mapError, runWith]

theorem _queryOracleInstances_unbound_local_btc :
    (Inquirer.constructed []).setOraclesOrder [.coingecko] =
        (.ok (), ⟨some [.coingecko], some [some .coingecko], some [.coingecko],
          some [some .coingecko], none, none, [], []⟩) ∧
      (Collaborators.uniform .other true).isAssetWithOracles aBtc = true ∧
      (Collaborators.uniform .other true).resolveToAssetWithOracles aBtc = .ok () ∧
      (Collaborators.uniform .other true).resolveToAssetWithOracles "EUR" = .ok () ∧
      run Behaviour.unreachable 0 (body (Collaborators.uniform .other true)
          ⟨some [.coingecko], some [some .coingecko], some [.coingecko], some [some .coingecko],
            none, none, [], []⟩) 1
        (_queryOracleInstances (Collaborators.uniform .other true)
          ⟨some [.coingecko], some [some .coingecko], some [.coingecko], some [some .coingecko],
            none, none, [], []⟩ aBtc "EUR" false false false) World.empty =
        (.error (.unboundLocalError "oracles_instances"), World.empty) := by
  have hset : (Inquirer.constructed []).setOraclesOrder [.coingecko] =
      (.ok (), ⟨some [.coingecko], some [some .coingecko], some [.coingecko],
        some [some .coingecko], none, none, [], []⟩) := rfl
  exact ⟨hset, rfl, rfl, rfl,
    _queryOracleInstances_unbound_local _ hset _ _ _ _ _ _ _ rfl rfl rfl⟩

theorem _queryOracleInstances_stores_result (co : Collaborators) (inq : Inquirer)
    (env : Behaviour) (now : Timestamp) (d : Nat) {fromAsset toAsset : AssetId} (c s m : Bool)
    {w w' : World} {r : Triple}
    (hrun : run env now (body co inq) d (_queryOracleInstances co inq fromAsset toAsset c s m) w =
      (.ok r, w')) :
    w'.cache.get (fromAsset, toAsset) = some (.ofTriple r now) ∧
      (r.2.1 = .member .blockchain ∨ r.2.1 = .member .manualcurrent) := by
  rw [run_eq] at hrun
  unfold _queryOracleInstances at hrun
  split at hrun
  · cases hrun
  split at hrun
  · refine (runWith_returns (Q := fun _ => False) ?_ hrun).elim
    exact (returns_true _).bind fun _ _ => (returns_true _).bind fun _ _ => trivial
  obtain ⟨⟨price, oracle, used⟩, w₁, hloop, hstore⟩ := runWith_bind_eq_ok hrun
  obtain ⟨⟨⟩, rfl⟩ := Prod.mk.inj hstore
  exact ⟨PriceCache.get_set_self _ _ _,
    by simpa using runWith_returns (queryOracleLoop_returns co _ _ _ _ _ _) hloop⟩

end BitcointView

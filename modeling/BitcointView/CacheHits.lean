import BitcointView.Interleaving

/-!
What a cache hit of `_find_price` or `_find_usd_price` returns, in every interleaving of
resolutions, cache removals and clock ticks, and what a removal guarantees about later hits.
-/

namespace BitcointView

theorem lastStore_mem_of_invalidates {key : CacheKey} {inv : Event} (hinv : inv.Invalidates key)
    {post : List Event} :
    ∀ {mid : List Event} {w : Nat × Call × CachedPriceEntry × Option (Except PyError Triple)},
      lastStore key (mid ++ inv :: post) = some w →
        Event.stored w.1 w.2.1 key w.2.2.1 w.2.2.2 ∈ mid
  | [], w, h => by
    cases inv with
    | invalidated assets => simp [lastStore, show key.1 ∈ assets ∨ key.2 ∈ assets from hinv] at h
    | invalidatedEntry k => simp [lastStore, show k = key from hinv] at h
    | started | hit | stored => exact hinv.elim
  | ev :: mid, w, h => by
    cases ev with
    | stored tid c k e r =>
      by_cases hk : k = key
      · simp only [List.cons_append, lastStore, hk, if_true, Option.some.injEq] at h
        subst h hk
        exact .head _
      · simp only [List.cons_append, lastStore, hk, if_false] at h
        exact .tail _ (lastStore_mem_of_invalidates hinv h)
    | invalidated _ | invalidatedEntry _ =>
      simp only [List.cons_append, lastStore] at h
      split_ifs at h
      exact .tail _ (lastStore_mem_of_invalidates hinv h)
    | started | hit => exact .tail _ (lastStore_mem_of_invalidates hinv h)

section Hits

variable (co : Collaborators) (inq : Inquirer)

theorem cache_hit_returns_last_write {C : Config} (hC : Reachable (body co inq) C)
    {pre post : List Event} {tid : Nat} {c : Call} {key : CacheKey} {m : Bool}
    {e : CachedPriceEntry} {now : Timestamp} {answer : Option (Except PyError Triple)}
    (hlog : C.log = pre ++ .hit tid c key m e now answer :: post) :
    c.cacheRead = some (key, m) ∧ answer = some (.ok e.triple) ∧
      (∃ writer wc, lastStore key post = some (writer, wc, e, some (.ok e.triple)) ∧
        wc.pair = key) ∧
      now - e.time ≤ currentPriceCacheSecs ∧ e.usedMainCurrency = m :=
  HitsOk.of_append (hlog ▸ (Config.Inv.reachable (body_cacheCoherent co inq) hC).log.hits)

theorem cache_hit_returns_last_write_second_call :
    ∃ C, Reachable (body (Collaborators.uniform .other false)
        (Inquirer.ordered [.coingecko])) C ∧
      ∃ post, C.log = [] ++ .hit 1 (.findPrice "A" "B" false false false false) ("A", "B") false
          ⟨5, 0, .member .manualcurrent, false⟩ 0
          (some (.ok (5, .member .manualcurrent, false))) :: post ∧
        (Call.findPrice "A" "B" false false false false).cacheRead = some (("A", "B"), false) ∧
        some (.ok (5, .member .manualcurrent, false)) =
          some (.ok (CachedPriceEntry.triple ⟨5, 0, .member .manualcurrent, false⟩) :
            Except PyError Triple) ∧
        (∃ writer wc, lastStore ("A", "B") post =
          some (writer, wc, ⟨5, 0, .member .manualcurrent, false⟩,
            some (.ok (CachedPriceEntry.triple ⟨5, 0, .member .manualcurrent, false⟩))) ∧
          wc.pair = ("A", "B")) ∧
        (0 : Timestamp) - (0 : Timestamp) ≤ currentPriceCacheSecs ∧ false = false := by
  have hrun : runSchedule (body (Collaborators.uniform .other false)
      (Inquirer.ordered [.coingecko])) (Behaviour.quoting 5 [])
      [.start (.findPrice "A" "B" false false false false), .step 0, .step 0, .step 0, .step 0,
        .step 0, .start (.findPrice "A" "B" false false false false), .step 1]
      (Config.init 0) = some _ := rfl
  exact ⟨_, reachable_of_runSchedule hrun, _, rfl,
    @cache_hit_returns_last_write _ _ _ (reachable_of_runSchedule hrun) [] _ _ _ _ _ _ _ _ rfl⟩

theorem invalidated_price_served_again :
    ∃ C, Reachable (body (Collaborators.uniform .other false)
        (Inquirer.ordered [.coingecko])) C ∧
      C.log = [.hit 1 (.findPrice "A" "B" false false false false) ("A", "B") false
          ⟨5, 0, .member .manualcurrent, false⟩ 0 (some (.ok (5, .member .manualcurrent, false))),
        .started 1 (.findPrice "A" "B" false false false false),
        .stored 0 (.queryOracleInstances "A" "B" false false false) ("A", "B")
          ⟨5, 0, .member .manualcurrent, false⟩ (some (.ok (5, .member .manualcurrent, false))),
        .invalidated ["A", "B"],
        .started 0 (.findPrice "A" "B" false false false false)] := by
  have hrun : runSchedule (body (Collaborators.uniform .other false)
      (Inquirer.ordered [.coingecko])) (Behaviour.quoting 5 [])
      [.start (.findPrice "A" "B" false false false false), .step 0, .step 0, .step 0,
        .removeCachePricesForAsset [("A", "B")], .step 0, .step 0,
        .start (.findPrice "A" "B" false false false false), .step 1]
      (Config.init 0) = some _ := rfl
  exact ⟨_, reachable_of_runSchedule hrun, rfl⟩

theorem served_entry_written_after_invalidation {C : Config} (hC : Reachable (body co inq) C)
    {pre mid post : List Event} {tid : Nat} {c : Call} {key : CacheKey} {m : Bool}
    {e : CachedPriceEntry} {now : Timestamp} {answer : Option (Except PyError Triple)}
    {inv : Event} (hinv : inv.Invalidates key)
    (hlog : C.log = pre ++ .hit tid c key m e now answer :: (mid ++ inv :: post)) :
    ∃ writer wc, Event.stored writer wc key e (some (.ok e.triple)) ∈ mid := by
  obtain ⟨-, -, ⟨writer, wc, hlast, -⟩, -⟩ :=
    HitsOk.of_append (hlog ▸ (Config.Inv.reachable (body_cacheCoherent co inq) hC).log.hits)
  exact ⟨writer, wc, lastStore_mem_of_invalidates hinv hlast⟩

theorem served_entry_written_after_invalidation_write_back :
    ∃ C, Reachable (body (Collaborators.uniform .other false)
        (Inquirer.ordered [.coingecko])) C ∧
      ∃ pre mid post, C.log = pre ++ .hit 1 (.findPrice "A" "B" false false false false)
          ("A", "B") false ⟨5, 0, .member .manualcurrent, false⟩
          0 (some (.ok (5, .member .manualcurrent, false))) ::
            (mid ++ .invalidated ["A", "B"] :: post) ∧
        ∃ writer wc, Event.stored writer wc ("A", "B") ⟨5, 0, .member .manualcurrent, false⟩
          (some (.ok (5, .member .manualcurrent, false))) ∈ mid := by
  have hrun : runSchedule (body (Collaborators.uniform .other false)
      (Inquirer.ordered [.coingecko])) (Behaviour.quoting 5 [])
      [.start (.findPrice "A" "B" false false false false), .step 0, .step 0, .step 0,
        .removeCachePricesForAsset [("A", "B")], .step 0, .step 0,
        .start (.findPrice "A" "B" false false false false), .step 1]
      (Config.init 0) = some _ := rfl
  have hinv : (Event.invalidated ["A", "B"]).Invalidates ("A", "B") := .inl (.head _)
  exact ⟨_, reachable_of_runSchedule hrun, [], [_, _], _, rfl,
    @served_entry_written_after_invalidation _ _ _ (reachable_of_runSchedule hrun) [] _ _ _ _ _ _ _
      _ _ _ hinv rfl⟩

theorem cache_holds_last_unremoved_write {C : Config} (hC : Reachable (body co inq) C)
    (key : CacheKey) :
    C.cache.get key = (lastStore key C.log).map (fun w => w.2.2.1) ∧
      ∀ tid c e r, lastStore key C.log = some (tid, c, e, r) →
        c.pair = key ∧ r = some (.ok e.triple) :=
  have hI := Config.Inv.reachable (body_cacheCoherent co inq) hC
  ⟨hI.log.cache key, hI.log.writes key⟩

theorem cache_holds_last_unremoved_write_write_back :
    ∃ C, Reachable (body (Collaborators.uniform .other false)
        (Inquirer.ordered [.coingecko])) C ∧
      C.cache.get ("A", "B") = (lastStore ("A", "B") C.log).map (fun w => w.2.2.1) ∧
      ∀ tid c e r, lastStore ("A", "B") C.log = some (tid, c, e, r) →
        c.pair = ("A", "B") ∧ r = some (.ok e.triple) := by
  have hrun : runSchedule (body (Collaborators.uniform .other false)
      (Inquirer.ordered [.coingecko])) (Behaviour.quoting 5 [])
      [.start (.findPrice "A" "B" false false false false), .step 0, .step 0, .step 0,
        .removeCachePricesForAsset [("A", "B")], .step 0, .step 0]
      (Config.init 0) = some _ := rfl
  exact ⟨_, reachable_of_runSchedule hrun,
    cache_holds_last_unremoved_write _ _ (reachable_of_runSchedule hrun) _⟩

end Hits

end BitcointView

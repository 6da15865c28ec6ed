import BitcointView.Basic
import Mathlib.Data.List.Nodup

/-!
`Inquirer._cached_current_price`, a Python dict from asset pairs to `CachedPriceEntry`:
insertion-ordered with unique keys, which the structure carries. Its readers and the two
invalidation functions of `inquirer.py` follow.
-/

namespace BitcointView

structure PriceCache where
  entries : List (CacheKey × CachedPriceEntry)
  nodup : (entries.map Prod.fst).Nodup

namespace PriceCache

def empty : PriceCache := ⟨[], List.nodup_nil⟩

def keys (c : PriceCache) : List CacheKey := c.entries.map Prod.fst

def get (c : PriceCache) (k : CacheKey) : Option CachedPriceEntry := c.entries.lookup k

/-- `d[k] = v`: an existing key keeps its place, a new key goes last. -/
def set (c : PriceCache) (k : CacheKey) (e : CachedPriceEntry) : PriceCache :=
  if h : k ∈ c.keys then
    ⟨c.entries.map (fun p => (p.1, if p.1 = k then e else p.2)), by
      simpa [Function.comp_def] using c.nodup⟩
  else
    ⟨c.entries ++ [(k, e)], by
      rw [List.map_append, List.nodup_append_comm]; exact List.nodup_cons.mpr ⟨h, c.nodup⟩⟩

/-- `d.pop(k, None)`. -/
def pop (c : PriceCache) (k : CacheKey) : PriceCache :=
  ⟨c.entries.filter (fun p => p.1 ≠ k), ((List.filter_sublist _).map Prod.fst).nodup c.nodup⟩

theorem lookup_eq_none_of_not_mem {l : List (CacheKey × CachedPriceEntry)} {k : CacheKey}
    (h : k ∉ l.map Prod.fst) : l.lookup k = none := by
  induction l with
  | nil => rfl
  | cons p l ih =>
    obtain ⟨a, b⟩ := p
    simp only [List.map_cons, List.mem_cons, not_or] at h
    simp [List.lookup_cons, beq_false_of_ne h.1, ih h.2]

theorem lookup_map_update (l : List (CacheKey × CachedPriceEntry)) (k k' : CacheKey)
    (e : CachedPriceEntry) :
    (l.map (fun p => (p.1, if p.1 = k then e else p.2))).lookup k' =
      if k' = k then (l.lookup k').map (fun _ => e) else l.lookup k' := by
  induction l with
  | nil => simp
  | cons p l ih =>
    obtain ⟨a, b⟩ := p
    by_cases ha : k' = a
    · subst ha; by_cases hk : k' = k <;> simp [List.lookup_cons, hk]
    · simp [List.lookup_cons, beq_false_of_ne ha, ih]

theorem lookup_filter_ne (l : List (CacheKey × CachedPriceEntry)) (k k' : CacheKey) :
    (l.filter (fun p => p.1 ≠ k)).lookup k' = if k' = k then none else l.lookup k' := by
  induction l with
  | nil => simp
  | cons p l ih =>
    obtain ⟨a, b⟩ := p
    by_cases hak : a = k
    · subst hak
      rw [List.filter_cons_of_neg (by simp), ih]
      by_cases hk : k' = a
      · simp [hk]
      · simp [List.lookup_cons, beq_false_of_ne hk]
    · rw [List.filter_cons_of_pos (by simpa using hak), List.lookup_cons, List.lookup_cons, ih]
      by_cases ha : k' = a
      · subst ha; simp [hak]
      · simp [beq_false_of_ne ha]

@[simp] theorem get_empty (k : CacheKey) : empty.get k = none := rfl

theorem get_set (c : PriceCache) (k k' : CacheKey) (e : CachedPriceEntry) :
    (c.set k e).get k' = if k' = k then some e else c.get k' := by
  unfold set get
  split
  · rename_i h
    rw [lookup_map_update]
    split
    · subst k'
      obtain ⟨p, hp, rfl⟩ := List.mem_map.mp h
      cases hl : c.entries.lookup p.1 with
      | none => exact absurd (List.lookup_eq_none_iff.mp hl p hp) (by simp)
      | some v => rfl
    · rfl
  · rename_i h
    simp only [List.lookup_append, lookup_eq_none_of_not_mem h]
    split
    · subst k'; simp [lookup_eq_none_of_not_mem h]
    · simp [List.lookup_cons, beq_false_of_ne ‹k' ≠ k›]

@[simp] theorem get_set_self (c : PriceCache) (k : CacheKey) (e : CachedPriceEntry) :
    (c.set k e).get k = some e := by simp [get_set]

theorem get_set_of_ne (c : PriceCache) {k k' : CacheKey} (e : CachedPriceEntry) (h : k' ≠ k) :
    (c.set k e).get k' = c.get k' := by simp [get_set, h]

theorem get_pop (c : PriceCache) (k k' : CacheKey) :
    (c.pop k).get k' = if k' = k then none else c.get k' :=
  lookup_filter_ne _ _ _

@[simp] theorem keys_pop (c : PriceCache) (k : CacheKey) :
    (c.pop k).keys = c.keys.filter (· ≠ k) := by
  simp [pop, keys, List.filter_map, Function.comp_def]

end PriceCache

/-- `Inquirer.get_cached_current_price_entry`, given the dict and `ts_now()`. -/
def getCachedCurrentPriceEntry (cache : PriceCache) (now : Timestamp) (cacheKey : CacheKey)
    (matchMainCurrency : Bool) : Option CachedPriceEntry :=
  match cache.get cacheKey with
  | none => none
  | some e =>
    if now - e.time > currentPriceCacheSecs ∨ e.usedMainCurrency ≠ matchMainCurrency then none
    else some e

theorem getCachedCurrentPriceEntry_eq_some {cache : PriceCache} {now : Timestamp}
    {k : CacheKey} {m : Bool} {e : CachedPriceEntry} :
    getCachedCurrentPriceEntry cache now k m = some e ↔
      cache.get k = some e ∧ now - e.time ≤ currentPriceCacheSecs ∧ e.usedMainCurrency = m := by
  unfold getCachedCurrentPriceEntry
  cases cache.get k with
  | none => simp
  | some e' =>
    simp only [Option.some.injEq]
    split_ifs with hc
    · simp only [reduceCtorEq, false_iff, not_and]
      rintro rfl hs hm
      rcases hc with hc | hc
      · exact absurd hs (not_le.mpr hc)
      · exact hc hm
    · push_neg at hc
      exact ⟨by rintro ⟨⟩; exact ⟨rfl, hc⟩, by rintro ⟨rfl, -⟩; rfl⟩

theorem getCachedCurrentPriceEntry_none_of_le {cache : PriceCache} {now now' : Timestamp}
    {k : CacheKey} {m : Bool} (h : getCachedCurrentPriceEntry cache now k m = none)
    (hle : now ≤ now') : getCachedCurrentPriceEntry cache now' k m = none := by
  rw [Option.eq_none_iff_forall_not_mem] at h ⊢
  intro e he
  obtain ⟨hget, hfresh, hflag⟩ := getCachedCurrentPriceEntry_eq_some.mp he
  exact h e (getCachedCurrentPriceEntry_eq_some.mpr
    ⟨hget, le_trans (Int.sub_le_sub_right hle e.time) hfresh, hflag⟩)

/-- The set `assets_to_invalidate` of `remove_cache_prices_for_asset`. -/
def assetsToInvalidate (pairsToInvalidate : List CacheKey) : List AssetId :=
  pairsToInvalidate.foldl (fun s p => s ++ [p.1, p.2]) []

/-- `Inquirer.remove_cache_prices_for_asset`: every key of a snapshot of the dict that mentions
one of the assets is popped. -/
def removeCachePricesForAsset (cache : PriceCache) (pairsToInvalidate : List CacheKey) :
    PriceCache :=
  let assets := assetsToInvalidate pairsToInvalidate
  cache.keys.foldl (fun c assetPair =>
    if assetPair.1 ∈ assets ∨ assetPair.2 ∈ assets then c.pop assetPair else c) cache

theorem get_foldl_pop (P : CacheKey → Prop) [DecidablePred P] (k : CacheKey) :
    ∀ (ks : List CacheKey) (c : PriceCache),
      (ks.foldl (fun c kp => if P kp then c.pop kp else c) c).get k =
        if P k ∧ k ∈ ks then none else c.get k
  | [], c => by simp
  | kp :: ks, c => by
    rw [List.foldl_cons, get_foldl_pop P k ks]
    by_cases hk : k = kp
    · subst hk; split_ifs <;> simp_all [PriceCache.get_pop]
    · split_ifs <;> simp_all [PriceCache.get_pop]

theorem get_removeCachePricesForAsset (c : PriceCache) (pairs : List CacheKey) (k : CacheKey) :
    (removeCachePricesForAsset c pairs).get k =
      if k.1 ∈ assetsToInvalidate pairs ∨ k.2 ∈ assetsToInvalidate pairs then none
      else c.get k := by
  unfold removeCachePricesForAsset
  rw [get_foldl_pop (fun kp => kp.1 ∈ assetsToInvalidate pairs ∨ kp.2 ∈ assetsToInvalidate pairs)]
  by_cases hk : k ∈ c.keys
  · simp [hk]
  · simp [hk, PriceCache.get, PriceCache.lookup_eq_none_of_not_mem hk]

theorem mem_assetsToInvalidate {a : AssetId} {pairs : List CacheKey} :
    a ∈ assetsToInvalidate pairs ↔ ∃ p ∈ pairs, a = p.1 ∨ a = p.2 := by
  suffices h : ∀ (s : List AssetId), a ∈ pairs.foldl (fun s p => s ++ [p.1, p.2]) s ↔
      a ∈ s ∨ ∃ p ∈ pairs, a = p.1 ∨ a = p.2 by simpa using h []
  induction pairs with
  | nil => simp
  | cons p pairs ih => intro s; simp [ih, or_assoc]

theorem entries_foldl_pop (P : CacheKey → Prop) [DecidablePred P] :
    ∀ (ks : List CacheKey) (c : PriceCache),
      (ks.foldl (fun c kp => if P kp then c.pop kp else c) c).entries =
        c.entries.filter (fun e => !(decide (P e.1) && decide (e.1 ∈ ks)))
  | [], c => by simp
  | kp :: ks, c => by
    rw [List.foldl_cons, entries_foldl_pop P ks]
    split_ifs with hp
    · simp only [PriceCache.pop, List.filter_filter]
      refine List.filter_congr fun e _ => ?_
      by_cases he : e.1 = kp <;> simp [he, hp]
    · refine List.filter_congr fun e _ => ?_
      by_cases he : e.1 = kp <;> simp [he, hp]

theorem remove_cache_prices_keeps_exactly_unrelated (cache : PriceCache) (pairs : List CacheKey) :
    (removeCachePricesForAsset cache pairs).entries =
      cache.entries.filter (fun e =>
        !decide (∃ p ∈ pairs, e.1.1 = p.1 ∨ e.1.1 = p.2 ∨ e.1.2 = p.1 ∨ e.1.2 = p.2)) := by
  rw [removeCachePricesForAsset, entries_foldl_pop]
  refine List.filter_congr fun e he => ?_
  have hk : e.1 ∈ cache.keys := List.mem_map_of_mem _ he
  simp only [mem_assetsToInvalidate, hk, decide_True, Bool.and_true, ← exists_or, ← and_or_left,
    or_assoc]

/-- `Inquirer.remove_cached_current_price_entry`. -/
def removeCachedCurrentPriceEntry (cache : PriceCache) (cacheKey : CacheKey) : PriceCache :=
  cache.pop cacheKey

end BitcointView

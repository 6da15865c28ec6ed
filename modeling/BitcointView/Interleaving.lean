import BitcointView.CacheDiscipline
import Mathlib.Logic.Relation

/-!
Concurrent resolutions over the one price cache of the `Inquirer` singleton. Each call runs
as a thread that yields at every node of its tree, so the cache read, each oracle query and
the cache write of a resolution are separate steps, between which other resolutions, the two
cache-removal functions and the clock may move.
-/

namespace BitcointView

abbrev Answers := (q : Query) → q.Answer

namespace Prog

def result? {α : Type} : Prog α → Option (Except PyError α)
  | pure a => some (.ok a)
  | raise e => some (.error e)
  | _ => none

end Prog

structure Thread where
  tid : Nat
  call : Call
  top : Prog Triple
  callers : List (Call × (Except PyError Triple → Prog Triple))

/-- The record of a run, newest first. -/
inductive Event
  | started (tid : Nat) (c : Call)
  | hit (tid : Nat) (c : Call) (key : CacheKey) (matchMainCurrency : Bool) (e : CachedPriceEntry)
      (now : Timestamp) (answer : Option (Except PyError Triple))
  | stored (tid : Nat) (c : Call) (key : CacheKey) (e : CachedPriceEntry)
      (returns : Option (Except PyError Triple))
  | invalidated (assets : List AssetId)
  | invalidatedEntry (key : CacheKey)
  deriving Repr

def Event.Invalidates (key : CacheKey) : Event → Prop
  | .invalidated assets => key.1 ∈ assets ∨ key.2 ∈ assets
  | .invalidatedEntry k => k = key
  | _ => False

def lastStore (key : CacheKey) :
    List Event → Option (Nat × Call × CachedPriceEntry × Option (Except PyError Triple))
  | [] => none
  | .stored tid c k e r :: log => if k = key then some (tid, c, e, r) else lastStore key log
  | .invalidated assets :: log =>
    if key.1 ∈ assets ∨ key.2 ∈ assets then none else lastStore key log
  | .invalidatedEntry k :: log => if k = key then none else lastStore key log
  | _ :: log => lastStore key log

structure Config where
  cache : PriceCache
  clock : Timestamp
  nextTid : Nat
  threads : List Thread
  log : List Event

def Config.init (t : Timestamp) : Config := ⟨PriceCache.empty, t, 0, [], []⟩

inductive Action
  | start (c : Call)
  | tick (t : Timestamp)
  | removeCachePricesForAsset (pairs : List CacheKey)
  | removeCachedCurrentPriceEntry (key : CacheKey)
  | step (i : Nat)
  | overflow (i : Nat)

section Semantics

variable (body : Call → Prog Triple) (ans : Answers)

def Thread.step (cache : PriceCache) (clock : Timestamp) :
    Thread → Option (Thread × PriceCache × List Event)
  | ⟨tid, _, .pure a, (c, k) :: ks⟩ => some (⟨tid, c, k (.ok a), ks⟩, cache, [])
  | ⟨tid, _, .raise e, (c, k) :: ks⟩ => some (⟨tid, c, k (.error e), ks⟩, cache, [])
  | ⟨_, _, .pure _, []⟩ | ⟨_, _, .raise _, []⟩ => none
  | ⟨tid, c, .lookup key m n, ks⟩ =>
    match getCachedCurrentPriceEntry cache clock key m with
    | some e =>
      some (⟨tid, c, n (some e), ks⟩, cache, [.hit tid c key m e clock (n (some e)).result?])
    | none => some (⟨tid, c, n none, ks⟩, cache, [])
  | ⟨tid, c, .store key r n, ks⟩ =>
    some (⟨tid, c, n, ks⟩, cache.set key (.ofTriple r clock),
      [.stored tid c key (.ofTriple r clock) n.result?])
  | ⟨tid, c, .ask q n, ks⟩ => some (⟨tid, c, n (ans q), ks⟩, cache, [])
  | ⟨tid, c, .warn _ n, ks⟩ => some (⟨tid, c, n, ks⟩, cache, [])
  | ⟨tid, c, .call c' n, ks⟩ => some (⟨tid, c', body c', (c, n) :: ks⟩, cache, [])

/-- The scheduler's choices. `overflow` is Python's recursion limit: a call raises
`RecursionError` instead of entering the callee. -/
def Config.next : Action → Config → Option Config
  | .start c, C => some { C with
      nextTid := C.nextTid + 1
      threads := C.threads ++ [⟨C.nextTid, c, body c, []⟩]
      log := .started C.nextTid c :: C.log }
  | .tick t, C => if C.clock ≤ t then some { C with clock := t } else none
  | .removeCachePricesForAsset pairs, C => some { C with
      cache := removeCachePricesForAsset C.cache pairs
      log := .invalidated (assetsToInvalidate pairs) :: C.log }
  | .removeCachedCurrentPriceEntry key, C => some { C with
      cache := removeCachedCurrentPriceEntry C.cache key
      log := .invalidatedEntry key :: C.log }
  | .step i, C => do
    let th ← C.threads[i]?
    let (th', cache', evs) ← th.step body ans C.cache C.clock
    pure { C with cache := cache', threads := C.threads.set i th', log := evs ++ C.log }
  | .overflow i, C => match C.threads[i]? with
    | some ⟨tid, c, .call _ n, ks⟩ =>
      some { C with threads := C.threads.set i ⟨tid, c, n (.error .recursionError), ks⟩ }
    | _ => none

def runSchedule : List Action → Config → Option Config
  | [], C => some C
  | a :: as, C => (C.next body ans a).bind (runSchedule as)

end Semantics

def Step (body : Call → Prog Triple) (C C' : Config) : Prop :=
  ∃ a ans, C.next body ans a = some C'

def Reachable (body : Call → Prog Triple) (C : Config) : Prop :=
  ∃ t, Relation.ReflTransGen (Step body) (Config.init t) C

theorem runSchedule_sound (body : Call → Prog Triple) (ans : Answers) :
    ∀ (as : List Action) {C C' : Config}, runSchedule body ans as C = some C' →
      Relation.ReflTransGen (Step body) C C'
  | [], _, _, h => by cases h; exact .refl
  | a :: as, C, _, h => by
    obtain ⟨C₁, h₁, h₂⟩ := Option.bind_eq_some.mp h
    exact .head ⟨a, ans, h₁⟩ (runSchedule_sound body ans as h₂)

theorem reachable_of_runSchedule {body : Call → Prog Triple} {ans : Answers} {as : List Action}
    {t : Timestamp} {C : Config} (h : runSchedule body ans as (Config.init t) = some C) :
    Reachable body C :=
  ⟨t, runSchedule_sound body ans as h⟩

def HitsOk : List Event → Prop
  | [] => True
  | .hit _ c key m e now answer :: log =>
    (c.cacheRead = some (key, m) ∧ answer = some (.ok e.triple) ∧
      (∃ tid wc, lastStore key log = some (tid, wc, e, some (.ok e.triple)) ∧ wc.pair = key) ∧
      now - e.time ≤ currentPriceCacheSecs ∧ e.usedMainCurrency = m) ∧ HitsOk log
  | _ :: log => HitsOk log

theorem HitsOk.tail {ev : Event} {log : List Event} (h : HitsOk (ev :: log)) : HitsOk log := by
  cases ev <;> first | exact h | exact h.2

theorem HitsOk.of_append {pre post : List Event} {tid : Nat} {c : Call} {key : CacheKey}
    {m : Bool} {e : CachedPriceEntry} {now : Timestamp} {answer : Option (Except PyError Triple)}
    (h : HitsOk (pre ++ .hit tid c key m e now answer :: post)) :
    c.cacheRead = some (key, m) ∧ answer = some (.ok e.triple) ∧
      (∃ tid wc, lastStore key post = some (tid, wc, e, some (.ok e.triple)) ∧ wc.pair = key) ∧
      now - e.time ≤ currentPriceCacheSecs ∧ e.usedMainCurrency = m := by
  induction pre with
  | nil => exact h.1
  | cons ev pre ih => exact ih h.tail

structure LogInv (cache : PriceCache) (log : List Event) : Prop where
  cache : ∀ k, cache.get k = (lastStore k log).map fun w => w.2.2.1
  writes : ∀ k tid c e r, lastStore k log = some (tid, c, e, r) →
    c.pair = k ∧ r = some (.ok e.triple)
  hits : HitsOk log

namespace LogInv

variable {cache : PriceCache} {log : List Event}

theorem empty : LogInv PriceCache.empty [] :=
  ⟨fun _ => PriceCache.get_empty _, fun _ _ _ _ _ h => (nomatch h), trivial⟩

theorem started (h : LogInv cache log) (tid : Nat) (c : Call) :
    LogInv cache (.started tid c :: log) :=
  ⟨h.cache, h.writes, h.hits⟩

theorem hit (h : LogInv cache log) {tid : Nat} {c : Call} {key : CacheKey} {m : Bool}
    {e : CachedPriceEntry} {now : Timestamp} (hread : c.cacheRead = some (key, m))
    (he : getCachedCurrentPriceEntry cache now key m = some e) :
    LogInv cache (.hit tid c key m e now (some (.ok e.triple)) :: log) := by
  obtain ⟨hget, hfresh, hflag⟩ := getCachedCurrentPriceEntry_eq_some.mp he
  obtain ⟨⟨tid', wc, e', r⟩, hlast, rfl⟩ := Option.map_eq_some'.mp ((h.cache key).symm.trans hget)
  obtain ⟨hpair, rfl⟩ := h.writes _ _ _ _ _ hlast
  exact ⟨h.cache, h.writes, ⟨hread, rfl, ⟨tid', wc, hlast, hpair⟩, hfresh, hflag⟩, h.hits⟩

theorem store (h : LogInv cache log) (tid : Nat) {c : Call} {key : CacheKey} (hkey : key = c.pair)
    (r : Triple) (now : Timestamp) :
    LogInv (cache.set key (.ofTriple r now))
      (.stored tid c key (.ofTriple r now) (some (.ok r)) :: log) := by
  refine ⟨fun k => ?_, fun k tid' c' e r' hk => ?_, h.hits⟩
  · rw [PriceCache.get_set, h.cache k]
    by_cases hk : k = key
    · simp [lastStore, hk]
    · simp [lastStore, hk, Ne.symm hk]
  · by_cases hk' : key = k
    · simp only [lastStore, hk', if_true, Option.some.injEq, Prod.mk.injEq] at hk
      obtain ⟨-, rfl, rfl, rfl⟩ := hk
      exact ⟨hkey ▸ hk', rfl⟩
    · simp only [lastStore, hk', if_false] at hk
      exact h.writes _ _ _ _ _ hk

theorem invalidated (h : LogInv cache log) (pairs : List CacheKey) :
    LogInv (removeCachePricesForAsset cache pairs)
      (.invalidated (assetsToInvalidate pairs) :: log) := by
  refine ⟨fun k => ?_, fun k tid c e r hk => ?_, h.hits⟩
  · rw [get_removeCachePricesForAsset, h.cache k]
    split_ifs <;> simp [lastStore, *]
  · simp only [lastStore] at hk
    split_ifs at hk
    exact h.writes _ _ _ _ _ hk

theorem invalidatedEntry (h : LogInv cache log) (key : CacheKey) :
    LogInv (removeCachedCurrentPriceEntry cache key) (.invalidatedEntry key :: log) := by
  refine ⟨fun k => ?_, fun k tid c e r hk => ?_, h.hits⟩
  · rw [removeCachedCurrentPriceEntry, PriceCache.get_pop, h.cache k]
    by_cases hk : k = key
    · simp [lastStore, hk]
    · simp [lastStore, hk, Ne.symm hk]
  · simp only [lastStore] at hk
    split_ifs at hk
    exact h.writes _ _ _ _ _ hk

end LogInv

def Thread.Coherent (th : Thread) : Prop :=
  th.top.CacheCoherent th.call ∧ ∀ f ∈ th.callers, ∀ r, (f.2 r).CacheCoherent f.1

section Step

variable {body : Call → Prog Triple} {ans : Answers}

theorem Thread.step_spec (hb : ∀ c, (body c).CacheCoherent c) {th th' : Thread}
    {cache cache' : PriceCache} {clock : Timestamp} {evs : List Event} (hth : th.Coherent)
    (h : th.step body ans cache clock = some (th', cache', evs)) :
    th'.Coherent ∧ ∀ log, LogInv cache log → LogInv cache' (evs ++ log) := by
  obtain ⟨tid, c, top, ks⟩ := th
  obtain ⟨htop, hks⟩ := hth
  cases top with
  | pure _ | raise _ =>
    cases ks with
    | nil => cases h
    | cons k ks =>
      cases h
      exact ⟨⟨hks k (.head _) _, fun k' hk' => hks k' (.tail _ hk')⟩, fun _ hl => hl⟩
  | lookup key m n =>
    obtain ⟨hread, hn, hnone⟩ := htop
    simp only [Thread.step] at h
    split at h <;> cases h
    · rename_i e he
      exact ⟨⟨by rw [hn e]; trivial, hks⟩, fun _ hl => hn e ▸ hl.hit hread he⟩
    · exact ⟨⟨hnone, hks⟩, fun _ hl => hl⟩
  | store key r n =>
    cases h
    obtain ⟨hkey, rfl⟩ := htop
    exact ⟨⟨trivial, hks⟩, fun _ hl => hl.store tid hkey r clock⟩
  | ask q n =>
    cases h
    exact ⟨⟨htop _, hks⟩, fun _ hl => hl⟩
  | warn s n =>
    cases h
    exact ⟨⟨htop, hks⟩, fun _ hl => hl⟩
  | call c n =>
    cases h
    exact ⟨⟨hb c, fun k hk => (List.mem_cons.mp hk).elim (· ▸ htop) (hks k)⟩, fun _ hl => hl⟩

end Step

structure Config.Inv (C : Config) : Prop where
  threads : ∀ th ∈ C.threads, th.Coherent
  log : LogInv C.cache C.log

theorem Config.Inv.init (t : Timestamp) : (Config.init t).Inv :=
  ⟨fun _ h => (nomatch h), LogInv.empty⟩

theorem Thread.coherent_set {ts : List Thread} (hts : ∀ t ∈ ts, t.Coherent) (i : Nat)
    {th : Thread} (hth : th.Coherent) : ∀ t ∈ ts.set i th, t.Coherent := fun t ht =>
  (List.mem_or_eq_of_mem_set ht).elim (hts t) (· ▸ hth)

theorem Config.Inv.next {body : Call → Prog Triple} (hb : ∀ c, (body c).CacheCoherent c)
    {ans : Answers} {C C' : Config} (hC : C.Inv) :
    ∀ {a : Action}, C.next body ans a = some C' → C'.Inv
  | .start c, h => by
    cases h
    refine ⟨fun th hth => ?_, hC.log.started _ _⟩
    rcases List.mem_append.mp hth with hth | hth
    · exact hC.threads th hth
    · obtain rfl := List.mem_singleton.mp hth
      exact ⟨hb c, fun _ h => nomatch h⟩
  | .tick t, h => by
    simp only [Config.next] at h
    split_ifs at h
    cases h
    exact ⟨hC.threads, hC.log⟩
  | .removeCachePricesForAsset pairs, h => by
    cases h
    exact ⟨hC.threads, hC.log.invalidated pairs⟩
  | .removeCachedCurrentPriceEntry key, h => by
    cases h
    exact ⟨hC.threads, hC.log.invalidatedEntry key⟩
  | .step i, h => by
    simp only [Config.next, Option.bind_eq_bind, Option.bind_eq_some, Option.pure_def,
      Option.some.injEq] at h
    obtain ⟨th, hth, ⟨th', cache', evs⟩, hstep, rfl⟩ := h
    obtain ⟨hth', hlog⟩ := Thread.step_spec hb (hC.threads th (List.getElem?_mem hth)) hstep
    exact ⟨Thread.coherent_set hC.threads i hth', hlog _ hC.log⟩
  | .overflow i, h => by
    simp only [Config.next] at h
    split at h
    · rename_i tid c c' n ks hth
      cases h
      obtain ⟨htop, hks⟩ := hC.threads _ (List.getElem?_mem hth)
      exact ⟨Thread.coherent_set hC.threads i ⟨htop _, hks⟩, hC.log⟩
    · cases h

theorem Config.Inv.reachable {body : Call → Prog Triple} (hb : ∀ c, (body c).CacheCoherent c)
    {C : Config} (h : Reachable body C) : C.Inv := by
  obtain ⟨t, h⟩ := h
  induction h with
  | refl => exact Config.Inv.init t
  | tail _ hstep ih =>
    obtain ⟨a, ans, hnext⟩ := hstep
    exact ih.next hb hnext

end BitcointView

import BitcointView.Interleaving

/-!
The sequential semantics `run` is the interleaving semantics with one thread: a call that runs
alone, with no other resolution, cache removal or clock tick between its steps, can be scheduled
to return what `run` returns and to leave the cache `run` leaves. So every sequential run is one
of the interleavings that the results about reachable configurations quantify over.
-/

namespace BitcointView

open Prog

section Solo

variable (body : Call → Prog Triple) (now : Timestamp)

/-- From any configuration whose only thread runs `p` over `cache` at the clock `now`, some steps
reach one whose only thread runs `q` over `cache'`, in the same frame, with the frames below
untouched. -/
def Solo (p : Prog Triple) (cache : PriceCache) (q : Prog Triple) (cache' : PriceCache) : Prop :=
  ∀ (C : Config) tid c ks, C.threads = [⟨tid, c, p, ks⟩] → C.cache = cache → C.clock = now →
    ∃ C', Relation.ReflTransGen (Step body) C C' ∧ C'.threads = [⟨tid, c, q, ks⟩] ∧
      C'.cache = cache' ∧ C'.clock = now

variable {body now}

theorem Step.solo {C : Config} {th th' : Thread} {cache : PriceCache} {evs : List Event}
    (hC : C.threads = [th]) (ans : Answers)
    (h : th.step body ans C.cache C.clock = some (th', cache, evs)) :
    Step body C { C with cache := cache, threads := [th'], log := evs ++ C.log } :=
  ⟨.step 0, ans, by simp [Config.next, hC, h]⟩

theorem Thread.step_lookup (ans : Answers) (cache : PriceCache) (clock : Timestamp) (tid : Nat)
    (c : Call) (key : CacheKey) (m : Bool) (n : Option CachedPriceEntry → Prog Triple)
    (ks : List (Call × (Except PyError Triple → Prog Triple))) :
    ∃ evs, Thread.step body ans cache clock ⟨tid, c, .lookup key m n, ks⟩ =
      some (⟨tid, c, n (getCachedCurrentPriceEntry cache clock key m), ks⟩, cache, evs) := by
  cases h : getCachedCurrentPriceEntry cache clock key m <;> simp [Thread.step, h]

theorem Thread.step_ofExcept (ans : Answers) (cache : PriceCache) (clock : Timestamp) (tid : Nat)
    (c c' : Call) (r : Except PyError Triple) (k : Except PyError Triple → Prog Triple)
    (ks : List (Call × (Except PyError Triple → Prog Triple))) :
    Thread.step body ans cache clock ⟨tid, c', ofExcept r, (c, k) :: ks⟩ =
      some (⟨tid, c, k r, ks⟩, cache, []) := by
  cases r <;> rfl

theorem Solo.refl (p : Prog Triple) (cache : PriceCache) : Solo body now p cache p cache :=
  fun C _ _ _ hC hc hk => ⟨C, .refl, hC, hc, hk⟩

theorem Solo.trans {p q r : Prog Triple} {c₁ c₂ c₃ : PriceCache} (h₁ : Solo body now p c₁ q c₂)
    (h₂ : Solo body now q c₂ r c₃) : Solo body now p c₁ r c₃ := by
  intro C tid c ks hC hc hk
  obtain ⟨C₁, hr₁, ht₁, hc₁, hk₁⟩ := h₁ C tid c ks hC hc hk
  obtain ⟨C₂, hr₂, ht₂, hc₂, hk₂⟩ := h₂ C₁ tid c ks ht₁ hc₁ hk₁
  exact ⟨C₂, hr₁.trans hr₂, ht₂, hc₂, hk₂⟩

theorem Solo.step {p q : Prog Triple} {cache cache' : PriceCache}
    (h : ∀ tid c ks, ∃ ans evs,
      Thread.step body ans cache now ⟨tid, c, p, ks⟩ = some (⟨tid, c, q, ks⟩, cache', evs)) :
    Solo body now p cache q cache' := by
  intro C tid c ks hC hc hk
  obtain ⟨ans, evs, hstep⟩ := h tid c ks
  rw [← hc, ← hk] at hstep
  exact ⟨_, .single (Step.solo hC ans hstep), rfl, rfl, hk⟩

theorem Solo.lookup (k : CacheKey) (m : Bool) (n : Option CachedPriceEntry → Prog Triple)
    (cache : PriceCache) :
    Solo body now (.lookup k m n) cache (n (getCachedCurrentPriceEntry cache now k m)) cache :=
  Solo.step fun tid c ks => ⟨Behaviour.unreachable [], Thread.step_lookup _ _ _ tid c k m n ks⟩

theorem Solo.store (k : CacheKey) (r : Triple) (n : Prog Triple) (cache : PriceCache) :
    Solo body now (.store k r n) cache n (cache.set k (.ofTriple r now)) :=
  Solo.step fun _ _ _ => ⟨Behaviour.unreachable [], _, rfl⟩

theorem Solo.ask (ans : Answers) (q : Query) (n : q.Answer → Prog Triple) (cache : PriceCache) :
    Solo body now (.ask q n) cache (n (ans q)) cache :=
  Solo.step fun _ _ _ => ⟨ans, _, rfl⟩

theorem Solo.warn (s : String) (n : Prog Triple) (cache : PriceCache) :
    Solo body now (.warn s n) cache n cache :=
  Solo.step fun _ _ _ => ⟨Behaviour.unreachable [], _, rfl⟩

theorem Solo.overflow (c' : Call) (n : Except PyError Triple → Prog Triple) (cache : PriceCache) :
    Solo body now (.call c' n) cache (n (.error .recursionError)) cache := by
  intro C tid c ks hC hc hk
  exact ⟨{ C with threads := [⟨tid, c, n (.error .recursionError), ks⟩] },
    .single ⟨.overflow 0, Behaviour.unreachable [], by simp [Config.next, hC]⟩, rfl, hc, hk⟩

theorem Solo.call {c' : Call} {n : Except PyError Triple → Prog Triple} {cache cache' : PriceCache}
    {r : Except PyError Triple} (hbody : Solo body now (body c') cache (ofExcept r) cache') :
    Solo body now (.call c' n) cache (n r) cache' := by
  intro C tid c ks hC hc hk
  have hpush : Step body C
      { C with threads := [⟨tid, c', body c', (c, n) :: ks⟩], log := [] ++ C.log } :=
    Step.solo hC (Behaviour.unreachable []) rfl
  obtain ⟨C₁, hr₁, ht₁, hc₁, hk₁⟩ :=
    hbody { C with threads := [⟨tid, c', body c', (c, n) :: ks⟩], log := [] ++ C.log } tid c'
      ((c, n) :: ks) rfl hc hk
  have hpop := Step.solo ht₁ (Behaviour.unreachable [])
    (@Thread.step_ofExcept body (Behaviour.unreachable []) _ _ tid c c' r n ks)
  exact ⟨_, (Relation.ReflTransGen.single hpush).trans (hr₁.tail hpop), rfl, hc₁, hk₁⟩

variable (env : Behaviour)

theorem runWith_solo {callee : Call → World → Except PyError Triple × World}
    (hcallee : ∀ c n w, Solo body now (.call c n) w.cache (n (callee c w).1) (callee c w).2.cache)
    (p : Prog Triple) (w : World) :
    Solo body now p w.cache (ofExcept (p.runWith env now callee w).1)
      (p.runWith env now callee w).2.cache := by
  induction p generalizing w with
  | pure a => exact Solo.refl _ _
  | raise e => exact Solo.refl _ _
  | lookup k m n ih => exact (Solo.lookup k m n _).trans (ih _ w)
  | store k r n ih =>
    exact (Solo.store k r n _).trans (ih { w with cache := w.cache.set k (.ofTriple r now) })
  | ask q n ih => exact (Solo.ask (env w.asked) q n _).trans (ih _ { w with asked := w.asked ++ [q] })
  | warn s n ih => exact (Solo.warn s n _).trans (ih { w with warnings := s :: w.warnings })
  | call c n ih => exact (hcallee c n w).trans (ih _ _)

theorem run_solo (d : Nat) (p : Prog Triple) (w : World) :
    Solo body now p w.cache (ofExcept (run env now body d p w).1) (run env now body d p w).2.cache := by
  induction d generalizing p w with
  | zero =>
    rw [run_eq]
    exact runWith_solo env (fun c n w => Solo.overflow c n w.cache) p w
  | succ d ih =>
    rw [run_eq]
    exact runWith_solo env (fun c n w => Solo.call (ih (body c) w)) p w

end Solo

end BitcointView

import BitcointView.Run

/-!
A rely/guarantee reading of the engine's trees. A contract states what a tree may rely on (the
triples of the cache entries it reads, the collaborators' answers, the results of the calls it
makes) and what it guarantees (the triples it writes, the questions it asks, the triple it
returns). A body that keeps the contract keeps it over every run, nested calls included.
-/

namespace BitcointView

structure Contract where
  entry : Triple → Prop
  answer : (q : Query) → q.Answer → Prop
  ask : Query → Prop
  result : Triple → Prop

namespace Prog

variable {α β : Type} (K : Contract)

def Sat (post : α → Prop) : Prog α → Prop
  | pure a => post a
  | raise _ => True
  | lookup _ _ n => (∀ e, K.entry e.triple → (n (some e)).Sat post) ∧ (n none).Sat post
  | store _ r n => K.entry r ∧ n.Sat post
  | ask q n => K.ask q ∧ ∀ a, K.answer q a → (n a).Sat post
  | warn _ n => n.Sat post
  | call _ n => ∀ r, (∀ t, r = .ok t → K.result t) → (n r).Sat post

variable {K}

theorem Sat.bind {p : Prog α} {f : α → Prog β} {Q : α → Prop} {post : β → Prop}
    (hp : p.Sat K Q) (hf : ∀ a, Q a → (f a).Sat K post) : (p >>= f).Sat K post := by
  induction p with
  | pure a => exact hf a hp
  | raise e => trivial
  | lookup k m n ih => exact ⟨fun e he => ih _ (hp.1 e he), ih _ hp.2⟩
  | store k r n ih => exact ⟨hp.1, ih hp.2⟩
  | ask q n ih => exact ⟨hp.1, fun a ha => ih a (hp.2 a ha)⟩
  | warn s n ih => exact ih hp
  | call c n ih => exact fun r hr => ih r (hp r hr)

theorem sat_ofExcept {post : α → Prop} {r : Except PyError α} (h : ∀ a, r = .ok a → post a) :
    (ofExcept r).Sat K post := by
  cases r with
  | ok a => exact h a rfl
  | error e => trivial

theorem sat_callPy (c : Call) : (callPy c).Sat K K.result :=
  fun _ hr => sat_ofExcept hr

theorem sat_pyCall (params keywords : List String) (c : Call) :
    (pyCall params keywords c).Sat K K.result := by
  unfold pyCall
  split
  · trivial
  · exact sat_callPy c

theorem Sat.of_every_returns {p : Prog α} {post : α → Prop}
    (hE : p.Every fun | .ask q => K.ask q | .warn _ => True | _ => False) (hR : p.Returns post) :
    p.Sat K post := by
  induction p with
  | pure a => exact hR
  | raise e => trivial
  | lookup k m n ih => exact hE.1.elim
  | store k r n ih => exact hE.1.elim
  | ask q n ih => exact ⟨hE.1, fun a _ => ih a (hE.2 a) (hR a)⟩
  | warn s n ih => exact ih hE.2 hR
  | call c n ih => exact hE.1.elim

end Prog

namespace Contract

variable (K : Contract)

def CacheOk (w : World) : Prop := ∀ k e, w.cache.get k = some e → K.entry e.triple

def AskedSince (w w' : World) : Prop := ∃ new, w'.asked = w.asked ++ new ∧ ∀ q ∈ new, K.ask q

def Asks : Effect → Prop
  | .ask q => K.ask q
  | _ => True

variable {K}

theorem AskedSince.refl (w : World) : K.AskedSince w w := ⟨[], by simp, by simp⟩

theorem AskedSince.trans {w₁ w₂ w₃ : World} (h₁ : K.AskedSince w₁ w₂) (h₂ : K.AskedSince w₂ w₃) :
    K.AskedSince w₁ w₃ := by
  obtain ⟨n₁, e₁, h₁⟩ := h₁
  obtain ⟨n₂, e₂, h₂⟩ := h₂
  refine ⟨n₁ ++ n₂, by rw [e₂, e₁, List.append_assoc], fun q hq => ?_⟩
  rcases List.mem_append.mp hq with hq | hq
  · exact h₁ q hq
  · exact h₂ q hq

theorem cacheOk_set {w : World} (hw : K.CacheOk w) (k : CacheKey) {r : Triple} (hr : K.entry r)
    (now : Timestamp) : K.CacheOk { w with cache := w.cache.set k (.ofTriple r now) } := by
  intro k' e he
  simp only [PriceCache.get_set] at he
  split_ifs at he
  · cases he
    simpa using hr
  · exact hw k' e he

end Contract

section Run

variable {K : Contract} (env : Behaviour) (now : Timestamp)

def Contract.Kept (K : Contract) {α : Type} (post : α → Prop) (w : World)
    (out : Except PyError α × World) : Prop :=
  (∀ a, out.1 = .ok a → post a) ∧ K.CacheOk out.2 ∧ K.AskedSince w out.2

theorem runWith_sat (henv : ∀ hist q, K.answer q (env hist q))
    {callee : Call → World → Except PyError Triple × World}
    (hcallee : ∀ c w, K.CacheOk w → K.Kept K.result w (callee c w))
    {α : Type} {p : Prog α} {post : α → Prop} (hp : p.Sat K post) {w : World} (hw : K.CacheOk w) :
    K.Kept post w (p.runWith env now callee w) := by
  induction p generalizing w with
  | pure a => exact ⟨fun a' h => by cases h; exact hp, hw, .refl w⟩
  | raise e => exact ⟨fun _ h => (nomatch h), hw, .refl w⟩
  | lookup k m n ih =>
    show K.Kept post w ((n (getCachedCurrentPriceEntry w.cache now k m)).runWith env now callee w)
    cases he : getCachedCurrentPriceEntry w.cache now k m with
    | none => exact ih _ hp.2 hw
    | some e => exact ih _ (hp.1 e (hw k e (getCachedCurrentPriceEntry_eq_some.mp he).1)) hw
  | store k r n ih => exact ih hp.2 (Contract.cacheOk_set hw k hp.1 now)
  | ask q n ih =>
    obtain ⟨hres, hcache, hasked⟩ :=
      @ih _ (hp.2 _ (henv w.asked q)) { w with asked := w.asked ++ [q] } hw
    exact ⟨hres, hcache, Contract.AskedSince.trans ⟨[q], rfl, by simpa using hp.1⟩ hasked⟩
  | warn s n ih => exact @ih hp { w with warnings := s :: w.warnings } hw
  | call c n ih =>
    obtain ⟨hres, hcache, hasked⟩ := hcallee c w hw
    obtain ⟨hres', hcache', hasked'⟩ := ih _ (hp _ hres) hcache
    exact ⟨hres', hcache', hasked.trans hasked'⟩

theorem run_sat (henv : ∀ hist q, K.answer q (env hist q)) {body : Call → Prog Triple}
    (hbody : ∀ c, (body c).Sat K K.result) (d : Nat) (c : Call) {w : World} (hw : K.CacheOk w) :
    K.Kept K.result w (run env now body d (body c) w) := by
  induction d generalizing c w with
  | zero =>
    rw [run_eq]
    exact runWith_sat env now henv (fun _ w hw => ⟨fun _ h => (by cases h), hw, .refl w⟩) (hbody c) hw
  | succ d ih =>
    rw [run_eq]
    exact runWith_sat env now henv (fun c' _ hw => ih c' hw) (hbody c) hw

theorem runWith_askedSince {callee : Call → World → Except PyError Triple × World}
    (hcallee : ∀ c w, K.AskedSince w (callee c w).2) {α : Type} {p : Prog α} (hp : p.Every K.Asks)
    (w : World) : K.AskedSince w (p.runWith env now callee w).2 :=
  Prog.runWith_inv hp (fun _ _ _ _ h => h) (fun q _ hq h => h.trans ⟨[q], rfl, by simpa using hq⟩)
    (fun _ _ _ h => h) (fun c w' _ h => h.trans (hcallee c w')) (.refl w)

theorem run_askedSince {body : Call → Prog Triple} (hbody : ∀ c, (body c).Every K.Asks) (d : Nat)
    {α : Type} {p : Prog α} (hp : p.Every K.Asks) (w : World) :
    K.AskedSince w (run env now body d p w).2 := by
  induction d generalizing α p w with
  | zero =>
    rw [run_eq]
    exact runWith_askedSince env now (fun _ w => .refl w) hp w
  | succ d ih =>
    rw [run_eq]
    exact runWith_askedSince env now (fun c w => ih (hbody c) w) hp w

end Run

end BitcointView

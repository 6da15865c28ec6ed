import BitcointView.Inquirer
import BitcointView.PriceCache

/-!
Sequential semantics: one call of the engine runs to its end at a fixed `ts_now()`, each
question answered by a collaborator behaviour that may depend on the questions asked
before. Nested resolution calls are bounded by a depth, which stands for Python's
recursion limit: past it a call raises `RecursionError`.
-/

namespace BitcointView

/-- What a call changes: the price cache, the warnings of the message aggregator (newest first, as
`appendleft` keeps them) and the questions put to collaborators so far. -/
structure World where
  cache : PriceCache
  warnings : List String
  asked : List Query

def World.empty : World := ⟨PriceCache.empty, [], []⟩

abbrev Behaviour := List Query → (q : Query) → q.Answer

def Behaviour.unreachable : Behaviour := fun _ q => match q with
  | .rateLimitedInLast .. => false
  | .isPenalized _ => false
  | .queryCurrentPrice .. => .error .remoteError
  | .queryFiatPair .. => .error (.remoteError "unreachable")
  | .getBisqMarketPrice _ => .error (.remoteError "unreachable")
  | .readUniswaplikePool .. => .error (.remoteError "unreachable")

def Behaviour.quoting (p : Price) : Behaviour := fun _ q => match q with
  | .rateLimitedInLast .. => false
  | .isPenalized _ => false
  | .queryCurrentPrice .. => .ok (p, false)
  | .queryFiatPair .. => .error (.remoteError "unreachable")
  | .getBisqMarketPrice _ => .ok p
  | .readUniswaplikePool .. => .error (.remoteError "unreachable")

namespace Prog

variable {α β : Type} (env : Behaviour) (now : Timestamp)

def runWith (callee : Call → World → Except PyError Triple × World) :
    Prog α → World → Except PyError α × World
  | pure a, w => (.ok a, w)
  | raise e, w => (.error e, w)
  | lookup k m n, w => (n (getCachedCurrentPriceEntry w.cache now k m)).runWith callee w
  | store k r n, w => n.runWith callee { w with cache := w.cache.set k (CachedPriceEntry.ofTriple r now) }
  | ask q n, w => (n (env w.asked q)).runWith callee { w with asked := w.asked ++ [q] }
  | warn s n, w => n.runWith callee { w with warnings := s :: w.warnings }
  | call c n, w => (n (callee c w).1).runWith callee (callee c w).2

variable {env now} {callee : Call → World → Except PyError Triple × World}

theorem runWith_bind (p : Prog α) (f : α → Prog β) (w : World) :
    (p >>= f).runWith env now callee w =
      match p.runWith env now callee w with
      | (.ok a, w') => (f a).runWith env now callee w'
      | (.error e, w') => (.error e, w') := by
  induction p generalizing w with
  | pure a => rfl
  | raise e => rfl
  | lookup k m n ih => exact ih _ w
  | store k r n ih => exact ih _
  | ask q n ih => exact ih _ _
  | warn s n ih => exact ih _
  | call c n ih => exact ih _ _

theorem runWith_bind_eq_ok {p : Prog α} {f : α → Prog β} {w w' : World} {b : β}
    (h : (p >>= f).runWith env now callee w = (.ok b, w')) :
    ∃ a w₁, p.runWith env now callee w = (.ok a, w₁) ∧ (f a).runWith env now callee w₁ = (.ok b, w') := by
  rw [runWith_bind] at h
  rcases hp : p.runWith env now callee w with ⟨_ | a, w₁⟩ <;> rw [hp] at h
  · cases h
  · exact ⟨a, w₁, rfl, h⟩

theorem runWith_inv {I : World → Prop} {P : Effect → Prop} {p : Prog α} (hp : p.Every P)
    (hstore : ∀ k r w, P (.store k r) → I w →
      I { w with cache := w.cache.set k (CachedPriceEntry.ofTriple r now) })
    (hask : ∀ q w, P (.ask q) → I w → I { w with asked := w.asked ++ [q] })
    (hwarn : ∀ s w, P (.warn s) → I w → I { w with warnings := s :: w.warnings })
    (hcall : ∀ c w, P (.call c) → I w → I (callee c w).2) {w : World} (hw : I w) :
    I (p.runWith env now callee w).2 := by
  induction p generalizing w with
  | pure a => exact hw
  | raise e => exact hw
  | lookup k m n ih => exact ih _ (hp.2 _) hw
  | store k r n ih => exact ih hp.2 (hstore k r w hp.1 hw)
  | ask q n ih => exact ih _ (hp.2 _) (hask q w hp.1 hw)
  | warn s n ih => exact ih hp.2 (hwarn s w hp.1 hw)
  | call c n ih => exact ih _ (hp.2 _) (hcall c w hp.1 hw)

theorem runWith_returns {Q : α → Prop} {p : Prog α} (hp : p.Returns Q) {w w' : World} {a : α}
    (h : p.runWith env now callee w = (.ok a, w')) : Q a := by
  induction p generalizing w with
  | pure b =>
    obtain ⟨⟨⟩, -⟩ := Prod.mk.inj h
    exact hp
  | raise e => exact absurd (Prod.mk.inj h).1 (by simp)
  | lookup k m n ih => exact ih _ (hp _) h
  | store k r n ih => exact ih hp h
  | ask q n ih => exact ih _ (hp _) h
  | warn s n ih => exact ih hp h
  | call c n ih => exact ih _ (hp _) h

end Prog

section Semantics

variable (env : Behaviour) (now : Timestamp) (body : Call → Prog Triple)

def run : Nat → {α : Type} → Prog α → World → Except PyError α × World
  | 0 => Prog.runWith env now (fun _ w => (.error .recursionError, w))
  | d + 1 => Prog.runWith env now (fun c => run d (body c))

def callee : Nat → Call → World → Except PyError Triple × World
  | 0 => fun _ w => (.error .recursionError, w)
  | d + 1 => fun c => run env now body d (body c)

theorem run_eq (d : Nat) {α : Type} (p : Prog α) (w : World) :
    run env now body d p w = p.runWith env now (callee env now body d) w := by
  cases d <;> rfl

section Nodes

variable (d : Nat) {α : Type} (w : World)

@[simp] theorem run_pure (a : α) : run env now body d (.pure a) w = (.ok a, w) := by
  cases d <;> rfl

@[simp] theorem run_raise (e : PyError) :
    run env now body d (.raise e : Prog α) w = (.error e, w) := by
  cases d <;> rfl

@[simp] theorem run_lookup (k : CacheKey) (m : Bool) (n : Option CachedPriceEntry → Prog α) :
    run env now body d (.lookup k m n) w =
      run env now body d (n (getCachedCurrentPriceEntry w.cache now k m)) w := by
  cases d <;> rfl

@[simp] theorem run_store (k : CacheKey) (r : Triple) (n : Prog α) :
    run env now body d (.store k r n) w =
      run env now body d n { w with cache := w.cache.set k (.ofTriple r now) } := by
  cases d <;> rfl

@[simp] theorem run_ask (q : Query) (n : q.Answer → Prog α) :
    run env now body d (.ask q n) w =
      run env now body d (n (env w.asked q)) { w with asked := w.asked ++ [q] } := by
  cases d <;> rfl

@[simp] theorem run_warn (s : String) (n : Prog α) :
    run env now body d (.warn s n) w = run env now body d n { w with warnings := s :: w.warnings } := by
  cases d <;> rfl

@[simp] theorem run_call_zero (c : Call) (n : Except PyError Triple → Prog α) :
    run env now body 0 (.call c n) w = run env now body 0 (n (.error .recursionError)) w := rfl

@[simp] theorem run_call_succ (c : Call) (n : Except PyError Triple → Prog α) :
    run env now body (d + 1) (.call c n) w =
      run env now body (d + 1) (n (run env now body d (body c) w).1) (run env now body d (body c) w).2 :=
  rfl

end Nodes

end Semantics

end BitcointView

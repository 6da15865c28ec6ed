import BitcointView.Collaborators

/-!
The engine's functions are embedded as trees of effects. A node is a step another thread
can observe: a read of the price cache (`get_cached_current_price_entry`, which runs with
`ts_now()` without yielding), a write of an entry stamped with `ts_now()`, a question to a
collaborator, a warning, or a call of another resolution function. The sequential and the
interleaving semantics both interpret these trees.
-/

namespace BitcointView

inductive Call
  | findPrice (fromAsset toAsset : AssetId)
      (ignoreCache skipOnchain comingFromLatestPrice matchMainCurrency : Bool)
  | findUsdPrice (asset : AssetId)
      (ignoreCache skipOnchain comingFromLatestPrice matchMainCurrency : Bool)
  | queryOracleInstances (fromAsset toAsset : AssetId)
      (comingFromLatestPrice skipOnchains matchMainCurrency : Bool)
  deriving DecidableEq, Repr

inductive Effect
  | lookup (key : CacheKey)
  | store (key : CacheKey) (r : Triple)
  | ask (q : Query)
  | warn (msg : String)
  | call (c : Call)

inductive Prog (α : Type) where
  | pure (a : α)
  | raise (e : PyError)
  | lookup (key : CacheKey) (matchMainCurrency : Bool) (next : Option CachedPriceEntry → Prog α)
  | store (key : CacheKey) (r : Triple) (next : Prog α)
  | ask (q : Query) (next : q.Answer → Prog α)
  | warn (msg : String) (next : Prog α)
  | call (c : Call) (next : Except PyError Triple → Prog α)

namespace Prog

variable {α β : Type}

def bind : Prog α → (α → Prog β) → Prog β
  | pure a, f => f a
  | raise e, _ => raise e
  | lookup k m n, f => lookup k m (fun o => (n o).bind f)
  | store k r n, f => store k r (n.bind f)
  | ask q n, f => ask q (fun a => (n a).bind f)
  | warn s n, f => warn s (n.bind f)
  | call c n, f => call c (fun r => (n r).bind f)

instance : Monad Prog where
  pure := pure
  bind := bind

@[simp] theorem pure_bind (a : α) (f : α → Prog β) : (Prog.pure a >>= f) = f a := rfl
@[simp] theorem pure_eq (a : α) : (Pure.pure a : Prog α) = Prog.pure a := rfl
@[simp] theorem raise_bind (e : PyError) (f : α → Prog β) : (raise e >>= f) = raise e := rfl
@[simp] theorem lookup_bind (k : CacheKey) (m : Bool) (n : Option CachedPriceEntry → Prog α)
    (f : α → Prog β) : (lookup k m n >>= f) = lookup k m (fun o => n o >>= f) := rfl
@[simp] theorem store_bind (k : CacheKey) (r : Triple) (n : Prog α) (f : α → Prog β) :
    (store k r n >>= f) = store k r (n >>= f) := rfl
@[simp] theorem ask_bind (q : Query) (n : q.Answer → Prog α) (f : α → Prog β) :
    (ask q n >>= f) = ask q (fun a => n a >>= f) := rfl
@[simp] theorem warn_bind (s : String) (n : Prog α) (f : α → Prog β) :
    (warn s n >>= f) = warn s (n >>= f) := rfl
@[simp] theorem call_bind (c : Call) (n : Except PyError Triple → Prog α) (f : α → Prog β) :
    (call c n >>= f) = call c (fun r => n r >>= f) := rfl

theorem bind_pure (p : Prog α) : (p >>= Prog.pure) = p := by
  induction p with
  | pure a => rfl
  | raise e => rfl
  | lookup k m n ih => exact congrArg (lookup k m) (funext ih)
  | store k r n ih => exact congrArg (store k r) ih
  | ask q n ih => exact congrArg (ask q) (funext ih)
  | warn s n ih => exact congrArg (warn s) ih
  | call c n ih => exact congrArg (call c) (funext ih)

def ofExcept : Except PyError α → Prog α
  | .ok a => pure a
  | .error e => raise e

@[simp] theorem ofExcept_ok (a : α) : ofExcept (.ok a) = pure a := rfl
@[simp] theorem ofExcept_error (e : PyError) : ofExcept (.error e : Except PyError α) = raise e :=
  rfl

def Every (P : Effect → Prop) : Prog α → Prop
  | pure _ => True
  | raise _ => True
  | lookup k _ n => P (.lookup k) ∧ ∀ o, (n o).Every P
  | store k r n => P (.store k r) ∧ n.Every P
  | ask q n => P (.ask q) ∧ ∀ a, (n a).Every P
  | warn s n => P (.warn s) ∧ n.Every P
  | call c n => P (.call c) ∧ ∀ r, (n r).Every P

theorem Every.bind {P : Effect → Prop} {p : Prog α} {f : α → Prog β} (hp : p.Every P)
    (hf : ∀ a, (f a).Every P) : (p >>= f).Every P := by
  induction p with
  | pure a => exact hf a
  | raise e => trivial
  | lookup k m n ih => exact ⟨hp.1, fun o => ih o (hp.2 o)⟩
  | store k r n ih => exact ⟨hp.1, ih hp.2⟩
  | ask q n ih => exact ⟨hp.1, fun a => ih a (hp.2 a)⟩
  | warn s n ih => exact ⟨hp.1, ih hp.2⟩
  | call c n ih => exact ⟨hp.1, fun r => ih r (hp.2 r)⟩

theorem every_ofExcept (P : Effect → Prop) (r : Except PyError α) : (ofExcept r).Every P := by
  cases r <;> trivial

theorem Every.mono {P Q : Effect → Prop} {p : Prog α} (hp : p.Every P) (h : ∀ e, P e → Q e) :
    p.Every Q := by
  induction p with
  | pure a => trivial
  | raise e => trivial
  | lookup k m n ih => exact ⟨h _ hp.1, fun o => ih o (hp.2 o)⟩
  | store k r n ih => exact ⟨h _ hp.1, ih hp.2⟩
  | ask q n ih => exact ⟨h _ hp.1, fun a => ih a (hp.2 a)⟩
  | warn s n ih => exact ⟨h _ hp.1, ih hp.2⟩
  | call c n ih => exact ⟨h _ hp.1, fun r => ih r (hp.2 r)⟩

def Returns (Q : α → Prop) : Prog α → Prop
  | pure a => Q a
  | raise _ => True
  | lookup _ _ n => ∀ o, (n o).Returns Q
  | store _ _ n => n.Returns Q
  | ask _ n => ∀ a, (n a).Returns Q
  | warn _ n => n.Returns Q
  | call _ n => ∀ r, (n r).Returns Q

theorem Returns.bind {Q : α → Prop} {R : β → Prop} {p : Prog α} {f : α → Prog β}
    (hp : p.Returns Q) (hf : ∀ a, Q a → (f a).Returns R) : (p >>= f).Returns R := by
  induction p with
  | pure a => exact hf a hp
  | raise e => trivial
  | lookup k m n ih => exact fun o => ih o (hp o)
  | store k r n ih => exact ih hp
  | ask q n ih => exact fun a => ih a (hp a)
  | warn s n ih => exact ih hp
  | call c n ih => exact fun r => ih r (hp r)

theorem Returns.mono {Q R : α → Prop} {p : Prog α} (hp : p.Returns Q) (h : ∀ a, Q a → R a) :
    p.Returns R := by
  induction p with
  | pure a => exact h a hp
  | raise e => trivial
  | lookup k m n ih => exact fun o => ih o (hp o)
  | store k r n ih => exact ih hp
  | ask q n ih => exact fun a => ih a (hp a)
  | warn s n ih => exact ih hp
  | call c n ih => exact fun r => ih r (hp r)

theorem returns_true (p : Prog α) : p.Returns (fun _ => True) := by
  induction p with
  | pure a => trivial
  | raise e => trivial
  | lookup k m n ih => exact ih
  | store k r n ih => exact ih
  | ask q n ih => exact ih
  | warn s n ih => exact ih
  | call c n ih => exact ih

theorem returns_ofExcept (Q : α → Prop) (r : Except PyError α) (h : ∀ a, r = .ok a → Q a) :
    (ofExcept r).Returns Q := by
  cases r with
  | ok a => exact h a rfl
  | error e => trivial

/-- A positional call: the callee's exception propagates. -/
def callPy (c : Call) : Prog Triple := call c ofExcept

theorem every_callPy {P : Effect → Prop} {c : Call} (h : P (.call c)) : (callPy c).Every P :=
  ⟨h, every_ofExcept P⟩

/-- A call with keyword arguments: Python raises `TypeError` before entering the callee when a
keyword is not one of its parameters. -/
def pyCall (params keywords : List String) (c : Call) : Prog Triple :=
  match unexpectedKeyword params keywords with
  | some k => raise (.typeError s!"got an unexpected keyword argument {k}")
  | none => callPy c

theorem every_pyCall {P : Effect → Prop} {params keywords : List String} {c : Call}
    (h : P (.call c)) : (pyCall params keywords c).Every P := by
  unfold pyCall
  split
  · trivial
  · exact every_callPy h

end Prog

end BitcointView

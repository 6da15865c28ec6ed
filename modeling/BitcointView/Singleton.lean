import BitcointView.Inquirer
import BitcointView.PriceCache

/-!
The constructors `Inquirer.__new__` and `PriceHistorian.__new__`, over the class attributes they
read and write and a counter that allocates objects. Inside a class body Python mangles
`__instance` to `_<Class>__instance`: `Inquirer` reads and writes that one attribute, while
`PriceHistorian` reads the declared `_instance` and writes `_PriceHistorian__instance`.
-/

namespace BitcointView

def errorMsg : String := "arguments should be given at the first instantiation"

/-- The `RuntimeError` of `Inquirer.__new__` when a base asset does not resolve. -/
def baseAssetMessage (asset : AssetId) : String :=
  s!"One of the base assets was deleted/modified from the DB: {asset}. " ++
    "Add it back manually or contact support"

structure InquirerArgs where
  dataDir : Option Nat
  coingecko : Option Nat
  cryptocompare : Option Nat
  defillama : Option Nat
  manualcurrent : Option Nat
  msgAggregator : Option Nat

def InquirerArgs.empty : InquirerArgs := ⟨.none, .none, .none, .none, .none, .none⟩

def InquirerArgs.Complete (a : InquirerArgs) : Prop :=
  a.dataDir.isSome ∧ a.cryptocompare.isSome ∧ a.coingecko.isSome ∧ a.defillama.isSome ∧
    a.manualcurrent.isSome ∧ a.msgAggregator.isSome

instance (a : InquirerArgs) : Decidable a.Complete :=
  inferInstanceAs (Decidable (a.dataDir.isSome ∧ a.cryptocompare.isSome ∧ a.coingecko.isSome ∧
    a.defillama.isSome ∧ a.manualcurrent.isSome ∧ a.msgAggregator.isSome))

structure HistorianArgs where
  dataDirectory : Option Nat
  cryptocompare : Option Nat
  coingecko : Option Nat
  defillama : Option Nat

def HistorianArgs.empty : HistorianArgs := ⟨.none, .none, .none, .none⟩

def HistorianArgs.Complete (a : HistorianArgs) : Prop :=
  a.dataDirectory.isSome ∧ a.cryptocompare.isSome ∧ a.coingecko.isSome ∧ a.defillama.isSome

instance (a : HistorianArgs) : Decidable a.Complete :=
  inferInstanceAs (Decidable (a.dataDirectory.isSome ∧ a.cryptocompare.isSome ∧
    a.coingecko.isSome ∧ a.defillama.isSome))

/-- The class attributes of `Inquirer` that `__new__` reads or writes, `_Inquirer__instance`
first. -/
structure InquirerClass where
  mangledInstance : Option Nat
  cryptocompare : Option Nat
  coingecko : Option Nat
  defillama : Option Nat
  manualcurrent : Option Nat
  msgAggregator : Option Nat
  cachedCurrentPrice : Option PriceCache
  attrs : Inquirer
  usd : Option AssetId
  weth : Option AssetId

/-- The historical oracles whose instances `PriceHistorian` holds as `_<oracle>`. -/
inductive HistoricalPriceOracle
  | manual | coingecko | cryptocompare | defillama
  deriving DecidableEq, Repr

/-- The attributes of `PriceHistorian` that its functions read or write. -/
structure HistorianClass where
  instanceAttr : Option Nat
  mangledInstance : Option Nat
  cryptocompare : Option Nat
  coingecko : Option Nat
  defillama : Option Nat
  manual : Option Nat
  oracles : Option (List HistoricalPriceOracle)
  oracleInstances : Option (List Nat)

structure Singletons where
  next : Nat
  inquirer : InquirerClass
  historian : HistorianClass

/-- The classes as their bodies declare them, before any constructor call. -/
def Singletons.init : Singletons :=
  ⟨0, ⟨none, none, none, none, none, none, none, Inquirer.constructed [], none, none⟩,
    ⟨none, none, none, none, none, none, none, none⟩⟩

section Constructors

variable (co : Collaborators) (specialTokens : List AssetId)

/-- The `try` block of `Inquirer.__new__`, which resolves the base assets `USD` and `WETH`. -/
def resolveBaseAssets (cls : InquirerClass) : Except PyError Unit × InquirerClass :=
  match co.resolveToFiatAsset aUsd with
  | .error _ => (.error (.runtimeError (baseAssetMessage aUsd)), cls)
  | .ok () =>
    match co.resolveToEvmToken aWeth with
    | .error _ => (.error (.runtimeError (baseAssetMessage aWeth)), { cls with usd := some aUsd })
    | .ok () => (.ok (), { cls with usd := some aUsd, weth := some aWeth })

theorem resolveBaseAssets_mangledInstance (cls : InquirerClass) :
    (resolveBaseAssets co cls).2.mangledInstance = cls.mangledInstance := by
  unfold resolveBaseAssets
  split
  · rfl
  · split <;> rfl

/-- `Inquirer.__new__`. The new object is registered before `USD` and `WETH` are resolved, so a
`RuntimeError` leaves it registered without them. -/
def inquirerNew (args : InquirerArgs) (s : Singletons) : Except PyError Nat × Singletons :=
  match s.inquirer.mangledInstance with
  | some i => (.ok i, s)
  | none =>
    if args.Complete then
      let r := resolveBaseAssets co { s.inquirer with
        mangledInstance := some s.next
        cryptocompare := args.cryptocompare
        coingecko := args.coingecko
        defillama := args.defillama
        manualcurrent := args.manualcurrent
        cachedCurrentPrice := some PriceCache.empty
        msgAggregator := args.msgAggregator
        attrs := { s.inquirer.attrs with evmManagers := [], specialTokens := specialTokens } }
      (r.1.map fun _ => s.next, { s with next := s.next + 1, inquirer := r.2 })
    else (.error (.assertionError errorMsg), s)

/-- `PriceHistorian.__new__`. It tests `_instance`, which nothing assigns, and stores the new
object under `_PriceHistorian__instance`; `ManualPriceOracle()` allocates a second object. -/
def priceHistorianNew (args : HistorianArgs) (s : Singletons) : Except PyError Nat × Singletons :=
  match s.historian.instanceAttr with
  | some i => (.ok i, s)
  | none =>
    if args.Complete then
      (.ok s.next, { s with
        next := s.next + 2
        historian := { s.historian with
          mangledInstance := some s.next
          cryptocompare := args.cryptocompare
          coingecko := args.coingecko
          defillama := args.defillama
          manual := some (s.next + 1) } })
    else (.error (.assertionError errorMsg), s)

theorem inquirerNew_of_registered {args : InquirerArgs} {s : Singletons} {i : Nat}
    (hi : s.inquirer.mangledInstance = some i) : inquirerNew co specialTokens args s = (.ok i, s) := by
  simp [inquirerNew, hi]

theorem inquirerNew_of_incomplete {args : InquirerArgs} (hargs : ¬ args.Complete) {s : Singletons}
    (hs : s.inquirer.mangledInstance = none) :
    inquirerNew co specialTokens args s = (.error (.assertionError errorMsg), s) := by
  simp [inquirerNew, hs, hargs]

theorem inquirerNew_registers {args : InquirerArgs} (hargs : args.Complete) {s : Singletons}
    (hs : s.inquirer.mangledInstance = none) :
    (inquirerNew co specialTokens args s).2.next = s.next + 1 ∧
      (inquirerNew co specialTokens args s).2.inquirer.mangledInstance = some s.next ∧
      (inquirerNew co specialTokens args s).2.historian = s.historian ∧
      ∀ i, (inquirerNew co specialTokens args s).1 = .ok i → i = s.next := by
  simp only [inquirerNew, hs, if_pos hargs, resolveBaseAssets_mangledInstance, true_and]
  intro i hi
  cases h : (resolveBaseAssets co _).1 <;> rw [h] at hi <;> cases hi
  rfl

theorem priceHistorianNew_of_registered {args : HistorianArgs} {s : Singletons} {i : Nat}
    (hi : s.historian.instanceAttr = some i) : priceHistorianNew args s = (.ok i, s) := by
  simp [priceHistorianNew, hi]

theorem priceHistorianNew_of_incomplete {args : HistorianArgs} (hargs : ¬ args.Complete)
    {s : Singletons} (hs : s.historian.instanceAttr = none) :
    priceHistorianNew args s = (.error (.assertionError errorMsg), s) := by
  simp [priceHistorianNew, hs, hargs]

theorem priceHistorianNew_of_complete {args : HistorianArgs} (hargs : args.Complete)
    {s : Singletons} (hs : s.historian.instanceAttr = none) :
    priceHistorianNew args s = (.ok s.next, { s with
        next := s.next + 2
        historian := { s.historian with
          mangledInstance := some s.next
          cryptocompare := args.cryptocompare
          coingecko := args.coingecko
          defillama := args.defillama
          manual := some (s.next + 1) } }) := by
  simp [priceHistorianNew, hs, hargs]

inductive Ctor
  | inquirer (args : InquirerArgs)
  | priceHistorian (args : HistorianArgs)

def Ctor.IsInquirer : Ctor → Prop
  | .inquirer _ => True
  | .priceHistorian _ => False

def Ctor.call : Ctor → Singletons → Except PyError Nat × Singletons
  | .inquirer args => inquirerNew co specialTokens args
  | .priceHistorian args => priceHistorianNew args

def runCtors : List Ctor → Singletons → List (Except PyError Nat) × Singletons
  | [], s => ([], s)
  | c :: cs, s =>
    let r := c.call co specialTokens s
    let rest := runCtors cs r.2
    (r.1 :: rest.1, rest.2)

def Singletons.Allocated (s : Singletons) : Prop :=
  (∀ i ∈ s.inquirer.mangledInstance, i < s.next) ∧ ∀ i ∈ s.historian.instanceAttr, i < s.next

theorem Singletons.allocated_init : Singletons.init.Allocated :=
  ⟨fun _ h => (by cases h), fun _ h => (by cases h)⟩

theorem Ctor.call_spec (c : Ctor) {s : Singletons} (hs : s.Allocated) :
    (c.call co specialTokens s).2.Allocated ∧ s.next ≤ (c.call co specialTokens s).2.next ∧
      (∀ i, (c.call co specialTokens s).1 = .ok i → i < (c.call co specialTokens s).2.next) ∧
      (c.call co specialTokens s).2.historian.instanceAttr = s.historian.instanceAttr := by
  cases c with
  | inquirer args =>
    dsimp only [Ctor.call]
    cases hi : s.inquirer.mangledInstance with
    | some i =>
      rw [inquirerNew_of_registered co specialTokens hi]
      exact ⟨hs, le_rfl, fun j hj => (by cases hj; exact hs.1 i hi), rfl⟩
    | none =>
      by_cases hargs : args.Complete
      · obtain ⟨hnext, hinst, hhist, hret⟩ := inquirerNew_registers co specialTokens hargs hi
        refine ⟨⟨fun i h => ?_, fun i h => ?_⟩, ?_, fun i h => ?_, by rw [hhist]⟩
        · rw [hinst] at h; cases h; omega
        · rw [hhist] at h; have := hs.2 i h; omega
        · omega
        · rw [hret i h]; omega
      · rw [inquirerNew_of_incomplete co specialTokens hargs hi]
        exact ⟨hs, le_rfl, fun i h => (by cases h), rfl⟩
  | priceHistorian args =>
    dsimp only [Ctor.call]
    cases hi : s.historian.instanceAttr with
    | some i =>
      rw [priceHistorianNew_of_registered hi]
      exact ⟨hs, le_rfl, fun j hj => (by cases hj; exact hs.2 i hi), hi⟩
    | none =>
      by_cases hargs : args.Complete
      · rw [priceHistorianNew_of_complete hargs hi]
        refine ⟨⟨fun i h => by have := hs.1 i h; simp only; omega, fun i h => ?_⟩,
          by simp only; omega, fun i h => ?_, hi⟩
        · simp only [hi] at h; cases h
        · cases h; simp only; omega
      · rw [priceHistorianNew_of_incomplete hargs hi]
        exact ⟨hs, le_rfl, fun i h => (by cases h), hi⟩

theorem runCtors_spec : ∀ (cs : List Ctor) {s : Singletons}, s.Allocated →
    (runCtors co specialTokens cs s).2.Allocated ∧ s.next ≤ (runCtors co specialTokens cs s).2.next ∧
      (∀ i, .ok i ∈ (runCtors co specialTokens cs s).1 → i < (runCtors co specialTokens cs s).2.next) ∧
      (runCtors co specialTokens cs s).2.historian.instanceAttr = s.historian.instanceAttr
  | [], s, hs => ⟨hs, le_rfl, fun _ h => (by cases h), rfl⟩
  | c :: cs, s, hs => by
    obtain ⟨h₁, hle₁, hret₁, hattr₁⟩ := c.call_spec co specialTokens hs
    obtain ⟨h₂, hle₂, hret₂, hattr₂⟩ := runCtors_spec cs h₁
    refine ⟨h₂, hle₁.trans hle₂, fun i hi => ?_, hattr₂.trans hattr₁⟩
    rcases List.mem_cons.mp hi with hi | hi
    · exact lt_of_lt_of_le (hret₁ i hi.symm) hle₂
    · exact hret₂ i hi

theorem priceHistorianNew_inquirer (args : HistorianArgs) (s : Singletons) :
    (priceHistorianNew args s).2.inquirer = s.inquirer := by
  unfold priceHistorianNew
  split
  · rfl
  · split <;> rfl

theorem runCtors_of_registered {i : Nat} :
    ∀ (cs : List Ctor) {s : Singletons}, s.inquirer.mangledInstance = some i →
      (runCtors co specialTokens cs s).2.inquirer = s.inquirer ∧
        ∀ c r, (c, r) ∈ cs.zip (runCtors co specialTokens cs s).1 → c.IsInquirer → r = .ok i
  | [], _, _ => ⟨rfl, fun _ _ h => (by cases h)⟩
  | .inquirer args :: cs, s, hi => by
    have hcall : (Ctor.inquirer args).call co specialTokens s = (.ok i, s) :=
      inquirerNew_of_registered co specialTokens hi
    obtain ⟨hcls, hret⟩ := runCtors_of_registered cs hi
    simp only [runCtors, hcall, List.zip_cons_cons, List.mem_cons, Prod.mk.injEq]
    refine ⟨hcls, ?_⟩
    rintro c r (⟨rfl, rfl⟩ | h) hc
    · rfl
    · exact hret c r h hc
  | .priceHistorian args :: cs, s, hi => by
    have hinq := priceHistorianNew_inquirer args s
    obtain ⟨hcls, hret⟩ := runCtors_of_registered cs
      (show (priceHistorianNew args s).2.inquirer.mangledInstance = some i by rw [hinq]; exact hi)
    simp only [runCtors, Ctor.call, List.zip_cons_cons, List.mem_cons]
    refine ⟨hcls.trans hinq, ?_⟩
    rintro c r (h | h) hc
    · cases (Prod.mk.inj h).1
      exact hc.elim
    · exact hret c r h hc

theorem instanceAttr_runCtors_init (cs : List Ctor) :
    (runCtors co specialTokens cs .init).2.historian.instanceAttr = none :=
  (runCtors_spec co specialTokens cs Singletons.allocated_init).2.2.2

end Constructors

section Registration

variable (co : Collaborators) (specialTokens : List AssetId)

theorem priceHistorian_never_reused (calls : List Ctor) {args : HistorianArgs}
    (hargs : args.Complete) :
    priceHistorianNew .empty (runCtors co specialTokens calls .init).2 =
        (.error (.assertionError errorMsg), (runCtors co specialTokens calls .init).2) ∧
      ∃ s', priceHistorianNew args (runCtors co specialTokens calls .init).2 =
          (.ok (runCtors co specialTokens calls .init).2.next, s') ∧
        (∀ i, .ok i ∈ (runCtors co specialTokens calls .init).1 →
          i < (runCtors co specialTokens calls .init).2.next) ∧
        s'.historian.manual = some ((runCtors co specialTokens calls .init).2.next + 1) := by
  have hattr := instanceAttr_runCtors_init co specialTokens calls
  exact ⟨priceHistorianNew_of_incomplete (by decide) hattr,
    _, priceHistorianNew_of_complete hargs hattr,
    (runCtors_spec co specialTokens calls Singletons.allocated_init).2.2.1, rfl⟩

theorem priceHistorian_never_reused_twice :
    HistorianArgs.Complete ⟨some 10, some 11, some 12, some 13⟩ ∧
      priceHistorianNew .empty (runCtors (Collaborators.uniform .other false) []
          [.priceHistorian ⟨some 10, some 11, some 12, some 13⟩] .init).2 =
        (.error (.assertionError errorMsg), (runCtors (Collaborators.uniform .other false) []
          [.priceHistorian ⟨some 10, some 11, some 12, some 13⟩] .init).2) ∧
      ∃ s', priceHistorianNew ⟨some 10, some 11, some 12, some 13⟩
          (runCtors (Collaborators.uniform .other false) []
            [.priceHistorian ⟨some 10, some 11, some 12, some 13⟩] .init).2 =
          (.ok (runCtors (Collaborators.uniform .other false) []
            [.priceHistorian ⟨some 10, some 11, some 12, some 13⟩] .init).2.next, s') ∧
        (∀ i, .ok i ∈ (runCtors (Collaborators.uniform .other false) []
            [.priceHistorian ⟨some 10, some 11, some 12, some 13⟩] .init).1 →
          i < (runCtors (Collaborators.uniform .other false) []
            [.priceHistorian ⟨some 10, some 11, some 12, some 13⟩] .init).2.next) ∧
        s'.historian.manual = some ((runCtors (Collaborators.uniform .other false) []
          [.priceHistorian ⟨some 10, some 11, some 12, some 13⟩] .init).2.next + 1) :=
  ⟨by decide, priceHistorian_never_reused _ _ _ (by decide)⟩

theorem inquirer_registered_for_good {args : InquirerArgs} (hargs : args.Complete)
    {s : Singletons} (hs : s.inquirer.mangledInstance = none) (calls : List Ctor) :
    (inquirerNew co specialTokens args s).2.inquirer.mangledInstance = some s.next ∧
      (runCtors co specialTokens calls (inquirerNew co specialTokens args s).2).2.inquirer =
        (inquirerNew co specialTokens args s).2.inquirer ∧
      ∀ c r, (c, r) ∈ calls.zip
          (runCtors co specialTokens calls (inquirerNew co specialTokens args s).2).1 →
        c.IsInquirer → r = .ok s.next := by
  have hreg := (inquirerNew_registers co specialTokens hargs hs).2.1
  exact ⟨hreg, runCtors_of_registered co specialTokens calls hreg⟩

theorem inquirer_registered_for_good_without_weth :
    InquirerArgs.Complete ⟨some 10, some 11, some 12, some 13, some 14, some 15⟩ ∧
      Singletons.init.inquirer.mangledInstance = none ∧
      (inquirerNew { Collaborators.uniform .other false with
          resolveToEvmToken := fun _ => .error .unknownAsset } []
        ⟨some 10, some 11, some 12, some 13, some 14, some 15⟩ .init).1 =
        .error (.runtimeError (baseAssetMessage aWeth)) ∧
      (inquirerNew { Collaborators.uniform .other false with
          resolveToEvmToken := fun _ => .error .unknownAsset } []
        ⟨some 10, some 11, some 12, some 13, some 14, some 15⟩ .init).2.inquirer.mangledInstance =
        some Singletons.init.next ∧
      (runCtors { Collaborators.uniform .other false with
          resolveToEvmToken := fun _ => .error .unknownAsset } [] [.inquirer .empty]
        (inquirerNew { Collaborators.uniform .other false with
          resolveToEvmToken := fun _ => .error .unknownAsset } []
          ⟨some 10, some 11, some 12, some 13, some 14, some 15⟩ .init).2).2.inquirer =
        (inquirerNew { Collaborators.uniform .other false with
          resolveToEvmToken := fun _ => .error .unknownAsset } []
          ⟨some 10, some 11, some 12, some 13, some 14, some 15⟩ .init).2.inquirer ∧
      ∀ c r, (c, r) ∈ [Ctor.inquirer .empty].zip
          (runCtors { Collaborators.uniform .other false with
            resolveToEvmToken := fun _ => .error .unknownAsset } [] [.inquirer .empty]
            (inquirerNew { Collaborators.uniform .other false with
              resolveToEvmToken := fun _ => .error .unknownAsset } []
              ⟨some 10, some 11, some 12, some 13, some 14, some 15⟩ .init).2).1 →
        c.IsInquirer → r = .ok Singletons.init.next :=
  ⟨by decide, rfl, rfl, inquirer_registered_for_good _ _ (by decide) rfl _⟩

end Registration

end BitcointView

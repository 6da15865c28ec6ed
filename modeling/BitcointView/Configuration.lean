import BitcointView.OracleOrder

/-!
The class-level calls that configure the `Inquirer` singleton: `inject_evm_manager`,
`add_defi_oracles` and `set_oracles_order`, beside the constructors of both classes and
`PriceHistorian.set_oracles_order`. Each of the first three starts with `Inquirer()` without
arguments, so it raises `AssertionError` and changes nothing until a constructor call has
registered the object. Of `_evm_managers` only the chain ids are modelled: they are what
`get_evm_manager` asserts on.
-/

namespace BitcointView

def Singletons.withAttrs (s : Singletons) (inq : Inquirer) : Singletons :=
  { s with inquirer := { s.inquirer with attrs := inq } }

@[simp] theorem Singletons.withAttrs_attrs (s : Singletons) (inq : Inquirer) :
    (s.withAttrs inq).inquirer.attrs = inq := rfl

@[simp] theorem Singletons.withAttrs_mangledInstance (s : Singletons) (inq : Inquirer) :
    (s.withAttrs inq).inquirer.mangledInstance = s.inquirer.mangledInstance := rfl

section Calls

variable (co : Collaborators) (specialTokens : List AssetId)

/-- `Inquirer.inject_evm_manager(evm_managers)`: `Inquirer()`, then one item assignment of
`_evm_managers` per pair. -/
def inquirerInjectEvmManager (chains : List ChainId) (s : Singletons) :
    Except PyError Unit × Singletons :=
  match inquirerNew co specialTokens .empty s with
  | (.error e, s') => (.error e, s')
  | (.ok _, s') =>
    let attrs := s'.inquirer.attrs
    (.ok (), s'.withAttrs
      { attrs with evmManagers := chains.foldl (fun m chain => m.insert chain) attrs.evmManagers })

/-- `Inquirer.add_defi_oracles(uniswap_v2, uniswap_v3)`: two assignments, each on the object that
its own `Inquirer()` returns. -/
def inquirerAddDefiOracles (uniswapV2 uniswapV3 : Option Adapter) (s : Singletons) :
    Except PyError Unit × Singletons :=
  match inquirerNew co specialTokens .empty s with
  | (.error e, s₁) => (.error e, s₁)
  | (.ok _, s₁) =>
    let s₂ := s₁.withAttrs { s₁.inquirer.attrs with uniswapv2 := uniswapV2 }
    match inquirerNew co specialTokens .empty s₂ with
    | (.error e, s₃) => (.error e, s₃)
    | (.ok _, s₃) => (.ok (), s₃.withAttrs { s₃.inquirer.attrs with uniswapv3 := uniswapV3 })

end Calls

inductive ConfigCall
  | ctor (c : Ctor)
  | injectEvmManager (chains : List ChainId)
  | addDefiOracles (uniswapV2 uniswapV3 : Option Adapter)
  | setOraclesOrder (oracles : List CurrentPriceOracle)
  | historianSetOraclesOrder (oracles : List HistoricalPriceOracle)

section Run

variable (co : Collaborators) (specialTokens : List AssetId)

def ConfigCall.call : ConfigCall → Singletons → Except PyError Unit × Singletons
  | .ctor c, s => let r := c.call co specialTokens s; (r.1.map fun _ => (), r.2)
  | .injectEvmManager chains, s => inquirerInjectEvmManager co specialTokens chains s
  | .addDefiOracles uniswapV2 uniswapV3, s => inquirerAddDefiOracles co specialTokens uniswapV2 uniswapV3 s
  | .setOraclesOrder oracles, s => inquirerSetOraclesOrder co specialTokens oracles s
  | .historianSetOraclesOrder oracles, s => BitcointView.historianSetOraclesOrder oracles s

def runConfig : List ConfigCall → Singletons → List (Except PyError Unit) × Singletons
  | [], s => ([], s)
  | c :: cs, s =>
    let r := c.call co specialTokens s
    let rest := runConfig cs r.2
    (r.1 :: rest.1, rest.2)

end Run

section Frames

variable (co : Collaborators) (specialTokens : List AssetId) {s : Singletons}

theorem inquirerNew_empty_of_none (hs : s.inquirer.mangledInstance = none) :
    inquirerNew co specialTokens .empty s = (.error (.assertionError errorMsg), s) :=
  inquirerNew_of_incomplete co specialTokens (by simp [InquirerArgs.Complete, InquirerArgs.empty]) hs

theorem mem_foldl_insert {chain : ChainId} :
    ∀ (chains m : List ChainId), chain ∈ chains.foldl (fun m c => m.insert c) m ↔ chain ∈ m ∨ chain ∈ chains
  | [], m => by simp
  | c :: chains, m => by
    rw [List.foldl_cons, mem_foldl_insert chains, List.mem_insert_iff, List.mem_cons, or_assoc,
      or_left_comm]

theorem inquirerInjectEvmManager_of_registered {i : Nat} (hi : s.inquirer.mangledInstance = some i)
    (chains : List ChainId) :
    inquirerInjectEvmManager co specialTokens chains s = (.ok (), s.withAttrs
      { s.inquirer.attrs with
        evmManagers := chains.foldl (fun m c => m.insert c) s.inquirer.attrs.evmManagers }) := by
  simp [inquirerInjectEvmManager, inquirerNew_of_registered co specialTokens hi]

theorem inquirerInjectEvmManager_of_none (hs : s.inquirer.mangledInstance = none)
    (chains : List ChainId) :
    inquirerInjectEvmManager co specialTokens chains s = (.error (.assertionError errorMsg), s) := by
  simp [inquirerInjectEvmManager, inquirerNew_empty_of_none co specialTokens hs]

theorem inquirerAddDefiOracles_of_registered {i : Nat} (hi : s.inquirer.mangledInstance = some i)
    (uniswapV2 uniswapV3 : Option Adapter) :
    inquirerAddDefiOracles co specialTokens uniswapV2 uniswapV3 s = (.ok (), s.withAttrs
      { s.inquirer.attrs with uniswapv2 := uniswapV2, uniswapv3 := uniswapV3 }) := by
  have hi₂ : (s.withAttrs { s.inquirer.attrs with uniswapv2 := uniswapV2 }).inquirer.mangledInstance =
      some i := hi
  simp only [inquirerAddDefiOracles, inquirerNew_of_registered co specialTokens hi,
    inquirerNew_of_registered co specialTokens hi₂]
  rfl

theorem inquirerAddDefiOracles_of_none (hs : s.inquirer.mangledInstance = none)
    (uniswapV2 uniswapV3 : Option Adapter) :
    inquirerAddDefiOracles co specialTokens uniswapV2 uniswapV3 s = (.error (.assertionError errorMsg), s) := by
  simp [inquirerAddDefiOracles, inquirerNew_empty_of_none co specialTokens hs]

theorem inquirerSetOraclesOrder_frame (oracles : List CurrentPriceOracle) :
    (inquirerSetOraclesOrder co specialTokens oracles s).2.inquirer.mangledInstance =
        s.inquirer.mangledInstance ∧
      (inquirerSetOraclesOrder co specialTokens oracles s).2.inquirer.attrs.evmManagers =
        s.inquirer.attrs.evmManagers ∧
      (inquirerSetOraclesOrder co specialTokens oracles s).2.inquirer.attrs.uniswapv2 =
        s.inquirer.attrs.uniswapv2 ∧
      (inquirerSetOraclesOrder co specialTokens oracles s).2.inquirer.attrs.uniswapv3 =
        s.inquirer.attrs.uniswapv3 := by
  have ho := inquirerSetOraclesOrder_outcome co specialTokens s oracles
  generalize inquirerSetOraclesOrder co specialTokens oracles s = r at ho ⊢
  rcases ho with ⟨-, -, -, _ | _ | _⟩ | _ | _ <;> exact ⟨rfl, rfl, rfl, rfl⟩

theorem historianSetOraclesOrder_inquirer (oracles : List HistoricalPriceOracle) :
    (historianSetOraclesOrder oracles s).2.inquirer = s.inquirer := by
  have ho := historianSetOraclesOrder_outcome s oracles
  generalize historianSetOraclesOrder oracles s = r at ho ⊢
  rcases ho with _ | _ | _ | _ <;> rfl

theorem resolveBaseAssets_attrs (cls : InquirerClass) :
    (resolveBaseAssets co cls).2.attrs = cls.attrs := by
  unfold resolveBaseAssets
  split
  · rfl
  · split <;> rfl

end Frames

def Inquirer.OrderSet (inq : Inquirer) : Prop :=
  inq.oracles.isSome ∧ inq.oracleInstances.isSome ∧ inq.oraclesNotOnchain.isSome ∧
    inq.oracleInstancesNotOnchain.isSome

theorem _queryOracleInstances_of_not_orderSet (co : Collaborators) {inq : Inquirer}
    (h : ¬ inq.OrderSet) (fromAsset toAsset : AssetId) (c s m : Bool) :
    _queryOracleInstances co inq fromAsset toAsset c s m =
      .raise (.assertionError "Inquirer should never be called before setting the oracles") := by
  have hg : inq.oracles.isNone ∨ inq.oracleInstances.isNone ∨ inq.oraclesNotOnchain.isNone ∨
      inq.oracleInstancesNotOnchain.isNone := by
    simpa only [Inquirer.OrderSet, not_and_or, Option.not_isSome_iff_eq_none,
      Option.isNone_iff_eq_none] using h
  simp only [_queryOracleInstances, if_pos hg]

structure Singletons.ConfigInv (s : Singletons) : Prop where
  noManagers : s.inquirer.mangledInstance = none → s.inquirer.attrs.evmManagers = []
  orderSet_of_instances : s.inquirer.attrs.oracleInstances.isSome → s.inquirer.attrs.OrderSet

theorem Singletons.configInv_init : Singletons.init.ConfigInv :=
  ⟨fun _ => rfl, fun h => absurd h (by decide)⟩

def Singletons.defiOracles (s : Singletons) : Option Adapter × Option Adapter :=
  (s.inquirer.attrs.uniswapv2, s.inquirer.attrs.uniswapv3)

def InjectedBy (chain : ChainId) : ConfigCall × Except PyError Unit → Prop
  | (.injectEvmManager chains, .ok ()) => chain ∈ chains
  | _ => False

def OrderedBy : ConfigCall × Except PyError Unit → Prop
  | (.setOraclesOrder _, .ok ()) => True
  | _ => False

def defiOraclesAfter (d : Option Adapter × Option Adapter) :
    ConfigCall × Except PyError Unit → Option Adapter × Option Adapter
  | (.addDefiOracles uniswapV2 uniswapV3, .ok ()) => (uniswapV2, uniswapV3)
  | _ => d

def lastDefiOracles (calls : List (ConfigCall × Except PyError Unit))
    (d : Option Adapter × Option Adapter) : Option Adapter × Option Adapter :=
  calls.foldl defiOraclesAfter d

theorem iff_or_exists_cons {P₀ P₁ P₂ : Prop} {Q : ConfigCall × Except PyError Unit → Prop}
    {x : ConfigCall × Except PyError Unit} {xs : List (ConfigCall × Except PyError Unit)}
    (h₁ : P₁ ↔ P₀ ∨ Q x) (h₂ : P₂ ↔ P₁ ∨ ∃ y ∈ xs, Q y) : P₂ ↔ P₀ ∨ ∃ y ∈ x :: xs, Q y := by
  rw [h₂, h₁]
  simp only [List.mem_cons, or_and_right, exists_or, exists_eq_left, or_assoc]

section Spec

variable (co : Collaborators) (specialTokens : List AssetId)

theorem Ctor.call_attrs (c : Ctor) (s : Singletons) :
    ((c.call co specialTokens s).2.inquirer.mangledInstance = s.inquirer.mangledInstance ∧
        (c.call co specialTokens s).2.inquirer.attrs = s.inquirer.attrs) ∨
      (s.inquirer.mangledInstance = none ∧
        (c.call co specialTokens s).2.inquirer.mangledInstance ≠ none ∧
        (c.call co specialTokens s).2.inquirer.attrs =
          { s.inquirer.attrs with evmManagers := [], specialTokens := specialTokens }) := by
  cases c with
  | priceHistorian args =>
    have h := priceHistorianNew_inquirer args s
    exact .inl ⟨by simp only [Ctor.call, h], by simp only [Ctor.call, h]⟩
  | inquirer args =>
    simp only [Ctor.call]
    cases hi : s.inquirer.mangledInstance with
    | some i =>
      rw [inquirerNew_of_registered co specialTokens hi]
      exact .inl ⟨hi, rfl⟩
    | none =>
      by_cases hargs : args.Complete
      · refine .inr ⟨rfl, ?_, ?_⟩
        · simp [(inquirerNew_registers co specialTokens hargs hi).2.1]
        · simp [inquirerNew, hi, hargs, resolveBaseAssets_attrs]
      · rw [inquirerNew_of_incomplete co specialTokens hargs hi]
        exact .inl ⟨hi, rfl⟩

theorem inquirerSetOraclesOrder_orderSet (oracles : List CurrentPriceOracle) {s : Singletons}
    (hs : s.inquirer.attrs.oracleInstances.isSome → s.inquirer.attrs.OrderSet) :
    ((inquirerSetOraclesOrder co specialTokens oracles s).2.inquirer.attrs.oracleInstances.isSome →
        (inquirerSetOraclesOrder co specialTokens oracles s).2.inquirer.attrs.OrderSet) ∧
      ((inquirerSetOraclesOrder co specialTokens oracles s).2.inquirer.attrs.OrderSet ↔
        s.inquirer.attrs.OrderSet ∨ (inquirerSetOraclesOrder co specialTokens oracles s).1 = .ok ()) := by
  have ho := inquirerSetOraclesOrder_outcome co specialTokens s oracles
  generalize inquirerSetOraclesOrder co specialTokens oracles s = r at ho ⊢
  rcases ho with ⟨-, -, -, ho⟩ | _ | _
  · rcases ho with ⟨-, -, -, -⟩ | _ | ⟨-, -, -, -⟩
    · simp [Inquirer.OrderSet]
    · simpa using hs
    · refine ⟨fun h => ?_, ?_⟩
      · obtain ⟨-, h₂, h₃, h₄⟩ := hs h
        exact ⟨rfl, h₂, h₃, h₄⟩
      · simp only [reduceCtorEq, or_false]
        exact ⟨fun h => hs h.2.1, fun ⟨_, h₂, h₃, h₄⟩ => ⟨rfl, h₂, h₃, h₄⟩⟩
  all_goals simpa using hs

theorem ConfigCall.call_spec (c : ConfigCall) {s : Singletons} (hs : s.ConfigInv) :
    (c.call co specialTokens s).2.ConfigInv ∧
      (∀ chain, chain ∈ (c.call co specialTokens s).2.inquirer.attrs.evmManagers ↔
        chain ∈ s.inquirer.attrs.evmManagers ∨ InjectedBy chain (c, (c.call co specialTokens s).1)) ∧
      (c.call co specialTokens s).2.defiOracles =
        defiOraclesAfter s.defiOracles (c, (c.call co specialTokens s).1) ∧
      ((c.call co specialTokens s).2.inquirer.attrs.OrderSet ↔
        s.inquirer.attrs.OrderSet ∨ OrderedBy (c, (c.call co specialTokens s).1)) := by
  cases c with
  | ctor c =>
    rw [ConfigCall.call]
    rcases c.call_attrs co specialTokens s with ⟨hm, ha⟩ | ⟨hnone, hsome, ha⟩
    · refine ⟨⟨?_, ?_⟩, fun chain => ?_, ?_, ?_⟩ <;>
        simp only [hm, ha, Singletons.defiOracles, InjectedBy, defiOraclesAfter, OrderedBy,
          or_false, iff_self]
      exacts [hs.noManagers, hs.orderSet_of_instances]
    · refine ⟨⟨fun h => absurd h hsome, ?_⟩, fun chain => ?_, ?_, ?_⟩ <;>
        simp only [ha, hs.noManagers hnone, Singletons.defiOracles, InjectedBy, defiOraclesAfter,
          OrderedBy, or_false]
      exacts [hs.orderSet_of_instances, Iff.rfl]
  | injectEvmManager chains =>
    cases hi : s.inquirer.mangledInstance with
    | some i =>
      rw [ConfigCall.call, inquirerInjectEvmManager_of_registered co specialTokens hi]
      refine ⟨⟨fun h => by simp [hi] at h, hs.orderSet_of_instances⟩, fun chain => ?_, rfl, ?_⟩ <;>
        simp [mem_foldl_insert, InjectedBy, OrderedBy, Inquirer.OrderSet]
    | none =>
      rw [ConfigCall.call, inquirerInjectEvmManager_of_none co specialTokens hi]
      exact ⟨hs, by simp [InjectedBy], rfl, by simp [OrderedBy]⟩
  | addDefiOracles uniswapV2 uniswapV3 =>
    cases hi : s.inquirer.mangledInstance with
    | some i =>
      rw [ConfigCall.call, inquirerAddDefiOracles_of_registered co specialTokens hi]
      refine ⟨⟨fun h => by simp [hi] at h, hs.orderSet_of_instances⟩, fun chain => ?_, rfl, ?_⟩ <;>
        simp [InjectedBy, OrderedBy, Inquirer.OrderSet]
    | none =>
      rw [ConfigCall.call, inquirerAddDefiOracles_of_none co specialTokens hi]
      exact ⟨hs, by simp [InjectedBy], rfl, by simp [OrderedBy]⟩
  | setOraclesOrder oracles =>
    rw [ConfigCall.call]
    obtain ⟨hm, hev, hv2, hv3⟩ := inquirerSetOraclesOrder_frame co specialTokens (s := s) oracles
    obtain ⟨hinst, horder⟩ := inquirerSetOraclesOrder_orderSet co specialTokens oracles
      hs.orderSet_of_instances
    refine ⟨⟨fun h => ?_, hinst⟩, fun _ => ?_, ?_, ?_⟩
    · rw [hev]
      exact hs.noManagers (hm ▸ h)
    · simp only [hev, InjectedBy, or_false]
    · simp only [Singletons.defiOracles, hv2, hv3, defiOraclesAfter]
    · rw [horder]
      cases (inquirerSetOraclesOrder co specialTokens oracles s).1 <;> simp [OrderedBy]
  | historianSetOraclesOrder oracles =>
    have h := historianSetOraclesOrder_inquirer (s := s) oracles
    rw [ConfigCall.call]
    refine ⟨⟨?_, ?_⟩, fun chain => ?_, ?_, ?_⟩ <;>
      simp only [h, Singletons.defiOracles, InjectedBy, defiOraclesAfter, OrderedBy, or_false,
        iff_self]
    exacts [hs.noManagers, hs.orderSet_of_instances]

theorem runConfig_spec : ∀ (cs : List ConfigCall) {s : Singletons}, s.ConfigInv →
    (runConfig co specialTokens cs s).2.ConfigInv ∧
      (∀ chain, chain ∈ (runConfig co specialTokens cs s).2.inquirer.attrs.evmManagers ↔
        chain ∈ s.inquirer.attrs.evmManagers ∨
          ∃ x ∈ cs.zip (runConfig co specialTokens cs s).1, InjectedBy chain x) ∧
      (runConfig co specialTokens cs s).2.defiOracles =
        lastDefiOracles (cs.zip (runConfig co specialTokens cs s).1) s.defiOracles ∧
      ((runConfig co specialTokens cs s).2.inquirer.attrs.OrderSet ↔
        s.inquirer.attrs.OrderSet ∨ ∃ x ∈ cs.zip (runConfig co specialTokens cs s).1, OrderedBy x)
  | [], s, hs => ⟨hs, by simp [runConfig], rfl, by simp [runConfig]⟩
  | c :: cs, s, hs => by
    obtain ⟨h₁, hmem₁, hdefi₁, horder₁⟩ := c.call_spec co specialTokens hs
    obtain ⟨h₂, hmem₂, hdefi₂, horder₂⟩ := runConfig_spec cs h₁
    simp only [runConfig, List.zip_cons_cons]
    refine ⟨h₂, fun chain => iff_or_exists_cons (hmem₁ chain) (hmem₂ chain), ?_,
      iff_or_exists_cons horder₁ horder₂⟩
    rw [lastDefiOracles, List.foldl_cons, ← hdefi₁, hdefi₂]
    rfl

end Spec

theorem inquirer_configuration_of_calls (co : Collaborators) (specialTokens : List AssetId)
    (cs : List ConfigCall) (chain : ChainId) :
    (getEvmManager (runConfig co specialTokens cs .init).2.inquirer.attrs chain = .pure () ↔
      ∃ x ∈ cs.zip (runConfig co specialTokens cs .init).1, InjectedBy chain x) ∧
      (runConfig co specialTokens cs .init).2.defiOracles =
        lastDefiOracles (cs.zip (runConfig co specialTokens cs .init).1) (none, none) ∧
      ((runConfig co specialTokens cs .init).2.inquirer.attrs.OrderSet ↔
        ∃ x ∈ cs.zip (runConfig co specialTokens cs .init).1, OrderedBy x) := by
  obtain ⟨-, hmem, hdefi, horder⟩ := runConfig_spec co specialTokens cs Singletons.configInv_init
  have hiff := hmem chain
  have hnone : ¬ Singletons.init.inquirer.attrs.OrderSet := by
    simp [Singletons.init, Inquirer.constructed, Inquirer.OrderSet]
  simp only [show Singletons.init.inquirer.attrs.evmManagers = [] from rfl, List.not_mem_nil,
    false_or] at hiff
  refine ⟨?_, hdefi, by simpa [hnone] using horder⟩
  rw [← hiff]
  unfold getEvmManager
  split <;> simp_all

example : (runConfig (Collaborators.uniform .other false) []
    [.injectEvmManager [1], .ctor (.inquirer ⟨some 10, some 11, some 12, some 13, some 14, some 15⟩),
      .injectEvmManager [10]] .init).2.inquirer.attrs.evmManagers = [10] := by
  decide

end BitcointView

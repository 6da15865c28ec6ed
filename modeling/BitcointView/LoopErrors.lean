import BitcointView.OracleLoop

/-!
What the oracle loop of `_query_oracle_instances` lets out: the `except` clauses swallow every
oracle failure but `RecursionError`, which propagates only when the call comes from a latest
price and is otherwise reported to the message aggregator with the loop warning.
-/

namespace BitcointView

open Prog

namespace Prog

variable {α β : Type}

def Raises (E : PyError → Prop) : Prog α → Prop
  | pure _ => True
  | raise e => E e
  | lookup _ _ n => ∀ o, (n o).Raises E
  | store _ _ n => n.Raises E
  | ask _ n => ∀ a, (n a).Raises E
  | warn _ n => n.Raises E
  | call _ n => ∀ r, (n r).Raises E

theorem Raises.bind {E : PyError → Prop} {p : Prog α} {f : α → Prog β} (hp : p.Raises E)
    (hf : ∀ a, (f a).Raises E) : (p >>= f).Raises E := by
  induction p with
  | pure a => exact hf a
  | raise e => exact hp
  | lookup k m n ih => exact fun o => ih o (hp o)
  | store k r n ih => exact ih hp
  | ask q n ih => exact fun a => ih a (hp a)
  | warn s n ih => exact ih hp
  | call c n ih => exact fun r => ih r (hp r)

variable {env : Behaviour} {now : Timestamp} {callee : Call → World → Except PyError Triple × World}

theorem runWith_raises {E : PyError → Prop} {p : Prog α} (hp : p.Raises E) {w w' : World}
    {e : PyError} (h : p.runWith env now callee w = (.error e, w')) : E e := by
  induction p generalizing w with
  | pure a => exact absurd (Prod.mk.inj h).1 (by simp)
  | raise e' =>
    obtain ⟨⟨⟩, -⟩ := Prod.mk.inj h
    exact hp
  | lookup k m n ih => exact ih _ (hp _) h
  | store k r n ih => exact ih hp h
  | ask q n ih => exact ih _ (hp _) h
  | warn s n ih => exact ih hp h
  | call c n ih => exact ih _ (hp _) h

end Prog

section Loop

variable (co : Collaborators) (fromAsset toAsset : AssetId) (c m : Bool)

theorem skipsInstance_raises (E : PyError → Prop) (a : Adapter) : (skipsInstance co a).Raises E := by
  unfold skipsInstance
  split
  · intro (limited : Bool)
    dsimp only
    split
    · trivial
    · split
      · exact fun _ => trivial
      · trivial
  · trivial

theorem queryOracleLoop_raises (pairs : List (CurrentPriceOracle × Option Adapter))
    (hset : ∀ p ∈ pairs, p.2.isSome) (acc : Price × CurrentPriceOracle × Bool) :
    (queryOracleLoop co fromAsset toAsset c m pairs acc).Raises
      (fun e => e = .recursionError ∧ c = true) := by
  induction pairs generalizing acc with
  | nil => trivial
  | cons p rest ih =>
    obtain ⟨oracle, _ | a⟩ := p
    · exact absurd (hset _ (.head _)) (by simp)
    obtain ⟨price, oracleQueried, used⟩ := acc
    have hrest : ∀ acc, (queryOracleLoop co fromAsset toAsset c m rest acc).Raises
        (fun e => e = .recursionError ∧ c = true) :=
      fun acc => ih (fun p hp => hset p (.tail _ hp)) acc
    refine Raises.bind (skipsInstance_raises co _ a) fun skip => ?_
    split
    · exact hrest _
    · intro (r : Except OracleError (Price × Bool))
      rcases r with (_ | _ | _ | _) | ⟨p, u⟩
      · exact hrest _
      · exact hrest _
      · exact hrest _
      · cases c
        · exact hrest _
        · exact ⟨rfl, rfl⟩
      · by_cases hp : p = zeroPrice <;> simp [hp, Raises, hrest]

def WarnsLoop (eff : Effect) : Prop :=
  (∀ s, eff = .warn s → s = recursionLoopWarning fromAsset toAsset ∧ c = false) ∧
    ∀ call, eff ≠ .call call

theorem queryOracleLoop_warns (pairs : List (CurrentPriceOracle × Option Adapter))
    (acc : Price × CurrentPriceOracle × Bool) :
    (queryOracleLoop co fromAsset toAsset c m pairs acc).Every (WarnsLoop fromAsset toAsset c) := by
  refine queryOracleLoop_every co _ _ _ _ _ _ (fun _ _ _ _ => ⟨nofun, nofun⟩) fun hc => ⟨?_, nofun⟩
  rintro _ ⟨⟩
  exact ⟨rfl, hc⟩

def LoopOutcome {α : Type} (w : World) (out : Except PyError α × World) : Prop :=
  (∀ e, out.1 = .error e → e = .recursionError ∧ c = true) ∧
    ∃ k, out.2.warnings = List.replicate k (recursionLoopWarning fromAsset toAsset) ++ w.warnings ∧
      (c = true → k = 0)

theorem run_loopOutcome {α : Type} {p : Prog α} (hraises : p.Raises (fun e => e = .recursionError ∧ c = true))
    (hwarns : p.Every (WarnsLoop fromAsset toAsset c)) (env : Behaviour) (now : Timestamp)
    (bodyOf : Call → Prog Triple) (d : Nat) (w : World) :
    LoopOutcome fromAsset toAsset c w (run env now bodyOf d p w) := by
  rw [run_eq]
  refine ⟨fun e he => runWith_raises hraises (Prod.ext he rfl), ?_⟩
  refine runWith_inv (I := fun w' => ∃ k, w'.warnings =
      List.replicate k (recursionLoopWarning fromAsset toAsset) ++ w.warnings ∧ (c = true → k = 0))
    hwarns (fun _ _ _ _ h => h) (fun _ _ _ h => h) ?_ (fun call _ hP => absurd rfl (hP.2 call))
    ⟨0, rfl, fun _ => rfl⟩
  rintro msg w' ⟨hP, -⟩ ⟨k, hk, -⟩
  obtain ⟨rfl, hcf⟩ := hP msg rfl
  exact ⟨k + 1, by simp [hk, List.replicate_succ], fun h => absurd (h.symm.trans hcf) (by decide)⟩

end Loop

theorem oracle_loop_raises_only_recursion (co : Collaborators) (env : Behaviour) (now : Timestamp)
    (bodyOf : Call → Prog Triple) (d : Nat) (w : World) (fromAsset toAsset : AssetId) (c m : Bool) :
    (∀ pairs : List (CurrentPriceOracle × Option Adapter), (∀ p ∈ pairs, p.2.isSome) → ∀ acc,
      LoopOutcome fromAsset toAsset c w
        (run env now bodyOf d (queryOracleLoop co fromAsset toAsset c m pairs acc) w)) ∧
      ∀ (inq₀ inq : Inquirer) (O : List CurrentPriceOracle) (s : Bool),
        inq₀.setOraclesOrder O = (.ok (), inq) → co.isAssetWithOracles fromAsset = false →
        LoopOutcome fromAsset toAsset c w
          (run env now (body co inq) d (_queryOracleInstances co inq fromAsset toAsset c s m) w) := by
  refine ⟨fun pairs hset acc => run_loopOutcome fromAsset toAsset c
    (queryOracleLoop_raises co fromAsset toAsset c m pairs hset acc)
    (queryOracleLoop_warns co fromAsset toAsset c m pairs acc) env now bodyOf d w, ?_⟩
  intro inq₀ inq O s hset hno
  obtain ⟨h1, h2, h3, h4⟩ := setOraclesOrder_ok hset
  have hbranch : _queryOracleInstances co inq fromAsset toAsset c s m =
      queryOracleLoop co fromAsset toAsset c m [(.manualcurrent, some .manualcurrent)]
          (zeroPrice, .blockchain, false) >>= fun r => match r with
        | (price, oracleQueried, used) => .store (fromAsset, toAsset)
            (price, .member oracleQueried, used) (.pure (price, .member oracleQueried, used)) := by
    simp only [_queryOracleInstances, h1, h2, h3, h4, hno, Option.isNone_some, or_self,
      Bool.false_eq_true, if_false]
  rw [hbranch]
  refine run_loopOutcome fromAsset toAsset c ?_ ?_ env now _ d w
  · exact (queryOracleLoop_raises co _ _ _ _ _ (by simp) _).bind fun ⟨_, _, _⟩ => trivial
  · exact (queryOracleLoop_warns co _ _ _ _ _ _).bind fun ⟨_, _, _⟩ => ⟨⟨nofun, nofun⟩, trivial⟩

theorem oracle_loop_raises_only_recursion_two :
    LoopOutcome "A" "B" false World.empty
      (run Behaviour.unreachable 0 (body (Collaborators.uniform .other false)
          (Inquirer.ordered [.coingecko])) 1
        (queryOracleLoop (Collaborators.uniform .other false) "A" "B" false false
          [(.coingecko, some .coingecko), (.manualcurrent, some .manualcurrent)]
          (zeroPrice, .blockchain, false)) World.empty) :=
  (oracle_loop_raises_only_recursion (Collaborators.uniform .other false) Behaviour.unreachable 0
    (body (Collaborators.uniform .other false) (Inquirer.ordered [.coingecko])) 1 World.empty "A" "B"
    false false).1 _ (by decide) _

end BitcointView

import BitcointView.Historian

/-!
`set_oracles_order` of `Inquirer` and of `PriceHistorian`. Both assign `_oracles` before the
list comprehension of `getattr` calls that builds `_oracle_instances`, so an id with no
`_<id>` attribute raises `AttributeError` after the ids have been replaced and before the
instances are: the registry is then the new ids beside the old instances.
-/

namespace BitcointView

section MapM

variable {α β : Type} {f : α → Except PyError β}

theorem mapM_eq_ok_iff {l : List α} {ys : List β} :
    l.mapM f = .ok ys ↔ List.Forall₂ (fun x y => f x = .ok y) l ys := by
  induction l generalizing ys with
  | nil =>
    cases ys
    · exact ⟨fun _ => .nil, fun _ => rfl⟩
    · exact ⟨fun h => (nomatch h), fun h => (nomatch h)⟩
  | cons x l ih =>
    rw [List.mapM_cons]
    cases hx : f x <;> cases hl : l.mapM f <;> cases ys <;>
      simp only [hx, hl, bind, Except.bind, pure, Except.pure, List.forall₂_cons, ← ih,
        List.forall₂_nil_right_iff, reduceCtorEq, Except.ok.injEq, List.cons.injEq, false_and,
        and_false, iff_false, not_false_eq_true]

theorem exists_error_of_mapM_eq_error {l : List α} {e : PyError} (h : l.mapM f = .error e) :
    ∃ x ∈ l, f x = .error e := by
  induction l with
  | nil => cases h
  | cons x l ih =>
    rw [List.mapM_cons] at h
    cases hx : f x <;> cases hl : l.mapM f <;> simp_all [bind, Except.bind, pure, Except.pure]

end MapM

def Aligned {ι β : Type} (attr : ι → Except PyError β) (oracles : List ι) (instances : List β) :
    Prop :=
  List.Forall₂ (fun o v => attr o = .ok v) oracles instances

section Filter

variable {ι β : Type} {attr : ι → Except PyError β} (P : ι → Bool)

theorem Aligned.map_fst_filter_zip {oracles : List ι} {instances : List β}
    (h : Aligned attr oracles instances) :
    ((oracles.zip instances).filter fun p => P p.1).map Prod.fst = oracles.filter P := by
  induction h with
  | nil => rfl
  | @cons o v _ _ _ _ ih => by_cases hp : P o <;> simp [List.filter_cons, hp, ih]

theorem Aligned.filter_zip {oracles : List ι} {instances : List β}
    (h : Aligned attr oracles instances) :
    Aligned attr (oracles.filter P) (((oracles.zip instances).filter fun p => P p.1).map Prod.snd) := by
  induction h with
  | nil => exact .nil
  | @cons o v _ _ hov _ ih =>
    by_cases hp : P o
    · simp only [List.zip_cons_cons, List.filter_cons, hp, if_true, List.map_cons]
      exact .cons hov ih
    · simpa [List.filter_cons, hp] using ih

end Filter

namespace Inquirer

inductive SetOrderOutcome (inq : Inquirer) (oracles : List CurrentPriceOracle) :
    Except PyError Unit × Inquirer → Prop
  | registered {instances instancesNotOnchain : List (Option Adapter)} :
      oracles ≠ [] → oracles.Nodup → Aligned inq.oracleAttr oracles instances →
      Aligned inq.oracleAttr (oracles.filter fun o => !isOnchain o) instancesNotOnchain →
      SetOrderOutcome inq oracles (.ok (), { inq with
        oracles := some oracles
        oracleInstances := some instances
        oraclesNotOnchain := some (oracles.filter fun o => !isOnchain o)
        oracleInstancesNotOnchain := some instancesNotOnchain })
  | rejected : ¬ (oracles ≠ [] ∧ oracles.Nodup) →
      SetOrderOutcome inq oracles
        (.error (.assertionError "Oracles can\x27t be empty or have repeated items"), inq)
  | idsOnly {o : CurrentPriceOracle} {e : PyError} : oracles ≠ [] → oracles.Nodup →
      o ∈ oracles → inq.oracleAttr o = .error e →
      SetOrderOutcome inq oracles (.error e, { inq with oracles := some oracles })

theorem setOraclesOrder_outcome (inq : Inquirer) (oracles : List CurrentPriceOracle) :
    SetOrderOutcome inq oracles (inq.setOraclesOrder oracles) := by
  unfold setOraclesOrder
  split_ifs with hv
  · have hne : oracles ≠ [] := fun h => hv.1 (by simp [h])
    cases hm : oracles.mapM inq.oracleAttr with
    | error e =>
      obtain ⟨o, ho, he⟩ := exists_error_of_mapM_eq_error hm
      exact .idsOnly hne hv.2 ho he
    | ok instances =>
      have ha : Aligned inq.oracleAttr oracles instances := mapM_eq_ok_iff.mp hm
      simp only
      rw [ha.map_fst_filter_zip fun o => !isOnchain o]
      exact .registered hne hv.2 ha (ha.filter_zip _)
  · exact .rejected fun h => hv ⟨by simpa using h.1, h.2⟩

end Inquirer

section Classes

variable (co : Collaborators) (specialTokens : List AssetId)

/-- `Inquirer.set_oracles_order` on the classes: after its assertion, `Inquirer()` returns the
registered object, whose attributes the rest of the body updates. -/
def inquirerSetOraclesOrder (oracles : List CurrentPriceOracle) (s : Singletons) :
    Except PyError Unit × Singletons :=
  if oracles.length ≠ 0 ∧ oracles.Nodup then
    match inquirerNew co specialTokens .empty s with
    | (.error e, s') => (.error e, s')
    | (.ok _, s') =>
      let r := s'.inquirer.attrs.setOraclesOrder oracles
      (r.1, { s' with inquirer := { s'.inquirer with attrs := r.2 } })
  else (.error (.assertionError "Oracles can\x27t be empty or have repeated items"), s)

end Classes

inductive InquirerSetOrderOutcome (s : Singletons) (oracles : List CurrentPriceOracle) :
    Except PyError Unit × Singletons → Prop
  | onInstance {i : Nat} {r : Except PyError Unit} {inq : Inquirer} : oracles ≠ [] → oracles.Nodup →
      s.inquirer.mangledInstance = some i → Inquirer.SetOrderOutcome s.inquirer.attrs oracles (r, inq) →
      InquirerSetOrderOutcome s oracles (r, { s with inquirer := { s.inquirer with attrs := inq } })
  | rejected : ¬ (oracles ≠ [] ∧ oracles.Nodup) →
      InquirerSetOrderOutcome s oracles
        (.error (.assertionError "Oracles can\x27t be empty or have repeated items"), s)
  | notConstructed : oracles ≠ [] → oracles.Nodup → s.inquirer.mangledInstance = none →
      InquirerSetOrderOutcome s oracles (.error (.assertionError errorMsg), s)

theorem inquirerSetOraclesOrder_outcome (co : Collaborators) (specialTokens : List AssetId)
    (s : Singletons) (oracles : List CurrentPriceOracle) :
    InquirerSetOrderOutcome s oracles (inquirerSetOraclesOrder co specialTokens oracles s) := by
  unfold inquirerSetOraclesOrder
  split_ifs with hv
  · have hne : oracles ≠ [] := fun h => hv.1 (by simp [h])
    cases hi : s.inquirer.mangledInstance with
    | none =>
      rw [inquirerNew_of_incomplete co specialTokens
        (by simp [InquirerArgs.Complete, InquirerArgs.empty]) hi]
      exact .notConstructed hne hv.2 hi
    | some i =>
      rw [inquirerNew_of_registered co specialTokens hi]
      exact .onInstance hne hv.2 hi (s.inquirer.attrs.setOraclesOrder_outcome oracles)
  · exact .rejected fun h => hv ⟨by simpa using h.1, h.2⟩

inductive HistorianSetOrderOutcome (s : Singletons) (oracles : List HistoricalPriceOracle) :
    Except PyError Unit × Singletons → Prop
  | registered {i : Nat} {instances : List Nat} : oracles ≠ [] → oracles.Nodup →
      s.historian.instanceAttr = some i → Aligned (historianOracleAttr s.historian) oracles instances →
      HistorianSetOrderOutcome s oracles (.ok (), { s with historian := { s.historian with
        oracles := some oracles
        oracleInstances := some instances } })
  | rejected : ¬ (oracles ≠ [] ∧ oracles.Nodup) →
      HistorianSetOrderOutcome s oracles
        (.error (.assertionError "Oracle can\x27t be empty or have repeated items"), s)
  | notConstructed : oracles ≠ [] → oracles.Nodup → s.historian.instanceAttr = none →
      HistorianSetOrderOutcome s oracles (.error (.assertionError errorMsg), s)
  | idsOnly {i : Nat} {o : HistoricalPriceOracle} {e : PyError} : oracles ≠ [] → oracles.Nodup →
      s.historian.instanceAttr = some i → o ∈ oracles → historianOracleAttr s.historian o = .error e →
      HistorianSetOrderOutcome s oracles
        (.error e, { s with historian := { s.historian with oracles := some oracles } })

theorem historianSetOraclesOrder_outcome (s : Singletons) (oracles : List HistoricalPriceOracle) :
    HistorianSetOrderOutcome s oracles (historianSetOraclesOrder oracles s) := by
  unfold historianSetOraclesOrder
  split_ifs with hv
  · have hne : oracles ≠ [] := fun h => hv.1 (by simp [h])
    cases hi : s.historian.instanceAttr with
    | none =>
      rw [priceHistorianNew_of_incomplete (by simp [HistorianArgs.Complete, HistorianArgs.empty]) hi]
      exact .notConstructed hne hv.2 hi
    | some i =>
      rw [priceHistorianNew_of_registered hi]
      dsimp only
      cases hm : oracles.mapM (historianOracleAttr { s.historian with oracles := some oracles }) with
      | error e =>
        obtain ⟨o, ho, he⟩ := exists_error_of_mapM_eq_error hm
        exact .idsOnly hne hv.2 hi ho he
      | ok instances => exact .registered hne hv.2 hi (mapM_eq_ok_iff.mp hm)
  · exact .rejected fun h => hv ⟨by simpa using h.1, h.2⟩

theorem set_oracles_order_outcomes (co : Collaborators) (specialTokens : List AssetId) :
    (∀ s oracles, InquirerSetOrderOutcome s oracles (inquirerSetOraclesOrder co specialTokens oracles s)) ∧
      ∀ s oracles, HistorianSetOrderOutcome s oracles (historianSetOraclesOrder oracles s) :=
  ⟨inquirerSetOraclesOrder_outcome co specialTokens, historianSetOraclesOrder_outcome⟩

theorem set_oracles_order_fiat_misaligns :
    (Inquirer.ordered [.coingecko]).setOraclesOrder [.coingecko, .fiat] =
        (.error (.attributeError "Inquirer object has no attribute _fiat"),
          { Inquirer.ordered [.coingecko] with oracles := some [.coingecko, .fiat] }) ∧
      (Inquirer.ordered [.coingecko]).oracles = some [.coingecko] ∧
      (Inquirer.ordered [.coingecko]).oracleInstances = some [some .coingecko] :=
  ⟨rfl, rfl, rfl⟩

end BitcointView

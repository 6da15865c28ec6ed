import Mathlib.Data.List.Infix
import Mathlib.Tactic.Common

/-!
Who may do what with posts: `IsAuthenticated` of `ws/permissions.py`, the
`IsAuthenticatedForWrite` permission of `posts/consumers.py`, and the consumer's
`filter_queryset`, which picks the posts an action sees. The scope's user is the object the
authentication middleware put under `"user"`; a user object is truthy, and a post's author is
held by its primary key. The base class's `filter_queryset` returns the queryset it is given,
and the database's `icontains` compares after a case folding that is a parameter.
-/

namespace BitcointView

structure User where
  pk : Option Nat
  isAuthenticated : Bool
  deriving DecidableEq, Repr

structure Scope where
  user : Option User
  deriving DecidableEq, Repr

inductive PyObject
  | none
  | bool (b : Bool)
  | int (n : Nat)
  deriving DecidableEq, Repr

def PyObject.truthy : PyObject → Bool
  | .none => false
  | .bool b => b
  | .int n => n ≠ 0

/-- `IsAuthenticated.has_permission`: `user.pk and user.is_authenticated` is the primary key when
that is falsy, the flag otherwise. -/
def IsAuthenticated.hasPermission (scope : Scope) (_action : String) : PyObject :=
  match scope.user with
  | none => .bool false
  | some user =>
    match user.pk with
    | none => .none
    | some n => if n = 0 then .int n else .bool user.isAuthenticated

/-- `IsAuthenticatedForWrite.has_permission`: reading actions are open to everyone. -/
def IsAuthenticatedForWrite.hasPermission (scope : Scope) (action : String) : PyObject :=
  if action ∈ ["list", "retrieve"] then .bool true
  else IsAuthenticated.hasPermission scope action

def Scope.AuthenticatedAs (scope : Scope) (n : Nat) : Prop :=
  ∃ u, scope.user = some u ∧ u.pk = some n ∧ n ≠ 0 ∧ u.isAuthenticated = true

theorem IsAuthenticated.hasPermission_truthy (scope : Scope) (action : String) :
    (IsAuthenticated.hasPermission scope action).truthy = true ↔ ∃ n, scope.AuthenticatedAs n := by
  unfold IsAuthenticated.hasPermission Scope.AuthenticatedAs
  rcases scope with ⟨_ | ⟨_ | n, auth⟩⟩
  · simp [PyObject.truthy]
  · simp [PyObject.truthy]
  · by_cases hn : n = 0 <;> simp [PyObject.truthy, hn]

theorem IsAuthenticatedForWrite.hasPermission_truthy (scope : Scope) (action : String) :
    (IsAuthenticatedForWrite.hasPermission scope action).truthy = true ↔
      action ∈ ["list", "retrieve"] ∨ ∃ n, scope.AuthenticatedAs n := by
  unfold IsAuthenticatedForWrite.hasPermission
  split_ifs with h
  · simp [PyObject.truthy, h]
  · simp [IsAuthenticated.hasPermission_truthy, h]

structure Post where
  pk : Nat
  createdAt : Int
  author : Nat
  body : String
  deriving DecidableEq, Repr

section Queryset

variable (caseFold : String → String)

/-- `body__icontains=pattern`. -/
def icontains (value pattern : String) : Bool :=
  decide ((caseFold pattern).data <:+: (caseFold value).data)

/-- `order_by('-created_at')`: newest first, ties in queryset order. -/
def orderByCreatedAtDesc (queryset : List Post) : List Post :=
  queryset.mergeSort fun a b => decide (b.createdAt ≤ a.createdAt)

/-- The `if filter:` step of `list`: `filter(body__icontains=filter)` when a filter is given and
is not empty. -/
def filterBodyContains (queryset : List Post) (bodyContains : Option String) : List Post :=
  match bodyContains with
  | some filter =>
    if filter ≠ "" then queryset.filter fun p => icontains caseFold p.body filter else queryset
  | none => queryset

/-- `LivePostConsumer.filter_queryset`, with the keyword arguments `action` and `body_contains`
and the scope of the consumer. -/
def LivePostConsumer.filterQueryset (scope : Scope) (queryset : List Post)
    (action bodyContains : Option String) : List Post :=
  if action = some "list" then (orderByCreatedAtDesc (filterBodyContains caseFold queryset bodyContains)).take 500
  else if action = some "retrieve" then queryset
  else match scope.user with
    | some { pk := some n, .. } => queryset.filter fun p => p.author = n
    | _ => []

def Post.MatchesFilter (bodyContains : Option String) (p : Post) : Prop :=
  ∀ filter, bodyContains = some filter → filter ≠ "" → icontains caseFold p.body filter = true

theorem orderByCreatedAtDesc_pairwise (queryset : List Post) :
    (orderByCreatedAtDesc queryset).Pairwise fun a b => b.createdAt ≤ a.createdAt := by
  have h := @List.sorted_mergeSort Post (fun a b => decide (b.createdAt ≤ a.createdAt))
    (fun a b c hab hbc => by simp only [decide_eq_true_eq] at *; omega)
    (fun a b => by simpa using Int.le_total b.createdAt a.createdAt) queryset
  exact h.imp fun hab => by simpa using hab

theorem mem_orderByCreatedAtDesc {p : Post} {queryset : List Post} :
    p ∈ orderByCreatedAtDesc queryset ↔ p ∈ queryset :=
  List.mem_mergeSort

theorem mem_filterBodyContains {p : Post} {queryset : List Post} {bodyContains : Option String} :
    p ∈ filterBodyContains caseFold queryset bodyContains ↔
      p ∈ queryset ∧ p.MatchesFilter caseFold bodyContains := by
  rcases bodyContains with _ | filter
  · simp [filterBodyContains, Post.MatchesFilter]
  · by_cases hf : filter = "" <;> simp [filterBodyContains, Post.MatchesFilter, hf]

end Queryset

section FilterQueryset

variable (caseFold : String → String)

theorem list_action_shows_latest_matching_posts (scope : Scope) (queryset : List Post)
    (bodyContains : Option String) :
    (IsAuthenticatedForWrite.hasPermission scope "list").truthy = true ∧
      (LivePostConsumer.filterQueryset caseFold scope queryset (some "list") bodyContains).length ≤ 500 ∧
      (LivePostConsumer.filterQueryset caseFold scope queryset (some "list") bodyContains).Pairwise
        (fun a b => b.createdAt ≤ a.createdAt) ∧
      (∀ p ∈ LivePostConsumer.filterQueryset caseFold scope queryset (some "list") bodyContains,
        p ∈ queryset ∧ p.MatchesFilter caseFold bodyContains) ∧
      ∀ q ∈ queryset, q.MatchesFilter caseFold bodyContains →
        q ∉ LivePostConsumer.filterQueryset caseFold scope queryset (some "list") bodyContains →
        (LivePostConsumer.filterQueryset caseFold scope queryset (some "list") bodyContains).length = 500 ∧
          ∀ p ∈ LivePostConsumer.filterQueryset caseFold scope queryset (some "list") bodyContains,
            q.createdAt ≤ p.createdAt := by
  simp only [LivePostConsumer.filterQueryset, if_true]
  generalize hF : filterBodyContains caseFold queryset bodyContains = F
  have hmem : ∀ p, p ∈ F ↔ p ∈ queryset ∧ p.MatchesFilter caseFold bodyContains :=
    fun p => hF ▸ mem_filterBodyContains caseFold
  have hsorted := orderByCreatedAtDesc_pairwise F
  refine ⟨(IsAuthenticatedForWrite.hasPermission_truthy _ _).mpr (.inl (by decide)),
    List.length_take_le _ _, hsorted.sublist (List.take_sublist _ _),
    fun p hp => (hmem p).mp (mem_orderByCreatedAtDesc.mp (List.mem_of_mem_take hp)), ?_⟩
  intro q hq hmatch hout
  have hdrop : q ∈ (orderByCreatedAtDesc F).drop 500 := by
    have hq' : q ∈ orderByCreatedAtDesc F := mem_orderByCreatedAtDesc.mpr ((hmem q).mpr ⟨hq, hmatch⟩)
    rw [← List.take_append_drop 500 (orderByCreatedAtDesc F), List.mem_append] at hq'
    exact hq'.resolve_left hout
  rw [← List.take_append_drop 500 (orderByCreatedAtDesc F), List.pairwise_append] at hsorted
  refine ⟨?_, fun p hp => hsorted.2.2 p hp q hdrop⟩
  have := List.length_pos_of_mem hdrop
  simp only [List.length_drop, List.length_take] at this ⊢
  omega

theorem write_action_sees_only_own_posts (scope : Scope) (queryset : List Post) (action : String)
    (bodyContains : Option String)
    (hgranted : (IsAuthenticatedForWrite.hasPermission scope action).truthy = true)
    (hwrite : action ∉ ["list", "retrieve"]) :
    ∃ n, scope.AuthenticatedAs n ∧
      LivePostConsumer.filterQueryset caseFold scope queryset (some action) bodyContains =
        queryset.filter fun p => p.author = n := by
  obtain ⟨n, u, hu, hpk, hn, hauth⟩ :=
    ((IsAuthenticatedForWrite.hasPermission_truthy scope action).mp hgranted).resolve_left hwrite
  refine ⟨n, ⟨u, hu, hpk, hn, hauth⟩, ?_⟩
  have hlist : action ≠ "list" := fun h => hwrite (by simp [h])
  have hretrieve : action ≠ "retrieve" := fun h => hwrite (by simp [h])
  obtain ⟨pk, isAuth⟩ := u
  cases hpk
  simp [LivePostConsumer.filterQueryset, hlist, hretrieve, hu]

end FilterQueryset

end BitcointView

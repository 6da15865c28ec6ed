import BitcointView.Basic

/-!
The live post feed: `BaseObserver` of `ws/observer/base_observer.py` and `LivePostConsumer` of
`posts/consumers.py`, whose `post_change_handler` is a `BaseObserver`. The consumer's actions
run one after another; an exception ends the action, keeping what it assigned before.

Three pieces are not in the repository and are parameters: the observer's `unsubscribe`, which
the consumer calls but no class defines (it may raise or change the consumer's channel groups
in any way, never the consumer's own fields), Python's `str.lower`, and SHA-256 in hex. The
observer id comes from `model_observer`, and `self.post_change_handler.subscribe(...)` reaches
`BaseObserver.subscribe` with the consumer through `ObjPartial`; neither is in the repository.
-/

namespace BitcointView

/-- Python's binding of required positional parameters: the first one a call leaves unbound. -/
def missingPositional (required : List String) (positional : Nat) (keywords : List String) :
    Option String :=
  (required.drop positional).find? (· ∉ keywords)

section Hashtags

def isTagChar (c : Char) : Bool := c.isLower || c.isDigit

/-- Closes the match in progress: `#` and at least one tag character make a match. -/
def flushTag : Option (List Char) → List String → List String
  | some (c :: cs), rest => String.mk ('#' :: c :: cs) :: rest
  | _, rest => rest

/-- `re.findall(r"#[a-z0-9]+", s)` on the characters of `s`, left to right; `cur` is the match
being read, after its `#`. -/
def findHashtags : List Char → Option (List Char) → List String
  | [], cur => flushTag cur []
  | c :: cs, none => findHashtags cs (if c = '#' then some [] else none)
  | c :: cs, some w =>
    if isTagChar c then findHashtags cs (some (w ++ [c]))
    else flushTag (some w) (findHashtags cs (if c = '#' then some [] else none))

example : findHashtags "#BTC and #eth2, ##x #".toList none = ["#eth2", "#x"] := by decide

end Hashtags

section Observer

variable (lower : String → String) (sha256Hex : String → String) (stableObserverId : String)

/-- `BaseObserver.clean_group_name`. -/
def cleanGroupName (name : String) : String := "DCRF-" ++ sha256Hex name

/-- `post_change_handler` of `groups_for_signal`, on a post's body. -/
def signalGroups (body : String) : List String :=
  (findHashtags (lower body).toList none).map (fun hashtag => "-hashtag-" ++ hashtag) ++ ["-all"]

/-- `BaseObserver.group_names_for_signal(instance=post)`: the groups a post is sent to. -/
def groupNamesForSignal (body : String) : List String :=
  (signalGroups lower body).map fun group => cleanGroupName sha256Hex (stableObserverId ++ "-" ++ group)

end Observer

/-- The keywords of `post_change_handler.subscribe`: `hashtag=h`, or `list=True`. -/
structure SubscribeArgs where
  hashtag : Option String
  list : Bool

def SubscribeArgs.keywords (args : SubscribeArgs) : List String :=
  "consumer" :: (if args.hashtag.isSome then ["hashtag"] else []) ++
    (if args.list then ["list"] else [])

/-- `post_change_handler` of `groups_for_consumer`, its arguments bound. -/
def consumerGroups (args : SubscribeArgs) : List String :=
  (match args.hashtag with
    | some hashtag => ["-hashtag-#" ++ hashtag]
    | none => []) ++
  (if args.list then ["-all"] else [])

/-- The part of the consumer the observer reads and writes: its groups and
`_observer_group_to_request_id[stable_id]`. -/
structure Channels where
  groups : List String
  requestIds : List (String × List String)

/-- `BaseObserver.subscribe(consumer, **kwargs)` as `LivePostConsumer` calls it, with keywords
only and no `request_id`. -/
def subscribe (args : SubscribeArgs) (ch : Channels) : Except PyError (List String × Channels) :=
  match missingPositional ["self"] 0 args.keywords with
  | some p =>
    .error (.typeError
      s!"post_change_handler() missing 1 required positional argument: \x27{p}\x27")
  | none =>
    let groups := consumerGroups args
    let requestIds := groups.foldl (fun m g => (g, []) :: m.filter (fun e => e.1 ≠ g)) ch.requestIds
    .ok (groups, { ch with requestIds })

/-- The value passed as `hashtag=` to `unsubscribe`: a hashtag, or the bound method
`subscribe_to_hashtag` that `self.subscribe_to_hashtag` reads. -/
inductive HashtagValue
  | str (s : String)
  | subscribeToHashtagMethod
  deriving DecidableEq, Repr

structure UnsubscribeArgs where
  hashtag : Option HashtagValue
  list : Bool

/-- `self.subscribe_to_hashtag`: the consumer's methods read the bound method, not the field
`subscribed_to_hashtag`; it is never `None`. -/
def subscribeToHashtagAttr : Option HashtagValue := some .subscribeToHashtagMethod

/-- `bool(self.subscribe_to_list)`: a bound method is true. -/
def subscribeToListAttr : Bool := true

structure LivePostConsumer where
  subscribedToList : Bool
  subscribedToHashtag : Option String
  channels : Channels

namespace LivePostConsumer

/-- `LivePostConsumer.__init__`. -/
def init : LivePostConsumer := ⟨false, none, ⟨[], []⟩⟩

variable (unsubscribe : UnsubscribeArgs → Channels → Except PyError Channels)

/-- `LivePostConsumer.clear_subscription`. -/
def clearSubscription (c : LivePostConsumer) : Except PyError Unit × LivePostConsumer :=
  let cleared : Except PyError Unit × LivePostConsumer :=
    match subscribeToHashtagAttr with
    | some v =>
      match unsubscribe ⟨some v, false⟩ c.channels with
      | .error e => (.error e, c)
      | .ok ch => (.ok (), { c with channels := ch, subscribedToHashtag := none })
    | none => (.ok (), c)
  match cleared with
  | (.error e, c) => (.error e, c)
  | (.ok (), c) =>
    if subscribeToListAttr then
      match unsubscribe ⟨none, true⟩ c.channels with
      | .error e => (.error e, c)
      | .ok ch => (.ok (), { c with channels := ch, subscribedToList := false })
    else (.ok (), c)

/-- `LivePostConsumer.subscribe_to_hashtag`, answering its status code. -/
def subscribeToHashtag (hashtag : String) (c : LivePostConsumer) :
    Except PyError Nat × LivePostConsumer :=
  match clearSubscription unsubscribe c with
  | (.error e, c) => (.error e, c)
  | (.ok (), c) =>
    match subscribe ⟨some hashtag, false⟩ c.channels with
    | .error e => (.error e, c)
    | .ok (_, ch) => (.ok 201, { c with channels := ch, subscribedToHashtag := some hashtag })

/-- `LivePostConsumer.subscribe_to_list`. -/
def subscribeToList (c : LivePostConsumer) : Except PyError Nat × LivePostConsumer :=
  match clearSubscription unsubscribe c with
  | (.error e, c) => (.error e, c)
  | (.ok (), c) =>
    match subscribe ⟨none, true⟩ c.channels with
    | .error e => (.error e, c)
    | .ok (_, ch) => (.ok 201, { c with channels := ch, subscribedToList := true })

/-- `LivePostConsumer.unsubscribe_from_hashtag`. It compares `self.subscribe_to_hashtag`, the
bound method, with the hashtag. -/
def unsubscribeFromHashtag (hashtag : String) (c : LivePostConsumer) :
    Except PyError Nat × LivePostConsumer :=
  match unsubscribe ⟨some (.str hashtag), false⟩ c.channels with
  | .error e => (.error e, c)
  | .ok ch =>
    if subscribeToHashtagAttr = some (.str hashtag) then
      (.ok 204, { c with channels := ch, subscribedToHashtag := none })
    else (.ok 204, { c with channels := ch })

/-- `LivePostConsumer.unsubscribe_from_list`. -/
def unsubscribeFromList (c : LivePostConsumer) : Except PyError Nat × LivePostConsumer :=
  match unsubscribe ⟨none, true⟩ c.channels with
  | .error e => (.error e, c)
  | .ok ch => (.ok 204, { c with channels := ch, subscribedToList := false })

end LivePostConsumer

inductive PostAction
  | subscribeToHashtag (hashtag : String)
  | subscribeToList
  | unsubscribeFromHashtag (hashtag : String)
  | unsubscribeFromList
  deriving DecidableEq, Repr

namespace LivePostConsumer

variable (unsubscribe : UnsubscribeArgs → Channels → Except PyError Channels)

def act : PostAction → LivePostConsumer → Except PyError Nat × LivePostConsumer
  | .subscribeToHashtag hashtag => subscribeToHashtag unsubscribe hashtag
  | .subscribeToList => subscribeToList unsubscribe
  | .unsubscribeFromHashtag hashtag => unsubscribeFromHashtag unsubscribe hashtag
  | .unsubscribeFromList => unsubscribeFromList unsubscribe

def runActions : List PostAction → LivePostConsumer → List (Except PyError Nat) × LivePostConsumer
  | [], c => ([], c)
  | a :: as, c =>
    let r := act unsubscribe a c
    let rest := runActions as r.2
    (r.1 :: rest.1, rest.2)

end LivePostConsumer

theorem subscribe_raises (args : SubscribeArgs) (ch : Channels) :
    subscribe args ch =
      .error (.typeError "post_change_handler() missing 1 required positional argument: \x27self\x27") := by
  have hkw : missingPositional ["self"] 0 args.keywords = some "self" := by
    simp only [missingPositional, List.drop_zero, List.find?_cons, List.find?_nil]
    have : "self" ∉ args.keywords := by
      simp only [SubscribeArgs.keywords]
      split_ifs <;> simp
    simp [this]
  simp only [subscribe, hkw]
  rfl

namespace LivePostConsumer

def Unsubscribed (c : LivePostConsumer) : Prop :=
  c.subscribedToList = false ∧ c.subscribedToHashtag = none

variable {unsubscribe : UnsubscribeArgs → Channels → Except PyError Channels}

theorem clearSubscription_unsubscribed {c : LivePostConsumer} (hc : c.Unsubscribed) :
    (clearSubscription unsubscribe c).2.Unsubscribed := by
  simp only [clearSubscription, subscribeToHashtagAttr, subscribeToListAttr, if_true]
  cases unsubscribe ⟨some .subscribeToHashtagMethod, false⟩ c.channels with
  | error e => exact hc
  | ok ch =>
    dsimp only
    cases unsubscribe ⟨none, true⟩ ch with
    | error e => exact ⟨hc.1, rfl⟩
    | ok ch' => exact ⟨rfl, rfl⟩

theorem subscribeToHashtag_state (hashtag : String) (c : LivePostConsumer) :
    (subscribeToHashtag unsubscribe hashtag c).2 = (clearSubscription unsubscribe c).2 := by
  unfold subscribeToHashtag
  rcases clearSubscription unsubscribe c with ⟨_ | ⟨⟩, c'⟩ <;> simp [subscribe_raises]

theorem subscribeToList_state (c : LivePostConsumer) :
    (subscribeToList unsubscribe c).2 = (clearSubscription unsubscribe c).2 := by
  unfold subscribeToList
  rcases clearSubscription unsubscribe c with ⟨_ | ⟨⟩, c'⟩ <;> simp [subscribe_raises]

theorem act_unsubscribed (a : PostAction) {c : LivePostConsumer} (hc : c.Unsubscribed) :
    (act unsubscribe a c).2.Unsubscribed := by
  cases a with
  | subscribeToHashtag hashtag =>
    rw [act, subscribeToHashtag_state]
    exact clearSubscription_unsubscribed hc
  | subscribeToList =>
    rw [act, subscribeToList_state]
    exact clearSubscription_unsubscribed hc
  | unsubscribeFromHashtag hashtag =>
    simp only [act, unsubscribeFromHashtag, subscribeToHashtagAttr]
    cases unsubscribe ⟨some (.str hashtag), false⟩ c.channels <;> simpa using hc
  | unsubscribeFromList =>
    simp only [act, unsubscribeFromList]
    cases unsubscribe ⟨none, true⟩ c.channels
    · exact hc
    · exact ⟨rfl, hc.2⟩

theorem runActions_unsubscribed (actions : List PostAction) :
    ∀ {c : LivePostConsumer}, c.Unsubscribed → (runActions unsubscribe actions c).2.Unsubscribed := by
  induction actions with
  | nil => exact id
  | cons a as ih => exact fun hc => ih (act_unsubscribed a hc)

end LivePostConsumer

theorem live_post_consumer_fields_never_set
    (unsubscribe : UnsubscribeArgs → Channels → Except PyError Channels) (actions : List PostAction) :
    (LivePostConsumer.runActions unsubscribe actions .init).2.subscribedToList = false ∧
      (LivePostConsumer.runActions unsubscribe actions .init).2.subscribedToHashtag = none :=
  LivePostConsumer.runActions_unsubscribed actions ⟨rfl, rfl⟩

theorem cleanGroupName_ne_dash (sha256Hex : String → String) (name rest : String) :
    cleanGroupName sha256Hex name ≠ "-" ++ rest := by
  intro h
  have := congrArg String.data h
  simp [cleanGroupName] at this

theorem mem_consumerGroups {args : SubscribeArgs} {g : String} (hg : g ∈ consumerGroups args) :
    ∃ rest, g = "-" ++ rest := by
  unfold consumerGroups at hg
  rcases List.mem_append.mp hg with h | h
  · split at h
    · exact ⟨_, (List.mem_singleton.mp h).trans (String.append_assoc "-" "hashtag-#" _)⟩
    · exact absurd h (List.not_mem_nil _)
  · split_ifs at h
    · exact ⟨"all", List.mem_singleton.mp h⟩
    · exact absurd h (List.not_mem_nil _)

theorem consumerGroups_not_mem_groupNamesForSignal (lower sha256Hex : String → String)
    (stableObserverId body : String) (args : SubscribeArgs) {g : String} (hg : g ∈ consumerGroups args) :
    g ∉ groupNamesForSignal lower sha256Hex stableObserverId body := by
  obtain ⟨rest, rfl⟩ := mem_consumerGroups hg
  simp only [groupNamesForSignal, List.mem_map, not_exists, not_and]
  exact fun _ _ h => cleanGroupName_ne_dash sha256Hex _ rest h

namespace LivePostConsumer

variable {unsubscribe : UnsubscribeArgs → Channels → Except PyError Channels}

section Leaving

-- `unsubscribe` only ever leaves channel groups
variable (hu : ∀ args ch ch', unsubscribe args ch = .ok ch' → ch'.groups ⊆ ch.groups)
include hu

theorem clearSubscription_groups_subset (c : LivePostConsumer) :
    (clearSubscription unsubscribe c).2.channels.groups ⊆ c.channels.groups := by
  simp only [clearSubscription, subscribeToHashtagAttr, subscribeToListAttr, if_true]
  cases h₁ : unsubscribe ⟨some .subscribeToHashtagMethod, false⟩ c.channels with
  | error e => exact List.Subset.refl _
  | ok ch =>
    dsimp only
    cases h₂ : unsubscribe ⟨none, true⟩ ch with
    | error e => exact hu _ _ _ h₁
    | ok ch' => exact fun _ hx => hu _ _ _ h₁ (hu _ _ _ h₂ hx)

theorem act_groups_subset (a : PostAction) (c : LivePostConsumer) :
    (act unsubscribe a c).2.channels.groups ⊆ c.channels.groups := by
  cases a with
  | subscribeToHashtag hashtag =>
    rw [act, subscribeToHashtag_state]
    exact clearSubscription_groups_subset hu c
  | subscribeToList =>
    rw [act, subscribeToList_state]
    exact clearSubscription_groups_subset hu c
  | unsubscribeFromHashtag hashtag =>
    simp only [act, unsubscribeFromHashtag, subscribeToHashtagAttr]
    cases h : unsubscribe ⟨some (.str hashtag), false⟩ c.channels with
    | error e => exact List.Subset.refl _
    | ok ch => simpa using hu _ _ _ h
  | unsubscribeFromList =>
    simp only [act, unsubscribeFromList]
    cases h : unsubscribe ⟨none, true⟩ c.channels with
    | error e => exact List.Subset.refl _
    | ok ch => exact hu _ _ _ h

theorem runActions_groups_subset (actions : List PostAction) :
    ∀ c : LivePostConsumer, (runActions unsubscribe actions c).2.channels.groups ⊆ c.channels.groups := by
  induction actions with
  | nil => exact fun _ => List.Subset.refl _
  | cons a as ih => exact fun c _ hx => act_groups_subset hu a c (ih _ hx)

end Leaving

end LivePostConsumer

theorem live_post_consumer_receives_no_post
    (unsubscribe : UnsubscribeArgs → Channels → Except PyError Channels)
    (hu : ∀ args ch ch', unsubscribe args ch = .ok ch' → ch'.groups ⊆ ch.groups)
    (actions : List PostAction) (lower sha256Hex : String → String) (stableObserverId body : String) :
    (∀ g ∈ groupNamesForSignal lower sha256Hex stableObserverId body,
      g ∉ (LivePostConsumer.runActions unsubscribe actions .init).2.channels.groups) ∧
    ∀ args, ∀ g ∈ consumerGroups args, g ∉ groupNamesForSignal lower sha256Hex stableObserverId body :=
  ⟨fun _ _ hg => List.not_mem_nil _ (LivePostConsumer.runActions_groups_subset hu actions _ hg),
    fun args _ hg => consumerGroups_not_mem_groupNamesForSignal lower sha256Hex stableObserverId body args hg⟩

theorem live_post_consumer_receives_no_post_after_list :
    (∀ (_ : UnsubscribeArgs) (ch ch' : Channels),
        (Except.ok ch : Except PyError Channels) = .ok ch' → ch'.groups ⊆ ch.groups) ∧
      (∀ g ∈ groupNamesForSignal id id "*-ModelObserver-posts.consumers.post_change_handler" "#btc",
        g ∉ (LivePostConsumer.runActions (fun _ ch => .ok ch) [.subscribeToList] .init).2.channels.groups) ∧
      ∀ args, ∀ g ∈ consumerGroups args,
        g ∉ groupNamesForSignal id id "*-ModelObserver-posts.consumers.post_change_handler" "#btc" :=
  ⟨fun _ _ _ h => by cases h; exact List.Subset.refl _,
    live_post_consumer_receives_no_post (fun _ ch => .ok ch)
      (fun _ _ _ h => by cases h; exact List.Subset.refl _) [.subscribeToList] id id _ _⟩

end BitcointView

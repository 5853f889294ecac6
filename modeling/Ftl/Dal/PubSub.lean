import Mathlib.Logic.Relation
import Ftl.Dal.Sql
/-!
# Pub/sub tables — topics, their events, subscriptions and subscribers

The controller's schema keeps publish/subscribe in four tables: `topics`,
each owned by a module; `topic_events`, a topic's payloads; and
`topic_subscriptions`, each with a cursor into the events, consumed by
`topic_subscribers`, each a deployment's sink. This file models what
PostgreSQL does with a single-row statement on them, the cascades of a
DELETE included: a topic takes its events and its subscriptions with it,
an event takes the subscriptions whose cursor points at it, and a
subscription still named by a subscriber stops the whole statement
(`NO ACTION`). The rows of `modules` and `deployments` they refer to are
given by their ids, which these statements do not change.

Over every run of such statements the keys stay unique and every foreign
key names a row (`pubsub_valid_of_run`). A subscription's name is unique
across all modules, not only within one. And the cursor's cascade reaches
further than a cursor should: deleting the event a subscription's cursor
points at deletes the subscription, or, when a subscriber still consumes
it, fails the DELETE on `topic_subscribers`' foreign key, with an error the
DAL reports as `ErrNotFound` (`deleteEvent_takes_subscription`).
-/

namespace Ftl

namespace Dal

open Dalerrs Sql Relation

/-! ## The tables -/

/-- A row of `topics`. -/
structure TopicRow where
  id : Nat
  key : String
  moduleId : Nat
  name : String
  type : String
deriving DecidableEq, Repr

/-- A row of `topic_events`. -/
structure TopicEventRow where
  id : Nat
  topicId : Nat
  payload : String
deriving DecidableEq, Repr

/-- A row of `topic_subscriptions`; `cursor` is NULL before the first event. -/
structure SubscriptionRow where
  id : Nat
  key : String
  topicId : Nat
  moduleId : Nat
  name : String
  cursor : Option Nat
deriving DecidableEq, Repr

/-- A row of `topic_subscribers`. -/
structure SubscriberRow where
  id : Nat
  key : String
  subscriptionId : Nat
  deploymentId : Nat
  sink : String
deriving DecidableEq, Repr

/-- The four tables, and the ids of the rows of `modules` and `deployments`. -/
structure PubSubDb where
  modules : List Nat
  deployments : List Nat
  topics : List TopicRow
  events : List TopicEventRow
  subscriptions : List SubscriptionRow
  subscribers : List SubscriberRow
deriving DecidableEq, Repr

/-- `topics`: the primary key, `"key" UNIQUE`, and `topics_module_name_idx`. -/
def topicIndexes : List (UniqueIndex TopicRow) :=
  [.on "topics_pkey" fun t => some t.id, .on "topics_key_key" fun t => some t.key,
   .on "topics_module_name_idx" fun t => some (t.moduleId, t.name)]

/-- `topic_events`: the primary key. -/
def topicEventIndexes : List (UniqueIndex TopicEventRow) :=
  [.on "topic_events_pkey" fun e => some e.id]

/-- `topic_subscriptions`: the primary key, `"key" UNIQUE`, `name UNIQUE`,
and `topic_subscriptions_module_name_idx`. -/
def subscriptionIndexes : List (UniqueIndex SubscriptionRow) :=
  [.on "topic_subscriptions_pkey" fun s => some s.id,
   .on "topic_subscriptions_key_key" fun s => some s.key,
   .on "topic_subscriptions_name_key" fun s => some s.name,
   .on "topic_subscriptions_module_name_idx" fun s => some (s.moduleId, s.name)]

/-- `topic_subscribers`: the primary key and `"key" UNIQUE`. -/
def subscriberIndexes : List (UniqueIndex SubscriberRow) :=
  [.on "topic_subscribers_pkey" fun r => some r.id, .on "topic_subscribers_key_key" fun r => some r.key]

/-- The row of subscription `id` with its cursor set; any other row as it is. -/
def SubscriptionRow.withCursor (id : Nat) (cursor : Option Nat) (s : SubscriptionRow) :
    SubscriptionRow :=
  if s.id = id then { s with cursor := cursor } else s

/-- A single-row statement on the four tables. -/
inductive PubSubStmt where
  | insertTopic (row : TopicRow)
  | insertEvent (row : TopicEventRow)
  | insertSubscription (row : SubscriptionRow)
  | insertSubscriber (row : SubscriberRow)
  /-- `UPDATE topic_subscriptions SET cursor = $2 WHERE id = $1`. -/
  | setCursor (id : Nat) (cursor : Option Nat)
  | deleteTopic (id : Nat)
  | deleteEvent (id : Nat)
  | deleteSubscription (id : Nat)
  | deleteSubscriber (id : Nat)

namespace PubSubDb

/-- The cursor's foreign key: NULL, or the id of an event. -/
def cursorPresent (db : PubSubDb) : Option Nat → Bool
  | none => true
  | some id => db.events.any (·.id = id)

/-! ## A DELETE and its cascades -/

/-- What a DELETE removes: the rows each predicate picks out, and the rows
their cascades reach. -/
structure Deletion where
  topic : TopicRow → Bool
  event : TopicEventRow → Bool
  subscription : SubscriptionRow → Bool

/-- The ids of the deleted topics. -/
def goneTopics (db : PubSubDb) (d : Deletion) : List Nat := (db.topics.filter d.topic).map (·.id)

/-- An event goes when it is picked out, or with its topic. -/
def eventGone (db : PubSubDb) (d : Deletion) (e : TopicEventRow) : Bool :=
  d.event e || e.topicId ∈ db.goneTopics d

/-- The ids of the deleted events. -/
def goneEvents (db : PubSubDb) (d : Deletion) : List Nat :=
  (db.events.filter (db.eventGone d)).map (·.id)

/-- A subscription goes when it is picked out, with its topic, or with the
event its cursor points at. -/
def subscriptionGone (db : PubSubDb) (d : Deletion) (s : SubscriptionRow) : Bool :=
  d.subscription s || s.topicId ∈ db.goneTopics d || s.cursor.any (· ∈ db.goneEvents d)

/-- The ids of the deleted subscriptions. -/
def goneSubscriptions (db : PubSubDb) (d : Deletion) : List Nat :=
  (db.subscriptions.filter (db.subscriptionGone d)).map (·.id)

/-- The statement: the rows go, unless a subscriber still names a deleted
subscription (`NO ACTION`). -/
def delete (db : PubSubDb) (d : Deletion) : Except Error PubSubDb := do
  checkUnreferenced "topic_subscriptions" "topic_subscribers_topic_subscriptions_id_fkey"
    "topic_subscribers" (db.subscribers.any (·.subscriptionId ∈ db.goneSubscriptions d))
  pure { db with
    topics := db.topics.filter (!d.topic ·)
    events := db.events.filter (!db.eventGone d ·)
    subscriptions := db.subscriptions.filter (!db.subscriptionGone d ·) }

/-! ## Statements -/

/-- What PostgreSQL does with a statement: the tables after it, or the
error that rolls it back. Unique indexes are checked as the row is
written, then the foreign keys in the order their columns are declared. -/
def exec (db : PubSubDb) : PubSubStmt → Except Error PubSubDb
  | .insertTopic row => do
    checkUnique "topics" topicIndexes db.topics row
    checkReference "topics" "topics_module_id_fkey" (row.moduleId ∈ db.modules)
    pure { db with topics := row :: db.topics }
  | .insertEvent row => do
    checkUnique "topic_events" topicEventIndexes db.events row
    checkReference "topic_events" "topic_events_topic_id_fkey" (db.topics.any (·.id = row.topicId))
    pure { db with events := row :: db.events }
  | .insertSubscription row => do
    checkUnique "topic_subscriptions" subscriptionIndexes db.subscriptions row
    checkReference "topic_subscriptions" "topic_subscriptions_topic_id_fkey"
      (db.topics.any (·.id = row.topicId))
    checkReference "topic_subscriptions" "topic_subscriptions_module_id_fkey"
      (row.moduleId ∈ db.modules)
    checkReference "topic_subscriptions" "topic_subscriptions_cursor_fkey" (db.cursorPresent row.cursor)
    pure { db with subscriptions := row :: db.subscriptions }
  | .insertSubscriber row => do
    checkUnique "topic_subscribers" subscriberIndexes db.subscribers row
    checkReference "topic_subscribers" "topic_subscribers_topic_subscriptions_id_fkey"
      (db.subscriptions.any (·.id = row.subscriptionId))
    checkReference "topic_subscribers" "topic_subscribers_deployment_id_fkey"
      (row.deploymentId ∈ db.deployments)
    pure { db with subscribers := row :: db.subscribers }
  | .setCursor id cursor =>
    if db.subscriptions.any (·.id = id) then do
      checkReference "topic_subscriptions" "topic_subscriptions_cursor_fkey" (db.cursorPresent cursor)
      pure { db with subscriptions := db.subscriptions.map (.withCursor id cursor) }
    else pure db
  | .deleteTopic id => db.delete ⟨(·.id = id), fun _ => false, fun _ => false⟩
  | .deleteEvent id => db.delete ⟨fun _ => false, (·.id = id), fun _ => false⟩
  | .deleteSubscription id => db.delete ⟨fun _ => false, fun _ => false, (·.id = id)⟩
  | .deleteSubscriber id => pure { db with subscribers := db.subscribers.filter (·.id ≠ id) }

/-! ## What each statement does when it commits -/

variable {db db' : PubSubDb}

@[simp] theorem withCursor_id (id : Nat) (cursor : Option Nat) (s : SubscriptionRow) :
    (s.withCursor id cursor).id = s.id := by
  unfold SubscriptionRow.withCursor; split <;> rfl

@[simp] theorem withCursor_key (id : Nat) (cursor : Option Nat) (s : SubscriptionRow) :
    (s.withCursor id cursor).key = s.key := by
  unfold SubscriptionRow.withCursor; split <;> rfl

@[simp] theorem withCursor_topicId (id : Nat) (cursor : Option Nat) (s : SubscriptionRow) :
    (s.withCursor id cursor).topicId = s.topicId := by
  unfold SubscriptionRow.withCursor; split <;> rfl

@[simp] theorem withCursor_moduleId (id : Nat) (cursor : Option Nat) (s : SubscriptionRow) :
    (s.withCursor id cursor).moduleId = s.moduleId := by
  unfold SubscriptionRow.withCursor; split <;> rfl

@[simp] theorem withCursor_name (id : Nat) (cursor : Option Nat) (s : SubscriptionRow) :
    (s.withCursor id cursor).name = s.name := by
  unfold SubscriptionRow.withCursor; split <;> rfl

theorem withCursor_cursor (id : Nat) (cursor : Option Nat) (s : SubscriptionRow) :
    (s.withCursor id cursor).cursor = if s.id = id then cursor else s.cursor := by
  unfold SubscriptionRow.withCursor; split <;> rfl

theorem delete_eq_ok {d : Deletion} :
    db.delete d = .ok db' ↔ (∀ r ∈ db.subscribers, r.subscriptionId ∉ db.goneSubscriptions d) ∧
      { db with
        topics := db.topics.filter (!d.topic ·)
        events := db.events.filter (!db.eventGone d ·)
        subscriptions := db.subscriptions.filter (!db.subscriptionGone d ·) } = db' := by
  simp [delete, except_map_eq_ok]

/-- A deletion that takes a subscription a subscriber still names fails on
`topic_subscribers`' foreign key. -/
theorem delete_of_referenced {d : Deletion}
    (h : ∃ r ∈ db.subscribers, r.subscriptionId ∈ db.goneSubscriptions d) :
    db.delete d = .error (stillReferencedError "topic_subscriptions"
      "topic_subscribers_topic_subscriptions_id_fkey" "topic_subscribers") := by
  have hused : db.subscribers.any (·.subscriptionId ∈ db.goneSubscriptions d) = true := by
    simpa using h
  simp only [delete, checkUnreferenced, hused, if_true]
  rfl

theorem insertTopic_eq_ok {row : TopicRow} :
    db.exec (.insertTopic row) = .ok db' ↔ violated topicIndexes db.topics row = none ∧
      row.moduleId ∈ db.modules ∧ { db with topics := row :: db.topics } = db' := by
  simp [exec, except_bind_eq_ok, except_map_eq_ok]

theorem insertEvent_eq_ok {row : TopicEventRow} :
    db.exec (.insertEvent row) = .ok db' ↔ violated topicEventIndexes db.events row = none ∧
      (∃ t ∈ db.topics, t.id = row.topicId) ∧ { db with events := row :: db.events } = db' := by
  simp [exec, except_bind_eq_ok, except_map_eq_ok]

theorem insertSubscription_eq_ok {row : SubscriptionRow} :
    db.exec (.insertSubscription row) = .ok db' ↔
      violated subscriptionIndexes db.subscriptions row = none ∧
      (∃ t ∈ db.topics, t.id = row.topicId) ∧ row.moduleId ∈ db.modules ∧
      db.cursorPresent row.cursor ∧ { db with subscriptions := row :: db.subscriptions } = db' := by
  simp [exec, except_bind_eq_ok, except_map_eq_ok]

theorem insertSubscriber_eq_ok {row : SubscriberRow} :
    db.exec (.insertSubscriber row) = .ok db' ↔
      violated subscriberIndexes db.subscribers row = none ∧
      (∃ s ∈ db.subscriptions, s.id = row.subscriptionId) ∧ row.deploymentId ∈ db.deployments ∧
      { db with subscribers := row :: db.subscribers } = db' := by
  simp [exec, except_bind_eq_ok, except_map_eq_ok]

theorem setCursor_eq_ok {id : Nat} {cursor : Option Nat} :
    db.exec (.setCursor id cursor) = .ok db' ↔
      ((∀ s ∈ db.subscriptions, s.id ≠ id) ∧ db = db') ∨
      ((∃ s ∈ db.subscriptions, s.id = id) ∧ db.cursorPresent cursor ∧
        { db with subscriptions := db.subscriptions.map (.withCursor id cursor) } = db') := by
  by_cases h : ∃ s ∈ db.subscriptions, s.id = id
  · have h' : db.subscriptions.any (·.id = id) := by simpa using h
    simp [exec, h', h, except_map_eq_ok]
  · have h' : db.subscriptions.any (·.id = id) = false := by simpa using h
    simp only [exec, h', Bool.false_eq_true, if_false, except_pure_eq_ok]
    simp_all

theorem cursorPresent_iff {cursor : Option Nat} :
    db.cursorPresent cursor ↔ ∀ c, cursor = some c → ∃ e ∈ db.events, e.id = c := by
  cases cursor <;> simp [cursorPresent]

/-! ## The schema's guarantees -/

/-- What the schema keeps of the four tables: unique keys, and foreign keys
that name rows. -/
structure Valid (db : PubSubDb) : Prop where
  topics : Indexed topicIndexes db.topics
  events : Indexed topicEventIndexes db.events
  subscriptions : Indexed subscriptionIndexes db.subscriptions
  subscribers : Indexed subscriberIndexes db.subscribers
  topic_module : ∀ t ∈ db.topics, t.moduleId ∈ db.modules
  event_topic : ∀ e ∈ db.events, ∃ t ∈ db.topics, t.id = e.topicId
  subscription_topic : ∀ s ∈ db.subscriptions, ∃ t ∈ db.topics, t.id = s.topicId
  subscription_module : ∀ s ∈ db.subscriptions, s.moduleId ∈ db.modules
  subscription_cursor : ∀ s ∈ db.subscriptions, ∀ c, s.cursor = some c → ∃ e ∈ db.events, e.id = c
  subscriber_subscription : ∀ r ∈ db.subscribers, ∃ s ∈ db.subscriptions, s.id = r.subscriptionId
  subscriber_deployment : ∀ r ∈ db.subscribers, r.deploymentId ∈ db.deployments

/-- The empty tables, whatever modules and deployments there are. -/
theorem valid_empty (modules deployments : List Nat) :
    (⟨modules, deployments, [], [], [], []⟩ : PubSubDb).Valid :=
  ⟨.nil, .nil, .nil, .nil, nofun, nofun, nofun, nofun, nofun, nofun, nofun⟩

/-- A topic of a row that stays stays too. -/
theorem topic_kept {d : Deletion} {t : TopicRow} {id : Nat} (ht : t ∈ db.topics) (hid : t.id = id)
    (hkept : id ∉ db.goneTopics d) : t ∈ db.topics.filter (!d.topic ·) := by
  refine List.mem_filter.2 ⟨ht, ?_⟩
  cases hd : d.topic t
  · rfl
  · exact absurd (hid ▸ List.mem_map_of_mem _ (List.mem_filter.2 ⟨ht, hd⟩)) hkept

/-- An event a kept cursor points at stays. -/
theorem event_kept {d : Deletion} {e : TopicEventRow} {id : Nat} (he : e ∈ db.events) (hid : e.id = id)
    (hkept : id ∉ db.goneEvents d) : e ∈ db.events.filter (!db.eventGone d ·) := by
  refine List.mem_filter.2 ⟨he, ?_⟩
  cases hd : db.eventGone d e
  · rfl
  · exact absurd (hid ▸ List.mem_map_of_mem _ (List.mem_filter.2 ⟨he, hd⟩)) hkept

theorem Valid.delete (hv : db.Valid) {d : Deletion} (h : db.delete d = .ok db') : db'.Valid := by
  obtain ⟨hfree, rfl⟩ := delete_eq_ok.1 h
  refine ⟨hv.topics.sublist (List.filter_sublist _), hv.events.sublist (List.filter_sublist _),
    hv.subscriptions.sublist (List.filter_sublist _), hv.subscribers,
    fun t ht => hv.topic_module t (List.mem_of_mem_filter ht), ?_, ?_,
    fun s hs => hv.subscription_module s (List.mem_of_mem_filter hs), ?_, ?_,
    hv.subscriber_deployment⟩
  · intro e he
    obtain ⟨he, hgone⟩ := List.mem_filter.1 he
    obtain ⟨t, ht, hid⟩ := hv.event_topic e he
    exact ⟨t, topic_kept ht hid (by simp_all [eventGone]), hid⟩
  · intro s hs
    obtain ⟨hs, hgone⟩ := List.mem_filter.1 hs
    obtain ⟨t, ht, hid⟩ := hv.subscription_topic s hs
    exact ⟨t, topic_kept ht hid (by simp_all [subscriptionGone]), hid⟩
  · intro s hs c hc
    obtain ⟨hs, hgone⟩ := List.mem_filter.1 hs
    obtain ⟨e, he, hid⟩ := hv.subscription_cursor s hs c hc
    exact ⟨e, event_kept he hid (by simp_all [subscriptionGone]), hid⟩
  · intro r hr
    obtain ⟨s, hs, hid⟩ := hv.subscriber_subscription r hr
    refine ⟨s, List.mem_filter.2 ⟨hs, ?_⟩, hid⟩
    cases hd : db.subscriptionGone d s
    · rfl
    · exact absurd (hid ▸ List.mem_map_of_mem _ (List.mem_filter.2 ⟨hs, hd⟩)) (hfree r hr)

theorem Valid.setCursor (hv : db.Valid) {id : Nat} {cursor : Option Nat}
    (h : db.exec (.setCursor id cursor) = .ok db') : db'.Valid := by
  rcases setCursor_eq_ok.1 h with ⟨-, rfl⟩ | ⟨-, hc, rfl⟩
  · exact hv
  have hkeys : ∀ idx ∈ subscriptionIndexes, ∀ s s' : SubscriptionRow,
      idx.clash (s.withCursor id cursor) (s'.withCursor id cursor) = idx.clash s s' := by
    simp only [subscriptionIndexes, List.mem_cons, List.mem_singleton, List.not_mem_nil, or_false]
    rintro idx (rfl | rfl | rfl | rfl) s s' <;> simp [UniqueIndex.on]
  refine ⟨hv.topics, hv.events, hv.subscriptions.map hkeys, hv.subscribers, hv.topic_module,
    hv.event_topic, ?_, ?_, ?_, ?_, hv.subscriber_deployment⟩
  · simpa using hv.subscription_topic
  · simpa using hv.subscription_module
  · simp only [List.mem_map, forall_exists_index, and_imp, forall_apply_eq_imp_iff₂, withCursor_cursor]
    intro s hs c
    split
    · exact cursorPresent_iff.1 hc c
    · exact hv.subscription_cursor s hs c
  · intro r hr
    obtain ⟨s, hs, hid⟩ := hv.subscriber_subscription r hr
    exact ⟨_, List.mem_map_of_mem _ hs, by rw [withCursor_id, hid]⟩

/-- Each statement keeps what the schema guarantees. -/
theorem Valid.exec (hv : db.Valid) {stmt : PubSubStmt} (h : db.exec stmt = .ok db') : db'.Valid := by
  cases stmt with
  | insertTopic row =>
    obtain ⟨hu, hm, rfl⟩ := insertTopic_eq_ok.1 h
    refine { hv with
      topics := hv.topics.cons hu
      topic_module := ?_
      event_topic := ?_
      subscription_topic := ?_ }
    · simpa [hm] using hv.topic_module
    · exact fun e he => (hv.event_topic e he).imp fun _ ⟨ht, hid⟩ => ⟨.tail _ ht, hid⟩
    · exact fun s hs => (hv.subscription_topic s hs).imp fun _ ⟨ht, hid⟩ => ⟨.tail _ ht, hid⟩
  | insertEvent row =>
    obtain ⟨hu, ht, rfl⟩ := insertEvent_eq_ok.1 h
    refine { hv with
      events := hv.events.cons hu
      event_topic := ?_
      subscription_cursor := ?_ }
    · simpa [ht] using hv.event_topic
    · exact fun s hs c hc => (hv.subscription_cursor s hs c hc).imp fun _ ⟨he, hid⟩ => ⟨.tail _ he, hid⟩
  | insertSubscription row =>
    obtain ⟨hu, ht, hm, hc, rfl⟩ := insertSubscription_eq_ok.1 h
    refine { hv with
      subscriptions := hv.subscriptions.cons hu
      subscription_topic := ?_
      subscription_module := ?_
      subscription_cursor := ?_
      subscriber_subscription := ?_ }
    · simpa [ht] using hv.subscription_topic
    · simpa [hm] using hv.subscription_module
    · exact List.forall_mem_cons.2 ⟨cursorPresent_iff.1 hc, hv.subscription_cursor⟩
    · exact fun r hr => (hv.subscriber_subscription r hr).imp fun _ ⟨hs, hid⟩ => ⟨.tail _ hs, hid⟩
  | insertSubscriber row =>
    obtain ⟨hu, hs, hd, rfl⟩ := insertSubscriber_eq_ok.1 h
    refine { hv with
      subscribers := hv.subscribers.cons hu
      subscriber_subscription := ?_
      subscriber_deployment := ?_ }
    · simpa [hs] using hv.subscriber_subscription
    · simpa [hd] using hv.subscriber_deployment
  | setCursor id cursor => exact hv.setCursor h
  | deleteTopic id => exact hv.delete h
  | deleteEvent id => exact hv.delete h
  | deleteSubscription id => exact hv.delete h
  | deleteSubscriber id =>
    cases h
    exact { hv with
      subscribers := hv.subscribers.sublist (List.filter_sublist _)
      subscriber_subscription := fun r hr => hv.subscriber_subscription r (List.mem_of_mem_filter hr)
      subscriber_deployment := fun r hr => hv.subscriber_deployment r (List.mem_of_mem_filter hr) }

/-- The tables a run of statements reaches from empty ones. -/
def Reachable (modules deployments : List Nat) (db : PubSubDb) : Prop :=
  ReflTransGen (fun db db' => ∃ stmt, exec db stmt = .ok db') ⟨modules, deployments, [], [], [], []⟩ db

theorem valid_of_reachable {modules deployments : List Nat} (h : Reachable modules deployments db) :
    db.Valid := by
  induction h with
  | refl => exact valid_empty _ _
  | tail _ hstep ih =>
    obtain ⟨stmt, hexec⟩ := hstep
    exact ih.exec hexec

/-- **The schema holds over every run.** Whatever single-row statements
run on the four tables, in any order, topics have distinct keys and
distinct names within a module, subscriptions and subscribers distinct
keys, subscriptions distinct names across all modules, and every foreign
key names a row: an event's topic, a subscription's topic, module and
cursor, a subscriber's subscription and deployment. -/
theorem pubsub_valid_of_run {modules deployments : List Nat} (h : Reachable modules deployments db) :
    (db.topics.map (·.key)).Nodup ∧ (db.topics.map fun t => (t.moduleId, t.name)).Nodup ∧
      (db.subscriptions.map (·.key)).Nodup ∧ (db.subscriptions.map (·.name)).Nodup ∧
      (db.subscribers.map (·.key)).Nodup ∧
      (∀ e ∈ db.events, ∃ t ∈ db.topics, t.id = e.topicId) ∧
      (∀ s ∈ db.subscriptions, (∃ t ∈ db.topics, t.id = s.topicId) ∧ s.moduleId ∈ db.modules ∧
        ∀ c, s.cursor = some c → ∃ e ∈ db.events, e.id = c) ∧
      (∀ r ∈ db.subscribers, (∃ s ∈ db.subscriptions, s.id = r.subscriptionId) ∧
        r.deploymentId ∈ db.deployments) := by
  have hv := valid_of_reachable h
  refine ⟨hv.topics.nodup_map (.tail _ (List.mem_cons_self _ _)),
    hv.topics.nodup_map (.tail _ (.tail _ (List.mem_cons_self _ _))),
    hv.subscriptions.nodup_map (.tail _ (List.mem_cons_self _ _)),
    hv.subscriptions.nodup_map (.tail _ (.tail _ (List.mem_cons_self _ _))),
    hv.subscribers.nodup_map (.tail _ (List.mem_cons_self _ _)), hv.event_topic,
    fun s hs => ⟨hv.subscription_topic s hs, hv.subscription_module s hs, hv.subscription_cursor s hs⟩,
    fun r hr => ⟨hv.subscriber_subscription r hr, hv.subscriber_deployment r hr⟩⟩

/-- A topic `orders` of module 1, one event, a subscription `audit` whose
cursor is at the event, and a subscriber of deployment 7. -/
def ordersDb : PubSubDb :=
  ⟨[1], [7], [⟨1, "topic-orders", 1, "orders", "Order"⟩], [⟨1, 1, "payload"⟩],
    [⟨1, "sub-audit", 1, 1, "audit", some 1⟩], [⟨1, "subscriber-audit", 1, 7, "audit.consume"⟩]⟩

theorem ordersDb_run : Reachable [1] [7] ordersDb :=
  .tail (.tail (.tail (.single ⟨.insertTopic ⟨1, "topic-orders", 1, "orders", "Order"⟩, rfl⟩)
    ⟨.insertEvent ⟨1, 1, "payload"⟩, rfl⟩) ⟨.insertSubscription ⟨1, "sub-audit", 1, 1, "audit", some 1⟩, rfl⟩)
    ⟨.insertSubscriber ⟨1, "subscriber-audit", 1, 7, "audit.consume"⟩, rfl⟩

/-- The run that builds `ordersDb` keeps subscription names distinct. -/
theorem orders_run_valid :
    Reachable [1] [7] ordersDb ∧ (ordersDb.subscriptions.map (·.name)).Nodup :=
  ⟨ordersDb_run, (pubsub_valid_of_run ordersDb_run).2.2.2.1⟩

/-- Deleting an event takes exactly the subscriptions whose cursor is at it. -/
theorem deleteEvent_gone {e : TopicEventRow} (he : e ∈ db.events) (s : SubscriptionRow) :
    db.subscriptionGone ⟨fun _ => false, (·.id = e.id), fun _ => false⟩ s = true ↔ s.cursor = some e.id := by
  have hevents : ∀ c, c ∈ db.goneEvents ⟨fun _ => false, (·.id = e.id), fun _ => false⟩ ↔ c = e.id := by
    intro c
    simp only [goneEvents, eventGone, goneTopics, List.filter_false, List.map_nil, List.not_mem_nil,
      decide_False, Bool.or_false, List.mem_map, List.mem_filter, decide_eq_true_eq]
    exact ⟨fun ⟨_, ⟨_, h⟩, hc⟩ => hc ▸ h, fun hc => ⟨e, ⟨he, rfl⟩, hc.symm⟩⟩
  cases hc : s.cursor <;> simp [subscriptionGone, goneTopics, hc, hevents]

/-- **Deleting the event a cursor points at takes the subscription with
it.** `topic_subscriptions.cursor` is `ON DELETE CASCADE`: the DELETE
of an event commits exactly when no subscriber names a subscription whose
cursor is at the event, and then takes every such subscription with it;
when a subscriber still consumes one, the DELETE fails on
`topic_subscribers`' foreign key (`NO ACTION`), with an error the
DAL reports as `ErrNotFound`. -/
theorem deleteEvent_takes_subscription {s : SubscriptionRow} {e : TopicEventRow}
    (hs : s ∈ db.subscriptions) (he : e ∈ db.events) (hc : s.cursor = some e.id) :
    ((∃ db', db.exec (.deleteEvent e.id) = .ok db') ↔
      ∀ r ∈ db.subscribers, ∀ s' ∈ db.subscriptions, s'.cursor = some e.id → r.subscriptionId ≠ s'.id) ∧
    (∀ db', db.exec (.deleteEvent e.id) = .ok db' → s ∉ db'.subscriptions) ∧
    ((∃ r ∈ db.subscribers, r.subscriptionId = s.id) →
      db.exec (.deleteEvent e.id) = .error (stillReferencedError "topic_subscriptions"
        "topic_subscribers_topic_subscriptions_id_fkey" "topic_subscribers") ∧
      translatePGError (stillReferencedError "topic_subscriptions"
        "topic_subscribers_topic_subscriptions_id_fkey" "topic_subscribers") =
        .wrap (trimSuffix (trimPrefix "topic_subscribers_topic_subscriptions_id_fkey"
          ("topic_subscribers" ++ "_")) "_id_fkey") errNotFound) := by
  have hgone := deleteEvent_gone he
  have hsubs : ∀ id, id ∈ db.goneSubscriptions ⟨fun _ => false, (·.id = e.id), fun _ => false⟩ ↔
      ∃ s' ∈ db.subscriptions, s'.cursor = some e.id ∧ s'.id = id := by
    simp [goneSubscriptions, hgone, and_assoc]
  refine ⟨⟨fun ⟨db', h⟩ r hr s' hs' hc' hrs => ?_, fun h => ⟨_, delete_eq_ok.2 ⟨fun r hr hr' => ?_, rfl⟩⟩⟩,
    fun db' h hs' => ?_, fun ⟨r, hr, hrs⟩ => ⟨delete_of_referenced ⟨r, hr, (hsubs _).2 ⟨s, hs, hc, hrs.symm⟩⟩,
      translatePGError_stillReferencedError _ _ _⟩⟩
  · exact (delete_eq_ok.1 h).1 r hr ((hsubs _).2 ⟨s', hs', hc', hrs.symm⟩)
  · obtain ⟨s', hs', hc', hid⟩ := (hsubs _).1 hr'
    exact h r hr s' hs' hc' hid.symm
  · obtain ⟨-, rfl⟩ := delete_eq_ok.1 h
    simp [(hgone s).2 hc] at hs'

/-- In `ordersDb`, deleting the event fails: the subscription `audit`
its cursor takes with it still has a subscriber. -/
theorem orders_event_delete_fails :
    ordersDb.exec (.deleteEvent 1) = .error (stillReferencedError "topic_subscriptions"
        "topic_subscribers_topic_subscriptions_id_fkey" "topic_subscribers") ∧
      translatePGError (stillReferencedError "topic_subscriptions"
        "topic_subscribers_topic_subscriptions_id_fkey" "topic_subscribers") =
        .wrap (trimSuffix (trimPrefix "topic_subscribers_topic_subscriptions_id_fkey"
          ("topic_subscribers" ++ "_")) "_id_fkey") errNotFound :=
  (@deleteEvent_takes_subscription ordersDb ⟨1, "sub-audit", 1, 1, "audit", some 1⟩ ⟨1, 1, "payload"⟩
    (by decide) (by decide) rfl).2.2 ⟨⟨1, "subscriber-audit", 1, 7, "audit.consume"⟩, by decide, rfl⟩

end PubSubDb

end Dal

end Ftl

import ChatLink.Proofs.Recipients

/-!
Who is told of an event, in which order, and which callbacks are left afterwards. Recipients may
give up, send something or stop the dispatcher. As long as they do not change who is listening, each
of them has its turn, whatever became of those before.
-/

namespace ChatLink

def Entry.isTold : Entry → Bool
  | .messageReceived .. => true
  | .contactCreated _ => true
  | .callback .. => true
  | _ => false

theorem Entry.isTold_of_isConsumerCall {entry : Entry} (h : entry.isConsumerCall) :
    entry.isTold := by
  cases entry <;> first | rfl | cases h

theorem Entry.isTold_of_isUpkeep {entry : Entry} (h : entry.IsUpkeep) :
    entry.isTold = false := by
  cases entry <;> first | rfl | cases h

structure Hearing where
  entry : Entry
  actions : List Action

def Listener.hearing (listener : Listener) (event : Event) : Hearing :=
  ⟨.callback listener.name event, listener.reaction event⟩

namespace Host

variable {host : Host} {held : Option Callable}

theorem isAlive_iff {thing : Nat} : host.isAlive held thing ↔
    (∃ callable ∈ held, thing ∈ callable.things) ∨
      ∃ entry ∈ host.kept, thing ∈ entry.2.things := by
  simp [isAlive]

theorem isAlive_held (kept : ∀ callable ∈ held, ∀ thing ∈ callable.things, host.isAlive none thing) :
    host.isAlive held = host.isAlive none := by
  funext thing
  rw [Bool.eq_iff_iff, isAlive_iff, isAlive_iff]
  constructor
  · rintro (⟨callable, holds, mem⟩ | elsewhere)
    · exact isAlive_iff.mp (kept callable holds thing mem)
    · exact .inr elsewhere
  · rintro (⟨_, none, _⟩ | elsewhere)
    · cases none
    · exact .inr elsewhere

theorem isAlive_of_subset {h k : Host} (kept : k.kept ⊆ h.kept) {thing : Nat}
    (alive : k.isAlive none thing) : h.isAlive none thing := by
  rw [isAlive_iff] at alive ⊢
  exact alive.imp_right fun ⟨entry, mem, part⟩ => ⟨entry, kept mem, part⟩

theorem listener?_held
    (kept : ∀ callable ∈ held, ∀ thing ∈ callable.things, host.isAlive none thing) :
    host.listener? held = host.listener? none := by
  funext reference
  rw [listener?, listener?, isAlive_held kept]

theorem isSome_listener?_iff {reference : Reference} :
    (host.listener? held reference).isSome ↔
      ∀ thing ∈ reference.callable.things, host.isAlive held thing := by
  rw [listener?, ← List.all_eq_true]
  split <;> simp_all

theorem listener?_eq {h k : Host} (listeners : k.listeners = h.listeners) (kept : k.kept = h.kept) :
    k.listener? = h.listener? := by
  funext held reference
  rw [listener?, listener?, listeners, show k.isAlive = h.isAlive from by
    funext held thing
    rw [isAlive, isAlive, kept]]

end Host

namespace Session

def isAlive (s : Session) (reference : Reference) : Bool :=
  (s.host.listener? none reference).isSome

def live (s : Session) : List Listener := s.dispatcher.callbacks.filterMap (s.host.listener? none)

def consumerHearings (s : Session) (event : Event) : List Hearing :=
  match s.dispatcher.consumer, event.call? with
  | some consumer, some entry => [⟨entry, consumer.reaction event⟩]
  | _, _ => []

def hearings (s : Session) (event : Event) : List Hearing :=
  s.consumerHearings event ++ s.live.map (·.hearing event)

def withCallbacks (s : Session) (callbacks : List Reference) : Session :=
  { s with dispatcher := { s.dispatcher with callbacks } }

def hear (complaint : Failure → Notice) (s : Session) (hearing : Hearing) : Session :=
  (s.record hearing.entry).act hearing.actions complaint

def heard (s : Session) (event : Event) (listeners : List Listener) : Session :=
  (listeners.map (·.hearing event)).foldl (hear (.callbackFailed event)) (s.tellConsumer event)

structure SameAudience (s t : Session) : Prop where
  callbacks : t.dispatcher.callbacks = s.dispatcher.callbacks
  listeners : ∀ reference ∈ s.dispatcher.callbacks,
    t.host.listener? none reference = s.host.listener? none reference

/-- Whoever has had a turn so far, nobody has registered a callback, and no callback has died. -/
def Steady (s : Session) (event : Event) : Prop :=
  ∀ told, told <+: s.live → SameAudience s (s.heard event told)

/-- A callback whose method has lost its function, while the method's object is alive and there is a
callback that is equal to it. -/
def Halved (s : Session) (dead reference : Reference) : Prop :=
  dead ∈ s.dispatcher.callbacks ∧ reference ∈ s.dispatcher.callbacks ∧
    s.isAlive dead = false ∧ s.isAlive reference ∧
    ∃ object function thing, dead.callable = .method object function ∧
      reference.callable = .plain thing ∧ s.host.isAlive none object ∧ s.host.equal thing object

def Whole (s : Session) : Prop := ∀ dead reference, ¬s.Halved dead reference

theorem whole_of_alive {s : Session}
    (alive : ∀ reference ∈ s.dispatcher.callbacks, s.isAlive reference) : s.Whole := by
  rintro dead reference ⟨registered, -, gone, -⟩
  rw [alive dead registered] at gone
  cases gone

section Turns

variable {s : Session} {event : Event}

theorem heard_concat (s : Session) (event : Event) (told : List Listener) (listener : Listener) :
    s.heard event (told ++ [listener]) =
      (s.heard event told).hear (.callbackFailed event) (listener.hearing event) := by
  rw [heard, List.map_append]
  exact List.foldl_append ..

theorem filterMap_filter_isAlive (s : Session) (callbacks : List Reference) :
    (callbacks.filter s.isAlive).filterMap (s.host.listener? none) =
      callbacks.filterMap (s.host.listener? none) := by
  rw [List.filterMap_filter]
  refine List.filterMap_congr fun reference _ => ?_
  rw [isAlive]
  cases s.host.listener? none reference <;> rfl

theorem prefix_live {passed back : List Reference} (h : s.dispatcher.callbacks = passed ++ back) :
    passed.filterMap (s.host.listener? none) <+: s.live := by
  rw [live, h, List.filterMap_append]
  exact List.prefix_append ..

def Holds (s : Session) (held : Option Callable) : Prop :=
  ∀ callable ∈ held, ∃ reference ∈ s.dispatcher.callbacks,
    reference.callable = callable ∧ s.isAlive reference

theorem holds_none (s : Session) : s.Holds none := nofun

theorem Holds.kept {t : Session} {held : Option Callable} (holds : s.Holds held)
    (same : SameAudience s t) :
    ∀ callable ∈ held, ∀ thing ∈ callable.things, t.host.isAlive none thing := by
  intro callable mem
  obtain ⟨reference, registered, rfl, alive⟩ := holds callable mem
  rw [isAlive, ← same.listeners reference registered] at alive
  exact Host.isSome_listener?_iff.mp alive

/-- Whoever has had a turn so far, the next callback is the one that was registered next. -/
theorem Steady.next (steady : s.Steady event) {passed back : List Reference}
    (callbacks : s.dispatcher.callbacks = passed ++ back) :
    (s.heard event (passed.filterMap (s.host.listener? none))).dispatcher.callbacks[
      passed.length]? = back.head? := by
  rw [(steady _ (prefix_live callbacks)).callbacks, callbacks,
    List.getElem?_append_right (Nat.le_refl _), Nat.sub_self, List.head?_eq_getElem?]

theorem Steady.listener? (steady : s.Steady event) {passed back : List Reference}
    {reference : Reference} (callbacks : s.dispatcher.callbacks = passed ++ reference :: back)
    {held : Option Callable} (holds : s.Holds held) :
    (s.heard event (passed.filterMap (s.host.listener? none))).host.listener? held reference =
      s.host.listener? none reference := by
  have audience := steady _ (prefix_live callbacks)
  have registered : reference ∈ s.dispatcher.callbacks := by
    rw [callbacks]
    exact List.mem_append_right _ List.mem_cons_self
  rw [Host.listener?_held (holds.kept audience), audience.listeners _ registered]

theorem tellCallbacks_heard (steady : s.Steady event) (passed : List Reference)
    {back : List Reference} {fuel : Nat} {held : Option Callable} (dead : List Reference)
    (enough : back.length ≤ fuel) (callbacks : s.dispatcher.callbacks = passed ++ back)
    (holds : s.Holds held) : ∃ last, s.Holds last ∧
      tellCallbacks event fuel passed.length held dead
          (s.heard event (passed.filterMap (s.host.listener? none))) =
        (last, dead ++ back.filter fun reference => !s.isAlive reference, s.heard event s.live) := by
  -- those that were passed were told, or noted if they are dead
  induction back generalizing passed fuel held dead with
  | nil =>
    refine ⟨held, holds, ?_⟩
    rw [List.append_nil] at callbacks
    have past := steady.next (callbacks.trans (List.append_nil _).symm)
    rw [live, callbacks, List.filter_nil, List.append_nil]
    cases fuel with
    | zero => rfl
    | succ fuel => rw [tellCallbacks, past, List.head?_nil]
  | cons reference back ih =>
    obtain _ | fuel := fuel
    · exact absurd enough (Nat.not_succ_le_zero _)
    have all : s.dispatcher.callbacks = (passed ++ [reference]) ++ back :=
      callbacks.trans (List.append_cons ..)
    have registered : reference ∈ s.dispatcher.callbacks := by
      rw [callbacks]
      exact List.mem_append_right _ List.mem_cons_self
    have next {held : Option Callable} (dead : List Reference) (holds : s.Holds held) :=
      ih (passed ++ [reference]) dead (Nat.le_of_succ_le_succ enough) all holds
    rw [List.filterMap_append, List.length_append] at next
    rw [tellCallbacks, steady.next callbacks, List.head?_cons]
    dsimp only
    rw [steady.listener? callbacks holds]
    cases found : s.host.listener? none reference with
    | none =>
      have gone : s.isAlive reference = false := by rw [isAlive, found]; rfl
      rw [List.filterMap_cons_none found, List.filterMap_nil, List.append_nil] at next
      have passed := next (dead ++ [reference]) s.holds_none
      rw [List.append_assoc, List.singleton_append] at passed
      rw [List.filter_cons_of_pos (by rw [gone]; rfl)]
      exact passed
    | some listener =>
      have alive : s.isAlive reference = true := by rw [isAlive, found]; rfl
      rw [List.filterMap_cons_some found, List.filterMap_nil, heard_concat] at next
      rw [List.filter_cons_of_neg (by rw [alive]; exact Bool.false_ne_true)]
      refine next _ ?_
      rintro _ ⟨⟩
      exact ⟨reference, registered, rfl, alive⟩

theorem propagate_clean (steady : s.Steady event) : ∃ held, s.Holds held ∧ s.propagate event =
    (s.heard event s.live).clean held
      (s.dispatcher.callbacks.filter fun reference => !s.isAlive reference) := by
  have first : (s.tellConsumer event).dispatcher.callbacks = s.dispatcher.callbacks :=
    (steady [] List.nil_prefix).callbacks
  obtain ⟨held, holds, told⟩ := tellCallbacks_heard steady [] []
    (Nat.le_add_right _ spareTurns) rfl s.holds_none
  refine ⟨held, holds, ?_⟩
  rw [propagate, first]
  exact congrArg (fun told : Option Callable × List Reference × Session =>
    told.2.2.clean told.1 told.2.1) told

/-- If what is to be removed stands for itself and for nothing that is kept, the rest is left where
it is. -/
theorem foldl_eraseP_filter {α : Type} {p : α → α → Bool} {keep : α → Bool} {as : List α}
    (self : ∀ a, p a a) (others : ∀ a ∈ as, ∀ b ∈ as, keep a = false → keep b → p a b = false) :
    (as.filter fun a => !keep a).foldl (fun as a => as.eraseP (p a)) as = as.filter keep := by
  suffices h : ∀ front : List α, (∀ b ∈ front, keep b ∧ ∀ a ∈ as, keep a = false → p a b = false) →
      (as.filter fun a => !keep a).foldl (fun as a => as.eraseP (p a)) (front ++ as) =
        front ++ as.filter keep from h [] nofun
  induction as with
  | nil => exact fun front _ => rfl
  | cons a rest ih =>
    intro front passed
    have later := ih fun b mem c mem' => others b (.tail a mem) c (.tail a mem')
    cases h : keep a with
    | true =>
      rw [List.filter_cons_of_neg (by simp [h]), List.filter_cons_of_pos h,
        List.append_cons front a rest, List.append_cons front a (rest.filter keep)]
      refine later _ (List.forall_mem_append.mpr ⟨fun b mem => ?_, ?_⟩)
      · exact ⟨(passed b mem).1, fun c mem' => (passed b mem).2 c (.tail a mem')⟩
      · exact List.forall_mem_singleton.mpr
          ⟨h, fun c mem' gone => others c (.tail a mem') a (.head rest) gone h⟩
    | false =>
      have missing : ∀ b ∈ front, ¬p a b := fun b mem => by
        rw [(passed b mem).2 a (.head rest) h]
        exact Bool.false_ne_true
      rw [List.filter_cons_of_pos (by simp [h]), List.filter_cons_of_neg (by simp [h]),
        List.foldl_cons, List.eraseP_append_right _ missing, List.eraseP_cons_of_pos (self a)]
      exact later front fun b mem => ⟨(passed b mem).1, fun c mem' => (passed b mem).2 c (.tail a mem')⟩

theorem foldl_hear_moves {p : Entry → Prop} {hearings : List Hearing}
    {complaint : Failure → Notice} (told : ∀ hearing ∈ hearings, p hearing.entry)
    (hc : ∀ failure, p (.notice (complaint failure))) (s : Session) :
    Moves p True s (hearings.foldl (hear complaint) s) := by
  induction hearings generalizing s with
  | nil => exact .refl
  | cons hearing rest ih =>
    rw [List.forall_mem_cons] at told
    have turn : Moves p True s (s.hear complaint hearing) :=
      .head (.record told.1) (act_moves _ (fun action _ => action.allowed_true) hc)
    exact turn.trans (ih told.2 _)

theorem heard_moves (s : Session) (event : Event) (told : List Listener) :
    Moves (Entry.Concerns event) True s (s.heard event told) := by
  have callbacks : ∀ hearing ∈ told.map (·.hearing event), hearing.entry.Concerns event :=
    List.forall_mem_map.mpr fun _ _ => rfl
  have consumer := tellConsumer_moves (allows_true s) event
  refine consumer.trans (foldl_hear_moves callbacks ?_ _)
  exact fun failure => rfl

theorem propagate_eq (steady : s.Steady event) (whole : s.Whole) : s.propagate event =
      (s.heard event s.live).withCallbacks (s.dispatcher.callbacks.filter s.isAlive) := by
  obtain ⟨held, holds, cleaned⟩ := propagate_clean steady
  have audience := steady s.live List.prefix_rfl
  have alive : (s.heard event s.live).host.isAlive held =
      (s.heard event s.live).host.isAlive none := Host.isAlive_held (holds.kept audience)
  rw [cleaned, clean, audience.callbacks, withCallbacks]
  dsimp only
  rw [foldl_eraseP_filter]
  · intro reference
    rw [Host.mistakes, beq_self_eq_true, Bool.true_or]
  · intro dead mem reference mem' gone here
    have other : reference ≠ dead := by
      rintro rfl
      rw [gone] at here
      cases here
    rw [Host.mistakes, beq_false_of_ne other, Bool.false_or]
    split
    · rename_i object function thing method plain
      obtain ⟨kept, equal⟩ := (heard_moves s event s.live).kept
      rw [Bool.eq_false_iff, alive, equal]
      intro mistaken
      rw [Bool.and_eq_true, Bool.and_eq_true] at mistaken
      obtain ⟨⟨same, -⟩, living⟩ := mistaken
      exact whole dead reference ⟨mem, mem', gone, here, object, function, thing, method, plain,
        Host.isAlive_of_subset kept living, same⟩
    · rfl

end Turns

section Calls

variable {s : Session} {event : Event}

theorem tellConsumer_eq_foldl (s : Session) (event : Event) : s.tellConsumer event =
    (s.consumerHearings event).foldl (hear (.consumerFailed event)) s := by
  rw [tellConsumer_eq, consumerHearings]
  cases s.dispatcher.consumer with
  | none => rfl
  | some consumer => cases event.call? <;> rfl

theorem isConsumerCall_of_mem {hearing : Hearing} (h : hearing ∈ s.consumerHearings event) :
    hearing.entry.isConsumerCall := by
  rw [consumerHearings] at h
  split at h
  · rename_i call
    rw [List.mem_singleton.mp h]
    exact Event.isConsumerCall_of_call? call
  · cases h

theorem foldl_hear_adds {hearings : List Hearing} {complaint : Failure → Notice}
    (told : ∀ hearing ∈ hearings, hearing.entry.isTold)
    (hc : ∀ failure, Entry.isTold (.notice (complaint failure)) = false) (s : Session) :
    s.host.Adds Entry.isTold (hearings.foldl (hear complaint) s).host
      (hearings.map (·.entry)) := by
  induction hearings generalizing s with
  | nil => exact .refl _
  | cons hearing rest ih =>
    rw [List.forall_mem_cons] at told
    have acting : Moves (fun entry => entry.isTold = false) True (s.record hearing.entry)
        (s.hear complaint hearing) := act_moves _ (fun action _ => action.allowed_true) hc
    have acted := acting.adds fun _ => Or.rec id Entry.isTold_of_isUpkeep
    exact ((Host.Adds.record_visible told.1).trans_hidden acted).trans (ih told.2 _)

theorem heard_adds (s : Session) (event : Event) (told : List Listener) :
    s.host.Adds Entry.isTold (s.heard event told).host
      ((s.consumerHearings event ++ told.map (·.hearing event)).map (·.entry)) := by
  rw [heard, tellConsumer_eq_foldl, List.map_append]
  refine (foldl_hear_adds (fun hearing mem => ?_) (fun _ => rfl) s).trans
    (foldl_hear_adds (fun hearing mem => ?_) (fun _ => rfl) _)
  · exact Entry.isTold_of_isConsumerCall (isConsumerCall_of_mem mem)
  · obtain ⟨listener, -, rfl⟩ := List.mem_map.mp mem
    rfl

end Calls

section Spares

/-- An action that registers nobody, and lets go of nothing that a callback needs. -/
def Spares (s : Session) : Action → Prop
  | .register _ => False
  | .forget name => ∀ callable, (name, callable) ∈ s.host.kept →
    ∀ reference ∈ s.dispatcher.callbacks, s.isAlive reference →
      ∀ thing ∈ reference.callable.things, thing ∉ callable.things
  | _ => True

structure Untouched (s t : Session) : Prop extends SameAudience s t where
  kept : t.host.kept ⊆ s.host.kept

variable {s t u : Session} {event : Event}

namespace Untouched

theorem of_eq (callbacks : t.dispatcher.callbacks = s.dispatcher.callbacks)
    (listeners : t.host.listeners = s.host.listeners) (kept : t.host.kept = s.host.kept) :
    Untouched s t where
  callbacks := callbacks
  listeners _ _ := by rw [Host.listener?_eq listeners kept]
  kept := by rw [kept]; exact List.Subset.refl _

theorem refl (s : Session) : Untouched s s := of_eq rfl rfl rfl

theorem trans (st : Untouched s t) (tu : Untouched t u) : Untouched s u where
  callbacks := tu.callbacks.trans st.callbacks
  listeners reference mem :=
    (tu.listeners reference (st.callbacks ▸ mem)).trans (st.listeners reference mem)
  kept := List.Subset.trans tu.kept st.kept

theorem isAlive (st : Untouched s t) {reference : Reference}
    (mem : reference ∈ s.dispatcher.callbacks) : t.isAlive reference = s.isAlive reference := by
  rw [Session.isAlive, Session.isAlive, st.listeners reference mem]

theorem sendData (s : Session) (data : Bytes) : Untouched s (s.sendData data).2 := by
  obtain ⟨_, _, _, sent, -⟩ := s.sendData_eq data
  rw [sent]
  exact .of_eq rfl rfl rfl

theorem sendMessage (s : Session) (peer text : Value) (broadcast : Bool) :
    Untouched s (s.sendMessage peer text broadcast).2 := by
  obtain ⟨clock, read⟩ := s.host.exists_readClock
  have reading : Untouched s { s with host := s.host.readClock.2 } :=
    .of_eq rfl (by rw [read]) (by rw [read])
  rw [Session.sendMessage]
  split
  · exact .refl s
  · dsimp only
    split
    · exact reading
    · have sending := reading.trans (.sendData _ ‹Bytes›)
      split
      all_goals
        rename_i sent
        rw [sent] at sending
        exact sending

theorem stop (s : Session) : Untouched s s.stop.2 := by
  obtain ⟨_, _, _, _, _, _, stopped, -⟩ := s.stop_eq
  rw [stopped]
  exact .of_eq rfl rfl rfl

theorem forget {name : String} (h : s.Spares (.forget name)) :
    Untouched s { s with host := s.host.forget name } where
  callbacks := rfl
  listeners reference mem := by
    have less : (s.host.forget name).kept ⊆ s.host.kept := List.filter_subset_self _
    rw [Host.listener?, Host.listener?]
    congr 1
    rw [eq_iff_iff, List.all_eq_true, List.all_eq_true]
    refine ⟨fun alive thing inside => ?_, fun alive thing inside => ?_⟩
    · obtain ⟨_, none, _⟩ | ⟨entry, kept, holds⟩ := Host.isAlive_iff.mp (alive thing inside)
      · cases none
      · exact Host.isAlive_iff.mpr (.inr ⟨entry, less kept, holds⟩)
    · obtain ⟨_, none, _⟩ | ⟨⟨other, callable⟩, kept, holds⟩ :=
        Host.isAlive_iff.mp (alive thing inside)
      · cases none
      · have away : other ≠ name := by
          rintro rfl
          exact h callable kept reference mem (Host.isSome_listener?_iff.mpr alive) thing inside holds
        exact Host.isAlive_iff.mpr (.inr ⟨(other, callable),
          List.mem_filter.mpr ⟨kept, bne_iff_ne.mpr away⟩, holds⟩)
  kept := List.filter_subset_self _

end Untouched

theorem Spares.of_untouched {action : Action} (h : s.Spares action) (st : Untouched s t) :
    t.Spares action := by
  cases action with
  | forget name =>
    intro callable kept reference mem alive
    rw [st.callbacks] at mem
    rw [st.isAlive mem] at alive
    exact h callable (st.kept kept) reference mem alive
  | _ => exact h

theorem perform_untouched {action : Action} (h : s.Spares action) :
    Untouched s (s.perform action).2 := by
  cases action with
  | fail text => exact .refl s
  | stop =>
    rw [perform_stop]
    exact .stop s
  | send peer text =>
    rw [perform_send]
    exact .sendMessage s peer text false
  | register name => cases h
  | forget name => exact .forget h

theorem performAll_untouched {actions : List Action} (h : ∀ action ∈ actions, s.Spares action) :
    Untouched s (s.performAll actions).2 := by
  induction actions generalizing s with
  | nil => exact .refl s
  | cons action rest ih =>
    rw [List.forall_mem_cons] at h
    have first := perform_untouched h.1
    rw [performAll]
    split
    · rename_i failed
      rw [failed] at first
      exact first
    · rename_i done
      rw [done] at first
      exact first.trans (ih fun action mem => (h.2 action mem).of_untouched first)

theorem act_eq {actions : List Action} {complaint : Failure → Notice} {failure : Option Failure}
    (h : s.performAll actions = (failure, t)) :
    s.act actions complaint = (failure.map complaint).elim t t.report := by
  rw [act, h]
  cases failure <;> rfl

theorem act_untouched {actions : List Action} (h : ∀ action ∈ actions, s.Spares action)
    (complaint : Failure → Notice) : Untouched s (s.act actions complaint) := by
  have acting := performAll_untouched h
  obtain ⟨failure, t, outcome⟩ : ∃ failure t, s.performAll actions = (failure, t) := ⟨_, _, rfl⟩
  rw [outcome] at acting
  rw [act_eq outcome]
  cases failure with
  | none => exact acting
  | some failure => exact acting.trans (.of_eq rfl rfl rfl)

theorem foldl_hear_untouched {hearings : List Hearing}
    (h : ∀ hearing ∈ hearings, ∀ action ∈ hearing.actions, s.Spares action)
    (complaint : Failure → Notice) : Untouched s (hearings.foldl (hear complaint) s) := by
  induction hearings generalizing s with
  | nil => exact .refl s
  | cons hearing rest ih =>
    rw [List.forall_mem_cons] at h
    have recorded : Untouched s (s.record hearing.entry) := .of_eq rfl rfl rfl
    have first : Untouched s (s.hear complaint hearing) := recorded.trans
      (act_untouched (fun action acts => (h.1 action acts).of_untouched recorded) complaint)
    exact first.trans
      (ih fun hearing mem action acts => (h.2 hearing mem action acts).of_untouched first)

theorem steady_of_spares
    (h : ∀ hearing ∈ s.hearings event, ∀ action ∈ hearing.actions, s.Spares action) :
    s.Steady event := by
  intro told among
  rw [heard, tellConsumer_eq_foldl]
  have first := foldl_hear_untouched
    (fun hearing mem => h hearing (List.mem_append_left _ mem)) (.consumerFailed event)
  refine (first.trans (foldl_hear_untouched (fun hearing mem action acts => ?_) _)).toSameAudience
  obtain ⟨listener, told, rfl⟩ := List.mem_map.mp mem
  have listens : listener.hearing event ∈ s.hearings event :=
    List.mem_append_right _ (List.mem_map_of_mem (among.subset told))
  exact (h _ listens action acts).of_untouched first

end Spares

def crowded : Session where
  dispatcher := {
    channel := {
      backend := ⟨.text "127.0.0.1", 41244⟩
      bindAddress := .text ""
      mtu := 1500
      socket := some 0 }
    consumer := some ⟨fun _ _ _ => [.fail "full"], fun _ => []⟩
    greeting := [104, 105]
    hops := 5
    fatal := .note
    callbacks := [⟨.plain 0, 0⟩, ⟨.plain 7, 0⟩, ⟨.method 1 2, 1⟩, ⟨.plain 0, 0⟩, ⟨.method 9 2, 2⟩] }
  host := {
    live := [0]
    listeners := fun callable =>
      match callable with
      | .plain _ => ⟨"loud", fun _ => [.fail "hoarse"]⟩
      | .method .. => ⟨"last", fun _ => [.stop]⟩
    kept := [("loud", .plain 0), ("last", .method 1 2)] }

def greetingHeard : Event := .message (.text "bob") (.int 5000) (.text "hi") (.bool false)

def halved : Session where
  dispatcher := { crowded.dispatcher with callbacks := [⟨.plain 0, 0⟩, ⟨.method 0 1, 1⟩] }
  host := { listeners := fun _ => ⟨"app", fun _ => []⟩, kept := [("app", .plain 0)] }

end Session

end ChatLink

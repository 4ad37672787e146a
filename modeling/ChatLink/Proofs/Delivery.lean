import ChatLink.Proofs.Audience

namespace ChatLink

namespace Action

def isModest : Action → Bool
  | .fail _ => true
  | .stop => true
  | _ => false

def stops : List Action → Bool
  | .stop :: _ => true
  | .fail _ :: _ => false
  | _ :: rest => stops rest
  | [] => false

end Action

def Hearing.stops (hearing : Hearing) : Bool := Action.stops hearing.actions

namespace Session

/-- Recipients give up or stop the dispatcher, and do nothing else. -/
def Modest (s : Session) : Prop :=
  ∀ event, ∀ hearing ∈ s.hearings event, ∀ action ∈ hearing.actions, action.isModest

structure Told (s t : Session) (told : List Hearing) : Prop where
  consumer : t.dispatcher.consumer = s.dispatcher.consumer
  fatal : t.dispatcher.fatal = s.dispatcher.fatal
  live : t.live = s.live
  whole : s.Whole → t.Whole
  refusals : t.host.refusals = s.host.refusals
  ownPort : t.host.ownPort = s.host.ownPort
  journal : s.host.Adds (Entry.isVisible s.host.ownPort) t.host (told.map (·.entry))
  unstopped : told.any (·.stops) = false →
    t.dispatcher.channel = s.dispatcher.channel ∧
      t.dispatcher.shutdown = s.dispatcher.shutdown ∧ t.host.inbox = s.host.inbox
  stopped : told.any (·.stops) = true →
    (t.dispatcher.channel = s.dispatcher.channel ∨
      t.dispatcher.channel = { s.dispatcher.channel with socket := none }) ∧
        t.dispatcher.shutdown = true

namespace Told

variable {s t u : Session} {told : List Hearing}

theorem of_journal {entries : List Entry} (s : Session)
    (journal : ∀ entry ∈ entries, entry.isVisible s.host.ownPort = false) :
    Told s { s with host := { s.host with journal := s.host.journal ++ entries } } [] where
  consumer := rfl
  fatal := rfl
  live := rfl
  whole := id
  refusals := rfl
  ownPort := rfl
  journal := .of_forall rfl journal
  unstopped _ := ⟨rfl, rfl, rfl⟩
  stopped := nofun

theorem refl (s : Session) : Told s s [] where
  consumer := rfl
  fatal := rfl
  live := rfl
  whole := id
  refusals := rfl
  ownPort := rfl
  journal := .refl _
  unstopped _ := ⟨rfl, rfl, rfl⟩
  stopped := nofun

theorem report {notice : Notice} (hidden : ∀ ownPort, (Entry.notice notice).isVisible ownPort = false)
    (s : Session) : Told s (s.report notice) [] :=
  of_journal s (List.forall_mem_singleton.mpr (hidden _))

theorem trans {more : List Hearing} (st : Told s t told) (tu : Told t u more) :
    Told s u (told ++ more) where
  consumer := tu.consumer.trans st.consumer
  fatal := tu.fatal.trans st.fatal
  live := tu.live.trans st.live
  whole := tu.whole ∘ st.whole
  refusals := tu.refusals.trans st.refusals
  ownPort := tu.ownPort.trans st.ownPort
  journal := by
    rw [List.map_append]
    exact st.journal.trans (st.ownPort ▸ tu.journal)
  unstopped none := by
    rw [List.any_append, Bool.or_eq_false_iff] at none
    obtain ⟨channel, shutdown, inbox⟩ := st.unstopped none.1
    obtain ⟨channel', shutdown', inbox'⟩ := tu.unstopped none.2
    exact ⟨channel'.trans channel, shutdown'.trans shutdown, inbox'.trans inbox⟩
  stopped some := by
    -- a stop is not taken back by those who are told after it
    rw [List.any_append, Bool.or_eq_true] at some
    cases first : told.any (·.stops) with
    | true =>
      obtain ⟨channel, shutdown⟩ := st.stopped first
      cases second : more.any (·.stops) with
      | true =>
        obtain ⟨channel', shutdown'⟩ := tu.stopped second
        refine ⟨?_, shutdown'⟩
        obtain same | closed := channel <;> obtain same' | closed' := channel' <;> simp_all
      | false =>
        obtain ⟨channel', shutdown', -⟩ := tu.unstopped second
        rw [channel', shutdown']
        exact ⟨channel, shutdown⟩
    | false =>
      obtain ⟨channel, -, -⟩ := st.unstopped first
      obtain ⟨channel', shutdown'⟩ := tu.stopped (some.resolve_left (by rw [first]; nofun))
      rw [channel] at channel'
      exact ⟨channel', shutdown'⟩

theorem hearings (st : Told s t told) : t.hearings = s.hearings := by
  funext event
  rw [Session.hearings, Session.hearings, consumerHearings, consumerHearings, st.consumer, st.live]

theorem modest (st : Told s t told) (h : s.Modest) : t.Modest := by
  rw [Modest, st.hearings]
  exact h

end Told

theorem performAll_modest {actions : List Action} (h : ∀ action ∈ actions, action.isModest)
    (s : Session) : (s.performAll actions).2 = if Action.stops actions then s.stop.2 else s := by
  induction actions generalizing s with
  | nil => rfl
  | cons action rest ih =>
    rw [List.forall_mem_cons] at h
    cases action with
    | fail text => rfl
    | stop =>
      change _ = s.stop.2
      cases stopped : s.stop.1 with
      | error error =>
        rw [performAll, perform_stop, stopped]
      | ok =>
        rw [performAll, perform_stop, stopped]
        dsimp only
        rw [ih h.2, (stopped_stop stopped).stop_eq, ite_self]
    | _ => exact absurd h.1 Bool.false_ne_true

theorem act_modest {actions : List Action} (h : ∀ action ∈ actions, action.isModest) (s : Session)
    (complaint : Failure → Notice) :
    s.act actions complaint = (if Action.stops actions then s.stop.2 else s) ∨
      ∃ failure, s.act actions complaint =
        (if Action.stops actions then s.stop.2 else s).report (complaint failure) := by
  have performed := performAll_modest h s
  rw [act]
  split
  · rename_i done
    rw [done] at performed
    exact .inl performed
  · rename_i failure t failed
    rw [failed] at performed
    exact .inr ⟨failure, congrArg (·.report (complaint failure)) performed⟩

theorem live_eq {s t : Session} (callbacks : t.dispatcher.callbacks = s.dispatcher.callbacks)
    (listeners : t.host.listeners = s.host.listeners) (kept : t.host.kept = s.host.kept) :
    t.live = s.live := by
  rw [live, live, callbacks, Host.listener?_eq listeners kept]

theorem whole_of_subset {s t : Session} (callbacks : t.dispatcher.callbacks ⊆ s.dispatcher.callbacks)
    (listeners : t.host.listeners = s.host.listeners) (kept : t.host.kept = s.host.kept)
    (equal : t.host.equal = s.host.equal) (whole : s.Whole) : t.Whole := by
  rintro dead reference ⟨mem, mem', gone, alive, object, function, thing, method, plain, living,
    same⟩
  rw [isAlive, Host.listener?_eq listeners kept] at gone alive
  rw [equal] at same
  exact whole dead reference ⟨callbacks mem, callbacks mem', gone, alive, object, function, thing,
    method, plain, Host.isAlive_of_subset (kept ▸ List.Subset.refl _) living, same⟩

theorem hear_told (hearing : Hearing) (complaint : Failure → Notice)
    (visible : ∀ ownPort, hearing.entry.isVisible ownPort)
    (modest : ∀ action ∈ hearing.actions, action.isModest)
    (hc : ∀ failure ownPort, (Entry.notice (complaint failure)).isVisible ownPort = false)
    (s : Session) : Told s (s.hear complaint hearing) [hearing] := by
  rw [hear]
  have heard : Told s (if hearing.stops then (s.record hearing.entry).stop.2
      else s.record hearing.entry) [hearing] := by
    cases h : hearing.stops with
    | true =>
      obtain ⟨_, _, _, _, _, entries, stopped, channel, stopping⟩ := (s.record hearing.entry).stop_eq
      rw [if_pos rfl, stopped]
      exact {
        consumer := rfl
        fatal := rfl
        live := live_eq rfl rfl rfl
        whole := whole_of_subset (List.Subset.refl _) rfl rfl rfl
        refusals := rfl
        ownPort := rfl
        journal := (Host.Adds.record_visible (visible _)).trans_hidden
          (.of_forall rfl fun entry mem => (stopping entry mem).isVisible)
        unstopped := by simp [h]
        stopped := fun _ => ⟨channel, rfl⟩ }
    | false =>
      exact {
        consumer := rfl
        fatal := rfl
        live := rfl
        whole := id
        refusals := rfl
        ownPort := rfl
        journal := .record_visible (visible _)
        unstopped := fun _ => ⟨rfl, rfl, rfl⟩
        stopped := by simp [h] }
  obtain acted | ⟨failure, acted⟩ := act_modest modest (s.record hearing.entry) complaint
  · rw [acted]
    exact heard
  · rw [acted]
    exact heard.trans (.report (hc failure) _)

theorem callbacks_told {s : Session} {callbacks : List Reference}
    (less : callbacks ⊆ s.dispatcher.callbacks)
    (same : callbacks.filterMap (s.host.listener? none) = s.live) :
    Told s (s.withCallbacks callbacks) [] where
  consumer := rfl
  fatal := rfl
  live := same
  whole := whole_of_subset less rfl rfl rfl
  refusals := rfl
  ownPort := rfl
  journal := .refl _
  unstopped _ := ⟨rfl, rfl, rfl⟩
  stopped := nofun

theorem foldl_hear_told {hearings : List Hearing} {complaint : Failure → Notice}
    (visible : ∀ hearing ∈ hearings, ∀ ownPort, hearing.entry.isVisible ownPort)
    (modest : ∀ hearing ∈ hearings, ∀ action ∈ hearing.actions, action.isModest)
    (hc : ∀ failure ownPort, (Entry.notice (complaint failure)).isVisible ownPort = false)
    (s : Session) : Told s (hearings.foldl (hear complaint) s) hearings := by
  induction hearings generalizing s with
  | nil => exact .refl s
  | cons hearing rest ih =>
    rw [List.forall_mem_cons] at visible modest
    exact (hear_told hearing complaint visible.1 modest.1 hc s).trans (ih visible.2 modest.2 _)

theorem heard_told {s : Session} (modest : s.Modest) (event : Event) :
    Told s (s.heard event s.live) (s.hearings event) := by
  have all := List.forall_mem_append.mp (modest event)
  rw [heard, tellConsumer_eq_foldl]
  refine (foldl_hear_told (fun hearing mem _ => ?_) all.1 (fun _ _ => rfl) s).trans
    (foldl_hear_told (fun hearing mem _ => ?_) all.2 (fun _ _ => rfl) _)
  · exact Entry.isVisible_of_isConsumerCall (isConsumerCall_of_mem mem)
  · obtain ⟨listener, -, rfl⟩ := List.mem_map.mp mem
    rfl

theorem Spares.of_isModest {s : Session} {action : Action} (h : action.isModest) :
    s.Spares action := by
  cases action <;> trivial

theorem propagate_told {s : Session} (modest : s.Modest) (whole : s.Whole) (event : Event) :
    Told s (s.propagate event) (s.hearings event) := by
  have spares : ∀ hearing ∈ s.hearings event, ∀ action ∈ hearing.actions, s.Spares action :=
    fun hearing mem action acts => .of_isModest (modest event hearing mem action acts)
  have steady := steady_of_spares spares
  have audience := steady s.live List.prefix_rfl
  have heard := heard_told modest event
  have left : Told (s.heard event s.live) (s.propagate event) [] := by
    rw [propagate_eq steady whole]
    refine callbacks_told (by rw [audience.callbacks]; exact List.filter_subset_self _) ?_
    have same : s.live = (s.dispatcher.callbacks.filter s.isAlive).filterMap
        (s.host.listener? none) := (filterMap_filter_isAlive ..).symm
    refine Eq.trans ?_ (same.symm.trans heard.live.symm)
    exact List.filterMap_congr fun reference mem =>
      audience.listeners reference (List.mem_of_mem_filter mem)
  rw [← List.append_nil (s.hearings event)]
  exact heard.trans left

theorem isVisible_of_codec {ownPort : Int} {notice : Notice} (h : notice.source = .codec) :
    (Entry.notice notice).isVisible ownPort = false := by
  cases notice <;> first | rfl | cases h

theorem dispatch_told {s : Session} (modest : s.Modest) (whole : s.Whole) (data : Bytes)
    (bound : Option Int) : Told s (s.dispatch data bound)
      ((Frame.decode data bound).1.toList.flatMap s.hearings) := by
  have read : Told s { s with host := s.host.reportAll (Frame.decode data bound).2 } [] := by
    rw [Host.reportAll_eq]
    refine .of_journal s (List.forall_mem_map.mpr fun notice mem => ?_)
    exact isVisible_of_codec (Frame.source_decode mem)
  rw [dispatch]
  dsimp only
  cases (Frame.decode data bound).1 with
  | none => exact read
  | some event =>
    rw [Option.toList_some, List.flatMap_singleton, ← read.hearings]
    exact read.trans (propagate_told (read.modest modest) (read.whole whole) event)

end Session

end ChatLink

import ChatLink.Dispatcher

namespace ChatLink

namespace Entry

def isConsumerCall : Entry → Bool
  | .messageReceived .. => true
  | .contactCreated _ => true
  | _ => false

/-- Whether somebody outside takes part: a recipient, the daemon, or whoever is told of the end.
What a dispatcher does for itself is to write its log, to receive, to wake itself and to close its
channel. -/
def isVisible (ownPort : Int) : Entry → Bool
  | .notice (.terminating _) => true
  | .notice _ => false
  | .name _ => false
  | .receiveFrom .. => false
  | .close _ => false
  | .sendTo _ data target => !(data.isEmpty && target.port == ownPort)
  | _ => true

theorem isVisible_of_isConsumerCall {ownPort : Int} {entry : Entry} (h : entry.isConsumerCall) :
    entry.isVisible ownPort := by
  cases entry <;> first | rfl | cases h

def IsStop (ownPort : Int) : Entry → Prop
  | .name _ => True
  | .sendTo _ data target => data = [] ∧ target.port = ownPort
  | .close _ => True
  | _ => False

theorem IsStop.isVisible {ownPort : Int} {entry : Entry} (h : entry.IsStop ownPort) :
    entry.isVisible ownPort = false := by
  cases entry with
  | sendTo socket data target =>
    obtain ⟨rfl, own⟩ := h
    simp [Entry.isVisible, own]
  | name => rfl
  | close => rfl
  | _ => cases h

end Entry

theorem Frame.source_decode {data : Bytes} {bound : Option Int} {notice : Notice}
    (h : notice ∈ (Frame.decode data bound).2) : notice.source = .codec := by
  rw [decode] at h
  split at h
  · cases h
  · rename_i frame _
    obtain reading | event := List.mem_append.mp h
    · obtain length | code := List.mem_append.mp reading
      · split at length
        · rw [List.mem_singleton.mp length]
          rfl
        · cases length
      · split at code
        · rw [List.mem_singleton.mp code]
          rfl
        · cases code
    · rw [List.mem_singleton.mp event, eventNotice]
      cases frame.kind <;> rfl

namespace Host

theorem reportAll_eq (host : Host) (notices : List Notice) :
    host.reportAll notices = { host with journal := host.journal ++ notices.map .notice } := by
  induction notices generalizing host with
  | nil =>
    rw [List.map_nil, List.append_nil]
    rfl
  | cons notice notices ih =>
    change (host.report notice).reportAll notices = _
    rw [ih, report, record, List.append_assoc]
    rfl

/-- The journal of `k` continues that of `h`, and `entries` are those added ones that pass. -/
def Adds (p : Entry → Bool) (h k : Host) (entries : List Entry) : Prop :=
  ∃ rest, k.journal = h.journal ++ rest ∧ rest.filter p = entries

namespace Adds

variable {p : Entry → Bool} {h k l : Host} {entries more : List Entry}

theorem of_eq (e : k.journal = h.journal) : Adds p h k [] :=
  ⟨[], by rw [e, List.append_nil], rfl⟩

theorem refl (h : Host) : Adds p h h [] := of_eq rfl

theorem trans (hk : Adds p h k entries) (kl : Adds p k l more) :
    Adds p h l (entries ++ more) := by
  obtain ⟨rest, hj, rfl⟩ := hk
  obtain ⟨later, kj, rfl⟩ := kl
  exact ⟨rest ++ later, by rw [kj, hj, List.append_assoc], List.filter_append ..⟩

theorem trans_hidden (hk : Adds p h k entries) (kl : Adds p k l []) : Adds p h l entries := by
  rw [← List.append_nil entries]
  exact hk.trans kl

theorem hidden_trans (hk : Adds p h k []) (kl : Adds p k l entries) : Adds p h l entries :=
  hk.trans kl

theorem of_append {entry : Entry} (e : k.journal = h.journal ++ [entry]) :
    Adds p h k (if p entry then [entry] else []) :=
  ⟨[entry], e, by rw [List.filter_cons, List.filter_nil]⟩

theorem record_visible {entry : Entry} (hp : p entry = true) :
    Adds p h (h.record entry) [entry] := by
  have added := of_append (p := p) (h := h) (k := h.record entry) rfl
  rwa [if_pos hp] at added

theorem of_append_hidden {entry : Entry} (e : k.journal = h.journal ++ [entry])
    (hp : p entry = false) : Adds p h k [] := by
  have added := of_append (p := p) e
  rwa [if_neg (by simp [hp])] at added

theorem record_hidden {entry : Entry} (hp : p entry = false) : Adds p h (h.record entry) [] :=
  of_append_hidden rfl hp

theorem of_forall {rest : List Entry} (e : k.journal = h.journal ++ rest)
    (hp : ∀ entry ∈ rest, p entry = false) : Adds p h k [] := by
  refine ⟨rest, e, List.filter_eq_nil_iff.mpr fun entry mem => ?_⟩
  rw [hp entry mem]
  exact Bool.false_ne_true

theorem reportAll {notices : List Notice} (hp : ∀ notice ∈ notices, p (.notice notice) = false) :
    Adds p h (h.reportAll notices) [] :=
  of_forall (by rw [reportAll_eq]) (List.forall_mem_map.mpr hp)

end Adds

end Host

end ChatLink

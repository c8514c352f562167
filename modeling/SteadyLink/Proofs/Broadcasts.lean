import SteadyLink.Proofs.Dispatches

/-!
# What goes over the bus

`Airs` relates two hubs by the events that are published in between: whoever hears the bus takes all of
them over, as far as the ring allows for it, and whoever is silent is not called. A dispatch airs the
reports on the callbacks that panic in it.
-/

namespace SteadyLink.Proofs

open Hub

/-! ## Receivers -/

/-- A receiver after events that it takes over one by one. -/
def acceptAll (ring : Nat) (es : List Event) (r : Receiver) : Receiver :=
  es.foldl (fun r e => r.accept ring e) r

section Receivers

variable (ring : Nat) (r : Receiver)

lemma acceptAll_append (es fs : List Event) :
    acceptAll ring (es ++ fs) r = acceptAll ring fs (acceptAll ring es r) := List.foldl_append

lemma accept_kept (e : Event) : (r.accept ring e).pending <:+ r.pending ++ [e] ∧
    r.missed ≤ (r.accept ring e).missed ∧
    ((r.accept ring e).missed = r.missed → (r.accept ring e).pending = r.pending ++ [e]) := by
  unfold Receiver.accept
  by_cases hroom : r.pending.length < ring
  · rw [if_pos hroom]
    exact ⟨List.suffix_rfl, Nat.le_refl _, fun _ => rfl⟩
  · rw [if_neg hroom]
    refine ⟨?_, Nat.le_succ _, ?_⟩
    · obtain ⟨lost, hlost⟩ := List.tail_suffix r.pending
      refine ⟨lost, ?_⟩
      rw [← List.append_assoc, hlost]
    · intro hsame
      simp at hsame

/-- What waits is the end of what came, and all of it unless something was missed. -/
lemma acceptAll_kept (es : List Event) : (acceptAll ring es r).pending <:+ r.pending ++ es ∧
    r.missed ≤ (acceptAll ring es r).missed ∧
    ((acceptAll ring es r).missed = r.missed → (acceptAll ring es r).pending = r.pending ++ es) := by
  induction es generalizing r with
  | nil => simp [acceptAll]
  | cons e es ih =>
    obtain ⟨hs, hle, hwhole⟩ := accept_kept ring r e
    obtain ⟨ihs, ihle, ihwhole⟩ := ih (r.accept ring e)
    have hstep : acceptAll ring (e :: es) r = acceptAll ring es (r.accept ring e) := rfl
    have hassoc : r.pending ++ e :: es = r.pending ++ [e] ++ es := by simp
    rw [hstep, hassoc]
    refine ⟨?_, Nat.le_trans hle ihle, ?_⟩
    · obtain ⟨lost, hlost⟩ := hs
      refine List.IsSuffix.trans ihs ⟨lost, ?_⟩
      rw [← List.append_assoc, hlost]
    · intro hsame
      rw [ihwhole (by omega), hwhole (by omega)]

end Receivers

/-! ## What can be noted of a hub -/

/-- All events that were published, the earliest first. -/
def announced (hub : Hub) : List Event := (hub.journal.events.map Prod.snd).reverse

/-- An event as it was before the bus gave it a number. -/
def unnumbered (e : Event) : Event := { e with seq := 0 }

/-- What a hook can be called with. -/
inductive Notice where
  | transition (source target : ConnectionState)
  | fault (f : Fault)
  deriving DecidableEq

def noticeFor? (hook : Nat) : Happening → Option Notice
  | .stateHookCalled n source target => if n = hook then some (.transition source target) else none
  | .errorHookCalled n f => if n = hook then some (.fault f) else none
  | _ => none

/-- What a hook has been called with, the earliest call first. -/
def noticed (hub : Hub) (hook : Nat) : List Notice :=
  (hub.journal.filterMap fun entry => noticeFor? hook entry.2).reverse

/-- The registry is the picture of some list of registrations. -/
def Listed (hub : Hub) : Prop := ∃ roll, Represents hub.registry roll

lemma announced_note (hub : Hub) (h : Happening) :
    announced (hub.note h) = announced hub ++
      match h with
      | .published e => [e]
      | _ => [] := by
  cases h <;> simp [announced, note, Journal.events]

lemma noticed_note (hub : Hub) (h : Happening) (hook : Nat) :
    noticed (hub.note h) hook = noticed hub hook ++ (noticeFor? hook h).toList := by
  cases hn : noticeFor? hook h <;> simp [noticed, note, hn]

/-! ## Hubs one after another -/

/-- The events are published between the two hubs. Receivers that hear the bus take them over, and
hooks that are silent are not called. -/
structure Airs (hears silent : Nat → Prop) (a : Hub) (es : List Event) (b : Hub) : Prop where
  announced : announced b = announced a ++ es
  noticed : ∀ i, silent i → noticed b i = noticed a i
  ring : b.bus.ring = a.bus.ring
  publishers : b.bus.publishers = a.bus.publishers
  subscribed : a.bus.subscribed ≤ b.bus.subscribed
  receivers : ∀ id < a.bus.subscribed, hears id →
    b.bus.receivers.get? id = (a.bus.receivers.get? id).map (acceptAll a.bus.ring es)
  listed : Listed a → Listed b

section Airs

variable {hears silent : Nat → Prop} {a b d : Hub} {es fs : List Event}

lemma airs_kept (hbus : b.bus = a.bus) (hjournal : b.journal = a.journal)
    (hlisted : Listed a → Listed b) : Airs hears silent a [] b where
  announced := by simp [announced, hjournal]
  noticed := by simp [noticed, hjournal]
  ring := by rw [hbus]
  publishers := by rw [hbus]
  subscribed := Nat.le_of_eq (by rw [hbus])
  receivers := by
    intro id _ _
    rw [hbus]
    cases a.bus.receivers.get? id <;> rfl
  listed := hlisted

lemma airs_refl (a : Hub) : Airs hears silent a [] a := airs_kept rfl rfl id

lemma airs_trans (h : Airs hears silent a es b) (h' : Airs hears silent b fs d) :
    Airs hears silent a (es ++ fs) d where
  announced := by rw [h'.announced, h.announced, List.append_assoc]
  noticed := fun i hi => (h'.noticed i hi).trans (h.noticed i hi)
  ring := h'.ring.trans h.ring
  publishers := h'.publishers.trans h.publishers
  subscribed := Nat.le_trans h.subscribed h'.subscribed
  receivers := by
    intro id hid hears
    rw [h'.receivers id (Nat.lt_of_lt_of_le hid h.subscribed) hears, h.receivers id hid hears,
      Option.map_map, h.ring]
    congr 1
    funext r
    exact (acceptAll_append _ r es fs).symm
  listed := h'.listed ∘ h.listed

lemma airs_mono {hears' silent' : Nat → Prop} (h : Airs hears silent a es b)
    (hhears : ∀ id < a.bus.subscribed, hears' id → hears id) (hsilent : ∀ i, silent' i → silent i) :
    Airs hears' silent' a es b :=
  { h with
    noticed := fun i hi => h.noticed i (hsilent i hi)
    receivers := fun id hid hi => h.receivers id hid (hhears id hid hi) }

lemma airs_note (hub : Hub) (h : Happening) (hpublished : ∀ e, h ≠ .published e)
    (hcalled : ∀ i, silent i → noticeFor? i h = none) : Airs hears silent hub [] (hub.note h) where
  announced := by
    rw [announced_note]
    cases h with
    | published e => exact absurd rfl (hpublished e)
    | _ => rfl
  noticed := by
    intro i hi
    rw [noticed_note, hcalled i hi, Option.toList_none, List.append_nil]
  ring := rfl
  publishers := rfl
  subscribed := Nat.le_refl _
  receivers := by
    intro id _ _
    show hub.bus.receivers.get? id = _
    cases hub.bus.receivers.get? id <;> rfl
  listed := id

lemma airs_publish (hub : Hub) (e : Event) :
    Airs hears silent hub [hub.bus.stamp e] (hub.publish e) where
  announced := announced_note { hub with bus := hub.bus.publish e } _
  noticed := by
    intro i _
    exact (noticed_note { hub with bus := hub.bus.publish e } _ i).trans (List.append_nil _)
  ring := rfl
  publishers := rfl
  subscribed := Nat.le_refl _
  receivers := by
    intro id _ _
    exact Table.get?_map _ _ _
  listed := id

/-- A new receiver, which hears what is published from now on. -/
lemma airs_subscribe (hub : Hub) :
    Airs hears silent hub [] { hub with bus := hub.bus.subscribe.2 } where
  announced := (List.append_nil _).symm
  noticed := fun _ _ => rfl
  ring := rfl
  publishers := rfl
  subscribed := Nat.le_succ _
  receivers := by
    intro id hid _
    show (hub.bus.receivers.insert hub.bus.subscribed .fresh).get? id = _
    rw [Table.get?_insert, if_neg (by omega)]
    cases hub.bus.receivers.get? id <;> rfl
  listed := id

/-- Whoever reads touches no receiver but one. -/
lemma receive_others (bus : Bus) (reader : Nat) :
    (bus.receive reader).2.ring = bus.ring ∧ (bus.receive reader).2.publishers = bus.publishers ∧
      (bus.receive reader).2.subscribed = bus.subscribed ∧
      ∀ id, id ≠ reader → (bus.receive reader).2.receivers.get? id = bus.receivers.get? id := by
  unfold Bus.receive
  split
  case h_1 => exact ⟨rfl, rfl, rfl, fun _ _ => rfl⟩
  case h_2 r hr =>
    refine ⟨rfl, rfl, rfl, ?_⟩
    intro id hid
    show (bus.receivers.insert reader _).get? id = _
    rw [Table.get?_insert, if_neg hid]

/-- What a receiver reads next. -/
inductive Reads (bus : Bus) (id : Nat) (r : Receiver) : Reception × Bus → Prop
  | lagged (behind : 0 < r.missed) : Reads bus id r
      (.lagged r.missed, { bus with receivers := bus.receivers.insert id { r with missed := 0 } })
  | event (e : Event) (rest : List Event) (whole : r.missed = 0) (pending : r.pending = e :: rest) :
    Reads bus id r
      (.event e, { bus with receivers := bus.receivers.insert id { r with pending := rest } })
  | nothing (whole : r.missed = 0) (pending : r.pending = []) : Reads bus id r
      (if bus.publishers = 0 then .closed else .empty,
        { bus with receivers := bus.receivers.insert id r })

lemma receive_reads {bus : Bus} {id : Nat} {r : Receiver} (hr : bus.receivers.get? id = some r) :
    Reads bus id r (bus.receive id) := by
  have hread : bus.receive id = ((r.receive bus.publishers).1,
      { bus with receivers := bus.receivers.insert id (r.receive bus.publishers).2 }) := by
    unfold Bus.receive
    simp only [hr]
  rw [hread, Receiver.receive]
  by_cases hmissed : 0 < r.missed
  · rw [if_pos hmissed]
    exact .lagged hmissed
  · have hwhole := Nat.eq_zero_of_not_pos hmissed
    rw [if_neg hmissed]
    cases hpending : r.pending with
    | nil => exact .nothing hwhole hpending
    | cons e rest => exact .event e rest hwhole hpending

section Receptions

variable {bus : Bus} {id : Nat} {r : Receiver} (hr : bus.receivers.get? id = some r)
include hr

lemma receive_event {e : Event} (found : (bus.receive id).1 = .event e) :
    ∃ rest, r.missed = 0 ∧ r.pending = e :: rest ∧ (bus.receive id).2 =
      { bus with receivers := bus.receivers.insert id { r with pending := rest } } := by
  have reads := receive_reads hr
  generalize bus.receive id = reading at reads found ⊢
  cases reads with
  | event _ rest whole pending =>
    obtain rfl := Reception.event.inj found
    exact ⟨rest, whole, pending, rfl⟩
  | lagged => cases found
  | nothing =>
    dsimp only at found
    split at found <;> cases found

lemma receive_lagged {n : Nat} (found : (bus.receive id).1 = .lagged n) :
    0 < r.missed ∧ (bus.receive id).2 =
      { bus with receivers := bus.receivers.insert id { r with missed := 0 } } := by
  have reads := receive_reads hr
  generalize bus.receive id = reading at reads found ⊢
  cases reads with
  | lagged behind => exact ⟨behind, rfl⟩
  | event => cases found
  | nothing =>
    dsimp only at found
    split at found <;> cases found

lemma receive_empty (found : (bus.receive id).1 = .empty) : r.missed = 0 ∧ r.pending = [] := by
  have reads := receive_reads hr
  generalize bus.receive id = reading at reads found
  cases reads with
  | nothing whole pending => exact ⟨whole, pending⟩
  | lagged => cases found
  | event => cases found

lemma receive_open (publishers : bus.publishers ≠ 0) : (bus.receive id).1 ≠ .closed := by
  have reads := receive_reads hr
  generalize bus.receive id = reading at reads
  cases reads with
  | nothing =>
    rw [if_neg publishers]
    exact nofun
  | lagged => exact nofun
  | event => exact nofun

lemma receive_nothing (whole : r.missed = 0) (pending : r.pending = [])
    (publishers : bus.publishers ≠ 0) : (bus.receive id).1 = .empty := by
  have reads := receive_reads hr
  generalize bus.receive id = reading at reads
  cases reads with
  | nothing => exact if_neg publishers
  | lagged behind => omega
  | event e rest _ pending' => cases pending.symm.trans pending'

end Receptions

lemma receive_there {bus : Bus} {id : Nat} (found : (bus.receive id).1 ≠ .closed) :
    ∃ r, bus.receivers.get? id = some r := by
  unfold Bus.receive at found
  split at found
  case h_1 => exact absurd rfl found
  case h_2 r hr => exact ⟨r, hr⟩

lemma airs_receive (hub : Hub) (reader : Nat) (hreader : ∀ id, hears id → id ≠ reader) :
    Airs hears silent hub [] { hub with bus := (hub.bus.receive reader).2 } := by
  obtain ⟨hring, hpublishers, hsubscribed, hothers⟩ := receive_others hub.bus reader
  refine ⟨(List.append_nil _).symm, fun _ _ => rfl, hring, hpublishers,
    Nat.le_of_eq hsubscribed.symm, ?_, id⟩
  intro id _ hid
  rw [hothers id (hreader id hid)]
  cases hub.bus.receivers.get? id <;> rfl

lemma airs_dropReceiver (hub : Hub) (leaver : Nat) (hleaver : ∀ id, hears id → id ≠ leaver) :
    Airs hears silent hub [] { hub with bus := hub.bus.dropReceiver leaver } where
  announced := (List.append_nil _).symm
  noticed := fun _ _ => rfl
  ring := rfl
  publishers := rfl
  subscribed := Nat.le_refl _
  receivers := by
    intro id _ hid
    show (hub.bus.receivers.erase leaver).get? id = _
    rw [Table.get?_erase, if_neg (hleaver id hid)]
    cases hub.bus.receivers.get? id <;> rfl
  listed := id

/-! ## Calls and callbacks -/

lemma listed_insert (hub : Hub) (kind : String) (callback : Callback) (h : Listed hub) :
    Listed { hub with registry := (hub.registry.insert kind callback).2 } := by
  obtain ⟨roll, known⟩ := h
  exact ⟨_, (represents_insert known kind callback).2⟩

lemma listed_unsubscribe (hub : Hub) (id : Nat) (h : Listed hub) : Listed (hub.unsubscribe id).2 := by
  obtain ⟨roll, known⟩ := h
  exact ⟨_, (represents_remove known id).2⟩

lemma post_journal (hub : Hub) (c : Control) : (hub.post c).1.journal = hub.journal := by
  unfold post
  split <;> rfl

lemma airs_post (hub : Hub) (c : Control) : Airs hears silent hub [] (hub.post c).1 := by
  obtain ⟨hregistry, hbus⟩ := post_kept hub c
  refine airs_kept hbus (post_journal hub c) ?_
  rintro ⟨roll, known⟩
  exact ⟨roll, hregistry ▸ known⟩

lemma call_journal (hub : Hub) (c : Call) : (hub.call c).1.journal = hub.journal := by
  have posts (r : Except ClientError Envelope) : (hub.postEnvelope r).1.journal = hub.journal := by
    cases r with
    | ok e => exact post_journal hub _
    | error e => rfl
  unfold call
  by_cases hh : hub.handles = 0
  · rw [if_pos hh]
  · rw [if_neg hh]
    cases c with
    | start => exact post_journal hub _
    | stop => exact post_journal hub _
    | send kind payload => exact posts _
    | sendEnvelope kind payload layout => exact posts _
    | chat text => exact posts _
    | ping => exact post_journal hub _
    | requestMetrics category => exact post_journal hub _
    | subscribe kind tag body => by_cases hk : Text.isBlank kind = true <;> simp [subscribe, hk]
    | unsubscribe id => rfl
    | count kind => rfl
    | state => rfl

lemma airs_call (hub : Hub) (c : Call) : Airs hears silent hub [] (hub.call c).1 := by
  obtain ⟨hregistry, hbus⟩ := call_shows hub c
  refine airs_kept hbus (call_journal hub c) ?_
  rintro ⟨roll, known⟩
  exact ⟨_, hregistry ▸ (represents_changeAll known _).2⟩

/-- A mark airs its report, if it is one. -/
lemma airs_replay (hub : Hub) (mark : Mark) :
    ∃ es, Airs hears silent hub es (mark.replay hub) ∧
      es.map unnumbered = mark.report?.toList := by
  cases mark with
  | called callback e =>
    refine ⟨[], ?_, rfl⟩
    cases callback with
    | body tag actions => exact airs_note hub (.called tag e.kind e.payload) (by simp) fun _ _ => rfl
    | feed number role => exact airs_kept rfl rfl id
  | performed a r =>
    refine ⟨[], ?_, rfl⟩
    cases a with
    | call c =>
      have hcall : Airs hears silent hub [] (hub.call c).1 := airs_call hub c
      exact airs_trans hcall (airs_note (hub.call c).1 (.performed (.call c) r) (by simp) fun _ _ => rfl)
    | dispatch kind payload =>
      exact airs_note hub (.performed (.dispatch kind payload) r) (by simp) fun _ _ => rfl
    | panic p => exact airs_note hub (.performed (.panic p) r) (by simp) fun _ _ => rfl
  | panicked kind p => exact ⟨_, airs_publish hub _, rfl⟩

variable (hears silent) in
lemma airs_replayAll (marks : List Mark) (hub : Hub) :
    ∃ es, Airs hears silent hub es (marks.foldl Mark.replay hub) ∧
      es.map unnumbered = reports marks := by
  induction marks generalizing hub with
  | nil => exact ⟨[], airs_refl hub, rfl⟩
  | cons mark marks ih =>
    obtain ⟨es, h, hes⟩ := airs_replay hub mark
    obtain ⟨fs, h', hfs⟩ := ih (mark.replay hub)
    refine ⟨es ++ fs, airs_trans h h', ?_⟩
    rw [List.map_append, hes, hfs]
    cases hr : mark.report? <;> simp [reports, hr]

/-- What callbacks do with a message from outside. Callbacks that dispatch without end have no
effect. -/
inductive Delivered (hub : Hub) (e : Envelope) : List Mark → Prop
  | ends {roll : Roll Callback} {n : Nat} {marks : List Mark} {hub' : Hub}
      (known : Represents hub.registry roll) (came : hub.dispatch nestingLimit e = some (hub', n))
      (dispatched : Dispatched hub.handles roll e n marks)
      (replayed : hub' = marks.foldl Mark.replay hub) : Delivered hub e marks
  | endless (none : hub.dispatch nestingLimit e = none) : Delivered hub e []

variable (hears silent) in
/-- A message that is delivered airs the reports of its dispatch. -/
lemma airs_deliver (hub : Hub) (e : Envelope) (h : Listed hub) :
    ∃ marks es, Delivered hub e marks ∧ Airs hears silent hub es (hub.deliver e) ∧
      es.map unnumbered = reports marks := by
  unfold deliver
  split
  case h_1 hub' n came =>
    obtain ⟨roll, known⟩ := h
    obtain ⟨marks, dispatched, traced⟩ := dispatch_faithful nestingLimit e hub hub' n roll known came
    obtain ⟨es, ha, hes⟩ := airs_replayAll hears silent marks hub
    exact ⟨marks, es, .ends known came dispatched traced.replayed, traced.replayed ▸ ha, hes⟩
  case h_2 none => exact ⟨[], [], .endless none, airs_refl hub, rfl⟩

end Airs

/-- What every mark keeps, a delivery keeps. -/
lemma deliver_keeps {P : Hub → Prop} {hub : Hub} (e : Envelope) (listed : Listed hub)
    (start : P hub) (mark : ∀ hub (mark : Mark), P hub → P (mark.replay hub)) :
    P (hub.deliver e) := by
  have marks (marks : List Mark) {hub : Hub} (h : P hub) : P (marks.foldl Mark.replay hub) := by
    induction marks generalizing hub with
    | nil => exact h
    | cons first marks ih => exact ih (mark hub first h)
  obtain ⟨trace, -, delivered, -, -⟩ :=
    airs_deliver (fun _ => True) (fun _ => True) hub e listed
  cases delivered with
  | ends known came dispatched replayed =>
    unfold deliver
    rw [came, replayed]
    exact marks trace start
  | endless none =>
    unfold deliver
    rw [none]
    exact start

end SteadyLink.Proofs
